import VerifiedBuild.NameMap
import Mathlib.Data.List.Induction

/-!
# Maps made of lists of bindings

A map is made by binding one name after the other. Where the names differ its entries are the
bindings in order of name, so that the order in which they were bound is forgotten.
-/

namespace VerifiedBuild.NameMap

variable {α : Type} {name : String} {bindings others : List (String × α)}

theorem eq_of_perm {map other : NameMap α} (same : map.entries.Perm other.entries) :
    map = other := by
  obtain ⟨entries, sorted⟩ := map
  obtain ⟨others, alsoSorted⟩ := other
  congr 1
  refine same.eq_of_pairwise (fun entry another _ _ less more => ?_) sorted alsoSorted
  exact absurd (String.lt_trans less more) (String.lt_irrefl _)

theorem perm_alterList {entries : List (String × α)} {change : Option α → α}
    (fresh : name ∉ entries.map (·.1)) :
    (alterList name change entries).Perm ((name, change none) :: entries) := by
  induction entries with
  | nil => exact .refl _
  | cons head rest ih =>
      rw [List.map_cons, List.mem_cons, not_or] at fresh
      rw [alterList]
      split
      next => exact .refl _
      next =>
        rw [if_neg fresh.1]
        exact ((ih fresh.2).cons head).trans (.swap ..)

/-! ## Lists of bindings -/

theorem ofList_concat (bindings : List (String × α)) (binding : String × α) :
    ofList (bindings ++ [binding]) = (ofList bindings).insert binding.1 binding.2 := by
  rw [ofList, List.foldl_append, ofList]
  rfl

theorem perm_entries_ofList (distinct : (bindings.map (·.1)).Nodup) :
    (ofList bindings).entries.Perm bindings := by
  induction bindings using List.reverseRecOn with
  | nil => exact .refl _
  | append_singleton bindings binding ih =>
      rw [List.map_append, List.nodup_append] at distinct
      obtain ⟨earlier, -, apart⟩ := distinct
      have entered := ih earlier
      have fresh : binding.1 ∉ (ofList bindings).entries.map (·.1) := by
        rw [(entered.map _).mem_iff]
        exact fun member => apart _ member _ List.mem_cons_self rfl
      rw [ofList_concat]
      exact ((perm_alterList fresh).trans (entered.cons binding)).trans
        (List.perm_append_singleton binding bindings).symm

/-- The order in which different names were bound is forgotten. -/
theorem ofList_eq_of_perm (distinct : (bindings.map (·.1)).Nodup)
    (reordered : others.Perm bindings) : ofList others = ofList bindings := by
  have alsoDistinct : (others.map (·.1)).Nodup := (reordered.map _).nodup_iff.mpr distinct
  exact eq_of_perm (((perm_entries_ofList alsoDistinct).trans reordered).trans
    (perm_entries_ofList distinct).symm)

theorem contains_ofList (bindings : List (String × α)) (name : String) :
    (ofList bindings).contains name ↔ name ∈ bindings.map (·.1) := by
  induction bindings using List.reverseRecOn with
  | nil => simp [ofList, empty, contains]
  | append_singleton bindings binding ih =>
      rw [contains_eq_isSome_find?] at ih ⊢
      rw [ofList_concat, find?_insert, List.map_append, List.mem_append, ← ih]
      by_cases same : name = binding.1 <;> simp [same]

theorem find?_ofList (distinct : (bindings.map (·.1)).Nodup) (name : String) :
    (ofList bindings).find? name = (bindings.find? (·.1 = name)).map (·.2) := by
  induction bindings using List.reverseRecOn with
  | nil => rfl
  | append_singleton bindings binding ih =>
      rw [List.map_append, List.nodup_append] at distinct
      obtain ⟨earlier, -, apart⟩ := distinct
      rw [ofList_concat, find?_insert, List.find?_append, ih earlier]
      split
      next same =>
        have absent : bindings.find? (·.1 = name) = none := by
          rw [List.find?_eq_none]
          intro other member here
          have equal := (of_decide_eq_true here).trans same
          exact apart _ (List.mem_map.mpr ⟨other, member, equal⟩) _ List.mem_cons_self rfl
        rw [absent, Option.none_or, same]
        simp
      next different => simp [Ne.symm different]

end VerifiedBuild.NameMap
