/-!
# Maps from names

Finite maps keyed by name, kept in the order of their names (that of their code points, which is
also the byte order of their UTF-8 text). The order is part of the type, so that two maps with the
same bindings are equal.
-/

namespace VerifiedBuild

/-- A finite map from names, as its bindings in strictly increasing order of name. -/
structure NameMap (α : Type) where
  entries : List (String × α)
  sorted : entries.Pairwise (·.1 < ·.1)
deriving DecidableEq, Repr

namespace NameMap

variable {α β : Type}

def empty : NameMap α := ⟨[], .nil⟩

instance : EmptyCollection (NameMap α) := ⟨empty⟩
instance : Inhabited (NameMap α) := ⟨empty⟩

/-- Bind `name` to `change` of what it is bound to, in a list in order of name. -/
def alterList (name : String) (change : Option α → α) : List (String × α) → List (String × α)
  | [] => [(name, change none)]
  | (other, value) :: rest =>
      if name < other then (name, change none) :: (other, value) :: rest
      else if name = other then (name, change (some value)) :: rest
      else (other, value) :: alterList name change rest

theorem mem_alterList {name : String} {change : Option α → α} {entries : List (String × α)}
    {entry : String × α} (member : entry ∈ alterList name change entries) :
    entry.1 = name ∨ entry ∈ entries := by
  induction entries with
  | nil => simp_all [alterList]
  | cons head rest ih =>
      rw [alterList] at member
      split at member
      · rcases List.mem_cons.mp member with rfl | old
        · exact .inl rfl
        · exact .inr old
      · split at member
        · rcases List.mem_cons.mp member with rfl | old
          · exact .inl rfl
          · exact .inr (List.mem_cons_of_mem _ old)
        · rcases List.mem_cons.mp member with rfl | old
          · exact .inr List.mem_cons_self
          · exact (ih old).imp_right (List.mem_cons_of_mem _)

theorem alterList_sorted (name : String) (change : Option α → α) {entries : List (String × α)}
    (sorted : entries.Pairwise (·.1 < ·.1)) :
    (alterList name change entries).Pairwise (·.1 < ·.1) := by
  induction entries with
  | nil => simp [alterList]
  | cons head rest ih =>
      obtain ⟨below, sortedRest⟩ := List.pairwise_cons.mp sorted
      rw [alterList]
      split
      next before =>
        refine List.pairwise_cons.mpr ⟨fun entry member => ?_, sorted⟩
        rcases List.mem_cons.mp member with rfl | inRest
        · exact before
        · exact String.lt_trans before (below entry inRest)
      next notBefore =>
        split
        next same =>
          exact List.pairwise_cons.mpr ⟨fun entry member => same ▸ below entry member, sortedRest⟩
        next different =>
          refine List.pairwise_cons.mpr ⟨fun entry member => ?_, ih sortedRest⟩
          rcases mem_alterList member with rfl | inRest
          · refine Decidable.byContradiction fun notAfter => different ?_
            exact String.le_antisymm (String.not_lt.mp notAfter) (String.not_lt.mp notBefore)
          · exact below entry inRest

def find? (map : NameMap α) (name : String) : Option α :=
  (map.entries.find? (·.1 = name)).map (·.2)

def contains (map : NameMap α) (name : String) : Bool :=
  map.entries.any (·.1 = name)

def values (map : NameMap α) : List α :=
  map.entries.map (·.2)

def size (map : NameMap α) : Nat :=
  map.entries.length

def alter (map : NameMap α) (name : String) (change : Option α → α) : NameMap α :=
  ⟨alterList name change map.entries, alterList_sorted name change map.sorted⟩

def insert (map : NameMap α) (name : String) (value : α) : NameMap α :=
  map.alter name fun _ => value

def erase (map : NameMap α) (name : String) : NameMap α :=
  ⟨map.entries.filter (·.1 ≠ name), map.sorted.filter _⟩

/-- The map of a list of bindings; the last binding of a name counts. -/
def ofList (bindings : List (String × α)) : NameMap α :=
  bindings.foldl (fun map (name, value) => map.insert name value) empty

/-! ## Looking up -/

theorem find?_eq_none_of_lt {name : String} {entries : List (String × α)}
    (below : ∀ entry ∈ entries, name < entry.1) :
    entries.find? (·.1 = name) = none := by
  rw [List.find?_eq_none]
  intro entry member same
  have less := below entry member
  rw [of_decide_eq_true same] at less
  exact String.lt_irrefl _ less

theorem find?_alterList (name other : String) (change : Option α → α)
    {entries : List (String × α)} (sorted : entries.Pairwise (·.1 < ·.1)) :
    ((alterList name change entries).find? (·.1 = other)).map (·.2) =
      if other = name then some (change ((entries.find? (·.1 = name)).map (·.2)))
      else (entries.find? (·.1 = other)).map (·.2) := by
  induction entries with
  | nil => by_cases same : other = name <;> simp [alterList, same, eq_comm]
  | cons head rest ih =>
      obtain ⟨below, sortedRest⟩ := List.pairwise_cons.mp sorted
      rw [alterList]
      split
      next before =>
        have absent : ((head.1, head.2) :: rest).find? (·.1 = name) = none := by
          refine find?_eq_none_of_lt fun entry member => ?_
          rcases List.mem_cons.mp member with rfl | inRest
          · exact before
          · exact String.lt_trans before (below entry inRest)
        by_cases same : other = name
        · simp [same, absent]
        · simp [same, Ne.symm same, List.find?_cons]
      next =>
        split
        next found =>
          by_cases same : other = name
          · simp [same, found]
          · simp [same, Ne.symm same, ← found]
        next different =>
          by_cases here : head.1 = other
          · have apart : other ≠ name := fun same => different (here.trans same).symm
            simp [here, apart]
          · simp [here, Ne.symm different, ih sortedRest]

/-- Binding a name changes what that name is bound to and nothing else. -/
theorem find?_alter (map : NameMap α) (name other : String) (change : Option α → α) :
    (map.alter name change).find? other =
      if other = name then some (change (map.find? name)) else map.find? other :=
  find?_alterList name other change map.sorted

theorem find?_insert (map : NameMap α) (name other : String) (value : α) :
    (map.insert name value).find? other = if other = name then some value else map.find? other :=
  find?_alter map name other fun _ => value

theorem contains_eq_isSome_find? (map : NameMap α) (name : String) :
    map.contains name = (map.find? name).isSome := by
  rw [contains, find?, Option.isSome_map, List.isSome_find?]

end NameMap

end VerifiedBuild
