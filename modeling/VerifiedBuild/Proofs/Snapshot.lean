import Mathlib.Data.Finset.Card
import Mathlib.Data.List.TakeWhile
import Mathlib.Data.Nat.Find
import VerifiedBuild.Proofs.Path.Snapshot
import VerifiedBuild.Proofs.Store.Resolution
import VerifiedBuild.Snapshot

/-!
# The search for snapshots

The search goes up to the first version without any snapshot, and there is one: the file name of a
snapshot tells its version, so that those of different versions take different entries of the store.
-/

namespace VerifiedBuild

/-! ## File names of snapshots -/

namespace Path

def snapshotName (path : String) (version : Nat) : String :=
  stem path ++ (".v" ++ toString (version : Int)) ++ extension path

theorem slash_not_mem_snapshotName (path : String) (version : Nat) :
    '/' ∉ (snapshotName path version).toList :=
  slash_not_mem_insert path version

theorem lineage_of_snapshotName {path other : String} {first second : Nat}
    (same : snapshotName path first = snapshotName other second) :
    first = second ∧ stem path = stem other ∧ extension path = extension other := by
  obtain ⟨versions, lineage⟩ := lineage_of_insert same
  exact ⟨Int.ofNat.inj versions, lineage⟩

theorem three_le_length_snapshotName (path : String) (version : Nat) :
    3 ≤ (snapshotName path version).length := by
  have digit : 0 < (toString (version : Int)).length := by
    change 0 < version.repr.length
    rw [← String.length_toList, Nat.toList_repr]
    exact Nat.length_toDigits_pos
  have mark : (".v" : String).length = 2 := by decide
  simp only [snapshotName, String.length_append]
  omega

end Path

/-! ## Places of snapshots -/

namespace Store

theorem resolve_of_pathExists {store : Store} {path : String} (present : store.pathExists path) :
    ∃ place node, store.resolve path = .ok place ∧ store.lookup place = some node := by
  rw [pathExists, find] at present
  cases resolved : store.resolve path with
  | error error =>
      rw [resolved] at present
      cases present
  | ok place =>
      rw [resolved] at present
      cases found : store.lookup place with
      | none =>
          dsimp only at present
          rw [found] at present
          cases present
      | some node => exact ⟨place, node, rfl, found⟩

theorem mem_places_of_lookup {store : Store} {place : Place} {node : Node} (apart : place ≠ [])
    (found : store.lookup place = some node) : place ∈ store.entries.map (·.1) := by
  rw [lookup, if_neg apart, Option.map_eq_some_iff] at found
  obtain ⟨entry, located, -⟩ := found
  have same := List.find?_some located
  exact List.mem_map.mpr ⟨entry, List.mem_of_find?_eq_some located, of_decide_eq_true same⟩

theorem getLast?_resolve_snapshot {store : Store} {path : String} {version : Nat} {place : Place}
    (resolved : store.resolve (Path.snapshot path version) = .ok place) :
    place.getLast? = some (Path.snapshotName path version) := by
  have long := Path.three_le_length_snapshotName path version
  have other (short : String) (below : short.length < 3) :
      Path.snapshotName path version ≠ short := fun same => by
    rw [same] at long
    omega
  have lies := liesIn_join (Path.parent path) (Path.slash_not_mem_snapshotName path version)
    (other "" (by decide))
  exact lies.getLast?_resolve ⟨other "." (by decide), other ".." (by decide)⟩ resolved

theorem place_of_snapshot {store : Store} {path : String} {version : Nat}
    (present : store.pathExists (Path.snapshot path version)) :
    ∃ place ∈ store.entries.map (·.1), place.getLast? = some (Path.snapshotName path version) := by
  obtain ⟨place, node, resolved, found⟩ := resolve_of_pathExists present
  have last := getLast?_resolve_snapshot resolved
  refine ⟨place, mem_places_of_lookup ?_ found, last⟩
  rintro rfl
  cases last

end Store

/-! ## The search ends -/

namespace Snapshot

theorem exists_place_of_group_ne_nil {store : Store} {paths : List String} {version : Nat}
    (found : group store paths version ≠ []) :
    ∃ path ∈ paths, ∃ place ∈ store.entries.map (·.1),
      place.getLast? = some (Path.snapshotName path version) := by
  obtain ⟨snapshot, member⟩ := List.exists_mem_of_ne_nil _ found
  obtain ⟨named, present⟩ := List.mem_filter.mp member
  obtain ⟨path, known, rfl⟩ := List.mem_map.mp named
  exact ⟨path, known, Store.place_of_snapshot present⟩

/-- There are fewer entries than versions up to the number of entries. -/
theorem exists_le_group_eq_nil (store : Store) (paths : List String) :
    ∃ version ≤ store.entries.length, group store paths version = [] := by
  -- Otherwise each version takes an entry of its own, whatever path it is a snapshot of.
  refine Decidable.byContradiction fun absent => ?_
  have all (version : Nat) (below : version ≤ store.entries.length) :
      group store paths version ≠ [] := fun empty => absent ⟨version, below, empty⟩
  have located (version : Nat) : ∃ place : Place, version ≤ store.entries.length →
      place ∈ store.entries.map (·.1) ∧
        ∃ path, place.getLast? = some (Path.snapshotName path version) := by
    by_cases below : version ≤ store.entries.length
    · obtain ⟨path, -, place, listed, named⟩ := exists_place_of_group_ne_nil (all version below)
      exact ⟨place, fun _ => ⟨listed, path, named⟩⟩
    · exact ⟨[], fun impossible => absurd impossible below⟩
  choose taken takes using located
  have fewer : (store.entries.map (·.1)).toFinset.card <
      (Finset.range (store.entries.length + 1)).card := by
    have bound := List.toFinset_card_le (store.entries.map (·.1))
    rw [List.length_map] at bound
    rw [Finset.card_range]
    exact Nat.lt_succ_of_le bound
  obtain ⟨first, firstBelow, second, secondBelow, different, same⟩ :=
    Finset.exists_ne_map_eq_of_card_lt_of_maps_to fewer (f := taken) fun version below =>
      List.mem_toFinset.mpr (takes version (Finset.mem_range_succ_iff.mp below)).1
  obtain ⟨path, firstNamed⟩ := (takes first (Finset.mem_range_succ_iff.mp firstBelow)).2
  obtain ⟨other, secondNamed⟩ := (takes second (Finset.mem_range_succ_iff.mp secondBelow)).2
  rw [same, secondNamed] at firstNamed
  exact different (Path.lineage_of_snapshotName (Option.some.inj firstNamed)).1.symm

theorem exists_group_eq_nil (store : Store) (paths : List String) :
    ∃ version < maxVersions store paths, group store paths version = [] := by
  cases paths with
  | nil => exact ⟨0, by simp [maxVersions], rfl⟩
  | cons path rest =>
      obtain ⟨version, below, empty⟩ := exists_le_group_eq_nil store (path :: rest)
      refine ⟨version, ?_, empty⟩
      rw [maxVersions, List.length_cons, Nat.add_one_mul]
      omega

/-- What is found are the groups of all versions before the first version without any snapshot, and
there are no more of them than entries. -/
theorem groups_eq (store : Store) (paths : List String) :
    ∃ count ≤ store.entries.length,
      groups store paths = (List.range count).map (group store paths) ∧
      group store paths count = [] ∧ ∀ version < count, group store paths version ≠ [] := by
  have found : ∃ version, group store paths version = [] :=
    (exists_group_eq_nil store paths).imp fun _ => And.right
  obtain ⟨bound, below, empty⟩ := exists_group_eq_nil store paths
  obtain ⟨free, within, nothing⟩ := exists_le_group_eq_nil store paths
  have least : Nat.find found ≤ bound := Nat.find_min' found empty
  obtain ⟨rest, versions⟩ : ∃ rest, maxVersions store paths = Nat.find found + (rest + 1) :=
    ⟨maxVersions store paths - Nat.find found - 1, by omega⟩
  refine ⟨Nat.find found, Nat.le_trans (Nat.find_min' found nothing) within, ?_,
    Nat.find_spec found, fun version => Nat.find_min found⟩
  rw [groups, versions, List.range_add, List.map_append, List.takeWhile_append_of_pos]
  · rw [List.range_succ_eq_map, List.map_cons, List.map_cons, Nat.add_zero, Nat.find_spec found,
      List.takeWhile_cons_of_neg (by simp), List.append_nil]
  · intro snapshots member
    obtain ⟨version, earlier, rfl⟩ := List.mem_map.mp member
    exact decide_eq_true (Nat.find_min found (List.mem_range.mp earlier))

end Snapshot

end VerifiedBuild
