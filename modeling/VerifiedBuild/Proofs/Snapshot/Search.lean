import Mathlib.Algebra.Ring.Nat
import Mathlib.Order.Bounds.Basic
import VerifiedBuild.Proofs.Snapshot

/-!
# The course of the search for snapshots

The search looks at one version after the other and has no bound of its own. It ends because each
version takes an entry of the store, and so before its counter of 31 bits runs over.
-/

namespace VerifiedBuild.Snapshot

variable {store : Store} {paths : List String} {version count : Nat}

/-! ## The search -/

/-- The search from a version on, with the groups it finds. -/
inductive Search (store : Store) (paths : List String) : Nat → List (List String) → Prop
  | last {version : Nat} (nothing : group store paths version = []) :
      Search store paths version []
  | next {version : Nat} {rest : List (List String)} (something : group store paths version ≠ [])
      (counted : version + 1 < 2 ^ 31) (later : Search store paths (version + 1) rest) :
      Search store paths version (group store paths version :: rest)

theorem Search.unique {found others : List (List String)}
    (search : Search store paths version found) (again : Search store paths version others) :
    found = others := by
  induction search generalizing others with
  | last nothing =>
      cases again with
      | last => rfl
      | next something => exact absurd nothing something
  | next something _ _ ih =>
      cases again with
      | last nothing => exact absurd nothing something
      | next _ _ later => rw [ih later]

theorem search_range (nothing : group store paths count = [])
    (something : ∀ version < count, group store paths version ≠ []) (counted : count < 2 ^ 31)
    (remaining version : Nat) (ends : version + remaining = count) :
    Search store paths version ((List.range' version remaining).map (group store paths)) := by
  induction remaining generalizing version with
  | zero =>
      obtain rfl : version = count := ends
      exact .last nothing
  | succ remaining ih =>
      rw [List.range'_succ, List.map_cons]
      exact .next (something version (by omega)) (by omega) (ih (version + 1) (by omega))

theorem search_groups (few : store.entries.length < 2 ^ 31) (paths : List String) :
    Search store paths 0 (groups store paths) := by
  obtain ⟨count, below, found, nothing, something⟩ := groups_eq store paths
  rw [found, List.range_eq_range']
  exact search_range nothing something (Nat.lt_of_le_of_lt below few) count 0 (Nat.zero_add count)

/-! ## What is found -/

theorem group_eq_map (store : Store) (paths : List String) (version : Nat) :
    group store paths version =
      (paths.filter fun path => store.pathExists (Path.snapshot path version)).map
        (Path.snapshot · version) := by
  rw [group, List.filter_map, Function.comp_def]

theorem group_eq_nil_iff : group store paths version = [] ↔
    ∀ path ∈ paths, ¬store.pathExists (Path.snapshot path version) := by
  simp [group_eq_map]

/-- There is a group for each version up to the first one that no path has, and it holds the
snapshots of that version that exist, in the order of the paths. -/
structure Contiguous (store : Store) (paths : List String) (found : List (List String)) : Prop where
  least : IsLeast {version : Nat |
    ∀ path ∈ paths, ¬store.pathExists (Path.snapshot path version)} found.length
  group : ∀ (version : Nat) snapshots, found[version]? = some snapshots →
    snapshots ≠ [] ∧ snapshots =
      (paths.filter fun path => store.pathExists (Path.snapshot path version)).map
        (Path.snapshot · version)

theorem contiguous_groups (store : Store) (paths : List String) :
    Contiguous store paths (groups store paths) := by
  obtain ⟨count, -, found, nothing, something⟩ := groups_eq store paths
  rw [found]
  constructor
  case least =>
    rw [List.length_map, List.length_range]
    refine ⟨group_eq_nil_iff.mp nothing, fun version missing => ?_⟩
    exact Nat.le_of_not_lt fun earlier => something version earlier (group_eq_nil_iff.mpr missing)
  case group =>
    intro version snapshots located
    rw [List.getElem?_map, Option.map_eq_some_iff] at located
    obtain ⟨index, counted, rfl⟩ := located
    obtain ⟨earlier, rfl⟩ := List.getElem?_eq_some_iff.mp counted
    rw [List.length_range] at earlier
    rw [List.getElem_range]
    exact ⟨something version earlier, group_eq_map store paths version⟩

/-- In a store of fewer than 2^31 entries the search ends and finds exactly the contiguous versions.
No snapshot is found for two versions or for two lineages of a directory, neither by its path nor by
the place where it is. -/
theorem search_contiguous (few : store.entries.length < 2 ^ 31) (paths : List String) :
    (∀ found, Search store paths 0 found ↔ found = groups store paths) ∧
    Contiguous store paths (groups store paths) ∧
    (∀ path other (version number : Int),
      Path.snapshot path version = Path.snapshot other number ↔
        version = number ∧ Path.parent path = Path.parent other ∧
          Path.stem path = Path.stem other ∧ Path.extension path = Path.extension other) ∧
    ∀ path other (version number : Nat) place,
      store.resolve (Path.snapshot path version) = .ok place →
      store.resolve (Path.snapshot other number) = .ok place →
        version = number ∧ Path.stem path = Path.stem other ∧
          Path.extension path = Path.extension other := by
  refine ⟨fun found => ⟨fun search => search.unique (search_groups few paths), ?_⟩,
    contiguous_groups store paths, fun _ _ _ _ => Path.snapshot_eq_iff, ?_⟩
  · rintro rfl
    exact search_groups few paths
  · intro path other version number place there alsoThere
    have names := (Store.getLast?_resolve_snapshot there).symm.trans
      (Store.getLast?_resolve_snapshot alsoThere)
    exact Path.lineage_of_snapshotName (Option.some.inj names)

/-- Two lineages of one directory; the last version of the first one is never reached. -/
def gappedStore : Store where
  entries := [(["a.v0.prf"], .file [] false), (["a.v1.prf"], .file [] false),
    (["b.v1.prf"], .file [] false), (["a.v3.prf"], .file [] false)]
  workingDirectory := []

theorem gappedStore_contiguous :
    gappedStore.entries.length < 2 ^ 31 ∧
      Search gappedStore ["b.prf", "a.prf"] 0 [["a.v0.prf"], ["b.v1.prf", "a.v1.prf"]] ∧
      Contiguous gappedStore ["b.prf", "a.prf"] [["a.v0.prf"], ["b.v1.prf", "a.v1.prf"]] := by
  have few : gappedStore.entries.length < 2 ^ 31 := by decide
  have found : groups gappedStore ["b.prf", "a.prf"] =
      [["a.v0.prf"], ["b.v1.prf", "a.v1.prf"]] := by rfl
  obtain ⟨searches, contiguous, -⟩ := search_contiguous few ["b.prf", "a.prf"]
  rw [found] at searches contiguous
  exact ⟨few, (searches _).mpr rfl, contiguous⟩

end VerifiedBuild.Snapshot
