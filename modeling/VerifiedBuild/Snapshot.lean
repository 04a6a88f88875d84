import VerifiedBuild.Store
import VerifiedBuild.Path
/-!
# Snapshots

A program file may have numbered snapshots beside it. They are processed version by version, from
zero up to the first version that no file has.
-/

namespace VerifiedBuild.Snapshot

/-- The snapshots of one version that exist, in the order of the files they belong to. -/
def group (store : Store) (paths : List String) (version : Nat) : List String :=
  (paths.map fun path => Path.snapshot path version).filter store.pathExists

/-- More versions than this cannot all have a snapshot: each takes an entry of the store. -/
def maxVersions (store : Store) (paths : List String) : Nat :=
  paths.length * store.entries.length + 1

/-- The snapshots of each version, up to the first version without any. -/
def groups (store : Store) (paths : List String) : List (List String) :=
  ((List.range (maxVersions store paths)).map (group store paths)).takeWhile (· ≠ [])

end VerifiedBuild.Snapshot
