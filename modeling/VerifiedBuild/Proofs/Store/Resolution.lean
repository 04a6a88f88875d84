import Mathlib.Data.List.TakeWhile
import VerifiedBuild.Proofs.Path.Insertion
import VerifiedBuild.Store

/-!
# Where a path leads

A path leads through its components, whatever slashes stand between them. A file of a directory is
one component further, and where it is ends with its name.
-/

namespace VerifiedBuild.Store

/-! ## Components -/

theorem components_split {path : String} {front later : List Char}
    (split : path.toList = front ++ '/' :: later) :
    components path = components (String.ofList front) ++ components (String.ofList later) := by
  rw [components, components, components, split, List.splitOn_append_cons_self, List.filter_append,
    List.map_append, String.toList_ofList, String.toList_ofList]

theorem components_name {name : String} (plain : '/' ∉ name.toList) (nonempty : name ≠ "") :
    components name = [name] := by
  rw [components, List.splitOn_eq_singleton plain]
  simp [nonempty]

theorem components_empty : components "" = [] := by
  rw [components, String.toList_empty, List.splitOn_eq_singleton List.not_mem_nil]
  rfl

/-- A slash at the end makes no component. -/
theorem components_closed {path : String} {front : List Char}
    (split : path.toList = front ++ ['/']) : components path = components (String.ofList front) := by
  rw [components_split split, String.ofList_nil, components_empty, List.append_nil]

theorem components_slashes (front : List Char) (count : Nat) :
    components (String.ofList (front ++ List.replicate count '/')) =
      components (String.ofList front) := by
  induction count with
  | zero => rw [List.replicate_zero, List.append_nil]
  | succ count ih =>
      rw [List.replicate_succ', ← List.append_assoc, components_closed String.toList_ofList, ih]

theorem components_join (directory : String) {name : String} (plain : '/' ∉ name.toList)
    (nonempty : name ≠ "") :
    components (Path.join directory name) = components directory ++ [name] := by
  have alone : components (String.ofList name.toList) = [name] := by
    rw [String.ofList_toList, components_name plain nonempty]
  have chars : (Path.join directory name).toList = Path.entrance directory.toList ++ name.toList :=
    Path.toList_join (Path.head?_ne_slash plain)
  rw [Path.entrance] at chars
  split at chars
  next ends =>
    rcases ends with top | closed
    · obtain rfl := String.toList_eq_nil_iff.mp top
      rw [String.toList_empty, List.nil_append, String.toList_inj] at chars
      rw [chars, components_empty, components_name plain nonempty, List.nil_append]
    · obtain ⟨front, located⟩ := List.getLast?_eq_some_iff.mp closed
      rw [located, List.append_assoc, List.singleton_append] at chars
      rw [components_split chars, alone, components_closed located]
  next =>
    rw [List.append_assoc, List.singleton_append] at chars
    rw [components_split chars, alone, String.ofList_toList]

/-! ## Directories -/

/-- A path that leads right into a directory, to the entry of this name. -/
structure LiesIn (directory name path : String) : Prop where
  components : components path = components directory ++ [name]
  absolute : path.toList.head? = some '/' ↔ directory.toList.head? = some '/'

variable {directory name path : String}

theorem liesIn_join (directory : String) (plain : '/' ∉ name.toList) (nonempty : name ≠ "") :
    LiesIn directory name (Path.join directory name) := by
  refine ⟨components_join directory plain nonempty, ?_⟩
  have relative := Path.head?_ne_slash plain
  rw [Path.join]
  by_cases top : directory = ""
  · simp [top, relative]
  · have some : directory.toList ≠ [] := mt String.toList_eq_nil_iff.mp top
    obtain ⟨first, rest, chars⟩ := List.exists_cons_of_ne_nil some
    split
    next other => exact absurd (other.resolve_left relative) top
    next => split <;> simp [chars]

theorem exists_slashes (chars : List Char) :
    ∃ count, chars = Path.dropTrailingSlashes chars ++ List.replicate count '/' := by
  refine ⟨(chars.reverse.takeWhile (· = '/')).length, ?_⟩
  have slashes : (chars.reverse.takeWhile (· = '/')).reverse =
      List.replicate (chars.reverse.takeWhile (· = '/')).length '/' := by
    rw [List.eq_replicate_iff, List.length_reverse]
    refine ⟨rfl, fun char member => ?_⟩
    simpa using List.mem_takeWhile_imp (List.mem_reverse.mp member)
  rw [← slashes, Path.dropTrailingSlashes, ← List.reverse_append, List.takeWhile_append_dropWhile,
    List.reverse_reverse]

/-- Two directories that differ at most in the slashes at their ends. -/
structure SameDirectory (first second : String) : Prop where
  components : components first = components second
  absolute : first.toList.head? = some '/' ↔ second.toList.head? = some '/'

/-- The parent of a path is what stands before its name. -/
theorem sameDirectory_parent (path : String) :
    SameDirectory (Path.parent path) (String.ofList (Path.directoryChars path.toList)) := by
  rw [Path.parent]
  split
  next slashes =>
    have whole := Path.directoryChars_append_nameChars path.toList
    rw [Path.nameChars_of_slashes slashes, List.append_nil] at whole
    rw [whole, String.ofList_toList]
    exact ⟨rfl, Iff.rfl⟩
  next =>
    generalize Path.directoryChars path.toList = directory
    cases directory with
    | nil => exact ⟨rfl, Iff.rfl⟩
    | cons first rest =>
        obtain ⟨count, whole⟩ := exists_slashes (first :: rest)
        dsimp only
        generalize Path.dropTrailingSlashes (first :: rest) = trimmed at whole
        rw [whole]
        cases trimmed with
        | nil =>
            have root := components_slashes [] 1
            refine ⟨root.trans (components_slashes [] count).symm, ?_⟩
            cases count with
            | zero => cases whole
            | succ count => simp [List.replicate_succ]
        | cons first rest => exact ⟨(components_slashes _ count).symm, by simp⟩

theorem sameDirectory_entrance (directory : String) :
    SameDirectory (String.ofList (Path.entrance directory.toList)) directory := by
  rw [Path.entrance]
  split
  next =>
    rw [String.ofList_toList]
    exact ⟨rfl, Iff.rfl⟩
  next opened =>
    rw [not_or] at opened
    obtain ⟨first, rest, chars⟩ := List.exists_cons_of_ne_nil opened.1
    refine ⟨?_, by simp [chars]⟩
    rw [components_closed String.toList_ofList, String.ofList_toList]

theorem sameDirectory_join (directory : String) (plain : '/' ∉ name.toList) :
    SameDirectory (Path.parent (Path.join directory name)) directory := by
  have entered := sameDirectory_entrance directory
  have left := sameDirectory_parent (Path.join directory name)
  rw [Path.directoryChars_join directory plain] at left
  exact ⟨left.components.trans entered.components, left.absolute.trans entered.absolute⟩

theorem LiesIn.of_same {other : String} (lies : LiesIn directory name path)
    (same : SameDirectory directory other) : LiesIn other name path :=
  ⟨lies.components.trans (congrArg (· ++ [name]) same.components),
    lies.absolute.trans same.absolute⟩

/-! ## Places -/

theorem getLast?_walk {store : Store} {place result : Place} {earlier : List String}
    {name : String} (proper : name ≠ "." ∧ name ≠ "..")
    (leads : store.walk place (earlier ++ [name]) = .ok result) :
    result.getLast? = some name := by
  induction earlier generalizing place with
  | nil =>
      rw [List.nil_append, walk] at leads
      split at leads
      · cases leads
      · rw [if_neg proper.1, if_neg proper.2] at leads
        split at leads
        · cases leads
        · cases leads
          exact List.getLast?_concat
      · cases leads
  | cons first rest ih =>
      rw [List.cons_append, walk] at leads
      split at leads
      · cases leads
      · split at leads
        · exact ih leads
        · split at leads
          · exact ih leads
          · split at leads
            · cases leads
            · exact ih leads
      · cases leads

/-- Whatever is at the place where a path leads has the name that the path ends with. -/
theorem LiesIn.getLast?_resolve {store : Store} {place : Place} (lies : LiesIn directory name path)
    (proper : name ≠ "." ∧ name ≠ "..") (resolved : store.resolve path = .ok place) :
    place.getLast? = some name := by
  rw [resolve] at resolved
  split at resolved
  · cases resolved
  · split at resolved
    · cases resolved
    · rw [lies.components] at resolved
      exact getLast?_walk proper resolved

end VerifiedBuild.Store
