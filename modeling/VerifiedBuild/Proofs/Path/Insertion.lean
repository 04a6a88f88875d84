import VerifiedBuild.Proofs.Path.Split

/-!
# Names with a part put in

What becomes of a path when a text is put between its stem and its extension: the file stays in its
directory, its extension stays, and the text can be told from the path.
-/

namespace VerifiedBuild.Path

variable {path insert other : String}

/-! ## Files of a directory -/

/-- A directory as it stands before the names of its files. -/
def entrance (directory : List Char) : List Char :=
  if directory = [] ∨ directory.getLast? = some '/' then directory else directory ++ ['/']

theorem toList_join {directory name : String} (relative : name.toList.head? ≠ some '/') :
    (join directory name).toList = entrance directory.toList ++ name.toList := by
  rw [join, entrance]
  by_cases top : directory = ""
  · simp [top]
  · by_cases closed : directory.toList.getLast? = some '/'
    · simp [relative, top, closed]
    · simp [relative, top, closed]

theorem directoryChars_concat_slash (front : List Char) :
    directoryChars (front ++ ['/']) = front ++ ['/'] := by
  simp [directoryChars]

theorem directoryChars_entrance (directory : List Char) :
    directoryChars (entrance directory) = entrance directory := by
  rw [entrance]
  split
  next ends =>
    rcases ends with rfl | closed
    · rfl
    · obtain ⟨front, rfl⟩ := List.getLast?_eq_some_iff.mp closed
      exact directoryChars_concat_slash front
  next => exact directoryChars_concat_slash directory

theorem head?_ne_slash {name : String} (plain : '/' ∉ name.toList) :
    name.toList.head? ≠ some '/' :=
  fun first => plain (List.mem_of_mem_head? first)

theorem directoryChars_join (directory : String) {name : String} (plain : '/' ∉ name.toList) :
    directoryChars (join directory name).toList = entrance directory.toList := by
  rw [toList_join (head?_ne_slash plain), directoryChars_append plain, directoryChars_entrance]

theorem getLast?_dropTrailingSlashes (path : List Char) :
    (dropTrailingSlashes path).getLast? ≠ some '/' := by
  intro closed
  rw [dropTrailingSlashes, List.getLast?_reverse] at closed
  have stopped := List.head?_dropWhile_not (· = '/') path.reverse
  simp [closed] at stopped

theorem dropTrailingSlashes_concat {front : List Char} (opened : front.getLast? ≠ some '/') :
    dropTrailingSlashes (front ++ ['/']) = front := by
  rw [dropTrailingSlashes, List.reverse_concat, List.dropWhile_cons_of_pos (by simp)]
  rw [← List.head?_reverse] at opened
  generalize reversed : front.reverse = chars at opened
  rw [List.reverse_eq_iff] at reversed
  rw [reversed]
  cases chars with
  | nil => rfl
  | cons first rest =>
      rw [List.dropWhile_cons_of_neg (by simpa using opened)]

/-- What stands before the name of a file, as its parent. -/
def asParent (directory : List Char) : String :=
  match directory with
  | [] => ""
  | directory => match dropTrailingSlashes directory with
      | [] => "/"
      | trimmed => String.ofList trimmed

theorem parent_eq_asParent (mixed : path.toList.all (· = '/') = false) :
    parent path = asParent (directoryChars path.toList) := by
  rw [parent, mixed, if_neg Bool.false_ne_true]
  rfl

theorem asParent_entrance (directory : List Char) :
    asParent (entrance (asParent directory).toList) = asParent directory := by
  cases directory with
  | nil => rfl
  | cons first rest =>
      have opened := getLast?_dropTrailingSlashes (first :: rest)
      unfold asParent
      dsimp only
      generalize dropTrailingSlashes (first :: rest) = trimmed at opened
      cases trimmed with
      | nil => rfl
      | cons first rest =>
          have entered : entrance (String.ofList (first :: rest)).toList =
              first :: (rest ++ ['/']) := by
            rw [String.toList_ofList, entrance, if_neg (by simp [opened]), List.cons_append]
          dsimp only
          rw [entered]
          dsimp only
          rw [← List.cons_append, dropTrailingSlashes_concat opened]

theorem parent_beside {name : String} (mixed : path.toList.all (· = '/') = false)
    (plain : '/' ∉ name.toList) (nonempty : name ≠ "") :
    parent (join (parent path) name) = parent path := by
  have named : fileName (join (parent path) name) ≠ "" := by
    rwa [fileName_join (parent path) plain]
  rw [parent_eq_asParent (all_slash_eq_false named), directoryChars_join (parent path) plain,
    parent_eq_asParent mixed, asParent_entrance]

/-! ## The name -/

theorem slash_not_mem_inserted (path : String) (plain : '/' ∉ insert.toList) :
    '/' ∉ (stem path ++ insert ++ extension path).toList := by
  have whole := slash_not_mem_fileName path
  rw [← stem_append_extension, String.toList_append, List.mem_append, not_or] at whole
  simp [whole, plain]

theorem fileName_inserting (path : String) (plain : '/' ∉ insert.toList) :
    fileName (inserting path insert) = stem path ++ insert ++ extension path :=
  fileName_join (parent path) (slash_not_mem_inserted path plain)

theorem parent_inserting (mixed : path.toList.all (· = '/') = false) (plain : '/' ∉ insert.toList)
    (something : insert ≠ "") : parent (inserting path insert) = parent path :=
  parent_beside mixed (slash_not_mem_inserted path plain) (by simp [something])

theorem parts_inserting (plain : '/' ∉ insert.toList) (something : insert ≠ "")
    (dotted : extension path ≠ "") :
    stem (inserting path insert) = stem path ++ insert ∧
      extension (inserting path insert) = extension path := by
  have name : nameChars (inserting path insert).toList =
      (stem path).toList ++ insert.toList ++ (extension path).toList := by
    have whole := congrArg String.toList (fileName_inserting path plain)
    simpa [fileName] using whole
  have split := split_stem_extension path
  generalize located : (extension path).toList = ext at split name
  cases split with
  | bare => exact absurd (String.toList_eq_nil_iff.mp located) dotted
  | @dotted ext nonempty undotted =>
      have proper : (stem path).toList ++ insert.toList ++ '.' :: ext ≠ ['.', '.'] := by
        intro same
        have length := congrArg List.length same
        have first := List.length_pos_iff.mpr nonempty
        have second := List.length_pos_iff.mpr (mt String.toList_eq_nil_iff.mp something)
        simp only [List.length_append, List.length_cons, List.length_nil] at length
        omega
      have splits := splitExtension_dotted (List.append_ne_nil_of_left_ne_nil nonempty _) undotted
        proper
      rw [stem, extension, name, splits, ← located]
      simp

theorem head?_inserted (path : String) (relative : insert.toList.head? ≠ some '/') :
    (stem path ++ insert ++ extension path).toList.head? ≠ some '/' := by
  have whole := slash_not_mem_fileName path
  rw [← stem_append_extension, String.toList_append, List.mem_append, not_or] at whole
  rw [String.toList_append, String.toList_append, List.append_assoc, List.head?_append,
    List.head?_append]
  -- The first character comes from one of the three parts.
  cases first : (stem path).toList.head? with
  | some char =>
      rintro ⟨⟩
      exact whole.1 (List.mem_of_mem_head? first)
  | none =>
      cases second : insert.toList.head? with
      | some char =>
          rintro ⟨⟩
          exact relative second
      | none =>
          rw [Option.none_or, Option.none_or]
          exact fun third => whole.2 (List.mem_of_mem_head? third)

/-- What is put in can be told from the path, also if it has slashes of its own. -/
theorem inserting_inj (relative : insert.toList.head? ≠ some '/')
    (alsoRelative : other.toList.head? ≠ some '/') :
    inserting path insert = inserting path other ↔ insert = other := by
  constructor
  · intro same
    have chars := congrArg String.toList same
    rw [inserting, inserting, toList_join (head?_inserted path relative),
      toList_join (head?_inserted path alsoRelative), List.append_cancel_left_eq,
      String.toList_inj, String.append_left_inj, String.append_right_inj] at chars
    exact chars
  · rintro rfl
    rfl

end VerifiedBuild.Path
