import Mathlib.Data.List.TakeWhile
import VerifiedBuild.Path

/-!
# Names and their extensions

How the parts of a path come out again of a path that was put together: the file name of a path with
another extension or in another directory, and where such a name splits.
-/

namespace VerifiedBuild.Path

variable {name front ext : List Char}

/-! ## File names -/

theorem slash_not_mem_nameChars (path : List Char) : '/' ∉ nameChars path := by
  intro member
  rw [nameChars, List.mem_reverse] at member
  simpa using List.mem_takeWhile_imp member

theorem slash_not_mem_fileName (path : String) : '/' ∉ (fileName path).toList := by
  rw [fileName, String.toList_ofList]
  exact slash_not_mem_nameChars path.toList

theorem takeWhile_reverse_append {mark : Char} (absent : mark ∉ name) (path : List Char) :
    (path ++ name).reverse.takeWhile (· ≠ mark) =
      name.reverse ++ path.reverse.takeWhile (· ≠ mark) := by
  rw [List.reverse_append, List.takeWhile_append_of_pos]
  intro char member
  have listed := List.mem_reverse.mp member
  simp only [ne_eq, decide_eq_true_eq]
  rintro rfl
  exact absent listed

theorem dropWhile_reverse_append {mark : Char} (absent : mark ∉ name) (path : List Char) :
    (path ++ name).reverse.dropWhile (· ≠ mark) = path.reverse.dropWhile (· ≠ mark) := by
  rw [List.reverse_append, List.dropWhile_append_of_pos]
  intro char member
  have listed := List.mem_reverse.mp member
  simp only [ne_eq, decide_eq_true_eq]
  rintro rfl
  exact absent listed

theorem nameChars_append (plain : '/' ∉ name) (path : List Char) :
    nameChars (path ++ name) = nameChars path ++ name := by
  rw [nameChars, takeWhile_reverse_append plain, List.reverse_append, List.reverse_reverse,
    nameChars]

theorem nameChars_of_plain (plain : '/' ∉ name) : nameChars name = name := by
  have alone := nameChars_append plain []
  simpa [nameChars] using alone

theorem nameChars_directoryChars (path : List Char) : nameChars (directoryChars path) = [] := by
  have whole := nameChars_append (slash_not_mem_nameChars path) (directoryChars path)
  rw [directoryChars_append_nameChars] at whole
  exact List.self_eq_append_left.mp whole

theorem fileName_join (directory : String) {name : String} (plain : '/' ∉ name.toList) :
    fileName (join directory name) = name := by
  unfold fileName join
  split
  next => rw [nameChars_of_plain plain, String.ofList_toList]
  next =>
    split
    next closed =>
      obtain ⟨front, located⟩ := List.getLast?_eq_some_iff.mp closed
      rw [String.toList_append, nameChars_append plain, located]
      simp [nameChars]
    next =>
      rw [String.toList_append, nameChars_append plain, String.toList_append]
      simp [nameChars]

/-! ## Directories -/

theorem directoryChars_append (plain : '/' ∉ name) (path : List Char) :
    directoryChars (path ++ name) = directoryChars path := by
  rw [directoryChars, dropWhile_reverse_append plain, directoryChars]

theorem directoryChars_directoryChars (path : List Char) :
    directoryChars (directoryChars path) = directoryChars path := by
  have whole := directoryChars_append (slash_not_mem_nameChars path) (directoryChars path)
  rw [directoryChars_append_nameChars] at whole
  exact whole.symm

theorem directoryChars_of_plain (plain : '/' ∉ name) : directoryChars name = [] := by
  have whole := directoryChars_append_nameChars name
  rw [nameChars_of_plain plain] at whole
  exact List.append_left_eq_self.mp whole

/-- A path of slashes alone has no name. -/
theorem nameChars_of_slashes {path : List Char} (slashes : path.all (· = '/')) :
    nameChars path = [] := by
  rw [List.eq_nil_iff_forall_not_mem]
  intro char member
  have inPath : char ∈ path := by
    rw [← directoryChars_append_nameChars path]
    exact List.mem_append_right _ member
  obtain rfl : char = '/' := by simpa using List.all_eq_true.mp slashes char inPath
  exact slash_not_mem_nameChars path member

theorem all_slash_eq_false {path : String} (named : fileName path ≠ "") :
    path.toList.all (· = '/') = false := by
  apply Bool.eq_false_iff.mpr
  intro slashes
  rw [fileName, nameChars_of_slashes slashes] at named
  exact named rfl

/-- Two files of one directory have the same parent. -/
theorem parent_eq_of_directoryChars {path other : String} (named : fileName path ≠ "")
    (alsoNamed : fileName other ≠ "")
    (same : directoryChars path.toList = directoryChars other.toList) :
    parent path = parent other := by
  rw [parent, parent, all_slash_eq_false named, all_slash_eq_false alsoNamed, same,
    if_neg Bool.false_ne_true, if_neg Bool.false_ne_true]

/-! ## Extensions -/

theorem splitExtension_dotted (nonempty : front ≠ []) (plain : '.' ∉ ext)
    (proper : front ++ '.' :: ext ≠ ['.', '.']) :
    splitExtension (front ++ '.' :: ext) = (front, '.' :: ext) := by
  obtain ⟨start, last, rfl⟩ := (List.eq_nil_or_concat front).resolve_left nonempty
  rw [splitExtension, if_neg proper, List.append_cons, dropWhile_reverse_append plain,
    takeWhile_reverse_append plain]
  simp

theorem splitExtension_append (nonempty : front ≠ []) (plain : '.' ∉ ext) (named : ext ≠ []) :
    splitExtension (front ++ '.' :: ext) = (front, '.' :: ext) := by
  refine splitExtension_dotted nonempty plain fun same => ?_
  have length := congrArg List.length same
  have first := List.length_pos_iff.mpr nonempty
  have last := List.length_pos_iff.mpr named
  simp only [List.length_append, List.length_cons, List.length_nil] at length
  omega

theorem splitExtension_hidden (plain : '.' ∉ ext) :
    splitExtension ('.' :: ext) = ('.' :: ext, []) := by
  have other : '.' :: ext ≠ ['.', '.'] := by
    intro same
    rw [(List.cons.inj same).2] at plain
    exact plain List.mem_cons_self
  have parts : '.' :: ext = ['.'] ++ ext := rfl
  rw [splitExtension, if_neg other, parts, dropWhile_reverse_append plain]
  simp

theorem slash_not_mem_stem (path : String) : '/' ∉ (stem path).toList := by
  intro member
  apply slash_not_mem_fileName path
  rw [← stem_append_extension, String.toList_append]
  exact List.mem_append_left _ member

theorem toList_withExtension (path : String) {ext : String} (named : ext ≠ "") :
    (withExtension path ext).toList =
      directoryChars path.toList ++ ((stem path).toList ++ '.' :: ext.toList) := by
  rw [withExtension, if_neg named, stem, String.toList_ofList]
  simp

theorem fileName_withExtension (path : String) {ext : String} (plain : '/' ∉ ext.toList)
    (named : ext ≠ "") : fileName (withExtension path ext) = stem path ++ ("." ++ ext) := by
  have tail : '/' ∉ (stem path).toList ++ '.' :: ext.toList := by
    simp [slash_not_mem_stem, plain]
  rw [fileName, toList_withExtension path named, nameChars_append tail, nameChars_directoryChars,
    List.nil_append]
  apply String.toList_inj.mp
  simp

theorem directoryChars_withExtension (path : String) {ext : String} (plain : '/' ∉ ext.toList)
    (some : ext ≠ "") :
    directoryChars (withExtension path ext).toList = directoryChars path.toList := by
  have tail : '/' ∉ (stem path).toList ++ '.' :: ext.toList := by
    simp [slash_not_mem_stem, plain]
  rw [toList_withExtension path some, directoryChars_append tail, directoryChars_directoryChars]

/-- Another extension leaves a file where it is. -/
theorem parent_withExtension {path ext : String} (named : fileName path ≠ "")
    (plain : '/' ∉ ext.toList) (some : ext ≠ "") :
    parent (withExtension path ext) = parent path := by
  apply parent_eq_of_directoryChars ?_ named (directoryChars_withExtension path plain some)
  rw [fileName_withExtension path plain some]
  intro empty
  have chars := congrArg String.toList empty
  simp at chars

theorem nameChars_of_fileName {path front ext : String}
    (named : fileName path = front ++ ("." ++ ext)) :
    nameChars path.toList = front.toList ++ '.' :: ext.toList := by
  rw [fileName] at named
  have chars := congrArg String.toList named
  simpa using chars

/-- A file name with an extension splits before it, if something stands there. -/
theorem parts_of_fileName {path front ext : String}
    (named : fileName path = front ++ ("." ++ ext)) (nonempty : front ≠ "")
    (plain : '.' ∉ ext.toList) (some : ext ≠ "") :
    stem path = front ∧ extension path = "." ++ ext := by
  have splits : splitExtension (nameChars path.toList) = (front.toList, '.' :: ext.toList) := by
    rw [nameChars_of_fileName named]
    exact splitExtension_append (by simpa using nonempty) plain (by simpa using some)
  constructor
  · rw [stem, splits, String.ofList_toList]
  · rw [extension, splits]
    apply String.toList_inj.mp
    simp

/-- A file name that ends with an extension splits there, unless nothing stands before it. -/
theorem lowercaseExtension_of_fileName {path stem ext : String}
    (named : fileName path = stem ++ ("." ++ ext)) (plain : '.' ∉ ext.toList)
    (nonempty : ext ≠ "") :
    lowercaseExtension path = "" ∨
      lowercaseExtension path = String.ofList ('.' :: ext.toList.map Char.toLower) := by
  rw [lowercaseExtension, nameChars_of_fileName named]
  by_cases hidden : stem.toList = []
  · rw [hidden, List.nil_append, splitExtension_hidden plain]
    exact .inl rfl
  · have some : ext.toList ≠ [] := by simpa using nonempty
    rw [splitExtension_append hidden plain some]
    exact .inr rfl

end VerifiedBuild.Path
