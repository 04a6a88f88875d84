import VerifiedBuild.Proofs.Path

/-!
# Where a name splits

The stem and the extension of a file name, without the way they are found: which names have an
extension, and that the last dot tells where it begins.
-/

namespace VerifiedBuild.Path

/-- The stems and extensions of file names. A name without extension has no dot that leaves
something on both sides. -/
inductive Split : List Char → List Char → Prop
  | bare {name : List Char}
      (undotted : ∀ front ext, front ≠ [] → ext ≠ [] → name ≠ front ++ '.' :: ext) :
      Split name []
  | dotted {front ext : List Char} (nonempty : front ≠ []) (plain : '.' ∉ ext) :
      Split front ('.' :: ext)

variable {front other name ext : List Char}

theorem exists_dropWhile_of_dotted (nonempty : front ≠ []) (ext : List Char) :
    ∃ first before, (front ++ '.' :: ext).reverse.dropWhile (· ≠ '.') =
      '.' :: first :: before := by
  have shape (chars : List Char) (some : chars ≠ []) :
      ∃ first before, '.' :: chars = '.' :: first :: before := by
    obtain ⟨first, before, rfl⟩ := List.exists_cons_of_ne_nil some
    exact ⟨first, before, rfl⟩
  have parts : (front ++ '.' :: ext).reverse = ext.reverse ++ '.' :: front.reverse := by simp
  rw [parts, List.dropWhile_append]
  split
  next =>
    rw [List.dropWhile_cons_of_neg (by simp)]
    exact shape _ (mt List.reverse_eq_nil_iff.mp nonempty)
  next more =>
    have stopped := List.head_dropWhile_not (· ≠ '.') (l := ext.reverse)
      (mt List.isEmpty_iff.mpr more)
    cases located : ext.reverse.dropWhile (· ≠ '.') with
    | nil => simp only [located, List.isEmpty_nil, not_true_eq_false] at more
    | cons mark rest =>
        simp only [located, List.head_cons] at stopped
        obtain rfl : mark = '.' := by simpa using stopped
        exact shape (rest ++ '.' :: front.reverse) (by simp)

theorem split_splitExtension (name : List Char) :
    Split (splitExtension name).1 (splitExtension name).2 := by
  rw [splitExtension]
  split
  next twoDots =>
    refine .bare fun front ext nonempty named same => ?_
    have first := List.length_pos_iff.mpr nonempty
    have last := List.length_pos_iff.mpr named
    have length := congrArg List.length (twoDots.symm.trans same)
    simp only [List.length_append, List.length_cons, List.length_nil] at length
    omega
  next =>
    split
    next first before located =>
      have nonempty : (first :: before).reverse ≠ [] := by simp
      refine .dotted nonempty fun member => ?_
      rw [List.mem_reverse] at member
      simpa using List.mem_takeWhile_imp member
    next undotted =>
      refine .bare fun front ext nonempty _ same => ?_
      obtain rfl : name = front ++ '.' :: ext := same
      obtain ⟨first, before, located⟩ := exists_dropWhile_of_dotted nonempty ext
      exact undotted first before located

theorem append_dot_inj (plain : '.' ∉ name) (alsoPlain : '.' ∉ ext)
    (same : front ++ '.' :: name = other ++ '.' :: ext) : front = other ∧ name = ext := by
  have last (front : List Char) {name : List Char} (plain : '.' ∉ name) :
      (front ++ '.' :: name).reverse.takeWhile (· ≠ '.') = name.reverse := by
    rw [List.append_cons, takeWhile_reverse_append plain]
    simp
  have names := last front plain
  rw [same, last other alsoPlain] at names
  obtain rfl := List.reverse_inj.mp names
  exact ⟨List.append_cancel_right same, rfl⟩

variable {path : String}

theorem split_stem_extension (path : String) :
    Split (stem path).toList (extension path).toList := by
  rw [stem, extension, String.toList_ofList, String.toList_ofList]
  exact split_splitExtension _

theorem stem_ne_empty (named : fileName path ≠ "") : stem path ≠ "" := by
  intro empty
  have split := split_stem_extension path
  have whole := stem_append_extension path
  rw [empty, String.toList_empty] at split
  generalize bare : (extension path).toList = ext at split
  cases split with
  | bare _ =>
      rw [empty, String.toList_eq_nil_iff.mp bare] at whole
      exact named whole.symm
  | dotted nonempty _ => exact nonempty rfl

end VerifiedBuild.Path
