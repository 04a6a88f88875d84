import VerifiedBuild.Proofs.Path.Insertion
import VerifiedBuild.Proofs.Text.Integer

/-!
# Names of snapshots

The path of a snapshot tells which one it is: the version, and the directory, the stem and the
extension of the file it belongs to. This holds for all paths, also for those that look like
snapshots themselves, are hidden, have no extension or end with a slash.
-/

namespace VerifiedBuild.Path

variable {front other ext : List Char}

/-! ## File names of snapshots -/

def versioned (stem number ext : List Char) : List Char :=
  stem ++ '.' :: 'v' :: number ++ ext

theorem versioned_inj {number another otherExt : List Char} (plain : '.' ∉ number)
    (alsoPlain : '.' ∉ another) (split : Split front ext) (alsoSplit : Split other otherExt)
    (same : versioned front number ext = versioned other another otherExt) :
    front = other ∧ number = another ∧ ext = otherExt := by
  have mark (number : List Char) (plain : '.' ∉ number) : '.' ∉ 'v' :: number := by
    simp [plain]
  -- A bare name has no mark of a version inside, so both names have an extension or neither has.
  have numbers {front other : List Char} (same : front ++ '.' :: 'v' :: number =
      other ++ '.' :: 'v' :: another) : front = other ∧ number = another := by
    obtain ⟨fronts, marked⟩ := append_dot_inj (mark number plain) (mark another alsoPlain) same
    exact ⟨fronts, (List.cons.inj marked).2⟩
  cases split with
  | bare undotted =>
      cases alsoSplit with
      | bare =>
          rw [versioned, versioned, List.append_nil, List.append_nil] at same
          obtain ⟨fronts, marked⟩ := numbers same
          exact ⟨fronts, marked, rfl⟩
      | dotted nonempty last =>
          rw [versioned, List.append_nil] at same
          exact absurd (append_dot_inj (mark number plain) last same).1
            (undotted _ _ nonempty (by simp))
  | dotted nonempty last =>
      cases alsoSplit with
      | bare undotted =>
          rw [versioned, versioned, List.append_nil] at same
          exact absurd (append_dot_inj last (mark another alsoPlain) same).1.symm
            (undotted _ _ nonempty (by simp))
      | dotted _ alsoLast =>
          obtain ⟨inner, exts⟩ := append_dot_inj last alsoLast same
          obtain ⟨fronts, marked⟩ := numbers inner
          exact ⟨fronts, marked, by rw [exts]⟩

variable {path another : String} {version number : Int}

theorem toList_insert (path : String) (version : Int) :
    (stem path ++ (".v" ++ toString version) ++ extension path).toList =
      versioned (stem path).toList (toString version).toList (extension path).toList := by
  simp [versioned]

theorem mark_not_mem_toString {mark : Char} (other : mark ≠ '-') (noDigit : mark.isDigit = false)
    (version : Int) : mark ∉ (toString version).toList := by
  intro member
  rcases (Text.decimal_toString version).mem member with minus | digit
  · exact other minus
  · rw [noDigit] at digit
    cases digit

theorem lineage_of_insert
    (same : stem path ++ (".v" ++ toString version) ++ extension path =
      stem another ++ (".v" ++ toString number) ++ extension another) :
    version = number ∧ stem path = stem another ∧ extension path = extension another := by
  have plain (version : Int) : '.' ∉ (toString version).toList :=
    mark_not_mem_toString (by decide) (by decide) version
  have chars := congrArg String.toList same
  rw [toList_insert, toList_insert] at chars
  obtain ⟨stems, numbers, extensions⟩ := versioned_inj (plain version) (plain number)
    (split_stem_extension path) (split_stem_extension another) chars
  exact ⟨Text.toString_injective (String.toList_inj.mp numbers), String.toList_inj.mp stems,
    String.toList_inj.mp extensions⟩

theorem slash_not_mem_version (version : Int) : '/' ∉ (".v" ++ toString version).toList := by
  have inNumber : '/' ∉ (toString version).toList :=
    mark_not_mem_toString (by decide) (by decide) version
  simpa using inNumber

theorem slash_not_mem_insert (path : String) (version : Int) :
    '/' ∉ (stem path ++ (".v" ++ toString version) ++ extension path).toList :=
  slash_not_mem_inserted path (slash_not_mem_version version)

theorem fileName_snapshot (path : String) (version : Int) :
    fileName (snapshot path version) =
      stem path ++ (".v" ++ toString version) ++ extension path :=
  fileName_inserting path (slash_not_mem_version version)

/-! ## Paths of snapshots -/

/-- A parent that ends with a slash is nothing but slashes. -/
theorem all_slash_of_parent (closed : (parent path).toList.getLast? = some '/') :
    (parent path).toList.all (· = '/') := by
  revert closed
  rw [parent]
  split
  next slashes => exact fun _ => slashes
  next =>
    split
    next => simp
    next =>
      split
      next => simp
      next =>
        rw [String.toList_ofList]
        exact fun closed => absurd closed (getLast?_dropTrailingSlashes _)

theorem all_slash_append (shut : front ≠ []) (opened : front.getLast? ≠ some '/') :
    ¬(front ++ ['/']).all (· = '/') := by
  obtain ⟨start, last, rfl⟩ := (List.eq_nil_or_concat front).resolve_left shut
  have other : last ≠ '/' := by simpa using opened
  simp [other]

theorem entrance_inj (slashes : front.getLast? = some '/' → front.all (· = '/'))
    (alsoSlashes : other.getLast? = some '/' → other.all (· = '/'))
    (same : entrance front = entrance other) : front = other := by
  rw [entrance, entrance] at same
  split at same
  next =>
    split at same
    next => exact same
    next opened =>
      rw [not_or] at opened
      subst same
      exact absurd (slashes List.getLast?_concat) (all_slash_append opened.1 opened.2)
  next opened =>
    split at same
    next =>
      rw [not_or] at opened
      subst same
      exact absurd (alsoSlashes List.getLast?_concat) (all_slash_append opened.1 opened.2)
    next => exact List.append_cancel_right same

theorem parent_of_join {name : String} (relative : name.toList.head? ≠ some '/')
    (same : join (parent path) name = join (parent another) name) :
    parent path = parent another := by
  have chars := congrArg String.toList same
  rw [toList_join relative, toList_join relative] at chars
  exact String.toList_inj.mp
    (entrance_inj all_slash_of_parent all_slash_of_parent (List.append_cancel_right chars))

theorem snapshot_eq_iff : snapshot path version = snapshot another number ↔
    version = number ∧ parent path = parent another ∧ stem path = stem another ∧
      extension path = extension another := by
  constructor
  · intro same
    have names := congrArg fileName same
    rw [fileName_snapshot, fileName_snapshot] at names
    have lineage := lineage_of_insert names
    have relative := head?_ne_slash (slash_not_mem_insert path version)
    refine ⟨lineage.1, parent_of_join relative ?_, lineage.2⟩
    rw [snapshot, snapshot, inserting, inserting, ← names] at same
    exact same
  · rintro ⟨rfl, parents, stems, extensions⟩
    rw [snapshot, snapshot, inserting, inserting, parents, stems, extensions]

end VerifiedBuild.Path
