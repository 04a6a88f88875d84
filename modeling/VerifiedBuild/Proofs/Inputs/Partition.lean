import Mathlib
import VerifiedBuild.Proofs.Inputs
import VerifiedBuild.Proofs.Observation
import VerifiedBuild.Proofs.Path.Snapshot
import VerifiedBuild.Rehearsal

/-!
# Inputs in two lists

Which inputs can be used is said without the sorting: by their extension, whatever the case of its
letters, and for programs by what the store holds. Sorting splits the inputs before the first one
that cannot be used by their extension, each list in the order of the command line, and names that
one input in a single error line.
-/

namespace VerifiedBuild

variable {K : Toolkit}

/-! ## The case of extensions -/

namespace Path

/-- Two paths that differ at most in the case of the letters of their extensions. -/
def SameButCase (path other : String) : Prop :=
  ∃ front ext, path = front ++ extension path ∧ other = front ++ ext ∧
    ext.toList.map Char.toLower = (extension path).toList.map Char.toLower

theorem toLower_eq_iff {mark : Char} (noLetter : mark.isAlpha = false) (char : Char) :
    char.toLower = mark ↔ char = mark := by
  have kept {other : Char} (plain : other.isAlpha = false) : other.toLower = other := by
    have noCapital : other.isUpper = false := (Bool.or_eq_false_iff.mp plain).1
    exact Char.toLower_eq_of_not_isUpper (by simp [noCapital])
  constructor
  · rintro rfl
    rw [Char.isAlpha_toLower_eq_isAlpha] at noLetter
    exact (kept noLetter).symm
  · rintro rfl
    exact kept noLetter

theorem mem_map_toLower {mark : Char} (noLetter : mark.isAlpha = false) {chars : List Char} :
    mark ∈ chars.map Char.toLower ↔ mark ∈ chars := by
  simp only [List.mem_map, toLower_eq_iff noLetter, exists_eq_right]

/-- The stem of a name does not depend on the case of its extension. -/
theorem splitExtension_of_case {stem ext other : List Char} (split : Split stem ext)
    (same : other.map Char.toLower = ext.map Char.toLower)
    (exact : splitExtension (stem ++ ext) = (stem, ext)) :
    splitExtension (stem ++ other) = (stem, other) := by
  cases split with
  | bare =>
      obtain rfl := List.map_eq_nil_iff.mp same
      exact exact
  | dotted nonempty plain =>
      obtain ⟨mark, letters, rfl, isMark, lower⟩ := List.map_eq_cons_iff.mp same
      obtain rfl : mark = '.' := (toLower_eq_iff (by decide) mark).mp isMark
      by_cases bare : letters = []
      · subst bare
        obtain rfl := List.map_eq_nil_iff.mp lower.symm
        exact exact
      · have undotted : '.' ∉ letters := by
          rw [← mem_map_toLower (by decide), lower, mem_map_toLower (by decide)]
          exact plain
        exact splitExtension_append nonempty undotted bare

theorem lowercaseExtension_of_sameButCase {path other : String} (same : SameButCase path other) :
    lowercaseExtension other = lowercaseExtension path := by
  obtain ⟨front, ext, whole, rfl, lower⟩ := same
  have parts : splitExtension (nameChars path.toList) =
      ((stem path).toList, (extension path).toList) := by
    rw [stem, extension, String.toList_ofList, String.toList_ofList]
  have name : nameChars path.toList = (stem path).toList ++ (extension path).toList := by
    rw [← String.toList_append, stem_append_extension, fileName, String.toList_ofList]
  -- What is in front of the extension ends with the stem.
  have located : front.toList = directoryChars path.toList ++ (stem path).toList := by
    have chars := congrArg String.toList whole
    rw [String.toList_append, ← directoryChars_append_nameChars path.toList, name,
      ← List.append_assoc] at chars
    exact (List.append_cancel_right chars).symm
  have plain : '/' ∉ (stem path).toList ++ ext.toList := by
    have inName := slash_not_mem_nameChars path.toList
    have sameMarks : '/' ∈ ext.toList ↔ '/' ∈ (extension path).toList := by
      rw [← mem_map_toLower (by decide), lower, mem_map_toLower (by decide)]
    rw [List.mem_append, sameMarks, ← List.mem_append, ← name]
    exact inName
  have otherName : nameChars (front ++ ext).toList = (stem path).toList ++ ext.toList := by
    rw [String.toList_append, located, List.append_assoc, nameChars_append plain,
      nameChars_directoryChars, List.nil_append]
  have splits := splitExtension_of_case (split_stem_extension path) lower (by rw [← name, parts])
  rw [lowercaseExtension, lowercaseExtension, otherName, splits, parts, lower]

end Path

namespace Inputs

/-! ## Inputs that can be used -/

variable {store : Store} {snapshots : Bool} {paths : List String} {path : String}

/-- Native files can be used, and programs that exist or, if snapshots count, whose first snapshot
does. -/
def IsUsable (store : Store) (snapshots : Bool) (path : String) : Prop :=
  Path.lowercaseExtension path ∈ [".cc", ".cpp", ".a", ".so"] ∨
    Path.lowercaseExtension path = ".prf" ∧
      (store.pathExists path ∨ snapshots ∧ store.pathExists (Path.snapshot path 0))

instance (store : Store) (snapshots : Bool) (path : String) :
    Decidable (IsUsable store snapshots path) :=
  inferInstanceAs (Decidable (_ ∨ _))

/-- The inputs before the first that cannot be used. -/
def usable (store : Store) (snapshots : Bool) (paths : List String) : List String :=
  paths.takeWhile fun path => IsUsable store snapshots path

def isProgram (path : String) : Bool :=
  Path.lowercaseExtension path = ".prf"

def programOf (path : String) : Source := ⟨path, .program⟩

def nativeOf (path : String) : Source :=
  ⟨path, if Path.lowercaseExtension path ∈ [".cc", ".cpp"] then .nativeCode else .nativeLibrary⟩

def refusalOf (path : String) : Refusal :=
  if isProgram path then .notFound path else .unsupported path

/-- Sorting comes to these inputs: those before the first that cannot be used are split in two, in
order, and that first one is refused. -/
structure Sorts (inputs : Inputs) (store : Store) (snapshots : Bool) (paths : List String) :
    Prop where
  programs : inputs.programs = ((usable store snapshots paths).filter isProgram).map programOf
  others : inputs.others = ((usable store snapshots paths).filter (!isProgram ·)).map nativeOf
  once : ((inputs.programs ++ inputs.others).map (·.path)).Perm (usable store snapshots paths)
  accepts : inputs.refusal = none ↔ ∀ path ∈ paths, IsUsable store snapshots path
  refuses : inputs.refusal =
    (paths.find? fun path => !decide (IsUsable store snapshots path)).map refusalOf

theorem accept_of_isUsable (can : IsUsable store snapshots path) :
    accept store snapshots path =
      .ok (if isProgram path then programOf path else nativeOf path) := by
  unfold accept SourceRole.ofPath? isProgram nativeOf
  rcases can with native | ⟨program, present⟩
  · generalize Path.lowercaseExtension path = ext at native ⊢
    simp only [List.mem_cons, List.not_mem_nil, or_false] at native
    rcases native with rfl | rfl | rfl | rfl <;> rfl
  · rw [program]
    have isPresent : isPresent store snapshots path := by simpa [isPresent] using present
    simp [SourceRole.ofExtension?, isPresent, programOf]

theorem accept_of_not_isUsable (cannot : ¬IsUsable store snapshots path) :
    accept store snapshots path = .error (refusalOf path) := by
  unfold accept SourceRole.ofPath? refusalOf isProgram
  rw [IsUsable, not_or] at cannot
  obtain ⟨foreign, absent⟩ := cannot
  generalize Path.lowercaseExtension path = ext at foreign absent ⊢
  by_cases program : ext = ".prf"
  · have missing : isPresent store snapshots path = false := by
      simpa [isPresent, program] using absent
    simp [SourceRole.ofExtension?, program, missing]
  · simp only [List.mem_cons, List.not_mem_nil, or_false, not_or] at foreign
    simp [SourceRole.ofExtension?, program, foreign]

theorem cons_nativeOf (inputs : Inputs) (path : String) :
    inputs.cons (nativeOf path) = { inputs with others := nativeOf path :: inputs.others } := by
  unfold cons nativeOf
  split
  next program =>
    dsimp only at program
    split at program <;> cases program
  next => rfl

theorem Sorts.nil (store : Store) (snapshots : Bool) : Sorts {} store snapshots [] where
  programs := rfl
  others := rfl
  once := .refl _
  accepts := by simp
  refuses := rfl

theorem Sorts.stop (cannot : ¬IsUsable store snapshots path) (rest : List String) :
    Sorts { refusal := some (refusalOf path) } store snapshots (path :: rest) := by
  have none : usable store snapshots (path :: rest) = [] := by
    rw [usable, List.takeWhile_cons_of_neg (by simpa using cannot)]
  constructor
  case programs => rw [none]; rfl
  case others => rw [none]; rfl
  case once => rw [none]; rfl
  case accepts => simp [cannot]
  case refuses => simp [cannot]

theorem Sorts.next {inputs : Inputs} {rest : List String}
    (sorts : inputs.Sorts store snapshots rest) (can : IsUsable store snapshots path) :
    (inputs.cons (if isProgram path then programOf path else nativeOf path)).Sorts store snapshots
      (path :: rest) := by
  have more : usable store snapshots (path :: rest) = path :: usable store snapshots rest := by
    rw [usable, List.takeWhile_cons_of_pos (by simpa using can), usable]
  have accepts : inputs.refusal = none ↔
      ∀ other ∈ path :: rest, IsUsable store snapshots other := by
    rw [sorts.accepts, List.forall_mem_cons, and_iff_right can]
  have refuses : inputs.refusal = ((path :: rest).find? fun other =>
      !decide (IsUsable store snapshots other)).map refusalOf := by
    rw [sorts.refuses, List.find?_cons_of_neg (by simpa using can)]
  -- The input goes to the front of one list, and the other list stays as it is.
  by_cases program : isProgram path
  · rw [if_pos program]
    constructor
    case programs =>
      rw [more, List.filter_cons_of_pos program, List.map_cons, ← sorts.programs]
      rfl
    case others =>
      rw [more, List.filter_cons_of_neg (by simpa using program), ← sorts.others]
      rfl
    case once =>
      rw [more]
      exact sorts.once.cons path
    case accepts => exact accepts
    case refuses => exact refuses
  · rw [if_neg program, cons_nativeOf]
    constructor
    case programs =>
      rw [more, List.filter_cons_of_neg program]
      exact sorts.programs
    case others =>
      rw [more, List.filter_cons_of_pos (by simpa using program), List.map_cons, ← sorts.others]
    case once =>
      rw [more, List.map_append, List.map_cons]
      refine List.perm_middle.trans (List.Perm.cons path ?_)
      rw [← List.map_append]
      exact sorts.once
    case accepts => exact accepts
    case refuses => exact refuses

theorem sorts_ofPaths (store : Store) (snapshots : Bool) (paths : List String) :
    (ofPaths store snapshots paths).Sorts store snapshots paths := by
  induction paths with
  | nil => exact .nil store snapshots
  | cons path rest ih =>
      rw [ofPaths]
      by_cases can : IsUsable store snapshots path
      · rw [accept_of_isUsable can]
        exact ih.next can
      · rw [accept_of_not_isUsable can]
        exact .stop can rest

def reasonOf (path : String) : String :=
  if isProgram path then "file not found"
  else "Filename extension '" ++ Path.extension path ++ "' is not supported. Input files must " ++
    "be proof programs (.prf), C++ sources (.cc, .cpp) or native libraries (.a, .so)"

theorem message_refusalOf (path : String) :
    (refusalOf path).message = "*** Error: '" ++ path ++ "': " ++ reasonOf path := by
  unfold refusalOf reasonOf
  split
  · have joined : "': file not found" = "': " ++ "file not found" := rfl
    rw [Refusal.message, joined, ← String.append_assoc]
  · have opening : "': Filename extension '" = "': " ++ "Filename extension '" := rfl
    have closing : "' is not supported. Input files must be proof programs (.prf), " ++
        "C++ sources (.cc, .cpp) or native libraries (.a, .so)" =
      "' is not supported. Input files must " ++
        "be proof programs (.prf), C++ sources (.cc, .cpp) or native libraries (.a, .so)" := by
      decide +kernel
    simp only [Refusal.message, opening, closing, String.append_assoc]

theorem accept_native_iff {role : SourceRole} (native : role ≠ .program) :
    accept store snapshots path = .ok ⟨path, role⟩ ↔ SourceRole.ofPath? path = some role := by
  constructor
  · exact fun accepted => (accept_ok accepted).2
  · intro named
    rw [accept, named]
    cases role with
    | program => exact absurd rfl native
    | _ => rfl

end Inputs

/-! ## What is shown -/

/-- The work on inputs that can all be used. -/
def makeUsable (config : Config) (inputs : Inputs) : Job K ExitStatus :=
  if inputs.programs.isEmpty then do
    Job.errorLine "*** Error: No proof program (.prf) files were specified."
    pure .notStarted
  else do
    Job.request .restartTally
    makeAll config inputs.programs inputs.others

/-- Sorting only looks at the host and shows nothing; what it refuses is told in one error line, and
the run ends there. -/
def Options.Announces (options : Options) (collaborators : Collaborators K) (before : Machine K) :
    Prop :=
  let inputs := options.sorted before.host.store
  let looked := (before.perform collaborators .look).2
  looked.console = before.console ∧
    match inputs.refusal with
    | none => (processInputs options).run collaborators before =
        (makeUsable options.config inputs).run collaborators looked
    | some refusal => ∃ after, (processInputs options).run collaborators before =
          (.ok .notStarted, after) ∧
        after.console = before.console.errorLine refusal.message ∧ after.calls = before.calls

theorem Machine.console_perform_errorLine (machine : Machine K) (collaborators : Collaborators K)
    (line : String) : (machine.perform collaborators (.errorLine line)).2.console =
      machine.console.errorLine line :=
  console_updateLog _

theorem announces (options : Options) (collaborators : Collaborators K) (before : Machine K) :
    options.Announces collaborators before := by
  have looks : (processInputs options).run collaborators before =
      (makeSorted options.config (options.sorted before.host.store)).run collaborators
        (before.perform collaborators .look).2 := rfl
  have shown : (before.perform collaborators .look).2.console = before.console :=
    before.console_updateLog
  unfold Options.Announces
  dsimp only
  refine ⟨shown, ?_⟩
  split
  next accepted =>
    rw [looks, makeSorted, accepted]
    rfl
  next refusal refused =>
    rw [looks, makeSorted, refused]
    refine ⟨((before.perform collaborators .look).2.perform collaborators
      (.errorLine refusal.message)).2, rfl, ?_, ?_⟩
    · rw [Machine.console_perform_errorLine, shown]
    · rw [Machine.calls_perform, Machine.calls_perform]
      simp [Request.call?]

/-- Inputs are sorted as their extensions and the store say, up to the first that cannot be used,
which is named in the only line shown. To a native file the case of its extension does not matter.
-/
theorem processInputs_sorts (collaborators : Collaborators K) (options : Options)
    (before : Machine K) :
    (∀ store snapshots paths,
      (Inputs.ofPaths store snapshots paths).Sorts store snapshots paths) ∧
    (∀ path, (Inputs.refusalOf path).message =
      "*** Error: '" ++ path ++ "': " ++ Inputs.reasonOf path) ∧
    options.Announces collaborators before ∧
    ∀ store snapshots path other role, Path.SameButCase path other → role ≠ .program →
      (Inputs.accept store snapshots other = .ok ⟨other, role⟩ ↔
        Inputs.accept store snapshots path = .ok ⟨path, role⟩) := by
  refine ⟨Inputs.sorts_ofPaths, Inputs.message_refusalOf, announces options collaborators before,
    ?_⟩
  intro store snapshots path other role same native
  rw [Inputs.accept_native_iff native, Inputs.accept_native_iff native, SourceRole.ofPath?,
    SourceRole.ofPath?, Path.lowercaseExtension_of_sameButCase same]

theorem capitalLibrary_accepted :
    Path.SameButCase "lib/x.so" "lib/x.SO" ∧ SourceRole.nativeLibrary ≠ .program ∧
      Inputs.accept .standard false "lib/x.SO" = .ok ⟨"lib/x.SO", .nativeLibrary⟩ := by
  have same : Path.SameButCase "lib/x.so" "lib/x.SO" :=
    ⟨"lib/x", ".SO", by decide +kernel, by decide +kernel, by decide +kernel⟩
  have native : SourceRole.nativeLibrary ≠ .program := by decide
  have cases := (processInputs_sorts (Rehearsal.collaborators {}) {}
    { host := { store := .standard } }).2.2.2
  refine ⟨same, native, (cases .standard false _ _ _ same native).mpr ?_⟩
  rfl

end VerifiedBuild
