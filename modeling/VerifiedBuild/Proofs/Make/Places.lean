import VerifiedBuild.Proofs.Inputs
import VerifiedBuild.Proofs.Make.Flat
import VerifiedBuild.Proofs.Make.Generation
import VerifiedBuild.Proofs.Path.Extension

/-!
# Where a run writes

Which of its own inputs a run can write over. What it writes and builds is named after a program
that it has read, with another extension. So it never touches a program file; but a native file that
the user put where generated code or a product belongs is written over.
-/

namespace VerifiedBuild

variable {K : Toolkit} {config : Config} {files others : List Source} {lineage : Option String}
  {past : List (Event K)}

/-! ## Named after a program -/

/-- A program that begins with this file has been read. -/
def HasRead (past : List (Event K)) (first : Source) : Prop :=
  ∃ name rest report, ⟨.call (.readProgram name (first :: rest)), .ok report⟩ ∈ past

/-- Files are only written, and products only built, where those of a program that has been read
belong. -/
def Produces (config : Config) (past : List (Event K)) : Request K → Prop
  | .saveFile path _ =>
      ∃ first, HasRead past first ∧ CodePlace config (config.outputName.getD first.path) past path
  | .call (.build plan) =>
      ∃ first, HasRead past first ∧ plan.IsFor config (config.outputName.getD first.path) past
  | _ => True

theorem HasRead.mono {first : Source} (read : HasRead past first) (later : List (Event K)) :
    HasRead (past ++ later) first := by
  obtain ⟨name, rest, report, member⟩ := read
  exact ⟨name, rest, report, List.mem_append_left later member⟩

theorem Request.Plain.produces {calls : Call K → Prop} {request : Request K}
    (plain : request.Plain calls) (others : ∀ plan, ¬calls (.build plan)) :
    Produces config past request := by
  cases request with
  | call toCall =>
      cases toCall with
      | build plan => exact absurd plain (others plan)
      | _ => trivial
  | saveFile path text => cases plain
  | _ => trivial

theorem Generates.produces {first : Source} {request : Request K}
    (generates : Generates config (config.outputName.getD first.path) past request)
    (read : HasRead past first) : Produces config past request := by
  cases request with
  | call toCall =>
      cases toCall with
      | build plan => exact ⟨first, read, generates⟩
      | _ => trivial
  | saveFile path text => exact ⟨first, read, generates⟩
  | _ => trivial

/-! ## The requests of a run -/

variable {program : K.Program} {first last : Source}

theorem obeys_verifyAndCompile (read : HasRead past first) :
    (verifyAndCompile config program first last others lineage).Obeys (Produces config) past := by
  have translates (past : List (Event K)) :
      (translateUnits config program).Obeys (Produces config) past :=
    confined_translateUnits.obeys
      (fun _ _ plain => plain.produces (by simp [Call.isTranslation])) past
  have verifies (units : List (ProofUnit K)) (past : List (Event K)) :
      (verifyAll config (Path.fileName last.path) lineage units).Obeys (Produces config) past :=
    confined_verifyAll.obeys (fun _ _ plain => plain.produces (by simp [Call.isEngine])) past
  refine (translates past).bind fun units afterTranslation =>
    (verifies units _).bind fun aggregate afterVerification => ?_
  refine Job.Obeys.bind ((obeys_concludeProgram _).mono fun later _ generates => ?_) fun _ _ =>
    Job.obeys_pure _ _
  -- The program was read before its translation began, and so before each of these requests.
  exact generates.produces (((read.mono _).mono _).mono _)

theorem obeys_makeParsed (read : HasRead past first) :
    (makeParsed config program first last others lineage).Obeys (Produces config) past := by
  have judges : (judgeProgram config program first last others lineage).Obeys (Produces config)
      past := by
    unfold judgeProgram
    split
    · exact obeys_verifyAndCompile read
    · exact Job.obeys_pure _ _
  have reports (past : List (Event K)) :
      (printReports config program).Obeys (Produces config) past :=
    confined_printReports.obeys (fun _ _ plain => plain.produces (by simp [Call.isShow])) past
  exact judges.bind fun _ _ => (reports _).bind fun _ _ => Job.obeys_pure _ _

theorem obeys_makeProgram (past : List (Event K)) :
    (makeProgram config files others lineage).Obeys (Produces config) past := by
  cases files with
  | nil => exact Job.obeys_fail _ _
  | cons first rest =>
      refine Job.obeys_request_bind trivial fun parsed => ?_
      have read : HasRead (past ++
          [⟨.call (.readProgram (jointName (first :: rest)) (first :: rest)), .ok parsed⟩]) first :=
        ⟨_, rest, parsed, by simp⟩
      obtain ⟨program, error⟩ := parsed
      cases error with
      | some error =>
          exact Job.Obeys.bind (Job.obeys_request trivial) fun _ _ => Job.obeys_pure _ _
      | none =>
          cases program with
          | none => exact Job.obeys_pure _ _
          | some program => exact obeys_makeParsed read

theorem obeys_makeTogether (past : List (Event K)) :
    (makeTogether config files others true lineage).Obeys (Produces config) past := by
  unfold makeTogether
  split
  · refine Job.Obeys.bind (Job.obeys_request trivial) fun host _ => ?_
    apply Job.obeys_foldlM
    intro status group _ past
    exact (obeys_makeProgram past).bind fun _ _ => Job.obeys_pure _ _
  · exact obeys_makeProgram past

theorem obeys_makeAll (past : List (Event K)) :
    (makeAll config files others).Obeys (Produces config) past := by
  unfold makeAll makeFiles
  split
  · apply Job.obeys_foldlM
    intro status file _ past
    have separate : (makeSeparately config true file).Obeys (Produces config) past :=
      Job.Obeys.bind (Job.obeys_request trivial) fun _ _ =>
        .bind (Job.obeys_request trivial) fun _ _ => obeys_makeTogether _
    exact separate.bind fun _ _ => Job.obeys_pure _ _
  · exact obeys_makeTogether past

theorem obeys_processInputs (options : Options) (past : List (Event K)) :
    (processInputs options).Obeys (Produces options.config) past := by
  rw [processInputs_eq]
  refine Job.Obeys.bind (Job.obeys_request trivial) fun host _ => ?_
  unfold makeSorted
  split
  · exact Job.Obeys.bind (Job.obeys_request trivial) fun _ _ => Job.obeys_pure _ _
  · split
    · exact Job.Obeys.bind (Job.obeys_request trivial) fun _ _ => Job.obeys_pure _ _
    · exact Job.Obeys.bind (Job.obeys_request trivial) fun _ _ => obeys_makeAll _

/-! ## Roles of places -/

section

variable {path stem ext base : String} {plan : BuildPlan}

theorem role_of_fileName (named : Path.fileName path = stem ++ ("." ++ ext))
    (plain : '.' ∉ ext.toList) (nonempty : ext ≠ "") :
    SourceRole.ofPath? path = none ∨ SourceRole.ofPath? path =
      SourceRole.ofExtension? (String.ofList ('.' :: ext.toList.map Char.toLower)) := by
  unfold SourceRole.ofPath?
  rcases Path.lowercaseExtension_of_fileName named plain nonempty with bare | extended
  · left
    rw [bare]
    decide
  · right
    rw [extended]

theorem isPlain_target (target : Target) : Path.IsPlain target.extension := by
  cases target <;> exact ⟨by decide, by decide, by decide⟩

theorem isPlain_product (kind : Product) : Path.IsPlain kind.extension := by
  cases kind <;> exact ⟨by decide, by decide, by decide⟩

theorem fileName_temporaryTarget (host : Host) (config : Config) (base : String) :
    Path.fileName (temporaryTarget host config base) =
      Path.stem base ++ ("." ++ config.target.extension) := by
  have plain := isPlain_target config.target
  rw [temporaryTarget, Path.fileName_join _ (Path.slash_not_mem_fileName _),
    Path.fileName_withExtension base plain.slash plain.nonempty]

theorem CodePlace.fileName_eq (place : CodePlace config base past path) :
    Path.fileName path = Path.stem base ++ ("." ++ config.target.extension) := by
  have plain := isPlain_target config.target
  cases place with
  | beside => exact Path.fileName_withExtension base plain.slash plain.nonempty
  | temporary host looked => exact fileName_temporaryTarget host config base

theorem CodePlace.role (place : CodePlace config base past path) :
    SourceRole.ofPath? path = none ∨
      SourceRole.ofPath? path = some .nativeCode ∧ config.target = .cpp := by
  have named := place.fileName_eq
  cases target : config.target with
  | cpp =>
      rw [target] at named
      have known := role_of_fileName named (by decide) (by decide)
      exact known.imp_right fun same => ⟨same.trans (by decide), rfl⟩
  | javaScript =>
      rw [target] at named
      have known := role_of_fileName named (by decide) (by decide)
      exact .inl (known.elim id fun same => same.trans (by decide))

theorem Product.fileName_productPath (kind : Product) (base : String) :
    Path.fileName (kind.productPath base) = Path.stem base ++ ("." ++ kind.extension) :=
  Path.fileName_withExtension base (isPlain_product kind).slash (isPlain_product kind).nonempty

theorem fileName_outputPath (host : Host) (config : Config) (hasEntryPoint : Bool)
    (base : String) :
    Path.fileName (outputPath host config hasEntryPoint base) =
      Path.stem base ++ ("." ++ (Product.ofEntryPoint hasEntryPoint).extension) := by
  rw [outputPath]
  split
  · rw [Path.fileName_join _ (Path.slash_not_mem_fileName _), Product.fileName_productPath]
  · exact Product.fileName_productPath _ base

theorem parts_outputPath (host : Host) (config : Config) (hasEntryPoint : Bool)
    (named : Path.fileName base ≠ "") :
    Path.stem (outputPath host config hasEntryPoint base) = Path.stem base ∧
      Path.extension (outputPath host config hasEntryPoint base) =
        "." ++ (Product.ofEntryPoint hasEntryPoint).extension :=
  have plain := isPlain_product (Product.ofEntryPoint hasEntryPoint)
  Path.parts_of_fileName (fileName_outputPath host config hasEntryPoint base)
    (Path.stem_ne_empty named) plain.dot plain.nonempty

theorem BuildPlan.IsFor.fileName_eq (isFor : plan.IsFor config base past) :
    Path.fileName plan.output = Path.stem base ++ ("." ++ plan.kind.extension) := by
  obtain ⟨host, hasEntryPoint, -, output, kind⟩ := isFor
  rw [output, kind, fileName_outputPath]

theorem BuildPlan.IsFor.role (isFor : plan.IsFor config base past) :
    SourceRole.ofPath? plan.output = none ∨
      SourceRole.ofPath? plan.output = some .nativeLibrary ∧ plan.kind = .library := by
  have named := isFor.fileName_eq
  cases kind : plan.kind with
  | executable =>
      rw [kind] at named
      have known := role_of_fileName named (by decide) (by decide)
      exact .inl (known.elim id fun same => same.trans (by decide))
  | library =>
      rw [kind] at named
      have known := role_of_fileName named (by decide) (by decide)
      exact known.imp_right fun same => ⟨same.trans (by decide), rfl⟩

end

/-! ## Inputs that are spared -/

/-- No program file has this path; a native file that has it is an exception. -/
structure Inputs.Spared (inputs : Inputs) (path : String) (exception : Source → Prop) : Prop where
  programs : ∀ program ∈ inputs.programs, path ≠ program.path
  others : ∀ other ∈ inputs.others, path = other.path → exception other

theorem Inputs.Proper.spared {inputs : Inputs} (proper : inputs.Proper) {path : String}
    {role : SourceRole} {condition : Prop} (apart : role ≠ .program)
    (known : SourceRole.ofPath? path = none ∨ SourceRole.ofPath? path = some role ∧ condition) :
    inputs.Spared path fun other => other.role = role ∧ condition := by
  constructor
  case programs =>
    rintro program member rfl
    obtain ⟨-, named⟩ := proper.programs program member
    rcases known with none | ⟨same, -⟩
    · cases named.symm.trans none
    · exact apart (Option.some.inj (same.symm.trans named))
  case others =>
    rintro other member rfl
    obtain ⟨-, named⟩ := proper.others other member
    rcases known with none | ⟨same, holds⟩
    · cases named.symm.trans none
    · exact ⟨Option.some.inj (named.symm.trans same), holds⟩

/-- Each file that a run writes and each product that it builds belongs to a program that was read
before. It is none of the program files; it is a native file only if the user put a source exactly
where the generated code belongs, or a library exactly where the built one does. -/
theorem processInputs_spares (collaborators : Collaborators K) (options : Options)
    (before : Machine K) :
    ∃ made, ((processInputs options).run collaborators before).2.history = before.history ++ made ∧
      ∀ earlier event later, made = earlier ++ event :: later →
        (∀ path text, event.request = .saveFile path text →
          (∃ first, HasRead (before.history ++ earlier) first ∧
            CodePlace options.config (options.config.outputName.getD first.path)
              (before.history ++ earlier) path) ∧
          (options.sorted before.host.store).Spared path fun other =>
            other.role = .nativeCode ∧ options.config.target = .cpp) ∧
        ∀ plan, event.request = .call (.build plan) →
          (∃ first, HasRead (before.history ++ earlier) first ∧
            plan.IsFor options.config (options.config.outputName.getD first.path)
              (before.history ++ earlier)) ∧
          (options.sorted before.host.store).Spared plan.output fun other =>
            other.role = .nativeLibrary ∧ plan.kind = .library := by
  obtain ⟨made, whole⟩ := Job.history_isPrefix_run collaborators (processInputs options) before
  have proper := Inputs.proper_ofPaths before.host.store
    (decide (options.config.snapshotLevel ≥ 0)) options.inputs
  refine ⟨made, whole.symm, ?_⟩
  rintro earlier event later rfl
  rw [← List.append_assoc] at whole
  have obeys := (obeys_processInputs options before.history).of_run whole.symm (by simp)
  constructor
  · intro path text saves
    rw [saves] at obeys
    obtain ⟨first, read, place⟩ := obeys
    exact ⟨⟨first, read, place⟩, proper.spared (by decide) place.role⟩
  · intro plan builds
    rw [builds] at obeys
    obtain ⟨first, read, isFor⟩ := obeys
    exact ⟨⟨first, read, isFor⟩, proper.spared (by decide) isFor.role⟩

namespace Rehearsal

/-- One program and a native file beside it. -/
def besideRun (native : String) (hasEntryPoint : Bool) :
    Except Failure ExitStatus × Machine toolkit :=
  (processInputs { inputs := ["a.prf", native] }).run
    (Rehearsal.collaborators { parts := [{ name := "A" }], cpp := { hasEntryPoint } })
    { host := { store := storeWith ["a.prf", native] } }

def outputs (machine : Machine toolkit) : List String :=
  machine.history.filterMap fun event => match event.request with
    | .saveFile path _ => some path
    | .call (.build plan) => some plan.output
    | _ => none

end Rehearsal

/-- A source or a library of the user is written over if it has the name of what is generated. -/
theorem besideRun_outputs :
    (Rehearsal.besideRun "a.cpp" true).1 = .ok .verified ∧
      Rehearsal.outputs (Rehearsal.besideRun "a.cpp" true).2 = ["a.cpp", "a.out"] ∧
      (Rehearsal.besideRun "a.so" false).1 = .ok .verified ∧
      Rehearsal.outputs (Rehearsal.besideRun "a.so" false).2 = ["a.cpp", "a.so"] :=
  ⟨rfl, rfl, rfl, rfl⟩

end VerifiedBuild
