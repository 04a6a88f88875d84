import VerifiedBuild.Proofs.Make.Program
import VerifiedBuild.Proofs.Requests

/-!
# What generation asks for

Generation is the only part of a run that writes files itself or has something built. The code goes
beside the file it is named after, or among the temporary files; the product is named likewise.
-/

namespace VerifiedBuild

variable {K : Toolkit} {config : Config} {program : K.Program} {others : List Source}

/-! ## Places -/

/-- Where generated code named after `base` is put: beside it, or in the directory for temporary
files of a host that was looked at. -/
inductive CodePlace (config : Config) (base : String) (past : List (Event K)) : String → Prop
  | beside : CodePlace config base past (Path.withExtension base config.target.extension)
  | temporary (host : Host) (looked : ⟨.look, .ok host⟩ ∈ past) :
      CodePlace config base past (temporaryTarget host config base)

/-- The plan builds the product named after `base`, for a host that was looked at. -/
def BuildPlan.IsFor (plan : BuildPlan) (config : Config) (base : String) (past : List (Event K)) :
    Prop :=
  ∃ host hasEntryPoint, ⟨.look, .ok host⟩ ∈ past ∧
    plan.output = outputPath host config hasEntryPoint base ∧
    plan.kind = .ofEntryPoint hasEntryPoint

/-- Files are only written, and products only built, where those named after `base` belong; all
calls serve generated code. -/
def Generates (config : Config) (base : String) (past : List (Event K)) : Request K → Prop
  | .saveFile path _ => CodePlace config base past path
  | .call (.build plan) => plan.IsFor config base past
  | .call toCall => toCall.isGated
  | _ => True

variable {base : String} {past : List (Event K)} {path : String} {plan : BuildPlan}

theorem BuildPlan.IsFor.mono (isFor : plan.IsFor config base past) (later : List (Event K)) :
    plan.IsFor config base (past ++ later) := by
  obtain ⟨host, hasEntryPoint, looked, named⟩ := isFor
  exact ⟨host, hasEntryPoint, List.mem_append_left later looked, named⟩

/-! ## Requests -/

theorem obeys_errorLine (line : String) (past : List (Event K)) :
    (Job.errorLine line).Obeys (Generates config base) past :=
  Job.obeys_request trivial

theorem obeys_writeLine (line : String) (past : List (Event K)) :
    (Job.writeLine line).Obeys (Generates config base) past :=
  Job.obeys_request trivial

theorem obeys_errorLines (lines : List String) (past : List (Event K)) :
    (Job.errorLines lines).Obeys (Generates config base) past := by
  have confined : (Job.errorLines lines : Job K Unit).Confined (Request.Plain fun _ => False)
      fun _ => False := Job.confined_forM fun _ _ => Job.confined_request trivial
  refine confined.obeys (fun past request plain => ?_) past
  cases request with
  | call toCall => cases plain
  | saveFile path text => cases plain
  | _ => trivial

theorem obeys_provideCollections (basePath : String) (past : List (Event K)) :
    (provideCollections config basePath).Obeys (Generates config base) past := by
  unfold provideCollections
  refine Job.Obeys.bind (Job.obeys_request trivial) fun host _ => ?_
  dsimp only
  split
  · exact (obeys_writeLine _ _).bind fun _ _ => Job.obeys_pure _ _
  · refine Job.Obeys.bind (Job.obeys_request trivial) fun error _ => ?_
    cases error with
    | none => exact (obeys_writeLine _ _).bind fun _ _ => Job.obeys_pure _ _
    | some reason => exact (obeys_errorLine _ _).bind fun _ _ => Job.obeys_pure _ _

theorem obeys_runBuilt (output : String) (past : List (Event K)) :
    (runBuilt output).Obeys (Generates config base) past := by
  refine (obeys_writeLine _ _).bind fun _ _ => (obeys_writeLine _ _).bind fun _ _ =>
    (obeys_writeLine _ _).bind fun _ _ =>
      (Job.Obeys.timed trivial (fun _ => trivial) fun _ => Job.obeys_request rfl).bind
        fun ending _ => ?_
  cases ending with
  | exited code =>
      dsimp only
      split
      · exact (obeys_writeLine _ _).bind fun _ _ => Job.obeys_pure _ _
      · exact Job.obeys_pure _ _
  | signaled signal detail => exact (obeys_errorLine _ _).bind fun _ _ => Job.obeys_pure _ _
  | notLaunched detail => exact (obeys_errorLine _ _).bind fun _ _ => Job.obeys_pure _ _

theorem obeys_buildProduct (codePath : String) (hasEntryPoint : Bool) (past : List (Event K)) :
    (buildProduct config codePath hasEntryPoint base others).Obeys (Generates config base)
      past := by
  refine Job.obeys_request_bind trivial fun host => ?_
  -- The plan names its output for the host that was just looked at, and is built later on.
  let plan := BuildPlan.make codePath hasEntryPoint (outputPath host config hasEntryPoint base)
    others config
  have isFor : plan.IsFor config base (past ++ [⟨.look, .ok host⟩]) :=
    ⟨host, hasEntryPoint, by simp, rfl, rfl⟩
  refine (Job.Obeys.timed trivial (fun _ => trivial) fun later =>
    Job.obeys_request (isFor.mono later)).bind fun built _ => ?_
  split
  · exact (obeys_errorLine _ _).bind fun _ _ => (obeys_errorLines _ _).bind fun _ _ =>
      Job.obeys_pure _ _
  · refine Job.Obeys.bind (Job.obeys_request trivial) fun _ _ =>
      (obeys_errorLines _ _).bind fun _ _ => ?_
    split
    · split
      · exact obeys_runBuilt _ _
      · exact Job.obeys_pure _ _
    · refine (obeys_writeLine _ _).bind fun _ _ => ?_
      split
      · refine (obeys_provideCollections _ _).bind fun provided _ => ?_
        split
        · exact Job.obeys_pure _ _
        · exact Job.obeys_pure _ _
      · exact Job.obeys_pure _ _

theorem obeys_generate (target : Target) (program : K.Program) (past : List (Event K)) :
    (generate target program).Obeys (Generates config base) past := by
  have answers (past : List (Event K)) : (do
      let hasEntryPoint ← Job.call (.hasEntryPoint target program)
      let text ← Job.call (.generate target program)
      pure (hasEntryPoint, text)).Obeys (Generates config base) past :=
    Job.Obeys.bind (Job.obeys_request rfl) fun _ _ => .bind (Job.obeys_request rfl) fun _ _ =>
      Job.obeys_pure _ _
  refine Job.Obeys.bind (Job.obeys_request trivial) fun _ _ =>
    (Job.Obeys.timed trivial (fun _ => trivial) fun _ => answers _).bind fun _ _ =>
      .bind (Job.obeys_request trivial) fun _ _ => Job.obeys_pure _ _

theorem obeys_storeCode {text : String} (place : CodePlace config base past path) :
    (storeCode path text).Obeys (Generates config base) past := by
  refine Job.Obeys.bind (Job.obeys_request place) fun error _ => ?_
  cases error with
  | none => exact Job.obeys_pure _ _
  | some error => exact (obeys_errorLine _ _).bind fun _ _ => Job.obeys_pure _ _

theorem obeys_finishGenerated (wantsBuild : Bool) (generated : Generated) (kept : Option String)
    (past : List (Event K)) :
    (finishGenerated config base others wantsBuild generated kept).Obeys (Generates config base)
      past := by
  unfold finishGenerated
  dsimp only
  split
  · exact Job.obeys_pure _ _
  split
  · exact Job.obeys_pure _ _
  split
  · exact Job.obeys_pure _ _
  cases kept with
  | some path => exact obeys_buildProduct _ _ _
  | none =>
      refine Job.obeys_request_bind trivial fun host => ?_
      have place : CodePlace config base (past ++ [⟨.look, .ok host⟩])
          (temporaryTarget host config base) := .temporary host (by simp)
      refine (obeys_storeCode place).bind fun stored _ => ?_
      split
      · exact obeys_buildProduct _ _ _
      · exact Job.obeys_pure _ _

theorem obeys_generateCode (wantsBuild : Bool) (past : List (Event K)) :
    (generateCode config program base others wantsBuild).Obeys (Generates config base) past := by
  refine Job.Obeys.bind (Job.obeys_request rfl) fun provided _ => ?_
  split
  · exact (obeys_errorLine _ _).bind fun _ _ => Job.obeys_pure _ _
  · refine (obeys_generate _ _ _).bind fun generated _ => ?_
    split
    · refine (obeys_storeCode .beside).bind fun stored _ => ?_
      split
      · exact (obeys_writeLine _ _).bind fun _ _ => obeys_finishGenerated _ _ _ _
      · exact Job.obeys_pure _ _
    · exact obeys_finishGenerated _ _ _ _

theorem obeys_concludeProgram {outcome : Outcome} {byUnit : NameMap Statistics} {verified : Bool}
    (past : List (Event K)) :
    (concludeProgram config outcome byUnit program verified base others).Obeys
      (Generates config base) past := by
  unfold concludeProgram
  split
  · exact Job.obeys_pure _ _
  · refine Job.Obeys.bind (Job.obeys_request trivial) fun _ _ => ?_
    split
    · exact obeys_generateCode true _
    · exact obeys_generateCode false _
    · exact Job.obeys_pure _ _

end VerifiedBuild
