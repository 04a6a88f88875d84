import VerifiedBuild.Proofs.Deeds
import VerifiedBuild.Proofs.Make.Composition

/-!
# What a code result tells

The status of a code result determines, call by call and file by file, what was done to come to it.
Each part of code generation comes to its result by few courses; they are listed here part by part.
-/

namespace VerifiedBuild

variable {K : Toolkit} {collaborators : Collaborators K}

/-! ## Results -/

/-- What the generator answered, and how many errors had been reported before and after. -/
structure Generation where
  hasEntryPoint : Bool
  text : String
  errorsBefore : Nat
  errorsAfter : Nat

namespace Generation

def IsComplete (generation : Generation) : Prop :=
  generation.errorsAfter = generation.errorsBefore

def steps (generation : Generation) (target : Target) (program : K.Program) : List (Event K) :=
  [⟨.call (.provides target), .ok true⟩,
    ⟨.errorCount, .ok generation.errorsBefore⟩,
    ⟨.call (.hasEntryPoint target program), .ok generation.hasEntryPoint⟩,
    ⟨.call (.generate target program), .ok generation.text⟩,
    ⟨.errorCount, .ok generation.errorsAfter⟩]

/-- The text is put into a file as well. -/
def saved (generation : Generation) (target : Target) (program : K.Program) (path : String)
    (error : Option WriteError) : List (Event K) :=
  generation.steps target program ++ [⟨.saveFile path generation.text, .ok error⟩]

end Generation

/-- Where the collections library is put for the program. -/
def collectionsPlace (config : Config) (basePath : String) : String :=
  Path.join (directoryOf basePath) (Path.fileName (collectionsLibrary config))

def collectionsCopied (config : Config) (basePath : String) (error : Option FileError) : Event K :=
  ⟨.copyFile (collectionsLibrary config) (collectionsPlace config basePath), .ok error⟩

/-- The library is where it is put already. -/
def Host.hasCollections (host : Host) (config : Config) (basePath : String) : Bool :=
  host.store.sameEntry (collectionsLibrary config) (collectionsPlace config basePath)

namespace CodeResult

/-- What a result tells of a build with the given report and of the deeds after it; `seen` is the host
as it was looked at last. The collections library is copied exactly for optimized code that is not
run, and not if it was there then. -/
def FollowsBuild (result : CodeResult) (config : Config) (basePath : String) (hasEntryPoint : Bool)
    (report : BuildReport) (later : List (Event K)) (seen : Option Host) : Prop :=
  match result.status with
  | .rejected => report.ok = false ∧ later = []
  | .made => report.ok ∧
      if config.runAfterwards then
        if hasEntryPoint then ∃ code, later = [⟨.call (.run result.artifact), .ok (.exited code)⟩]
        else later = []
      else if config.optimize then
        ∃ host, seen = some host ∧
          later = if host.hasCollections config basePath then []
            else [collectionsCopied config basePath none]
      else later = []
  | .runFailed => report.ok ∧ config.runAfterwards ∧ hasEntryPoint ∧
      ∃ run : RunReport, (∀ code, run ≠ .exited code) ∧
        later = [⟨.call (.run result.artifact), .ok run⟩]
  | .unwritten => report.ok ∧ config.runAfterwards = false ∧ config.optimize ∧
      ∃ host error, seen = some host ∧ host.hasCollections config basePath = false ∧
        later = [collectionsCopied config basePath (some error)]
  | .notAsked | .kept | .incomplete => False

/-- The program was built, once: from complete code in a file. -/
def TellsBuild (result : CodeResult) (config : Config) (program : K.Program) (basePath : String)
    (others : List Source) (deeds : List (Event K)) (seen : Option Host) : Prop :=
  ∃ (generation : Generation) (place : String) (report : BuildReport) (later : List (Event K)),
    generation.IsComplete ∧
    deeds = generation.saved config.target program place none ++
      ⟨.call (.build (.make place generation.hasEntryPoint result.artifact others config)),
        .ok report⟩ :: later ∧
    result.FollowsBuild config basePath generation.hasEntryPoint report later seen

/-- The code is in the file that is named after the program, and nothing else was done. -/
def TellsFile (result : CodeResult) (config : Config) (program : K.Program) (basePath : String)
    (deeds : List (Event K)) (store : Store) : Prop :=
  result.artifact = Path.withExtension basePath config.target.extension ∧
  ∃ generation : Generation, deeds = generation.saved config.target program result.artifact none ∧
    store.content? result.artifact = some (Octets.ofText generation.text)

/-- What a result tells of all that was done for a program until `after`, and of the files then. -/
def Tells (result : CodeResult) (config : Config) (program : K.Program) (basePath : String)
    (others : List Source) (deeds : List (Event K)) (after : Machine K) : Prop :=
  match result.status with
  | .notAsked => deeds = []
  | .kept => result.TellsFile config program basePath deeds after.host.store
  | .incomplete => ∃ generation : Generation, ¬generation.IsComplete ∧
      (deeds = generation.steps config.target program ∨
        ∃ path, deeds = generation.saved config.target program path none)
  | .rejected => deeds = [⟨.call (.provides config.target), .ok false⟩] ∨
      result.TellsBuild config program basePath others deeds after.lastLook
  | .unwritten => (∃ generation : Generation, ∃ path error,
        deeds = generation.saved config.target program path (some error)) ∨
      result.TellsBuild config program basePath others deeds after.lastLook
  | .made =>
      if config.target.isCompiled then
        result.TellsBuild config program basePath others deeds after.lastLook
      else result.TellsFile config program basePath deeds after.host.store
  | .runFailed => result.TellsBuild config program basePath others deeds after.lastLook

end CodeResult

variable {config : Config} {before after : Machine K} {deeds : List (Event K)} {program : K.Program}
  {basePath path text : String} {others : List Source} {result : CodeResult}

/-! ## Builds and what follows them -/

/-- Requests that are made once something is built. -/
def Request.isFinishing : Request K → Bool
  | .write _ | .errorLine _ | .look | .copyFile _ _ | .startPhase _ | .stopPhase
  | .call (.run _) => true
  | _ => false

/-- Requests that are made once the code is in a file. -/
def Request.isBuilding : Request K → Bool
  | .call (.build _) | .count _ _ => true
  | request => request.isFinishing

theorem Request.isBuilding_of_isFinishing {request : Request K} (finishes : request.isFinishing) :
    request.isBuilding := by
  unfold isBuilding
  split <;> first | rfl | exact finishes

theorem confined_provideCollections :
    (provideCollections config basePath : Job K Bool).Confined (·.isFinishing) fun _ => False := by
  unfold provideCollections
  refine .bind (Job.confined_request rfl) fun host => ?_
  dsimp only
  split
  · rw [pure_bind]
    exact .bind (Job.confined_request rfl) fun _ => Job.confined_pure true
  · refine .bind (Job.confined_request rfl) fun error => ?_
    cases error with
    | none => exact .bind (Job.confined_request rfl) fun _ => Job.confined_pure true
    | some reason => exact .bind (Job.confined_request rfl) fun _ => Job.confined_pure false

theorem confined_runBuilt (output : String) :
    (runBuilt output : Job K CodeResult).Confined (·.isFinishing) fun _ => False := by
  unfold runBuilt
  refine .bind (Job.confined_request rfl) fun _ => .bind (Job.confined_request rfl) fun _ =>
    .bind (Job.confined_request rfl) fun _ =>
      .bind (.timed rfl rfl (Job.confined_request rfl)) fun run => ?_
  cases run with
  | exited code =>
      dsimp only
      split
      · exact .bind (Job.confined_request rfl) fun _ => Job.confined_pure _
      · exact Job.confined_pure _
  | signaled | notLaunched =>
      exact .bind (Job.confined_request rfl) fun _ => Job.confined_pure _

theorem confined_finishBuilt (output : String) (hasEntryPoint : Bool) (built : BuildReport) :
    (finishBuilt config output hasEntryPoint basePath built : Job K CodeResult).Confined
      (·.isFinishing) fun _ => False := by
  have tells (lines : List String) :
      (Job.errorLines lines : Job K Unit).Confined (·.isFinishing) fun _ => False :=
    Job.confined_forM fun _ _ => Job.confined_request rfl
  unfold finishBuilt
  split
  · exact .bind (Job.confined_request rfl) fun _ => .bind (tells _) fun _ => Job.confined_pure _
  · refine .bind (tells _) fun _ => ?_
    split
    · split
      · exact confined_runBuilt output
      · exact Job.confined_pure _
    · refine .bind (Job.confined_request rfl) fun _ => ?_
      split
      · refine .bind confined_provideCollections fun provided => ?_
        cases provided <;> exact Job.confined_pure _
      · exact Job.confined_pure _

theorem confined_buildProduct (path : String) (hasEntryPoint : Bool) :
    (buildProduct config path hasEntryPoint basePath others : Job K CodeResult).Confined
      (·.isBuilding) fun _ => False := by
  rw [buildProduct_eq]
  refine .bind (Job.confined_request rfl) fun host => .bind ?_ fun built =>
    (confined_finishBuilt _ _ built).mono fun _ => Request.isBuilding_of_isFinishing
  refine .bind (.timed rfl rfl (Job.confined_request rfl)) fun built => ?_
  split
  · exact .bind (Job.confined_request rfl) fun _ => Job.confined_pure built
  · exact Job.confined_pure built

/-! ## Parts of code generation -/

theorem quiet_errorLine (line : String) :
    (Job.errorLine line : Job K Unit).Confined (·.isQuiet) fun _ => False :=
  Job.confined_request rfl

theorem quiet_writeLine (line : String) :
    (Job.writeLine line : Job K Unit).Confined (·.isQuiet) fun _ => False :=
  Job.confined_request rfl

theorem quiet_errorLines (lines : List String) :
    (Job.errorLines lines : Job K Unit).Confined (·.isQuiet) fun _ => False :=
  Job.confined_forM fun line _ => quiet_errorLine line

theorem storeCode_acts {stored : Bool}
    (acts : (storeCode path text).Acts collaborators before stored deeds after) :
    ∃ error, stored = error.isNone ∧ deeds = [⟨.saveFile path text, .ok error⟩] := by
  rw [storeCode, Job.acts_request_bind rfl] at acts
  obtain ⟨error, middle, rest, -, acts, rfl⟩ := acts
  cases error with
  | none =>
      obtain ⟨rfl, rfl, -⟩ := Job.acts_pure.mp acts
      exact ⟨none, rfl, rfl⟩
  | some error =>
      obtain ⟨rfl, rfl⟩ := Job.acts_quiet_pure (quiet_errorLine _) acts
      exact ⟨some error, rfl, rfl⟩

theorem provideCollections_acts {provided : Bool}
    (acts : (provideCollections config basePath).Acts collaborators before provided deeds after) :
    ∃ host, after.lastLook = some host ∧
      (provided ∧ (deeds = if host.hasCollections config basePath then []
          else [collectionsCopied config basePath none]) ∨
        provided = false ∧ host.hasCollections config basePath = false ∧
          ∃ error, deeds = [collectionsCopied config basePath (some error)]) := by
  rw [provideCollections] at acts
  dsimp only at acts
  obtain ⟨host, middle, looked, acts⟩ := (Job.acts_quiet_bind (Job.confined_request rfl)).mp acts
  have seen := Job.lastLook_of_look looked
  split at acts
  next there =>
    rw [pure_bind] at acts
    have kept := acts.lastLook (.bind (Job.confined_request rfl) fun _ => Job.confined_pure true)
    obtain ⟨rfl, rfl⟩ := Job.acts_quiet_pure (quiet_writeLine _) acts
    exact ⟨host, kept.trans seen, .inl ⟨rfl, (if_pos there).symm⟩⟩
  next absent =>
    obtain ⟨error, copied, rest, copies, told, rfl⟩ := (Job.acts_request_bind rfl).mp acts
    have still := middle.lastLook_perform collaborators (rfl : (Request.copyFile
      (collectionsLibrary config) (collectionsPlace config basePath) : Request K).isLook = false)
    rw [collectionsPlace, copies] at still
    cases error with
    | none =>
        have kept := told.lastLook (.bind (Job.confined_request rfl) fun _ => Job.confined_pure true)
        obtain ⟨rfl, rfl⟩ := Job.acts_quiet_pure (quiet_writeLine _) told
        exact ⟨host, kept.trans (still.trans seen), .inl ⟨rfl, (if_neg absent).symm⟩⟩
    | some error =>
        have kept := told.lastLook
          (.bind (Job.confined_request rfl) fun _ => Job.confined_pure false)
        obtain ⟨rfl, rfl⟩ := Job.acts_quiet_pure (quiet_errorLine _) told
        exact ⟨host, kept.trans (still.trans seen),
          .inr ⟨rfl, Bool.eq_false_iff.mpr absent, error, rfl⟩⟩

theorem runBuilt_acts {output : String}
    (acts : (runBuilt output).Acts collaborators before result deeds after) :
    result.artifact = output ∧ ∃ run : RunReport, deeds = [⟨.call (.run output), .ok run⟩] ∧
      ((∃ code, run = .exited code) ∧ result.status = .made ∨
        (∀ code, run ≠ .exited code) ∧ result.status = .runFailed) := by
  rw [runBuilt] at acts
  obtain ⟨_, _, -, acts⟩ := (Job.acts_quiet_bind (quiet_writeLine _)).mp acts
  obtain ⟨_, _, -, acts⟩ := (Job.acts_quiet_bind (quiet_writeLine _)).mp acts
  obtain ⟨_, _, -, acts⟩ := (Job.acts_quiet_bind (quiet_writeLine _)).mp acts
  obtain ⟨run, first, _, rest, timed, told, rfl⟩ := Job.acts_bind.mp acts
  obtain ⟨_, _, called⟩ := timed.of_timed
  obtain ⟨-, rfl⟩ := Job.acts_request.mp called
  cases run with
  | exited code =>
      dsimp only at told
      split at told
      next =>
        obtain ⟨rfl, rfl⟩ := Job.acts_quiet_pure (quiet_writeLine _) told
        exact ⟨rfl, .exited code, rfl, .inl ⟨⟨code, rfl⟩, rfl⟩⟩
      next =>
        obtain ⟨rfl, rfl, -⟩ := Job.acts_pure.mp told
        exact ⟨rfl, .exited code, rfl, .inl ⟨⟨code, rfl⟩, rfl⟩⟩
  | signaled | notLaunched =>
      obtain ⟨rfl, rfl⟩ := Job.acts_quiet_pure (quiet_errorLine _) told
      exact ⟨rfl, _, rfl, .inr ⟨nofun, rfl⟩⟩

theorem buildCounted_acts {plan : BuildPlan} {report : BuildReport}
    (acts : (buildCounted plan).Acts collaborators before report deeds after) :
    deeds = [⟨.call (.build plan), .ok report⟩] := by
  rw [buildCounted] at acts
  obtain ⟨built, _, _, _, timed, counted, rfl⟩ := Job.acts_bind.mp acts
  obtain ⟨_, _, called⟩ := timed.of_timed
  obtain ⟨-, rfl⟩ := Job.acts_request.mp called
  split at counted
  next =>
    obtain ⟨rfl, rfl⟩ := Job.acts_quiet_pure (Job.confined_request rfl) counted
    rfl
  next =>
    obtain ⟨rfl, rfl, -⟩ := Job.acts_pure.mp counted
    rfl

theorem finishBuilt_acts {output : String} {hasEntryPoint : Bool} {report : BuildReport}
    (acts : (finishBuilt config output hasEntryPoint basePath report).Acts collaborators before
      result deeds after) :
    result.artifact = output ∧
      result.FollowsBuild config basePath hasEntryPoint report deeds after.lastLook := by
  unfold finishBuilt at acts
  split at acts
  next failed =>
    obtain ⟨_, _, -, told⟩ := (Job.acts_quiet_bind (quiet_errorLine _)).mp acts
    obtain ⟨rfl, rfl⟩ := Job.acts_quiet_pure (quiet_errorLines _) told
    exact ⟨rfl, by simpa using failed, rfl⟩
  next succeeded =>
    have ok : report.ok := by simpa using succeeded
    obtain ⟨_, _, -, told⟩ := (Job.acts_quiet_bind (quiet_errorLines _)).mp acts
    split at told
    next asked =>
      split at told
      next entry =>
        obtain ⟨same, run, rfl, ⟨⟨code, rfl⟩, made⟩ | ⟨faulty, failed⟩⟩ := runBuilt_acts told
        · refine ⟨same, ?_⟩
          rw [CodeResult.FollowsBuild, made, if_pos asked, if_pos entry, same]
          exact ⟨ok, code, rfl⟩
        · refine ⟨same, ?_⟩
          rw [CodeResult.FollowsBuild, failed, same]
          exact ⟨ok, asked, entry, run, faulty, rfl⟩
      next noEntry =>
        obtain ⟨rfl, rfl, -⟩ := Job.acts_pure.mp told
        exact ⟨rfl, ok, by rw [if_pos asked, if_neg noEntry]⟩
    next unasked =>
      obtain ⟨_, _, -, told⟩ := (Job.acts_quiet_bind (quiet_writeLine _)).mp told
      split at told
      next optimize =>
        obtain ⟨provided, copied, _, _, provides, ending, rfl⟩ := Job.acts_bind.mp told
        obtain ⟨host, seen, ⟨provided, copies⟩ | ⟨provided, absent, error, rfl⟩⟩ :=
          provideCollections_acts provides
        · rw [if_pos provided] at ending
          obtain ⟨rfl, rfl, rfl⟩ := Job.acts_pure.mp ending
          refine ⟨rfl, ok, ?_⟩
          rw [if_neg unasked, if_pos optimize, List.append_nil]
          exact ⟨host, seen, copies⟩
        · rw [provided] at ending
          obtain ⟨rfl, rfl, rfl⟩ := Job.acts_pure.mp ending
          exact ⟨rfl, ok, by simpa using unasked, optimize, host, error, seen, absent, rfl⟩
      next unoptimized =>
        obtain ⟨rfl, rfl, -⟩ := Job.acts_pure.mp told
        exact ⟨rfl, ok, by rw [if_neg unasked, if_neg unoptimized]⟩

theorem buildProduct_acts {hasEntryPoint : Bool}
    (acts : (buildProduct config path hasEntryPoint basePath others).Acts collaborators before
      result deeds after) :
    ∃ (report : BuildReport) (later : List (Event K)),
      deeds = ⟨.call (.build (.make path hasEntryPoint result.artifact others config)),
        .ok report⟩ :: later ∧
      result.FollowsBuild config basePath hasEntryPoint report later after.lastLook := by
  rw [buildProduct_eq] at acts
  obtain ⟨host, _, -, acts⟩ := (Job.acts_quiet_bind (Job.confined_request rfl)).mp acts
  obtain ⟨report, _, _, later, built, finished, rfl⟩ := Job.acts_bind.mp acts
  obtain rfl := buildCounted_acts built
  obtain ⟨same, follows⟩ := finishBuilt_acts finished
  rw [same]
  exact ⟨report, later, rfl, follows⟩

/-- What generating code comes to: the answers of the generator between two counts of errors. -/
theorem generate_acts {target : Target} {generated : Generated}
    (acts : (generate target program).Acts collaborators before generated deeds after) :
    ∃ generation : Generation,
      generation.steps target program = ⟨.call (.provides target), .ok true⟩ :: deeds ∧
      generation.hasEntryPoint = generated.hasEntryPoint ∧ generation.text = generated.text ∧
      (generated.complete ↔ generation.IsComplete) := by
  rw [generate] at acts
  obtain ⟨earlier, _, _, -, counted, rfl⟩ := (Job.acts_request_bind rfl).mp acts
  obtain ⟨⟨hasEntryPoint, text⟩, _, _, _, timed, told, rfl⟩ := Job.acts_bind.mp counted
  obtain ⟨_, _, called⟩ := timed.of_timed
  obtain ⟨_, _, _, -, asked, rfl⟩ := (Job.acts_request_bind rfl).mp called
  obtain ⟨_, _, _, -, answered, rfl⟩ := (Job.acts_request_bind rfl).mp asked
  obtain ⟨same, rfl, -⟩ := Job.acts_pure.mp answered
  cases same
  obtain ⟨later, _, _, -, ending, rfl⟩ := (Job.acts_request_bind rfl).mp told
  obtain ⟨rfl, rfl, -⟩ := Job.acts_pure.mp ending
  exact ⟨⟨hasEntryPoint, text, earlier, later⟩, rfl, rfl, rfl, decide_eq_true_iff⟩

end VerifiedBuild
