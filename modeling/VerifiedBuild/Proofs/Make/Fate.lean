import VerifiedBuild.Proofs.Make.CodeResult
import VerifiedBuild.Proofs.Make.Gate
import VerifiedBuild.Proofs.Observation
import VerifiedBuild.Proofs.Throughout
import VerifiedBuild.Rehearsal

/-!
# The fate of a program

Code generation ends with a result that tells what was done, and which files hold the code
afterwards; or a collaborator raised a failure.
-/

namespace VerifiedBuild

variable {K : Toolkit} {collaborators : Collaborators K}

/-! ## Files -/

namespace Machine

/-- If the text is said to be written then the file holds it. -/
def Stores (machine : Machine K) : Request K → Prop
  | .saveFile path text => (machine.host.store.write path text).1 = none →
      (machine.host.store.write path text).2.content? path = some (Octets.ofText text)
  | _ => True

instance (machine : Machine K) : (request : Request K) → Decidable (machine.Stores request)
  | .saveFile path text => inferInstanceAs (Decidable
      ((machine.host.store.write path text).1 = none →
        (machine.host.store.write path text).2.content? path = some (Octets.ofText text)))
  | .call _ | .write _ | .errorLine _ | .look | .errorCount | .restartTally | .copyFile _ _
  | .openLog _ | .startPhase _ | .stopPhase | .count _ _ | .clock => .isTrue trivial

theorem store_perform_saveFile (collaborators : Collaborators K) {machine : Machine K}
    (settled : machine.Settled) (path text : String) :
    (machine.perform collaborators (.saveFile path text)).2.host.store =
      (machine.host.store.write path text).2 := by
  have stays : (machine.setStore (machine.host.store.write path text).2).Settled := settled
  have answered : (machine.perform collaborators (.saveFile path text)).2.host =
      (machine.setStore (machine.host.store.write path text).2).updateLog.host := rfl
  rw [answered, updateLog_of_settled stays]
  rfl

theorem host_perform_write (collaborators : Collaborators K) {machine : Machine K}
    (settled : machine.Settled) (text : String) :
    (machine.perform collaborators (.write text)).2.host = machine.host :=
  (alike_perform_silent settled collaborators.hides_nothing rfl).2.host.symm

end Machine

theorem Job.settled_run (collaborators : Collaborators K) {α : Type} (job : Job K α)
    {before : Machine K} (settled : before.Settled) :
    (job.run collaborators before).2.Settled := by
  have free : job.Throughout collaborators (fun _ _ => True) before :=
    Job.throughout_of_forall (fun _ _ => trivial) job before
  exact free.invariant (fun machine request _ _ => machine.settled_perform collaborators request)
    (fun _ => Machine.settled_stopPhase) settled

variable {config : Config} {before after : Machine K} {deeds : List (Event K)} {program : K.Program}
  {basePath path text : String} {others : List Source} {result : CodeResult}

theorem storeCode_holds (settled : before.Settled)
    (stores : (storeCode path text).Throughout collaborators Machine.Stores before)
    (ended : (storeCode path text).run collaborators before = (.ok true, after)) :
    after.host.store.content? path = some (Octets.ofText text) := by
  rw [storeCode] at ended
  obtain ⟨error, middle, asked, rest⟩ := Job.run_bind_ok.mp ended
  have answered := Job.run_request_ok.mp asked
  cases error with
  | some error =>
      obtain ⟨_, _, -, impossible⟩ := Job.run_bind_ok.mp rest
      cases impossible
  | none =>
      cases rest
      have written : (before.host.store.write path text).1 = none :=
        Except.ok.inj (congrArg Prod.fst answered)
      have kept := Machine.store_perform_saveFile collaborators settled path text
      rw [answered] at kept
      rw [kept]
      exact stores.1 written

theorem storeCode_holds_noted {middle : Machine K} {line : String} (settled : before.Settled)
    (stores : (storeCode path text).Throughout collaborators Machine.Stores before)
    (saved : (storeCode path text).run collaborators before = (.ok true, middle))
    (noted : (Job.writeLine line).run collaborators middle = (.ok (), after)) :
    after.host.store.content? path = some (Octets.ofText text) := by
  have settledMiddle := Job.settled_run collaborators (storeCode path text) settled
  rw [saved] at settledMiddle
  have kept := Machine.host_perform_write collaborators settledMiddle (line ++ "\n")
  rw [Job.run_request_ok.mp noted] at kept
  rw [kept]
  exact storeCode_holds settled stores saved

/-! ## Whole programs -/

/-- Where the code is when it is generated: in the file named after the program, or still nowhere if
it is to be compiled. -/
inductive Generation.IsAt (generation : Generation) (config : Config) (program : K.Program)
    (basePath : String) (wantsBuild : Bool) (store : Store) :
    Option String → List (Event K) → Prop
  | file {path : String} (named : path = Path.withExtension basePath config.target.extension)
      (holds : store.content? path = some (Octets.ofText generation.text)) :
      IsAt generation config program basePath wantsBuild store (some path)
        (generation.saved config.target program path none)
  | nowhere (wanted : wantsBuild) (compiled : config.target.isCompiled) :
      IsAt generation config program basePath wantsBuild store none
        (generation.steps config.target program)

variable {wantsBuild : Bool} {generated : Generated} {generation : Generation} {store : Store}
  {kept : Option String} {past : List (Event K)}

theorem CodeResult.TellsBuild.tells
    (built : result.TellsBuild config program basePath others deeds after.lastLook)
    (compiled : config.target.isCompiled) :
    result.Tells config program basePath others deeds after := by
  obtain ⟨generation, place, report, later, complete, whole, follows⟩ := id built
  rw [CodeResult.FollowsBuild] at follows
  rw [CodeResult.Tells]
  cases status : result.status with
  | notAsked | kept | incomplete =>
      rw [status] at follows
      exact follows.elim
  | rejected | unwritten => exact .inr built
  | made => exact (if_pos compiled).mpr built
  | runFailed => exact built

theorem Generation.IsAt.tellsFile
    (place : generation.IsAt config program basePath wantsBuild store kept past)
    (script : wantsBuild = false ∨ config.target.isCompiled = false) (status : CodeStatus) :
    CodeResult.TellsFile ⟨status, kept.getD ""⟩ config program basePath past store := by
  cases place with
  | file named holds => exact ⟨named, generation, rfl, holds⟩
  | nowhere wanted compiled => simp [wanted, compiled] at script

theorem finishGenerated_tells (entry : generation.hasEntryPoint = generated.hasEntryPoint)
    (same : generation.text = generated.text)
    (complete : generated.complete ↔ generation.IsComplete)
    (place : generation.IsAt config program basePath wantsBuild before.host.store kept past)
    (acts : (finishGenerated config basePath others wantsBuild generated kept).Acts collaborators
      before result deeds after) :
    result.Tells config program basePath others (past ++ deeds) after := by
  unfold finishGenerated at acts
  dsimp only at acts
  split at acts
  next erroneous =>
    obtain ⟨rfl, rfl, rfl⟩ := Job.acts_pure.mp acts
    rw [List.append_nil]
    cases wantsBuild with
    | false => exact place.tellsFile (.inl rfl) .kept
    | true =>
        refine ⟨generation, mt complete.mpr (by simpa using erroneous), ?_⟩
        cases place with
        | file => exact .inr ⟨_, rfl⟩
        | nowhere => exact .inl rfl
  next whole =>
    have isComplete : generation.IsComplete := complete.mp (by simpa using whole)
    split at acts
    next unwanted =>
      obtain ⟨rfl, rfl, rfl⟩ := Job.acts_pure.mp acts
      rw [List.append_nil]
      exact place.tellsFile (.inl (by simpa using unwanted)) .kept
    next =>
      split at acts
      next script =>
        obtain ⟨rfl, rfl, rfl⟩ := Job.acts_pure.mp acts
        have interpreted : config.target.isCompiled = false := by simpa using script
        rw [List.append_nil, CodeResult.Tells, interpreted]
        exact place.tellsFile (.inr interpreted) .made
      next needed =>
        have compiled : config.target.isCompiled := by simpa using needed
        have built {place : String} {later : List (Event K)} {middle : Machine K}
            (acts : (buildProduct config place generated.hasEntryPoint basePath others).Acts
              collaborators middle result later after) :
            result.Tells config program basePath others
              (generation.saved config.target program place none ++ later) after := by
          rw [← entry] at acts
          obtain ⟨report, rest, rfl, follows⟩ := buildProduct_acts acts
          exact CodeResult.TellsBuild.tells
            ⟨generation, place, report, rest, isComplete, rfl, follows⟩ compiled
        cases place with
        | file => exact built acts
        | nowhere =>
            -- The code is put into a file only now, for the build.
            obtain ⟨host, _, -, acts⟩ := (Job.acts_quiet_bind (Job.confined_request rfl)).mp acts
            obtain ⟨stored, _, _, rest, stores, ending, rfl⟩ := Job.acts_bind.mp acts
            rw [← same] at stores
            obtain ⟨error, rfl, rfl⟩ := storeCode_acts stores
            cases error with
            | none =>
                rw [← List.append_assoc]
                exact built ending
            | some error =>
                obtain ⟨rfl, rfl, -⟩ := Job.acts_pure.mp ending
                rw [List.append_nil]
                exact .inl ⟨generation, _, error, rfl⟩

theorem compiled_of_not_keepsTarget (spills : wantsBuild = false → 0 < config.spillLevel)
    (lacks : ¬keepsTarget config others wantsBuild) : wantsBuild ∧ config.target.isCompiled := by
  have unspilled : ¬0 < config.spillLevel := fun spilled => lacks (by simp [keepsTarget, spilled])
  have wanted : wantsBuild := by simpa using mt spills unspilled
  have apart : others = [] ∧ config.target.isCompiled := by
    simpa [keepsTarget, wanted, unspilled] using lacks
  exact ⟨wanted, apart.2⟩

theorem generateCode_tells (spills : wantsBuild = false → 0 < config.spillLevel)
    (stores : (generateCode config program basePath others wantsBuild).Throughout collaborators
      Machine.Stores before)
    (acts : (generateCode config program basePath others wantsBuild).Acts collaborators before
      result deeds after) :
    result.Tells config program basePath others deeds after := by
  rw [generateCode] at acts stores
  obtain ⟨provided, here, _, asked, told, rfl⟩ := (Job.acts_request_bind rfl).mp acts
  have storesRest := stores.bind.2 provided here (Job.run_request_ok.mpr asked)
  have settled : here.Settled := by
    have after := before.settled_perform collaborators (.call (.provides config.target))
    rw [asked] at after
    exact after
  cases provided with
  | false =>
      obtain ⟨rfl, rfl⟩ := Job.acts_quiet_pure (quiet_errorLine _) told
      exact .inl rfl
  | true =>
      obtain ⟨generated, _, there, later, generates, goesOn, rfl⟩ := Job.acts_bind.mp told
      obtain ⟨generation, steps, entry, same, complete⟩ := generate_acts generates
      have storesCode := storesRest.bind.2 generated there generates.ends
      have settledThere := Job.settled_run collaborators (generate config.target program) settled
      rw [generates.ends] at settledThere
      rw [← List.cons_append, ← steps]
      split at goesOn
      next keeps =>
        rw [if_pos keeps] at storesCode
        dsimp only at goesOn storesCode
        obtain ⟨stored, _, stop, rest, saves, finishes, rfl⟩ := Job.acts_bind.mp goesOn
        rw [← same] at saves
        rw [← same] at storesCode
        obtain ⟨error, rfl, rfl⟩ := storeCode_acts saves
        cases error with
        | some error =>
            obtain ⟨rfl, rfl, -⟩ := Job.acts_pure.mp finishes
            exact .inl ⟨generation, _, error, rfl⟩
        | none =>
            obtain ⟨_, shown, noted, ending⟩ :=
              (Job.acts_quiet_bind (quiet_writeLine _)).mp finishes
            have holds := storeCode_holds_noted settledThere storesCode.bind.1 saves.ends noted
            rw [← List.append_assoc]
            exact finishGenerated_tells entry same complete (.file rfl holds) ending
      next lacks =>
        -- Code stays nowhere only if a compiled program is to be built: otherwise it is spilled.
        obtain ⟨wanted, compiled⟩ := compiled_of_not_keepsTarget spills lacks
        exact finishGenerated_tells entry same complete (.nowhere wanted compiled) goesOn

theorem CodeMode.spillLevel_of_codeOnly {outcome : Outcome} {verified : Bool}
    (selected : select outcome verified config = .codeOnly) : 0 < config.spillLevel := by
  cases outcome with
  | solved =>
      rw [select] at selected
      split at selected
      next => cases selected
      next =>
        split at selected
        next spilled =>
          simp only [Bool.or_eq_true, Bool.and_eq_true, decide_eq_true_eq] at spilled
          omega
        next => cases selected
  | done =>
      rw [select] at selected
      split at selected
      next => cases selected
      next =>
        split at selected
        next => omega
        next => cases selected
  | _ => cases selected

/-! ### No failures of its own -/

def Job.IsSafe {α : Type} (job : Job K α) : Prop :=
  job.Confined (fun _ => True) fun _ => False

theorem safe_request (request : Request K) : (Job.request request).IsSafe :=
  Job.confined_request trivial

theorem safe_buildProduct (hasEntryPoint : Bool) :
    (buildProduct config path hasEntryPoint basePath others : Job K CodeResult).IsSafe :=
  (confined_buildProduct path hasEntryPoint).mono fun _ _ => trivial

theorem safe_storeCode : (storeCode path text : Job K Bool).IsSafe :=
  (confined_storeCode path text).mono fun _ _ => trivial

theorem safe_finishGenerated : (finishGenerated config basePath others wantsBuild generated kept :
    Job K CodeResult).IsSafe := by
  unfold finishGenerated
  dsimp only
  split
  · exact Job.confined_pure _
  · split
    · exact Job.confined_pure _
    · split
      · exact Job.confined_pure _
      · cases kept with
        | some path => exact safe_buildProduct _
        | none =>
            refine .bind (safe_request _) fun host => .bind safe_storeCode fun stored => ?_
            cases stored with
            | true => exact safe_buildProduct _
            | false => exact Job.confined_pure _

theorem safe_generateCode :
    (generateCode config program basePath others wantsBuild).IsSafe := by
  unfold generateCode
  refine .bind (safe_request _) fun provided => ?_
  split
  · exact .bind (safe_request _) fun _ => Job.confined_pure _
  · refine .bind ((confined_generate _ _).mono fun _ _ => trivial) fun generated => ?_
    split
    · refine .bind safe_storeCode fun stored => ?_
      cases stored with
      | true => exact .bind (safe_request _) fun _ => safe_finishGenerated
      | false => exact Job.confined_pure _
    · exact safe_finishGenerated

theorem safe_concludeProgram {outcome : Outcome} {byUnit : NameMap Statistics} {verified : Bool}
    {fileName : String} :
    (concludeProgram config outcome byUnit program verified fileName others).IsSafe := by
  unfold concludeProgram
  split
  · exact Job.confined_pure _
  · refine .bind (safe_request _) fun _ => ?_
    split
    · exact safe_generateCode
    · exact safe_generateCode
    · exact Job.confined_pure _

/-! ### Results -/

/-- Every run ends with a failure that a collaborator raised, or with a result that tells what was
done. -/
theorem concludeProgram_tells {outcome : Outcome} {byUnit : NameMap Statistics} {verified : Bool}
    {fileName : String}
    (stores : (concludeProgram config outcome byUnit program verified fileName others).Throughout
      collaborators Machine.Stores before) :
    (∃ result deeds after,
      (concludeProgram config outcome byUnit program verified fileName others).Acts collaborators
        before result deeds after ∧
      result.Tells config program fileName others deeds after) ∨
    ∃ failure made after,
      (concludeProgram config outcome byUnit program verified fileName others).Runs collaborators
        before (.error failure) made after ∧ Job.Raised made failure := by
  obtain ⟨made, runs⟩ := Job.runs_run collaborators
    (concludeProgram config outcome byUnit program verified fileName others) before
  generalize (concludeProgram config outcome byUnit program verified fileName others).run
    collaborators before = ran at runs
  obtain ⟨failure | result, after⟩ := ran
  · refine .inr ⟨failure, made, after, runs, ?_⟩
    exact ((runs.confined safe_concludeProgram).2 failure rfl).resolve_left id
  · obtain ⟨deeds, acts⟩ := Job.acts_of_run runs.ends
    refine .inl ⟨result, deeds, after, acts, ?_⟩
    rw [concludeProgram] at acts stores
    split at acts
    next =>
      obtain ⟨rfl, rfl, rfl⟩ := Job.acts_pure.mp acts
      rfl
    next finished =>
      rw [if_neg finished] at stores
      obtain ⟨_, middle, wrote, acts⟩ := (Job.acts_quiet_bind (Job.confined_request rfl)).mp acts
      have stores := stores.bind.2 _ _ wrote
      split at acts
      next selected =>
        rw [selected] at stores
        exact generateCode_tells (by simp) stores acts
      next selected =>
        rw [selected] at stores
        exact generateCode_tells (fun _ => CodeMode.spillLevel_of_codeOnly selected) stores acts
      next =>
        obtain ⟨rfl, rfl, rfl⟩ := Job.acts_pure.mp acts
        rfl

/-- A verified program whose code is interpreted, and so is only put into a file. -/
def Rehearsal.scriptConclusion : Job toolkit CodeResult :=
  concludeProgram { target := .javaScript } .solved .empty "a.prf" true "a.prf" []

theorem scriptConclusion_tells :
    Rehearsal.scriptConclusion.Throughout (Rehearsal.collaborators {}) Machine.Stores
      { host := { store := .standard } } ∧
    ∃ deeds after,
      Rehearsal.scriptConclusion.Acts (Rehearsal.collaborators {})
        { host := { store := .standard } } ⟨.made, "a.js"⟩ deeds after ∧
      CodeResult.Tells (K := Rehearsal.toolkit) ⟨.made, "a.js"⟩ { target := .javaScript } "a.prf"
        "a.prf" [] deeds after := by
  have stores : Rehearsal.scriptConclusion.Throughout (Rehearsal.collaborators {}) Machine.Stores
      { host := { store := .standard } } := by decide +kernel
  have made : (Rehearsal.scriptConclusion.run (Rehearsal.collaborators {})
      { host := { store := .standard } }).1 = .ok ⟨.made, "a.js"⟩ := by decide +kernel
  refine ⟨stores, ?_⟩
  rcases concludeProgram_tells stores with
    ⟨result, deeds, after, acts, tells⟩ | ⟨failure, _, _, runs, -⟩
  · have same := made.symm.trans (congrArg Prod.fst acts.ends)
    cases same
    exact ⟨deeds, after, acts, tells⟩
  · have impossible := made.symm.trans (congrArg Prod.fst runs.ends)
    cases impossible

end VerifiedBuild
