import VerifiedBuild.Proofs.Succession
import VerifiedBuild.Verification

/-!
# The course of one unit

Which calls the verification of one unit consists of. A completed unit follows one of the shapes of
`Course`, all on the same path; which one depends on what was answered. A unit that is not completed
has no program, or its check was answered with something a check cannot find, or a collaborator
raised a failure.
-/

namespace VerifiedBuild

variable {K : Toolkit} {collaborators : Collaborators K} {before after : Machine K}
  {made : List (Exchange K)}

/-! ## Shapes -/

def Call.isEngine : Call K → Bool
  | .check _ _ _ | .transform _ _ | .verify _ _ | .print _ _ | .parse _ => true
  | _ => false

/-- The check found the translation in error. -/
def Outcome.isMalformed (outcome : Outcome) : Bool :=
  outcome = .unresolved || outcome = .illTyped

/-- No check should end like this. -/
def Outcome.isUnexpected : Outcome → Bool
  | .solved | .other _ => true
  | _ => false

/-- The calls for a unit that is completed, with their answers, and the verdict on it. -/
inductive Course (program : K.ProofProgram) (path : String) (key : Option String) :
    List (Exchange K) → Verdict → Prop
  | nothingToProve :
      Course program path key [⟨.check .translated program path, .ok .done⟩] { outcome := .done }
  | notPrinted {outcome : Outcome} (malformed : outcome.isMalformed) (error : String) :
      Course program path key
        [⟨.check .translated program path, .ok outcome⟩, ⟨.print program path, .ok (some error)⟩]
        { outcome }
  | notReadBack {outcome : Outcome} (malformed : outcome.isMalformed) :
      Course program path key
        [⟨.check .translated program path, .ok outcome⟩, ⟨.print program path, .ok none⟩,
          ⟨.parse path, .ok none⟩]
        { outcome }
  | checkedAgain {outcome : Outcome} (malformed : outcome.isMalformed) (reparsed : K.ProofProgram)
      (second : Outcome) :
      Course program path key
        [⟨.check .translated program path, .ok outcome⟩, ⟨.print program path, .ok none⟩,
          ⟨.parse path, .ok (some reparsed)⟩, ⟨.check .reparsed reparsed path, .ok second⟩]
        { outcome }
  | solved (verdict : Verdict) :
      Course program path key
        [⟨.check .translated program path, .ok .checked⟩,
          ⟨.transform .deadVariables program, .ok ()⟩, ⟨.transform .modifiedSets program, .ok ()⟩,
          ⟨.transform .blockMerging program, .ok ()⟩, ⟨.transform .inlining program, .ok ()⟩,
          ⟨.verify program key, .ok verdict⟩]
        verdict

/-! ## Checking again -/

variable {program : K.ProofProgram} {path : String} {key : Option String} {verdict : Verdict}
  {failure : Failure}

theorem recheck_ok (runs : (recheck program path).Runs collaborators before (.ok ()) made after) :
    (∃ error, made = [⟨.print program path, .ok (some error)⟩]) ∨
      made = [⟨.print program path, .ok none⟩, ⟨.parse path, .ok none⟩] ∨
      ∃ reparsed second, made = [⟨.print program path, .ok none⟩,
        ⟨.parse path, .ok (some reparsed)⟩, ⟨.check .reparsed reparsed path, .ok second⟩] := by
  rw [recheck, Job.runs_call_bind_ok] at runs
  obtain ⟨printed, _, _, -, runs, rfl⟩ := runs
  cases printed with
  | some error =>
      obtain ⟨-, rfl, -⟩ := (Job.runs_aside rfl).mp runs
      exact .inl ⟨error, rfl⟩
  | none =>
      -- Three lines of notice stand before the unit is read back.
      obtain ⟨_, -, afterBlank⟩ := (Job.runs_aside_bind rfl).mp runs
      obtain ⟨_, -, afterNotice⟩ := (Job.runs_aside_bind rfl).mp afterBlank
      obtain ⟨_, -, reading⟩ := (Job.runs_aside_bind rfl).mp afterNotice
      obtain ⟨read, _, _, -, afterParse, rfl⟩ := Job.runs_call_bind_ok.mp reading
      cases read with
      | none =>
          obtain ⟨-, rfl, -⟩ := Job.runs_pure.mp afterParse
          exact .inr (.inl rfl)
      | some reparsed =>
          obtain ⟨second, _, _, -, afterCheck, rfl⟩ := Job.runs_call_bind_ok.mp afterParse
          obtain ⟨-, rfl, -⟩ := Job.runs_pure.mp afterCheck
          exact .inr (.inr ⟨reparsed, second, rfl⟩)

theorem passes_ok {passes : List Pass} {value : Unit}
    (runs : (passes.forM fun pass => Job.call (.transform pass program)).Runs collaborators before
      (.ok value) made after) :
    made = passes.map fun pass => ⟨.transform pass program, .ok ()⟩ := by
  induction passes generalizing before made with
  | nil => exact (Job.runs_pure.mp runs).2.1
  | cons pass rest ih =>
      obtain ⟨_, _, _, -, later, rfl⟩ := Job.runs_call_bind_ok.mp runs
      rw [ih later]
      rfl

theorem solve_ok (runs : (solve program key).Runs collaborators before (.ok verdict) made after) :
    made = [⟨.transform .deadVariables program, .ok ()⟩,
      ⟨.transform .modifiedSets program, .ok ()⟩, ⟨.transform .blockMerging program, .ok ()⟩,
      ⟨.transform .inlining program, .ok ()⟩, ⟨.verify program key, .ok verdict⟩] := by
  rw [solve, Job.runs_bind_ok] at runs
  obtain ⟨_, _, _, _, optimized, solved, rfl⟩ := runs
  obtain ⟨_, _, optimized⟩ := Job.runs_timed optimized
  obtain ⟨_, _, solved⟩ := Job.runs_timed solved
  rw [passes_ok optimized, Job.runs_call solved]
  rfl

/-! ## Checking and solving -/

theorem course_of_recheck {outcome : Outcome} (malformed : outcome.isMalformed)
    (runs : (recheck program path >>= fun _ => pure { outcome }).Runs collaborators before
      (.ok verdict) made after) :
    Course program path key (⟨.check .translated program path, .ok outcome⟩ :: made) verdict := by
  rw [Job.runs_bind_ok] at runs
  obtain ⟨_, _, _, _, again, ending, rfl⟩ := runs
  obtain ⟨same, rfl, -⟩ := Job.runs_pure.mp ending
  cases same
  rw [List.append_nil]
  rcases recheck_ok again with ⟨error, rfl⟩ | rfl | ⟨reparsed, second, rfl⟩
  · exact .notPrinted malformed error
  · exact .notReadBack malformed
  · exact .checkedAgain malformed reparsed second

theorem checkAndSolve_ok (runs : (checkAndSolve program path key).Runs collaborators before
      (.ok verdict) made after) :
    Course program path key made verdict := by
  rw [checkAndSolve, Job.runs_bind_ok] at runs
  obtain ⟨outcome, _, _, _, check, runs, rfl⟩ := runs
  obtain ⟨_, _, check⟩ := Job.runs_timed check
  obtain rfl := Job.runs_call check
  cases outcome with
  | done =>
      obtain ⟨same, rfl, -⟩ := Job.runs_pure.mp runs
      cases same
      exact .nothingToProve
  | unresolved => exact course_of_recheck rfl runs
  | illTyped => exact course_of_recheck rfl runs
  | checked =>
      obtain rfl := solve_ok runs
      exact .solved verdict
  | solved => cases (Job.runs_fail.mp runs).1
  | other code => cases (Job.runs_fail.mp runs).1

/-! ## What can go wrong -/

/-- Calls to the engine; the solver is only called for this program, with this key. -/
def Call.Serves (subject : Option K.ProofProgram) (key : Option String) : Call K → Prop
  | .verify program given => subject = some program ∧ given = key
  | toCall => toCall.isEngine

theorem Call.Serves.isEngine {subject : Option K.ProofProgram} {toCall : Call K}
    (serves : toCall.Serves subject key) : toCall.isEngine := by
  cases toCall with
  | verify program given => rfl
  | _ => exact serves

theorem confined_recheck {failures : Failure → Prop} :
    (recheck program path).Confined (Request.Plain (Call.Serves (some program) key)) failures := by
  have line (text : String) : (Job.writeLine text).Confined
      (Request.Plain (Call.Serves (some program) key)) failures := Job.confined_request trivial
  refine .bind (Job.confined_request rfl) fun printed => ?_
  cases printed with
  | some error => exact Job.confined_request trivial
  | none =>
      refine (line _).bind fun _ => (line _).bind fun _ => (line _).bind fun _ =>
        .bind (Job.confined_request rfl) fun read => ?_
      cases read with
      | none => exact Job.confined_pure ()
      | some reparsed => exact .bind (Job.confined_request rfl) fun _ => Job.confined_pure ()

theorem confined_solve {failures : Failure → Prop} :
    (solve program key).Confined (Request.Plain (Call.Serves (some program) key)) failures := by
  have transforms : (passes.forM fun pass => Job.call (.transform pass program)).Confined
      (Request.Plain (Call.Serves (some program) key)) failures :=
    Job.confined_forM fun _ _ => Job.confined_request rfl
  exact (transforms.timed trivial trivial).bind fun _ =>
    .timed trivial trivial (Job.confined_request ⟨rfl, rfl⟩)

theorem confined_checkAndSolve :
    (checkAndSolve program path key).Confined (Request.Plain (Call.Serves (some program) key))
      (·.kind = .pipeline) := by
  refine .bind (.timed trivial trivial (Job.confined_request rfl)) fun outcome => ?_
  cases outcome with
  | done => exact Job.confined_pure _
  | unresolved => exact confined_recheck.bind fun _ => Job.confined_pure _
  | illTyped => exact confined_recheck.bind fun _ => Job.confined_pure _
  | checked => exact confined_solve
  | solved => rfl
  | other code => rfl

theorem checkAndSolve_error (runs : (checkAndSolve program path key).Runs collaborators before
      (.error failure) made after) :
    (∃ outcome, outcome.isUnexpected ∧ failure = .unexpectedCheck outcome ∧
      made = [⟨.check .translated program path, .ok outcome⟩]) ∨ Job.Raised made failure := by
  rw [checkAndSolve, Job.runs_bind] at runs
  rcases runs with ⟨outcome, _, _, _, check, runs, rfl⟩ | ⟨_, same, check⟩
  · obtain ⟨_, _, check⟩ := Job.runs_timed check
    obtain rfl := Job.runs_call check
    have blameless (job : Job K Verdict)
        (confined : job.Confined (Request.Plain (Call.Serves (some program) key)) fun _ => False)
        {start : Machine K} {later : List (Exchange K)}
        (runs : job.Runs collaborators start (.error failure) later after) :
        Job.Raised later failure :=
      ((runs.confined confined).2 failure rfl).resolve_left id
    cases outcome with
    | done => cases (Job.runs_pure.mp runs).1
    | unresolved =>
        exact .inr ((blameless _ (confined_recheck.bind fun _ => Job.confined_pure _)
          runs).append _)
    | illTyped =>
        exact .inr ((blameless _ (confined_recheck.bind fun _ => Job.confined_pure _)
          runs).append _)
    | checked => exact .inr ((blameless _ confined_solve runs).append _)
    | solved =>
        obtain ⟨same, rfl, -⟩ := Job.runs_fail.mp runs
        cases same
        exact .inl ⟨.solved, rfl, rfl, rfl⟩
    | other code =>
        obtain ⟨same, rfl, -⟩ := Job.runs_fail.mp runs
        cases same
        exact .inl ⟨.other code, rfl, rfl, rfl⟩
  · cases same
    obtain ⟨_, _, check⟩ := Job.runs_timed check
    exact .inr (Job.runs_call_raised check)

/-! ## One unit -/

variable {config : Config} {programFile : String} {lineage : Option String} {unit : ProofUnit K}

theorem verifyUnit_ok {report : UnitReport}
    (runs : (verifyUnit config programFile lineage unit).Runs collaborators before (.ok report)
      made after) :
    ∃ program verdict, unit.program = some program ∧
      Course program (unitFile before.host config programFile unit.name)
        (reuseKey config lineage unit.name) made verdict ∧
      report = .ofEngine unit.name verdict.outcome verdict.statistics := by
  rw [verifyUnit] at runs
  cases provided : unit.program with
  | none =>
      rw [provided] at runs
      cases (Job.runs_fail.mp runs).1
  | some program =>
      rw [provided] at runs
      obtain ⟨host, given, runs⟩ := (Job.runs_aside_bind rfl).mp runs
      cases given
      obtain ⟨verdict, _, _, _, solved, counted, rfl⟩ := Job.runs_bind_ok.mp runs
      obtain ⟨_, -, ending⟩ := (Job.runs_aside_bind rfl).mp counted
      obtain ⟨same, rfl, -⟩ := Job.runs_pure.mp ending
      cases same
      rw [List.append_nil]
      exact ⟨program, verdict, rfl, checkAndSolve_ok solved, rfl⟩

theorem verifyUnit_error (runs : (verifyUnit config programFile lineage unit).Runs collaborators
      before (.error failure) made after) :
    (unit.program = none ∧ failure = .unitWithoutProgram unit.name ∧ made = []) ∨
      (∃ program outcome, unit.program = some program ∧ outcome.isUnexpected ∧
        failure = .unexpectedCheck outcome ∧
        made = [⟨.check .translated program (unitFile before.host config programFile unit.name),
          .ok outcome⟩]) ∨
      Job.Raised made failure := by
  rw [verifyUnit] at runs
  cases provided : unit.program with
  | none =>
      rw [provided] at runs
      obtain ⟨same, rfl, -⟩ := Job.runs_fail.mp runs
      cases same
      exact .inl ⟨rfl, rfl, rfl⟩
  | some program =>
      rw [provided] at runs
      obtain ⟨host, given, runs⟩ := (Job.runs_aside_bind rfl).mp runs
      cases given
      rcases Job.runs_bind.mp runs with ⟨verdict, _, _, _, -, counted, rfl⟩ | ⟨_, same, check⟩
      · obtain ⟨_, -, ending⟩ := (Job.runs_aside_bind rfl).mp counted
        cases (Job.runs_pure.mp ending).1
      · cases same
        rcases checkAndSolve_error check with ⟨outcome, unexpected, rfl, rfl⟩ | raised
        · exact .inr (.inl ⟨program, outcome, rfl, unexpected, rfl, rfl⟩)
        · exact .inr (.inr raised)

theorem confined_verifyUnit :
    (verifyUnit config programFile lineage unit).Confined
      (Request.Plain (Call.Serves unit.program (reuseKey config lineage unit.name)))
      (·.kind = .pipeline) := by
  rw [verifyUnit]
  cases unit.program with
  | none => rfl
  | some program =>
      exact .bind (Job.confined_request trivial) fun host =>
        confined_checkAndSolve.bind fun verdict =>
          .bind (Job.confined_request trivial) fun _ => Job.confined_pure _

end VerifiedBuild
