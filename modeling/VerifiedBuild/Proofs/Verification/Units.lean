import VerifiedBuild.Proofs.Verification.Course

/-!
# The trace of all units

What the verification of a list of units comes to. The units are verified one by one in order, each
on its own course, whatever the verdicts are; the first one that cannot be recorded ends it, and
nothing is done for those after it.
-/

namespace VerifiedBuild

variable {K : Toolkit} {collaborators : Collaborators K} {config : Config} {programFile : String}
  {lineage : Option String} {before after : Machine K} {made : List (Exchange K)}

/-! ## Verified units -/

/-- A unit that was verified: its program, the machine on which its turn came, the calls made for it
and the verdict. -/
structure UnitRun (K : Toolkit) where
  unit : ProofUnit K
  program : K.ProofProgram
  start : Machine K
  made : List (Exchange K)
  verdict : Verdict

namespace UnitRun

def turn (run : UnitRun K) : ProofUnit K × Machine K :=
  (run.unit, run.start)

def report (run : UnitRun K) : UnitReport :=
  .ofEngine run.unit.name run.verdict.outcome run.verdict.statistics

/-- The calls take the course of a completed unit, and it is the unit's verification that makes
them. -/
structure Completes (collaborators : Collaborators K) (config : Config) (programFile : String)
    (lineage : Option String) (run : UnitRun K) : Prop where
  provided : run.unit.program = some run.program
  course : Course run.program (unitFile run.start.host config programFile run.unit.name)
    (reuseKey config lineage run.unit.name) run.made run.verdict
  runs : ∃ stop, (verifyUnit config programFile lineage run.unit).Runs collaborators run.start
    (.ok run.report) run.made stop

end UnitRun

/-! ## Recording results -/

/-- The aggregate holds the results of the given units and nothing else. -/
structure Aggregate.Records (aggregate : Aggregate) (past : List (UnitRun K)) : Prop where
  distinct : (past.map (·.unit.name)).Nodup
  verified : aggregate.verified = past.all (·.report.verified)
  outcome : aggregate.outcome = (past.map (·.verdict.outcome)).foldl .merge .solved
  statistics : ∀ name, aggregate.byUnit.find? name =
    (past.find? (·.unit.name = name)).map (·.verdict.statistics)
  timed : aggregate.timings.map (·.1) = past.map (·.unit.name)

namespace Aggregate

variable {aggregate extended : Aggregate} {past : List (UnitRun K)}

theorem records_nil : ({} : Aggregate).Records ([] : List (UnitRun K)) where
  distinct := .nil
  verified := rfl
  outcome := rfl
  statistics _ := rfl
  timed := rfl

theorem Records.contains_iff (records : aggregate.Records past) (name : String) :
    aggregate.byUnit.contains name ↔ name ∈ past.map (·.unit.name) := by
  rw [NameMap.contains_eq_isSome_find?, records.statistics, Option.isSome_map,
    List.find?_isSome, List.mem_map]
  simp only [decide_eq_true_eq]

theorem Records.add (records : aggregate.Records past) (run : UnitRun K)
    (added : aggregate.add run.report = .ok extended) (took : Nat) :
    (extended.addTiming run.report.name took).Records (past ++ [run]) := by
  have known := records.contains_iff run.unit.name
  rw [Aggregate.add] at added
  split at added
  next => cases added
  next fresh =>
    cases added
    have isNew : run.unit.name ∉ past.map (·.unit.name) := fun member => fresh (known.mpr member)
    constructor
    case distinct =>
      rw [List.map_append, List.nodup_append]
      refine ⟨records.distinct, List.pairwise_singleton _ _, fun name member other single => ?_⟩
      obtain rfl := List.mem_singleton.mp single
      rintro rfl
      exact isNew member
    case verified => simp [addTiming, records.verified]
    case outcome =>
      rw [List.map_append, List.foldl_append, ← records.outcome]
      rfl
    case statistics =>
      intro name
      change (aggregate.byUnit.insert run.unit.name _).find? name = _
      rw [NameMap.find?_insert, List.find?_append]
      split
      next same =>
        have absent : past.find? (·.unit.name = name) = none := by
          rw [List.find?_eq_none]
          intro other member here
          exact isNew (List.mem_map.mpr ⟨other, member, (of_decide_eq_true here).trans same⟩)
        rw [absent, same]
        simp [UnitRun.report, UnitReport.ofEngine]
      next different =>
        rw [records.statistics]
        simp [Ne.symm different]
    case timed =>
      change (aggregate.timings ++ [(run.unit.name, took)]).map (·.1) = _
      rw [List.map_append, records.timed, List.map_append]
      rfl

theorem Records.add_error {failure : Failure} (records : aggregate.Records past) (run : UnitRun K)
    (refused : aggregate.add run.report = .error failure) :
    run.unit.name ∈ past.map (·.unit.name) ∧ failure = .duplicateUnit run.unit.name := by
  rw [Aggregate.add] at refused
  split at refused
  next known =>
    cases refused
    exact ⟨(records.contains_iff _).mp known, rfl⟩
  next => cases refused

theorem kind_of_add_error {report : UnitReport} {failure : Failure}
    (refused : aggregate.add report = .error failure) : failure.kind = .pipeline := by
  rw [Aggregate.add] at refused
  split at refused
  next =>
    cases refused
    rfl
  next => cases refused

end Aggregate

/-! ## One more unit -/

variable {unit : ProofUnit K} {failure : Failure}

theorem verifyNext_runs {aggregate : Aggregate} {result : Except Failure Aggregate}
    (runs : (verifyNext config programFile lineage aggregate unit).Runs collaborators before result
      made after) :
    ∃ start,
      Succession collaborators (verifyUnit config programFile lineage) before [] start ∧
      ((∃ report stop,
          (verifyUnit config programFile lineage unit).Runs collaborators start (.ok report) made
            stop ∧
          ((∃ extended took, aggregate.add report = .ok extended ∧
              result = .ok (extended.addTiming report.name took) ∧
              Succession collaborators (verifyUnit config programFile lineage) stop [] after) ∨
            ∃ failure, aggregate.add report = .error failure ∧ result = .error failure)) ∨
        ∃ failure, result = .error failure ∧
          (verifyUnit config programFile lineage unit).Runs collaborators start (.error failure)
            made after) := by
  rw [verifyNext] at runs
  obtain ⟨first, header, runs⟩ := Succession.of_optional rfl runs
  obtain ⟨began, -, runs⟩ := (Job.runs_aside_bind rfl).mp runs
  have quiet : Succession collaborators (verifyUnit config programFile lineage) before []
      (first.perform collaborators .clock).2 := header.append (.aside .clock rfl (.nil _))
  rcases Job.runs_bind.mp runs with ⟨report, _, stop, _, verified, rest, rfl⟩ | ⟨_, rfl, failed⟩
  · refine ⟨_, quiet, .inl ⟨report, stop, ?_⟩⟩
    obtain ⟨ended, -, rest⟩ := (Job.runs_aside_bind rfl).mp rest
    cases added : aggregate.add report with
    | error failure =>
        rw [added] at rest
        obtain ⟨rfl, rfl, -⟩ := Job.runs_fail.mp rest
        exact ⟨by simpa using verified, .inr ⟨failure, rfl, rfl⟩⟩
    | ok extended =>
        rw [added] at rest
        dsimp only at rest
        split at rest
        · obtain ⟨_, -, rest⟩ := (Job.runs_aside_bind rfl).mp rest
          obtain ⟨_, -, rest⟩ := (Job.runs_aside_bind rfl).mp rest
          obtain ⟨rfl, rfl, rfl⟩ := Job.runs_pure.mp rest
          refine ⟨by simpa using verified, .inl ⟨extended, ended - began, rfl, rfl, ?_⟩⟩
          exact .aside .clock rfl (.aside _ rfl (.aside _ rfl (.nil _)))
        · obtain ⟨rfl, rfl, rfl⟩ := Job.runs_pure.mp rest
          refine ⟨by simpa using verified, .inl ⟨extended, ended - began, rfl, rfl, ?_⟩⟩
          exact .aside .clock rfl (.nil _)
  · exact ⟨_, quiet, .inr ⟨_, rfl, failed⟩⟩

theorem confined_verifyNext {aggregate : Aggregate} :
    (verifyNext config programFile lineage aggregate unit).Confined
      (Request.Plain (Call.Serves unit.program (reuseKey config lineage unit.name)))
      (·.kind = .pipeline) := by
  rw [verifyNext]
  refine .optional trivial (.bind (Job.confined_request trivial) fun start =>
    confined_verifyUnit.bind fun report => .bind (Job.confined_request trivial) fun stop => ?_)
  cases added : aggregate.add report with
  | error failure => exact Aggregate.kind_of_add_error added
  | ok extended =>
      dsimp only
      split
      · exact .bind (Job.confined_request trivial) fun _ =>
          .bind (Job.confined_request trivial) fun _ => Job.confined_pure _
      · exact Job.confined_pure _

/-! ## All units -/

/-- What ends the verification at a unit whose turn comes on `start`, after units with the names
`earlier`: the calls that are still made for it, and the failure. -/
inductive Fault (config : Config) (programFile : String) (lineage : Option String)
    (earlier : List String) (start : Machine K) (unit : ProofUnit K) :
    List (Exchange K) → Failure → Prop
  | absent (missing : unit.program = none) :
      Fault config programFile lineage earlier start unit [] (.unitWithoutProgram unit.name)
  | unexpected {program : K.ProofProgram} {outcome : Outcome}
      (provided : unit.program = some program) (unexpected : outcome.isUnexpected) :
      Fault config programFile lineage earlier start unit
        [⟨.check .translated program (unitFile start.host config programFile unit.name),
          .ok outcome⟩]
        (.unexpectedCheck outcome)
  | repeated {program : K.ProofProgram} {made : List (Exchange K)} {verdict : Verdict}
      (provided : unit.program = some program)
      (course : Course program (unitFile start.host config programFile unit.name)
        (reuseKey config lineage unit.name) made verdict)
      (again : unit.name ∈ earlier) :
      Fault config programFile lineage earlier start unit made (.duplicateUnit unit.name)

theorem Fault.kind_eq {earlier : List String} {start : Machine K}
    (fault : Fault config programFile lineage earlier start unit made failure) :
    failure.kind = .pipeline := by
  cases fault <;> rfl

/-- How `units` are verified when the units of `past` already are: all of them complete, or those
before the first with a fault do and it ends there, or a collaborator raises a failure. -/
inductive Examination (collaborators : Collaborators K) (config : Config) (programFile : String)
    (lineage : Option String) (past : List (UnitRun K)) (units : List (ProofUnit K))
    (before after : Machine K) : Except Failure Aggregate → List (Exchange K) → Prop
  | completed (runs : List (UnitRun K)) (aggregate : Aggregate)
      (covered : units = runs.map (·.unit))
      (complete : ∀ run ∈ runs, run.Completes collaborators config programFile lineage)
      (records : aggregate.Records (past ++ runs))
      (turns : Succession collaborators (verifyUnit config programFile lineage) before
        (runs.map (·.turn)) after) :
      Examination collaborators config programFile lineage past units before after (.ok aggregate)
        (runs.flatMap (·.made))
  | stopped (runs : List (UnitRun K)) (unit : ProofUnit K) (rest : List (ProofUnit K))
      (start : Machine K) (made : List (Exchange K)) (failure : Failure)
      (covered : units = runs.map (·.unit) ++ unit :: rest)
      (complete : ∀ run ∈ runs, run.Completes collaborators config programFile lineage)
      (distinct : ((past ++ runs).map (·.unit.name)).Nodup)
      (turns : Succession collaborators (verifyUnit config programFile lineage) before
        (runs.map (·.turn)) start)
      (fault : Fault config programFile lineage ((past ++ runs).map (·.unit.name)) start unit made
        failure)
      (kind : failure.kind = .pipeline) :
      Examination collaborators config programFile lineage past units before after
        (.error failure) (runs.flatMap (·.made) ++ made)
  | raised (failure : Failure) (made : List (Exchange K)) (raised : Job.Raised made failure) :
      Examination collaborators config programFile lineage past units before after
        (.error failure) made

variable {past : List (UnitRun K)} {units : List (ProofUnit K)} {result : Except Failure Aggregate}

theorem Examination.of_fault {start : Machine K}
    (quiet : Succession collaborators (verifyUnit config programFile lineage) before [] start)
    (distinct : (past.map (·.unit.name)).Nodup)
    (fault : Fault config programFile lineage (past.map (·.unit.name)) start unit made failure) :
    Examination collaborators config programFile lineage past (unit :: units) before after
      (.error failure) made := by
  refine .stopped [] unit units start made failure rfl ?_ ?_ quiet ?_ fault.kind_eq
  · simp
  · simpa using distinct
  · simpa using fault

theorem Examination.cons (run : UnitRun K) {stop : Machine K}
    (completes : run.Completes collaborators config programFile lineage)
    (turn : Succession collaborators (verifyUnit config programFile lineage) before [run.turn] stop)
    (rest : Examination collaborators config programFile lineage (past ++ [run]) units stop after
      result made) :
    Examination collaborators config programFile lineage past (run.unit :: units) before after
      result (run.made ++ made) := by
  have assoc (runs : List (UnitRun K)) : past ++ [run] ++ runs = past ++ run :: runs :=
    (List.append_cons ..).symm
  cases rest with
  | completed runs aggregate covered complete records turns =>
      rw [assoc] at records
      refine .completed (run :: runs) aggregate ?_ ?_ records (turn.append turns)
      · rw [covered, List.map_cons]
      · exact List.forall_mem_cons.mpr ⟨completes, complete⟩
  | stopped runs unit rest start made failure covered complete distinct turns fault kind =>
      rw [assoc] at distinct fault
      rw [← List.append_assoc]
      refine .stopped (run :: runs) unit rest start made failure ?_ ?_ distinct
        (turn.append turns) fault kind
      · rw [covered, List.map_cons, List.cons_append]
      · exact List.forall_mem_cons.mpr ⟨completes, complete⟩
  | raised failure made raised => exact .raised failure _ (raised.append _)

theorem examination_of_runs {aggregate : Aggregate} (records : aggregate.Records past)
    (runs : (units.foldlM (verifyNext config programFile lineage) aggregate).Runs collaborators
      before result made after) :
    Examination collaborators config programFile lineage past units before after result made := by
  -- The units verified so far grow along the list; `records` says what the aggregate holds of them.
  induction units generalizing aggregate past before made with
  | nil =>
      obtain ⟨rfl, rfl, rfl⟩ := Job.runs_pure.mp runs
      exact .completed [] aggregate rfl (by simp) (by simpa using records) (.nil _)
  | cons unit units ih =>
      rw [List.foldlM_cons, Job.runs_bind] at runs
      rcases runs with ⟨extended, made, middle, rest, first, runs, rfl⟩ | ⟨failure, rfl, first⟩
      · obtain ⟨start, quiet, ⟨report, stop, verified, ended⟩ | ⟨_, impossible, -⟩⟩ :=
          verifyNext_runs first
        · obtain ⟨program, verdict, provided, course, rfl⟩ := verifyUnit_ok verified
          rcases ended with ⟨extended, took, added, same, closing⟩ | ⟨_, -, impossible⟩
          · cases same
            let run : UnitRun K := ⟨unit, program, start, made, verdict⟩
            have turn : Succession collaborators (verifyUnit config programFile lineage) before
                [run.turn] middle :=
              (quiet.append (.of_runs verified)).append closing
            have recorded := records.add run added took
            exact .cons run ⟨provided, course, stop, verified⟩ turn (ih recorded runs)
          · cases impossible
        · cases impossible
      · obtain ⟨start, quiet, ⟨report, stop, verified, ended⟩ | ⟨_, same, failed⟩⟩ :=
          verifyNext_runs first
        · obtain ⟨program, verdict, provided, course, rfl⟩ := verifyUnit_ok verified
          rcases ended with ⟨_, _, -, impossible, -⟩ | ⟨_, refused, same⟩
          · cases impossible
          · cases same
            obtain ⟨again, rfl⟩ := records.add_error ⟨unit, program, start, made, verdict⟩ refused
            exact .of_fault quiet records.distinct (.repeated provided course again)
        · cases same
          rcases verifyUnit_error failed with ⟨missing, rfl, rfl⟩ |
            ⟨program, outcome, provided, unexpected, rfl, rfl⟩ | raised
          · exact .of_fault quiet records.distinct (.absent missing)
          · exact .of_fault quiet records.distinct (.unexpected provided unexpected)
          · exact .raised failure made raised

theorem confined_verifyAll :
    (verifyAll config programFile lineage units).Confined (Request.Plain (·.isEngine))
      (·.kind = .pipeline) := by
  apply Job.confined_foldlM
  intro aggregate unit _
  exact confined_verifyNext.mono fun _ plain => plain.mono fun _ serves => serves.isEngine

/-- The calls made while the units of a program are verified, for every list of units and whatever
the collaborators answer. -/
theorem verifyAll_examination (collaborators : Collaborators K) (config : Config)
    (programFile : String) (lineage : Option String) (units : List (ProofUnit K))
    (before : Machine K) :
    ∃ result made after,
      (verifyAll config programFile lineage units).Runs collaborators before result made after ∧
        Examination collaborators config programFile lineage [] units before after result made := by
  obtain ⟨made, runs⟩ := Job.runs_run collaborators
    (verifyAll config programFile lineage units) before
  exact ⟨_, made, _, runs, examination_of_runs Aggregate.records_nil runs⟩

end VerifiedBuild
