import Mathlib
import VerifiedBuild.Proofs.Make.Endings
import VerifiedBuild.Proofs.Make.Phases
import VerifiedBuild.Proofs.Make.Stages

/-!
# The counters of a run

A run consists of stages that count what they come to, when they are completed, and of requests that
count nothing. So the counters are the sums over the stages.
-/

namespace VerifiedBuild

variable {K : Toolkit} {α β : Type} {collaborators : Collaborators K}

/-! ## Jobs that count at their end -/

/-- What a job counts when it is completed: a counter and by how much it is raised. -/
abbrev Increment := String × Nat

def NameMap.raiseBy (counters : NameMap UInt64) (increment : Option Increment) : NameMap UInt64 :=
  match increment with
  | some (key, amount) => counters.raise key (UInt64.ofNat amount)
  | none => counters

namespace Job

/-- A job that counts what `counted` says when it is completed, and else nothing. -/
def Counts (collaborators : Collaborators K) (counted : α → Option Increment) (job : Job K α) :
    Prop :=
  ∀ ⦃before : Machine K⦄, before.metrics.enabled →
    (job.run collaborators before).2.metrics.enabled ∧
      (job.run collaborators before).2.metrics.counters =
        before.metrics.counters.raiseBy
          ((job.run collaborators before).1.toOption.bind counted)

def Uncounting (job : Job K α) : Prop :=
  job.Confined (·.isCount = false) (·.kind = .pipeline)

variable {counted : α → Option Increment}

theorem counts_pure {value : α} (nothing : counted value = none) :
    (pure value : Job K α).Counts collaborators counted := by
  intro before enabled
  have counts : (Except.ok value : Except Failure α).toOption.bind counted = none := nothing
  rw [run_pure, counts]
  exact ⟨enabled, rfl⟩

theorem counts_fail (failure : Failure) :
    (.fail failure : Job K α).Counts collaborators counted := by
  intro before enabled
  obtain ⟨counters, same⟩ := before.sameCounters_stopPhase
  exact ⟨same.trans enabled, counters⟩

theorem counts_after {job : Job K β} {next : β → Job K α} (uncounting : job.Uncounting)
    (rest : ∀ value, (next value).Counts collaborators counted) :
    (job >>= next).Counts collaborators counted := by
  intro before enabled
  obtain ⟨counters, same⟩ : before.SameCounters (job.run collaborators before).2 :=
    sameCounters_run uncounting before
  rw [run_bind]
  generalize job.run collaborators before = ran at counters same
  obtain ⟨failure | value, middle⟩ := ran
  · exact ⟨same.trans enabled, counters⟩
  · have later := rest value (same.trans enabled)
    dsimp only at counters
    rw [counters] at later
    exact later

theorem counts_count {key : String} {amount : Nat} {value : α}
    (raises : counted value = some (key, amount)) :
    (Job.request (.count key (UInt64.ofNat amount)) >>= fun _ => pure value).Counts
      collaborators counted := by
  intro before enabled
  have after : ((Job.request (.count key (UInt64.ofNat amount)) >>= fun _ => pure value).run
      collaborators before).2.metrics = before.metrics.increment key (UInt64.ofNat amount) := by
    change (before.perform collaborators (.count key (UInt64.ofNat amount))).2.metrics = _
    rw [Machine.metrics_perform]
    rfl
  have ended : ((Job.request (.count key (UInt64.ofNat amount)) >>= fun _ => pure value).run
      collaborators before).1 = .ok value := rfl
  have counts : (Except.ok value : Except Failure α).toOption.bind counted = some (key, amount) :=
    raises
  rw [after, ended, counts, Metrics.increment_of_enabled enabled]
  exact ⟨enabled, rfl⟩

theorem Counts.timed {job : Job K α} (counts : job.Counts collaborators counted) (phase : Phase) :
    (Job.timed phase job).Counts collaborators counted := by
  refine counts_after (confined_request rfl) fun _ => ?_
  intro before enabled
  have inner := counts enabled
  rw [run_bind]
  generalize job.run collaborators before = ran at inner
  obtain ⟨failure | value, middle⟩ := ran
  · exact inner
  · obtain ⟨counters, same⟩ := middle.sameCounters_perform collaborators
      (rfl : (Request.stopPhase : Request K).isCount = false)
    exact ⟨same.trans inner.1, counters.trans inner.2⟩

end Job

/-! ## What stages count -/

namespace Stage

def ofUnits (units : Nat) : Option Increment :=
  some ("translate.units", units)

def ofReport (report : UnitReport) : Option Increment :=
  some (if report.verified then "units.verified" else "units.failed", 1)

def ofBuild (report : BuildReport) : Option Increment :=
  if report.ok then some ("native.builds", 1) else none

def increment? : Stage → Option Increment
  | .translation (.ok units) => ofUnits units
  | .verification (.ok report) => ofReport report
  | .build (.ok report) => ofBuild report
  | _ => none

end Stage

def Job.Examination.uncounting (K : Toolkit) : Job.Examination K :=
  have common (request : Request K) (shared : request.isCommon) : request.isCount = false := by
    cases request <;> first | rfl | cases shared
  have phased (request : Request K) (own : request.isPhased) : request.isCount = false := by
    cases request <;> first | rfl | cases own
  .confined common phased

theorem translateUnits_counts (collaborators : Collaborators K) (config : Config)
    (program : K.Program) :
    (translateUnits config program).Counts collaborators (Stage.ofUnits ·.length) := by
  rw [translateUnits_eq]
  apply Job.Counts.timed
  refine Job.counts_after (Job.confined_request rfl) fun modules => ?_
  refine Job.counts_after (Job.confined_request rfl) fun units => ?_
  have prints := (Job.Examination.uncounting K).printUnits config modules units
  refine Job.counts_after prints fun _ => ?_
  exact Job.counts_count rfl

theorem verifyUnit_counts (collaborators : Collaborators K) (config : Config)
    (programFile : String) (lineage : Option String) (unit : ProofUnit K) :
    (verifyUnit config programFile lineage unit).Counts collaborators Stage.ofReport := by
  unfold verifyUnit
  cases unit.program with
  | none => exact Job.counts_fail _
  | some program =>
      refine Job.counts_after (Job.confined_request rfl) fun host => ?_
      refine Job.counts_after ((Job.Examination.uncounting K).checkAndSolve program _ _)
        fun verdict => ?_
      exact Job.counts_count rfl

theorem buildCounted_counts (collaborators : Collaborators K) (plan : BuildPlan) :
    (buildCounted plan).Counts collaborators Stage.ofBuild := by
  unfold buildCounted
  have uncounting : (Job.timed .build (Job.call (.build plan)) : Job K BuildReport).Uncounting :=
    .timed rfl rfl (Job.confined_request rfl)
  refine Job.counts_after uncounting fun built => ?_
  dsimp only
  split
  next ok => exact Job.counts_count (if_pos ok)
  next failed => exact Job.counts_pure (if_neg failed)

/-! ## Sums over stages -/

def Stage.countAll (stages : List Stage) (counters : NameMap UInt64) : NameMap UInt64 :=
  stages.foldl (fun counters stage => counters.raiseBy stage.increment?) counters

variable {config : Config}

theorem Goes.counters {before after : Machine K} {made : List (Exchange K)} {stage : Option Stage}
    (goes : Goes collaborators config before made stage after) (enabled : before.metrics.enabled) :
    after.metrics.enabled ∧
      after.metrics.counters = Stage.countAll stage.toList before.metrics.counters := by
  cases goes with
  | @aside request _ _ _ _ unstaged runs =>
      have uncounting : (Job.request request).Uncounting := by
        refine Job.confined_request ?_
        cases request <;> first | rfl | cases unstaged
      obtain ⟨counters, same⟩ := Job.sameCounters_run uncounting before
      rw [runs.ends] at counters same
      exact ⟨same.trans enabled, counters⟩
  | stop machine =>
      obtain ⟨counters, same⟩ := before.sameCounters_stopPhase
      exact ⟨same.trans enabled, counters⟩
  | @translation program _ _ _ result runs =>
      have counts := translateUnits_counts collaborators config program enabled
      rw [runs.ends] at counts
      cases result <;> exact counts
  | @verification programFile lineage unit _ _ _ result runs =>
      have counts := verifyUnit_counts collaborators config programFile lineage unit enabled
      rw [runs.ends] at counts
      cases result <;> exact counts
  | @build plan _ _ _ result runs =>
      have counts := buildCounted_counts collaborators plan enabled
      rw [runs.ends] at counts
      cases result <;> exact counts

theorem Proceeds.counters {before after : Machine K} {made : List (Exchange K)}
    {stages : List Stage} (proceeds : Proceeds collaborators config before made stages after)
    (enabled : before.metrics.enabled) :
    after.metrics.counters = Stage.countAll stages before.metrics.counters := by
  induction proceeds with
  | nil => rfl
  | cons goes _ ih =>
      obtain ⟨still, counters⟩ := goes.counters enabled
      rw [ih still, counters, Stage.countAll, Stage.countAll, Stage.countAll, List.foldl_append]

end VerifiedBuild
