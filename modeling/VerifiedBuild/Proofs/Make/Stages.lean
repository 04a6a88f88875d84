import VerifiedBuild.Proofs.Make.Composition

/-!
# The stages of a run

A run consists of stages, which translate a program, verify a unit or build something, and of
requests between them. Each call by which a program is translated or a unit is examined, each build,
and whatever is counted belongs to a stage.
-/

namespace VerifiedBuild

variable {K : Toolkit} {α β : Type} {collaborators : Collaborators K} {config : Config}

/-- A part of a run that counts what it comes to: the translation of a program, with the number of
its units, the verification of a unit, or a build. -/
inductive Stage where
  | translation (result : Except Failure Nat)
  | verification (result : Except Failure UnitReport)
  | build (result : Except Failure BuildReport)

namespace Stage

/-- The number of units, if a translation was completed. -/
def units? : Stage → Option Nat
  | .translation result => result.toOption
  | _ => none

/-- The verdict, if the run of a unit was completed. -/
def verified? : Stage → Option Bool
  | .verification result => result.toOption.map (·.verified)
  | _ => none

def isBuilt : Stage → Bool
  | .build (.ok report) => report.ok
  | _ => false

end Stage

/-! ## Between the stages -/

/-- Requests that are left to no stage. -/
def Request.isUnstaged : Request K → Bool
  | .count _ _ | .call (.build _) => false
  | .call toCall => !toCall.isExamining
  | _ => true

/-- What may come next in a run, with the calls it makes: a request aside, the end of a phase after a
failure, or a stage. -/
inductive Goes (collaborators : Collaborators K) (config : Config) :
    Machine K → List (Exchange K) → Option Stage → Machine K → Prop
  | aside {request : Request K} {before after : Machine K} {made : List (Exchange K)}
      {answer : Except Failure request.Answer} (unstaged : request.isUnstaged)
      (runs : (Job.request request).Runs collaborators before answer made after) :
      Goes collaborators config before made none after
  | stop (machine : Machine K) : Goes collaborators config machine [] none machine.stopPhase
  | translation {program : K.Program} {before after : Machine K} {made : List (Exchange K)}
      {result : Except Failure (List (ProofUnit K))}
      (runs : (translateUnits config program).Runs collaborators before result made after) :
      Goes collaborators config before made (some (.translation (result.map List.length))) after
  | verification {programFile : String} {lineage : Option String} {unit : ProofUnit K}
      {before after : Machine K} {made : List (Exchange K)} {result : Except Failure UnitReport}
      (runs : (verifyUnit config programFile lineage unit).Runs collaborators before result made
        after) :
      Goes collaborators config before made (some (.verification result)) after
  | build {plan : BuildPlan} {before after : Machine K} {made : List (Exchange K)}
      {result : Except Failure BuildReport}
      (runs : (buildCounted plan).Runs collaborators before result made after) :
      Goes collaborators config before made (some (.build result)) after

/-- The run goes through these stages, and nothing but requests aside is between them. All together
make these calls. -/
inductive Proceeds (collaborators : Collaborators K) (config : Config) :
    Machine K → List (Exchange K) → List Stage → Machine K → Prop
  | nil (machine : Machine K) : Proceeds collaborators config machine [] [] machine
  | cons {first middle last : Machine K} {made rest : List (Exchange K)} {stage : Option Stage}
      {stages : List Stage} (goes : Goes collaborators config first made stage middle)
      (later : Proceeds collaborators config middle rest stages last) :
      Proceeds collaborators config first (made ++ rest) (stage.toList ++ stages) last

namespace Proceeds

variable {first middle last : Machine K} {made rest : List (Exchange K)} {stages others : List Stage}

theorem append (earlier : Proceeds collaborators config first made stages middle)
    (later : Proceeds collaborators config middle rest others last) :
    Proceeds collaborators config first (made ++ rest) (stages ++ others) last := by
  induction earlier with
  | nil => exact later
  | cons goes _ ih =>
      rw [List.append_assoc, List.append_assoc]
      exact .cons goes (ih later)

theorem of_goes {stage : Option Stage} (goes : Goes collaborators config first made stage last) :
    Proceeds collaborators config first made stage.toList last := by
  have whole := Proceeds.cons goes (.nil last)
  rw [List.append_nil, List.append_nil] at whole
  exact whole

end Proceeds

/-! ## Whole runs -/

namespace Job

def Staged (collaborators : Collaborators K) (config : Config) (job : Job K α) : Prop :=
  ∀ before : Machine K, ∃ result after made stages,
    job.Runs collaborators before result made after ∧
      Proceeds collaborators config before made stages after

theorem staged_pure (value : α) : (pure value : Job K α).Staged collaborators config :=
  fun before => ⟨_, _, _, [], runs_pure.mpr ⟨rfl, rfl, rfl⟩, .nil before⟩

theorem staged_fail (failure : Failure) : (.fail failure : Job K α).Staged collaborators config :=
  fun before => ⟨_, _, _, _, runs_fail.mpr ⟨rfl, rfl, rfl⟩, .of_goes (.stop before)⟩

theorem Staged.bind {job : Job K α} {next : α → Job K β} (first : job.Staged collaborators config)
    (rest : ∀ value, (next value).Staged collaborators config) :
    (job >>= next).Staged collaborators config := by
  intro before
  obtain ⟨result, middle, made, stages, runs, earlier⟩ := first before
  cases result with
  | error failure =>
      exact ⟨_, _, _, stages, runs_bind.mpr (.inr ⟨failure, rfl, runs⟩), earlier⟩
  | ok value =>
      obtain ⟨_, _, more, others, tail, later⟩ := rest value middle
      exact ⟨_, _, _, _, runs_bind.mpr (.inl ⟨value, made, middle, more, runs, tail, rfl⟩),
        earlier.append later⟩

/-- A job that is a stage as a whole. -/
theorem staged_of_goes {job : Job K α} {stage : Except Failure α → Option Stage}
    (goes : ∀ ⦃before after : Machine K⦄ ⦃made : List (Exchange K)⦄ ⦃result : Except Failure α⦄,
      job.Runs collaborators before result made after →
        Goes collaborators config before made (stage result) after) :
    job.Staged collaborators config := by
  intro before
  obtain ⟨made, runs⟩ := runs_run collaborators job before
  exact ⟨_, _, made, _, runs, .of_goes (goes runs)⟩

theorem staged_request {request : Request K} (unstaged : request.isUnstaged) :
    (Job.request request).Staged collaborators config :=
  staged_of_goes fun _ _ _ _ runs => .aside unstaged runs

end Job

theorem Request.isUnstaged_of_isCommon {request : Request K} (common : request.isCommon)
    (outside : request.isExamining = false) : request.isUnstaged := by
  cases request with
  | call toCall =>
      cases toCall with
      | build plan => cases common
      | _ => first | rfl | cases outside
  | _ => first | rfl | cases common

theorem Call.isUnstaged_of_phase? {toCall : Call K} {phase : Phase}
    (own : toCall.phase? = some phase) (other : phase ≠ .build)
    (outside : toCall.isExamining = false) : (Request.call toCall).isUnstaged := by
  cases toCall with
  | build plan => exact absurd (Option.some.inj own).symm other
  | _ => first | rfl | cases outside

theorem Call.isUnstaged_of_isShow {toCall : Call K} (shown : toCall.isShow) :
    (Request.call toCall).isUnstaged := by
  cases toCall <;> first | rfl | cases shown

def Job.Congruence.staged (collaborators : Collaborators K) (config : Config) :
    Job.Congruence K where
  holds job _ := job.Staged collaborators config
  done value := Job.staged_pure value
  stopped failure _ := Job.staged_fail failure
  bind first rest := first.bind rest
  common shared outside := Job.staged_request (Request.isUnstaged_of_isCommon shared outside)
  timed own other outside _ inner :=
    have called := Job.staged_request (Call.isUnstaged_of_phase? own other outside)
    (Job.staged_request rfl).bind fun _ => (called.bind inner).bind fun value =>
      (Job.staged_request rfl).bind fun _ => Job.staged_pure value

def Config.staged (collaborators : Collaborators K) (config : Config) :
    Config.Congruence K config config.ownReporting :=
  let congruence := Job.Congruence.staged collaborators config
  { toCongruence := congruence
    translates := fun _ => Job.staged_of_goes fun _ _ _ _ runs => .translation runs
    verifies := fun _ _ => congruence.verifyUntimed (Job.staged_request rfl)
      fun _ => Job.staged_of_goes fun _ _ _ _ runs => .verification runs
    generates := congruence.generate (Job.staged_request rfl)
    builds := fun _ => Job.staged_of_goes fun _ _ _ _ runs => .build runs
    shows := congruence.printReports
      (fun _ shown => Job.staged_request (Call.isUnstaged_of_isShow shown)) config }

theorem staged_makeAll (collaborators : Collaborators K) (config : Config)
    (files others : List Source) : (makeAll config files others).Staged collaborators config :=
  (config.staged collaborators).makeAll files others

end VerifiedBuild
