import VerifiedBuild.Proofs.Tally

/-!
# What was counted before a run

Runs that begin with different counts of diagnostics go the same way and count the same. Whether
generated code is complete depends on the two calls that generate it and on nothing reported before
them.
-/

namespace VerifiedBuild

variable {K : Toolkit} {collaborators : Collaborators K} {first second : Tally}

/-! ## Generation -/

theorem matches_generate (target : Target) (program : K.Program) :
    Job.Matches (.recounted first second) collaborators Eq (generate target program)
      (generate target program) := by
  have answers : Job.Matches (.recounted first second) collaborators Eq
      (do
        let hasEntryPoint ← Job.call (.hasEntryPoint target program)
        let text ← Job.call (.generate target program)
        pure (hasEntryPoint, text))
      (do
        let hasEntryPoint ← Job.call (.hasEntryPoint target program)
        let text ← Job.call (.generate target program)
        pure (hasEntryPoint, text)) :=
    (Job.matches_call (respects_recounted rfl)).bind_eq fun _ =>
      (Job.matches_call (respects_recounted rfl)).bind_eq fun _ => Job.matches_pure rfl
  refine (Job.matches_request respects_errorCount).bind fun before other risen => ?_
  refine (answers.timed (respects_recounted rfl) (respects_recounted rfl)).bind_eq fun answer => ?_
  refine (Job.matches_request respects_errorCount).bind fun after another later => ?_
  apply Job.matches_pure
  have unchanged : (after : Nat) = before ↔ (another : Nat) = other := risen.unchanged_iff later
  simp only [unchanged]

theorem tally_of_request {request : Request K} {answer : request.Answer} {before after : Machine K}
    (ended : (Job.request request).run collaborators before = (.ok answer, after))
    (continued : request ≠ .restartTally) :
    after.console.tally =
      before.console.tally.addAll (before.severities collaborators request) := by
  have counted := before.tally_perform collaborators continued
  rw [Job.run_request_ok.mp ended] at counted
  exact counted

theorem errorCount_eq {count : Nat} {before after : Machine K}
    (ended : Job.errorCount.run collaborators before = (.ok count, after)) :
    count = before.console.tally.errors :=
  (Except.ok.inj (congrArg Prod.fst (Job.run_request_ok.mp ended))).symm

/-- The code is complete if no error is reported while the two calls are answered that generate it,
whatever was reported before. -/
theorem generate_complete_iff {target : Target} {program : K.Program} {there stop : Machine K}
    {generated : Generated}
    (ended : (generate target program).run collaborators there = (.ok generated, stop)) :
    ∃ asking making,
      (generate target program).Does collaborators there
        (Job.call (.hasEntryPoint target program)) asking ∧
      (generate target program).Does collaborators there
        (Job.call (.generate target program)) making ∧
      (generated.complete ↔
        .error ∉ (asking.reply collaborators (.hasEntryPoint target program)).severities ∧
        .error ∉ (making.reply collaborators (.generate target program)).severities) := by
  obtain ⟨before, looked, first, rest⟩ := Job.run_bind_ok.mp ended
  obtain ⟨_, answered, timing, closing⟩ := Job.run_bind_ok.mp rest
  obtain ⟨after, _, last, ending⟩ := Job.run_bind_ok.mp closing
  obtain ⟨_, asking, starting, inner⟩ := Job.run_bind_ok.mp timing
  obtain ⟨_, unstopped, answering, leaving⟩ := Job.run_bind_ok.mp inner
  obtain ⟨_, making, asked, later⟩ := Job.run_bind_ok.mp answering
  obtain ⟨_, _, made, returned⟩ := Job.run_bind_ok.mp later
  obtain ⟨_, _, stopping, kept⟩ := Job.run_bind_ok.mp leaving
  cases returned
  cases kept
  cases ending
  have looking : (generate target program).Does collaborators there
      (Job.timed .generate _) looked := (Job.does_next first).trans (Job.does_bind _ _ _)
  have answers := looking.trans ((Job.does_next starting).trans (Job.does_bind _ _ _))
  refine ⟨asking, making, answers.trans (Job.does_bind _ _ _),
    answers.trans ((Job.does_next asked).trans (Job.does_bind _ _ _)), ?_⟩
  -- The two calls are the only requests in between that can add to the count.
  have grown : answered.console.tally =
      (there.console.tally.addAll
        (asking.reply collaborators (.hasEntryPoint target program)).severities).addAll
          (making.reply collaborators (.generate target program)).severities :=
    calc answered.console.tally
        = unstopped.console.tally := tally_of_request stopping nofun
      _ = making.console.tally.addAll _ := tally_of_request made nofun
      _ = (asking.console.tally.addAll _).addAll _ := by rw [tally_of_request asked nofun]
      _ = (looked.console.tally.addAll _).addAll _ := by rw [tally_of_request starting nofun]; rfl
      _ = _ := by rw [tally_of_request first nofun]; rfl
  have unchanged : after = before ↔ answered.console.tally.errors = there.console.tally.errors := by
    rw [errorCount_eq first, errorCount_eq last]
  rw [← List.count_eq_zero, ← List.count_eq_zero]
  rw [grown, Tally.errors_addAll, Tally.errors_addAll] at unchanged
  simp only [decide_eq_true_eq, unchanged]
  omega

/-! ## Runs -/

def Config.recounted (collaborators : Collaborators K) (first second : Tally) (config : Config) :
    Config.Congruence K config config.ownReporting :=
  let congruence := (Similarity.recounted first second).congruence collaborators
    fun _ regular => respects_recounted (Request.untallied_of_isRegular regular)
  have counts (key : String) (amount : UInt64) : congruence.holds
      (Job.request (.count key amount)) (Job.request (.count key amount)) :=
    Job.matches_request (respects_recounted rfl)
  { toCongruence := congruence.toCongruence
    translates := congruence.translateUnits counts config
    verifies := fun programFile lineage => congruence.verifyUntimed
      (Job.matches_request (respects_recounted rfl))
      (congruence.verifyUnit counts config programFile lineage)
    generates := matches_generate
    builds := fun _ => congruence.buildCounted counts (Job.matches_timedCall
      (respects_recounted rfl) (respects_recounted rfl) (respects_recounted rfl))
    shows := congruence.printReports
      (fun _ _ => Job.matches_call (respects_recounted rfl)) config }

def Machine.counting (machine : Machine K) (tally : Tally) : Machine K :=
  { machine with console := machine.console.recount tally }

theorem Machine.Recounted.counting (before : Machine K) (first second : Tally) :
    Recounted first second (before.counting first) (before.counting second) where
  same := rfl
  counted := ⟨[], rfl, rfl⟩

/-- Whatever was counted before, a run ends with the same result, shows the same text, makes the same
calls and writes the same files, and its count grows by the same. Generated code is complete exactly
if no error is reported while it is generated. -/
theorem makeAll_recounted (collaborators : Collaborators K) (config : Config)
    (files others : List Source) (before : Machine K) (first second : Tally) :
    (∃ result after other grown,
      (makeAll config files others).run collaborators (before.counting first) = (result, after) ∧
      (makeAll config files others).run collaborators (before.counting second) = (result, other) ∧
      other.console.transcript = after.console.transcript ∧
      other.exchanges = after.exchanges ∧
      other.fileWrites = after.fileWrites ∧
      other.host = after.host ∧
      after.console.tally = first.plus grown ∧ other.console.tally = second.plus grown) ∧
    ∀ target program there generated stop,
      (generate target program).run collaborators there = (.ok generated, stop) →
      ∃ asking making,
        (generate target program).Does collaborators there
          (Job.call (.hasEntryPoint target program)) asking ∧
        (generate target program).Does collaborators there
          (Job.call (.generate target program)) making ∧
        (generated.complete ↔
          .error ∉ (asking.reply collaborators (.hasEntryPoint target program)).severities ∧
          .error ∉ (making.reply collaborators (.generate target program)).severities) := by
  constructor
  · obtain ⟨agree, recounted⟩ := (config.recounted collaborators first second).makeAll files others
      (Machine.Recounted.counting before first second)
    rw [Config.reporting_own] at agree recounted
    generalize (makeAll config files others).run collaborators (before.counting first) = ran
      at agree recounted
    generalize (makeAll config files others).run collaborators (before.counting second) = again
      at agree recounted
    obtain ⟨result, after⟩ := ran
    obtain ⟨_, other⟩ := again
    obtain rfl := agree.eq
    obtain ⟨severities, leftCount, rightCount⟩ := recounted.counted
    rw [Tally.addAll_eq_plus] at leftCount rightCount
    refine ⟨result, after, other, Tally.addAll {} severities, rfl, rfl, ?_, ?_, ?_, ?_, leftCount,
      rightCount⟩
    · exact congrArg (·.console.transcript) recounted.same.symm
    · rw [← other.exchanges_uncounted, ← recounted.same, after.exchanges_uncounted]
    · rw [← other.fileWrites_uncounted, ← recounted.same, after.fileWrites_uncounted]
    · exact congrArg (·.host) recounted.same.symm
  · intro target program there generated stop ended
    exact generate_complete_iff ended

def Rehearsal.lateGeneration : Except Failure Generated × Machine toolkit :=
  (generate .cpp "a.prf").run (Rehearsal.collaborators .single)
    { console := { tally := { errors := 3 } }, host := { store := .standard } }

theorem lateGeneration_complete :
    ∃ generated stop, ∃ asking making : Machine Rehearsal.toolkit,
      Rehearsal.lateGeneration = (.ok generated, stop) ∧ generated.complete ∧
      .error ∉ (asking.reply (Rehearsal.collaborators .single)
        (.hasEntryPoint .cpp "a.prf")).severities ∧
      .error ∉ (making.reply (Rehearsal.collaborators .single)
        (.generate .cpp "a.prf")).severities := by
  have ended : Rehearsal.lateGeneration =
      (.ok { hasEntryPoint := true, text := "int main() \x7b return 0; \x7d\n", complete := true },
        Rehearsal.lateGeneration.2) := rfl
  obtain ⟨asking, making, -, -, clean⟩ := (makeAll_recounted (Rehearsal.collaborators .single) {} []
    [] { host := { store := .standard } } {} {}).2 _ _ _ _ _ ended
  exact ⟨_, _, asking, making, ended, rfl, clean.mp rfl⟩

end VerifiedBuild
