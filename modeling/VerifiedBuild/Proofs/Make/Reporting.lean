import VerifiedBuild.Proofs.Observation

/-!
# Runs that report otherwise

Configurations that differ only in what they report do the same work: their runs end alike on
machines that differ only in what was put out, in the metrics and in the time.
-/

namespace VerifiedBuild

variable {K : Toolkit} {collaborators : Collaborators K} {hidden : Call K → Bool}

/-! ## Units -/

theorem silent_announceUnit (hides : collaborators.Hides hidden) (config : Config)
    (unit : ProofUnit K) : Job.Silent collaborators hidden (announceUnit config unit) () :=
  (Job.silent_write hides _).optional

theorem silent_reportUnit (hides : collaborators.Hides hidden) (config : Config)
    (result : UnitReport) (took : Nat) :
    Job.Silent collaborators hidden (reportUnit config result took) () :=
  ((Job.silent_write hides _).bind (Job.silent_write hides _)).optional

theorem matches_recordUnit {left right : Aggregate} (same : left.untimed = right.untimed)
    (result : UnitReport) :
    Job.Matches (.alike hidden) collaborators (fun one other => one.untimed = other.untimed)
      (recordUnit left result) (recordUnit right result) := by
  obtain ⟨verified, outcome, byUnit, timings⟩ := left
  obtain ⟨_, _, _, others⟩ := right
  cases same
  unfold recordUnit Aggregate.add
  dsimp only
  cases byUnit.contains result.name with
  | true => exact Job.matches_fail _
  | false =>
      apply Job.matches_pure
      rfl

/-! ## Requests -/

theorem respects_regular (hides : collaborators.Hides hidden)
    (shows : ∀ toCall, hidden toCall → toCall.isShow) {request : Request K}
    (regular : request.isRegular) :
    (Similarity.alike hidden).Respects collaborators request Eq := by
  cases request with
  | write text =>
      intro left right alike
      exact ((Job.silent_write hides text).matches (Job.silent_write hides text)) alike
  | call toCall =>
      refine respects_alike hides (Bool.eq_false_iff.mpr fun heard => ?_)
      have shown := shows toCall heard
      rw [Request.isRegular, shown] at regular
      cases regular
  | _ => first | exact respects_alike hides rfl | cases regular

/-! ## Runs -/

variable {config : Config} {reporting : Reporting}

theorem matches_verifyNext (hides : collaborators.Hides hidden)
    (shows : ∀ toCall, hidden toCall → toCall.isShow) (programFile : String)
    (lineage : Option String) {left right : Aggregate} (same : left.untimed = right.untimed)
    (unit : ProofUnit K) :
    Job.Matches (.alike hidden) collaborators (fun one other => one.untimed = other.untimed)
      (verifyNext config programFile lineage left unit)
      (verifyNext (config.reporting reporting) programFile lineage right unit) := by
  let congruence := (Similarity.alike hidden).congruence collaborators
    fun _ regular => respects_regular hides shows regular
  have verified : Job.Matches (.alike hidden) collaborators Eq
      (verifyUnit config programFile lineage unit)
      (verifyUnit (config.reporting reporting) programFile lineage unit) :=
    congruence.verifyUnit (fun _ _ => Job.matches_request (respects_alike hides rfl)) config
      programFile lineage unit
  have silent : (Request.clock : Request K).isSilent hidden := rfl
  have clock : Job.Matches (.alike hidden) collaborators (fun _ _ => True) Job.clock Job.clock :=
    Job.matches_request (respects_silent hides silent)
  have announced := (silent_announceUnit hides config unit).matches
    (silent_announceUnit hides (config.reporting reporting) unit)
  rw [verifyNext_eq, verifyNext_eq]
  refine announced.bind_eq fun _ => clock.bind fun start begin _ => ?_
  refine verified.bind_eq fun result => clock.bind fun stop ending _ => ?_
  refine (matches_recordUnit same result).bind fun extended other alike => ?_
  have reported := (silent_reportUnit hides config result (stop - start)).matches
    (silent_reportUnit hides (config.reporting reporting) result (ending - begin))
  exact reported.bind_eq fun _ => Job.matches_pure alike

def Config.observed (hides : collaborators.Hides hidden)
    (within : ∀ toCall, hidden toCall → toCall.isShow)
    (shows : ∀ program, Job.Matches (.alike hidden) collaborators Eq (printReports config program)
      (printReports (config.reporting reporting) program)) :
    Config.Congruence K config reporting :=
  let congruence := (Similarity.alike hidden).congruence collaborators
    fun _ regular => respects_regular hides within regular
  have counts (key : String) (amount : UInt64) : congruence.holds
      (Job.request (.count key amount)) (Job.request (.count key amount)) :=
    Job.matches_request (respects_alike hides rfl)
  { toCongruence := congruence.toCongruence
    translates := congruence.translateUnits counts config
    verifies := fun programFile lineage units => by
      refine Job.Matches.bind ?_ fun left right same => Job.matches_pure same
      exact Job.matches_foldlM (fun left right unit same =>
        matches_verifyNext hides within programFile lineage same unit) rfl
    generates := congruence.generate (Job.matches_request (respects_alike hides rfl))
    builds := fun _ => congruence.buildCounted counts (Job.matches_timedCall
      (respects_alike hides rfl) (respects_alike hides rfl)
      (respects_regular hides within rfl))
    shows := shows }

theorem silent_printReports (hides : collaborators.Hides (·.isShow)) (config : Config)
    (program : K.Program) :
    Job.Silent collaborators (·.isShow) (printReports config program) () := by
  have statistics : Job.Silent collaborators (·.isShow) (Job.call (.showStatistics program)) () :=
    Job.silent_request hides rfl fun _ => rfl
  have callGraph : Job.Silent collaborators (·.isShow) (Job.call (.showCallGraph program)) () :=
    Job.silent_request hides rfl fun _ => rfl
  have optional : Job.Silent collaborators (·.isShow)
      (if config.showCallGraph then Job.call (.showCallGraph program) else pure ()) () :=
    callGraph.optional
  unfold printReports
  dsimp only
  split
  · exact statistics.bind optional
  · exact optional

/-- What is reported, and what was measured before, makes no difference to what a run does. -/
theorem makeAll_alike (hides : collaborators.Hides (·.isShow)) (config : Config)
    (reporting : Reporting) (files others : List Source) {left right : Machine K}
    (alike : left.Alike (·.isShow) right) :
    ((makeAll config files others).run collaborators left).1 =
        ((makeAll (config.reporting reporting) files others).run collaborators right).1 ∧
      ((makeAll config files others).run collaborators left).2.Alike (·.isShow)
        ((makeAll (config.reporting reporting) files others).run collaborators right).2 := by
  have shows (program : K.Program) : Job.Matches (.alike (·.isShow)) collaborators Eq
      (printReports config program) (printReports (config.reporting reporting) program) :=
    (silent_printReports hides config program).matches
      (silent_printReports hides (config.reporting reporting) program)
  obtain ⟨agree, after⟩ :=
    (Config.observed hides (fun _ => id) shows).makeAll files others alike
  exact ⟨agree.eq, after⟩

end VerifiedBuild
