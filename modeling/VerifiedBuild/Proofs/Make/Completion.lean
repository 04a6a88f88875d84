import VerifiedBuild.Proofs.Make.Stages

/-!
# What the calls of a run show of its stages

Which translations and which runs of units were completed can be read off the calls with their
answers alone. A translation is completed unless a failure ends it, which may be one of its prints. A
unit is completed when there is nothing to prove, when it was solved, or when a malformed translation
of it was looked at again as far as that goes.
-/

namespace VerifiedBuild

variable {K : Toolkit} {collaborators : Collaborators K} {config : Config} {before after : Machine K}
  {made others : List (Exchange K)} {failure : Failure}

/-! ## Reading the calls -/

namespace Exchange

/-- No failure ends the prints that come first. -/
def printed : List (Exchange K) → Bool
  | ⟨.print _ _, .ok _⟩ :: rest => printed rest
  | ⟨.print _ _, .error _⟩ :: _ => false
  | _ => true

/-- The second look at a malformed translation, which comes first, is taken to its end. -/
def lookedAgain : List (Exchange K) → Bool
  | ⟨.print _ _, .ok (some _)⟩ :: _ => true
  | ⟨.print _ _, .ok none⟩ :: ⟨.parse _, .ok none⟩ :: _ => true
  | ⟨.print _ _, .ok none⟩ :: ⟨.parse _, .ok (some _)⟩ :: ⟨.check .reparsed _ _, .ok _⟩ :: _ => true
  | _ => false

/-- How many units a translation gives that is completed by this call and those first in `rest`. -/
def units? (rest : List (Exchange K)) : Exchange K → Option Nat
  | ⟨.translate _, .ok units⟩ => if printed rest then some units.length else none
  | _ => none

/-- The verdict on a unit that is completed by this call and those first in `rest`. -/
def verified? (rest : List (Exchange K)) : Exchange K → Option Bool
  | ⟨.check .translated _ _, .ok outcome⟩ =>
      if outcome = .done ∨ outcome.isMalformed ∧ lookedAgain rest then some (isProved outcome {})
      else none
  | ⟨.verify _ _, .ok verdict⟩ => some (isProved verdict.outcome verdict.statistics)
  | _ => none

def translations : List (Exchange K) → List Nat
  | [] => []
  | exchange :: rest => (exchange.units? rest).toList ++ translations rest

def verdicts : List (Exchange K) → List Bool
  | [] => []
  | exchange :: rest => (exchange.verified? rest).toList ++ verdicts rest

def isBuilt : Exchange K → Bool
  | ⟨.build _, .ok report⟩ => report.ok
  | _ => false

/-- Calls that show nothing, whatever comes after them. -/
def isMute : Exchange K → Bool
  | ⟨.translate _, .ok _⟩ | ⟨.print _ _, .error _⟩ | ⟨.check .translated _ _, .ok _⟩ => false
  | ⟨.verify _ _, .ok _⟩ | ⟨.build _, .ok _⟩ => false
  | _ => true

end Exchange

/-- What is to be read off these calls, whatever comes after them. -/
structure Attests (made : List (Exchange K)) (units : List Nat) (verdicts : List Bool)
    (builds : Nat) : Prop where
  printed : ∀ rest : List (Exchange K), Exchange.printed rest → Exchange.printed (made ++ rest)
  translations : ∀ rest : List (Exchange K), Exchange.printed rest →
    Exchange.translations (made ++ rest) = units ++ Exchange.translations rest
  verdicts : ∀ rest : List (Exchange K),
    Exchange.verdicts (made ++ rest) = verdicts ++ Exchange.verdicts rest
  builds : made.countP (·.isBuilt) = builds

namespace Attests

variable {units moreUnits : List Nat} {verdicts moreVerdicts : List Bool} {builds moreBuilds : Nat}

theorem nil : Attests ([] : List (Exchange K)) [] [] 0 :=
  ⟨fun _ printed => printed, fun _ _ => rfl, fun _ => rfl, rfl⟩

theorem append (first : Attests made units verdicts builds)
    (later : Attests others moreUnits moreVerdicts moreBuilds) :
    Attests (made ++ others) (units ++ moreUnits) (verdicts ++ moreVerdicts)
      (builds + moreBuilds) := by
  constructor
  case printed =>
    intro rest printed
    rw [List.append_assoc]
    exact first.printed _ (later.printed rest printed)
  case translations =>
    intro rest printed
    rw [List.append_assoc, List.append_assoc, first.translations _ (later.printed rest printed),
      later.translations rest printed]
  case verdicts =>
    intro rest
    rw [List.append_assoc, List.append_assoc, first.verdicts, later.verdicts]
  case builds => rw [List.countP_append, first.builds, later.builds]

theorem of_isMute {exchange : Exchange K} (mute : exchange.isMute) : Attests [exchange] [] [] 0 := by
  obtain ⟨toCall, result⟩ := exchange
  cases toCall with
  | check text program path =>
      cases text <;> cases result <;>
        first | exact ⟨fun _ _ => rfl, fun _ _ => rfl, fun _ => rfl, rfl⟩ | cases mute
  | print program path =>
      cases result with
      | ok answer => exact ⟨fun _ => id, fun _ _ => rfl, fun _ => rfl, rfl⟩
      | error failure => cases mute
  | _ =>
      cases result <;>
        first | exact ⟨fun _ _ => rfl, fun _ _ => rfl, fun _ => rfl, rfl⟩ | cases mute

theorem cons_of_isMute {exchange : Exchange K} (mute : exchange.isMute)
    (later : Attests made units verdicts builds) :
    Attests (exchange :: made) units verdicts builds := by
  have whole := (of_isMute mute).append later
  rw [Nat.zero_add] at whole
  exact whole

theorem readings (attests : Attests made units verdicts builds) :
    Exchange.translations made = units ∧ Exchange.verdicts made = verdicts := by
  have translations := attests.translations [] rfl
  have judged := attests.verdicts []
  rw [List.append_nil, Exchange.translations, List.append_nil] at translations
  rw [List.append_nil, Exchange.verdicts, List.append_nil] at judged
  exact ⟨translations, judged⟩

end Attests

/-! ## Units -/

section
variable {program : K.ProofProgram} {path : String} {key : Option String} {verdict : Verdict}
  {outcome : Outcome}

theorem attests_check (goesOn : outcome ≠ .done) (wellFormed : outcome.isMalformed = false) :
    Attests [⟨.check .translated program path, .ok outcome⟩] [] [] 0 := by
  refine ⟨fun _ _ => rfl, fun _ _ => rfl, fun rest => ?_, rfl⟩
  simp [Exchange.verdicts, Exchange.verified?, goesOn, wellFormed]

/-- After a malformed translation was checked, what follows decides whether its unit is completed. -/
theorem attests_malformed (malformed : outcome.isMalformed) {again : List (Exchange K)}
    (complete : Bool) (looked : ∀ rest, Exchange.lookedAgain (again ++ rest) = complete)
    (silent : ∀ rest, Exchange.translations (again ++ rest) = Exchange.translations rest ∧
      Exchange.verdicts (again ++ rest) = Exchange.verdicts rest)
    (unbuilt : again.countP (·.isBuilt) = 0) :
    Attests (⟨.check .translated program path, .ok outcome⟩ :: again) []
      (if complete then [isProved outcome {}] else []) 0 := by
  have goesOn : outcome ≠ .done := by
    rintro rfl
    cases malformed
  refine ⟨fun _ _ => rfl, fun rest _ => (silent rest).1, fun rest => ?_, unbuilt⟩
  cases complete <;>
    simp [Exchange.verdicts, Exchange.verified?, goesOn, malformed, looked rest, (silent rest).2]

theorem Course.attests (course : Course program path key made verdict) :
    Attests made [] [isProved verdict.outcome verdict.statistics] 0 := by
  cases course with
  | nothingToProve => exact ⟨fun _ _ => rfl, fun _ _ => rfl, fun _ => rfl, rfl⟩
  | notPrinted malformed error =>
      exact attests_malformed malformed true (fun _ => rfl) (fun _ => ⟨rfl, rfl⟩) rfl
  | notReadBack malformed =>
      exact attests_malformed malformed true (fun _ => rfl) (fun _ => ⟨rfl, rfl⟩) rfl
  | checkedAgain malformed reparsed second =>
      exact attests_malformed malformed true (fun _ => rfl) (fun _ => ⟨rfl, rfl⟩) rfl
  | solved verdict => exact ⟨fun _ _ => rfl, fun _ _ => rfl, fun _ => rfl, rfl⟩

theorem recheck_error_attests (malformed : outcome.isMalformed)
    (runs : (recheck program path).Runs collaborators before (.error failure) made after) :
    Attests (⟨.check .translated program path, .ok outcome⟩ :: made) [] [] 0 := by
  unfold recheck at runs
  rcases Job.runs_call_bind runs with ⟨printed, _, _, afterPrint, rfl⟩ | ⟨_, -, rfl⟩
  · cases printed with
    | some error => cases ((Job.runs_aside rfl).mp afterPrint).1
    | none =>
        obtain ⟨_, -, afterBlank⟩ := (Job.runs_aside_bind rfl).mp afterPrint
        obtain ⟨_, -, afterNotice⟩ := (Job.runs_aside_bind rfl).mp afterBlank
        obtain ⟨_, -, reading⟩ := (Job.runs_aside_bind rfl).mp afterNotice
        rcases Job.runs_call_bind reading with ⟨read, _, _, afterParse, rfl⟩ | ⟨_, -, rfl⟩
        · cases read with
          | none => cases (Job.runs_pure.mp afterParse).1
          | some reparsed =>
              rcases Job.runs_call_bind afterParse with ⟨_, _, _, ending, -⟩ | ⟨_, -, rfl⟩
              · cases (Job.runs_pure.mp ending).1
              · exact attests_malformed malformed false (fun _ => rfl) (fun _ => ⟨rfl, rfl⟩) rfl
        · exact attests_malformed malformed false (fun _ => rfl) (fun _ => ⟨rfl, rfl⟩) rfl
  · exact attests_malformed malformed false (fun _ => rfl) (fun _ => ⟨rfl, rfl⟩) rfl

theorem transforms_attests {passes : List Pass} {result : Except Failure Unit}
    (runs : (passes.forM fun pass => Job.call (.transform pass program)).Runs collaborators before
      result made after) : Attests made [] [] 0 := by
  induction passes generalizing before made with
  | nil =>
      obtain ⟨-, rfl, -⟩ := Job.runs_pure.mp runs
      exact .nil
  | cons pass rest ih =>
      rcases Job.runs_call_bind runs with ⟨_, _, _, later, rfl⟩ | ⟨_, -, rfl⟩
      · exact .cons_of_isMute rfl (ih later)
      · exact Attests.of_isMute rfl

theorem solve_error_attests
    (runs : (solve program key).Runs collaborators before (.error failure) made after) :
    Attests made [] [] 0 := by
  unfold solve at runs
  rcases Job.runs_bind.mp runs with ⟨_, _, _, _, optimized, solved, rfl⟩ | ⟨_, -, optimized⟩
  · obtain ⟨_, _, transforms⟩ := Job.runs_timed optimized
    obtain ⟨_, _, verify⟩ := Job.runs_timed solved
    obtain rfl := Job.runs_call verify
    exact (transforms_attests transforms).append (Attests.of_isMute rfl)
  · obtain ⟨_, _, transforms⟩ := Job.runs_timed optimized
    exact transforms_attests transforms

theorem checkAndSolve_error_attests
    (runs : (checkAndSolve program path key).Runs collaborators before (.error failure) made after) :
    Attests made [] [] 0 := by
  unfold checkAndSolve at runs
  rcases Job.runs_bind.mp runs with ⟨outcome, _, _, _, check, later, rfl⟩ | ⟨_, -, check⟩
  · obtain ⟨_, _, check⟩ := Job.runs_timed check
    obtain rfl := Job.runs_call check
    have again (malformed : outcome.isMalformed) {start : Machine K} {made : List (Exchange K)}
        (runs : (recheck program path >>= fun _ => pure ({ outcome } : Verdict)).Runs collaborators
          start (.error failure) made after) :
        Attests (⟨.check .translated program path, .ok outcome⟩ :: made) [] [] 0 := by
      rcases Job.runs_bind.mp runs with ⟨_, _, _, _, -, ending, -⟩ | ⟨_, -, failed⟩
      · cases (Job.runs_pure.mp ending).1
      · exact recheck_error_attests malformed failed
    cases outcome with
    | done => cases (Job.runs_pure.mp later).1
    | unresolved => exact again rfl later
    | illTyped => exact again rfl later
    | checked =>
        have first : Attests [⟨.check .translated program path, .ok .checked⟩] [] [] 0 :=
          attests_check nofun rfl
        exact first.append (solve_error_attests later)
    | solved =>
        obtain ⟨-, rfl, -⟩ := Job.runs_fail.mp later
        exact attests_check nofun rfl
    | other code =>
        obtain ⟨-, rfl, -⟩ := Job.runs_fail.mp later
        exact attests_check nofun rfl
  · obtain ⟨_, _, check⟩ := Job.runs_timed check
    obtain rfl := Job.runs_call check
    exact Attests.of_isMute rfl

theorem verifyUnit_attests {programFile : String} {lineage : Option String} {unit : ProofUnit K}
    {result : Except Failure UnitReport}
    (runs : (verifyUnit config programFile lineage unit).Runs collaborators before result made
      after) :
    Attests made [] (result.toOption.map (·.verified)).toList 0 := by
  cases result with
  | ok report =>
      obtain ⟨program, verdict, -, course, rfl⟩ := verifyUnit_ok runs
      exact course.attests
  | error failure =>
      unfold verifyUnit at runs
      cases provided : unit.program with
      | none =>
          rw [provided] at runs
          obtain ⟨-, rfl, -⟩ := Job.runs_fail.mp runs
          exact .nil
      | some program =>
          rw [provided] at runs
          obtain ⟨host, -, runs⟩ := (Job.runs_aside_bind rfl).mp runs
          rcases Job.runs_bind.mp runs with ⟨_, _, _, _, -, counted, -⟩ | ⟨_, -, failed⟩
          · obtain ⟨_, -, ending⟩ := (Job.runs_aside_bind rfl).mp counted
            cases (Job.runs_pure.mp ending).1
          · exact checkAndSolve_error_attests failed

end

/-! ## Translations -/

/-- Prints, of which the last one fails. -/
inductive CutShort : List (Exchange K) → Prop
  | last (program : K.ProofProgram) (path : String) (failure : Failure) :
      CutShort [⟨.print program path, .error failure⟩]
  | cons (program : K.ProofProgram) (path : String) (answer : Option String)
      {made : List (Exchange K)} (later : CutShort made) :
      CutShort (⟨.print program path, .ok answer⟩ :: made)

theorem CutShort.silent (cut : CutShort made) (rest : List (Exchange K)) :
    Exchange.printed (made ++ rest) = false ∧
      Exchange.translations (made ++ rest) = Exchange.translations rest ∧
      Exchange.verdicts (made ++ rest) = Exchange.verdicts rest := by
  induction cut with
  | last => exact ⟨rfl, rfl, rfl⟩
  | cons _ _ _ _ ih => exact ih

theorem CutShort.unbuilt (cut : CutShort made) : made.countP (·.isBuilt) = 0 := by
  induction cut with
  | last => rfl
  | cons _ _ _ _ ih => exact ih

theorem printUnit_runs {modules : Nat} {conditionsFile : String} {unit : ProofUnit K}
    {result : Except Failure Unit}
    (runs : (printUnit modules conditionsFile unit).Runs collaborators before result made after) :
    result = .ok () ∧ (made = [] ∨
        ∃ program path answer, made = [⟨.print program path, .ok answer⟩]) ∨
      ∃ failure program path, result = .error failure ∧
        made = [⟨.print program path, .error failure⟩] := by
  unfold printUnit at runs
  cases provided : unit.program with
  | none =>
      rw [provided] at runs
      obtain ⟨rfl, rfl, -⟩ := Job.runs_pure.mp runs
      exact .inl ⟨rfl, .inl rfl⟩
  | some program =>
      rw [provided] at runs
      rcases Job.runs_call_bind runs with ⟨answer, _, _, later, rfl⟩ | ⟨failure, rfl, rfl⟩
      · cases answer with
        | none =>
            obtain ⟨rfl, rfl, -⟩ := Job.runs_pure.mp later
            exact .inl ⟨rfl, .inr ⟨program, _, _, rfl⟩⟩
        | some error =>
            obtain ⟨rfl, rfl, -⟩ := (Job.runs_aside rfl).mp later
            exact .inl ⟨rfl, .inr ⟨program, _, _, rfl⟩⟩
      · exact .inr ⟨failure, program, _, rfl, rfl⟩

theorem printUnits_runs {modules : Nat} {units : List (ProofUnit K)} {result : Except Failure Unit}
    (runs : (printUnits config modules units).Runs collaborators before result made after) :
    result = .ok () ∧ Attests made [] [] 0 ∨
      ∃ failure, result = .error failure ∧ CutShort made := by
  unfold printUnits at runs
  split at runs
  · obtain ⟨rfl, rfl, -⟩ := Job.runs_pure.mp runs
    exact .inl ⟨rfl, .nil⟩
  next conditionsFile _ =>
  induction units generalizing before made with
  | nil =>
      obtain ⟨rfl, rfl, -⟩ := Job.runs_pure.mp runs
      exact .inl ⟨rfl, .nil⟩
  | cons unit rest ih =>
      rcases Job.runs_bind.mp runs with ⟨_, _, _, _, first, later, rfl⟩ | ⟨failure, rfl, first⟩
      · rcases printUnit_runs first with ⟨-, printed⟩ | ⟨_, _, _, failed, -⟩
        · rcases printed with rfl | ⟨program, path, answer, rfl⟩
          · exact ih later
          · rcases ih later with ⟨rfl, attests⟩ | ⟨failure, rfl, cut⟩
            · exact .inl ⟨rfl, .cons_of_isMute rfl attests⟩
            · exact .inr ⟨failure, rfl, .cons program path answer cut⟩
        · cases failed
      · rcases printUnit_runs first with ⟨ended, -⟩ | ⟨_, program, path, -, rfl⟩
        · cases ended
        · exact .inr ⟨failure, rfl, .last program path _⟩

theorem Attests.translated {program : K.Program} {units : List (ProofUnit K)}
    (prints : Attests made [] [] 0) :
    Attests (⟨.translate program, .ok units⟩ :: made) [units.length] [] 0 := by
  refine ⟨fun _ _ => rfl, fun rest printed => ?_, prints.verdicts, prints.builds⟩
  have here : Exchange.units? (made ++ rest) ⟨.translate program, .ok units⟩ =
      some units.length := if_pos (prints.printed rest printed)
  rw [List.cons_append, Exchange.translations, here, prints.translations rest printed]
  rfl

theorem CutShort.attests {program : K.Program} {units : List (ProofUnit K)} (cut : CutShort made) :
    Attests (⟨.translate program, .ok units⟩ :: made) [] [] 0 := by
  refine ⟨fun _ _ => rfl, fun rest _ => ?_, fun rest => (cut.silent rest).2.2, cut.unbuilt⟩
  have here : Exchange.units? (made ++ rest) ⟨.translate program, .ok units⟩ = none :=
    if_neg (Bool.eq_false_iff.mp (cut.silent rest).1)
  rw [List.cons_append, Exchange.translations, here, (cut.silent rest).2.1]
  rfl

theorem translateUnits_attests {program : K.Program} {result : Except Failure (List (ProofUnit K))}
    (runs : (translateUnits config program).Runs collaborators before result made after) :
    Attests made (result.toOption.map List.length).toList [] 0 := by
  rw [translateUnits_eq] at runs
  obtain ⟨_, _, runs⟩ := Job.runs_timed runs
  rcases Job.runs_call_bind runs with ⟨modules, _, _, gathering, rfl⟩ | ⟨_, rfl, rfl⟩
  · refine .cons_of_isMute rfl ?_
    rcases Job.runs_call_bind gathering with ⟨units, _, _, printing, rfl⟩ | ⟨_, rfl, rfl⟩
    · rcases Job.runs_bind.mp printing with ⟨_, _, _, _, prints, counted, rfl⟩ | ⟨_, rfl, prints⟩
      · obtain ⟨_, -, ending⟩ := (Job.runs_aside_bind rfl).mp counted
        obtain ⟨rfl, rfl, -⟩ := Job.runs_pure.mp ending
        rcases printUnits_runs prints with ⟨-, attests⟩ | ⟨_, failed, -⟩
        · rw [List.append_nil]
          exact .translated attests
        · cases failed
      · rcases printUnits_runs prints with ⟨ended, -⟩ | ⟨_, -, cut⟩
        · cases ended
        · exact cut.attests
    · exact .of_isMute rfl
  · exact .of_isMute rfl

/-! ## Stages -/

theorem buildCounted_runs {plan : BuildPlan} {result : Except Failure BuildReport}
    (runs : (buildCounted plan).Runs collaborators before result made after) :
    made = [⟨.build plan, result⟩] := by
  rcases Job.runs_bind.mp runs with ⟨built, _, _, _, first, rest, rfl⟩ | ⟨failure, rfl, failed⟩
  · obtain ⟨_, _, called⟩ := Job.runs_timed first
    obtain rfl := Job.runs_call called
    dsimp only at rest
    split at rest
    · obtain ⟨_, -, ending⟩ := (Job.runs_aside_bind rfl).mp rest
      obtain ⟨rfl, rfl, -⟩ := Job.runs_pure.mp ending
      rfl
    · obtain ⟨rfl, rfl, -⟩ := Job.runs_pure.mp rest
      rfl
  · obtain ⟨_, _, called⟩ := Job.runs_timed failed
    exact Job.runs_call called

theorem Request.attests_of_isUnstaged {request : Request K} (unstaged : request.isUnstaged)
    (answer : Except Failure request.Answer) :
    Attests (Event.exchange? ⟨request, answer⟩).toList [] [] 0 := by
  cases request with
  | call toCall =>
      refine .of_isMute ?_
      cases toCall <;> first | rfl | cases unstaged
  | _ => exact .nil

theorem Goes.attests {stage : Option Stage}
    (goes : Goes collaborators config before made stage after) :
    Attests made (stage.toList.filterMap (·.units?)) (stage.toList.filterMap (·.verified?))
      (stage.toList.countP (·.isBuilt)) := by
  cases goes with
  | aside unstaged runs =>
      rw [(Job.runs_request runs).2]
      exact Request.attests_of_isUnstaged unstaged _
  | stop => exact .nil
  | @translation _ _ _ _ result runs =>
      have attests := translateUnits_attests runs
      cases result <;> exact attests
  | @verification _ _ _ _ _ _ result runs =>
      have attests := verifyUnit_attests runs
      cases result <;> exact attests
  | @build _ _ _ _ result runs =>
      rw [buildCounted_runs runs]
      cases result <;> exact ⟨fun _ _ => rfl, fun _ _ => rfl, fun _ => rfl, rfl⟩

/-- What the calls show is what the stages come to. -/
theorem Proceeds.attests {stages : List Stage}
    (proceeds : Proceeds collaborators config before made stages after) :
    Attests made (stages.filterMap (·.units?)) (stages.filterMap (·.verified?))
      (stages.countP (·.isBuilt)) := by
  induction proceeds with
  | nil => exact .nil
  | cons goes _ ih =>
      rw [List.filterMap_append, List.filterMap_append, List.countP_append]
      exact goes.attests.append ih

end VerifiedBuild
