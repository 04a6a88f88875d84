import VerifiedBuild.Proofs.Interruption
import VerifiedBuild.Proofs.Parallel

/-!
# The count of diagnostics

The console counts the diagnostics it shows and never starts again while a run goes on. Nothing in a
run but the generation of code looks at the count, and that only to see whether it has grown. So
what was counted before a run has no influence on it.
-/

namespace VerifiedBuild

variable {K : Toolkit} {α : Type} {collaborators : Collaborators K}

/-! ## Counting -/

namespace Tally

def addAll (tally : Tally) (severities : List Severity) : Tally :=
  severities.foldl add tally

def plus (tally more : Tally) : Tally where
  errors := tally.errors + more.errors
  warnings := tally.warnings + more.warnings
  infos := tally.infos + more.infos

theorem addAll_append (tally : Tally) (first second : List Severity) :
    tally.addAll (first ++ second) = (tally.addAll first).addAll second :=
  List.foldl_append

theorem plus_add (tally more : Tally) (severity : Severity) :
    tally.plus (more.add severity) = (tally.plus more).add severity := by
  cases severity <;> rfl

theorem addAll_plus (tally more : Tally) (severities : List Severity) :
    (tally.plus more).addAll severities = tally.plus (more.addAll severities) := by
  induction severities generalizing more with
  | nil => rfl
  | cons severity rest ih =>
      have step := ih (more.add severity)
      rw [plus_add] at step
      exact step

theorem addAll_eq_plus (tally : Tally) (severities : List Severity) :
    tally.addAll severities = tally.plus (addAll {} severities) :=
  addAll_plus tally {} severities

def of (tally : Tally) : Severity → Nat
  | .error => tally.errors
  | .warning => tally.warnings
  | .info => tally.infos

theorem of_add (tally : Tally) (severity added : Severity) :
    (tally.add added).of severity = tally.of severity + if added == severity then 1 else 0 := by
  cases added <;> cases severity <;> rfl

theorem of_addAll (tally : Tally) (severities : List Severity) (severity : Severity) :
    (tally.addAll severities).of severity = tally.of severity + severities.count severity := by
  induction severities generalizing tally with
  | nil => rfl
  | cons added rest ih =>
      have step := ih (tally.add added)
      rw [of_add] at step
      rw [List.count_cons]
      change ((tally.add added).addAll rest).of severity = _
      omega

/-- A counter of 64 bits, which is raised by one for each diagnostic of the severity and wraps. -/
def countWord (severity : Severity) (severities : List Severity) (counter : UInt64) : UInt64 :=
  severities.foldl (fun counter added => if added == severity then counter + 1 else counter) counter

theorem countWord_ofNat (tally : Tally) (severities : List Severity) (severity : Severity) :
    countWord severity severities (UInt64.ofNat (tally.of severity)) =
      UInt64.ofNat ((tally.addAll severities).of severity) := by
  induction severities generalizing tally with
  | nil => rfl
  | cons added rest ih =>
      have step : (if added == severity then UInt64.ofNat (tally.of severity) + 1
          else UInt64.ofNat (tally.of severity)) = UInt64.ofNat ((tally.add added).of severity) := by
        rw [of_add]
        split
        · exact (UInt64.ofNat_add _ 1).symm
        · rfl
      have later := ih (tally.add added)
      rw [← step] at later
      exact later

theorem errors_addAll (tally : Tally) (severities : List Severity) :
    (tally.addAll severities).errors = tally.errors + severities.count .error :=
  tally.of_addAll severities .error

end Tally

/-! ## Consoles -/

namespace Console

def recount (console : Console) (tally : Tally) : Console :=
  { console with tally }

variable (console : Console) (tally : Tally)

theorem recount_errorLine (line : String) :
    (console.recount tally).errorLine line = (console.errorLine line).recount tally := by
  obtain ⟨transcript, _ | index, _⟩ := console <;> rfl

theorem recount_report (diagnostic : Diagnostic) :
    (console.recount tally).report diagnostic =
      (console.report diagnostic).recount (tally.add diagnostic.severity) := by
  unfold report
  dsimp only
  split
  · rw [← recount_errorLine]
    rfl
  · rfl

end Console

def Channel.severities : Channel × Diagnostic → List Severity
  | (.source, diagnostic) => [diagnostic.severity]
  | (.engine, diagnostic) => diagnostic.inSource.map (·.severity)

namespace Machine

theorem foldl_report_recount (diagnostics : List Diagnostic) (console : Console) (tally : Tally) :
    diagnostics.foldl Console.report (console.recount tally) =
      (diagnostics.foldl Console.report console).recount
        (tally.addAll (diagnostics.map (·.severity))) := by
  induction diagnostics generalizing console tally with
  | nil => rfl
  | cons diagnostic rest ih =>
      rw [List.foldl_cons, Console.recount_report]
      exact ih _ _

theorem display_recount (console : Console) (tally : Tally) (shown : Channel × Diagnostic) :
    display (console.recount tally) shown =
      (display console shown).recount (tally.addAll (Channel.severities shown)) := by
  obtain ⟨channel, diagnostic⟩ := shown
  cases channel with
  | source => exact console.recount_report tally diagnostic
  | engine => exact foldl_report_recount diagnostic.inSource console tally

theorem foldl_display_recount (reports : List (Channel × Diagnostic)) (console : Console)
    (tally : Tally) :
    reports.foldl display (console.recount tally) =
      (reports.foldl display console).recount
        (tally.addAll (reports.flatMap Channel.severities)) := by
  induction reports generalizing console tally with
  | nil => rfl
  | cons shown rest ih =>
      rw [List.foldl_cons, display_recount, ih, List.flatMap_cons, Tally.addAll_append]
      rfl

theorem foldl_add_recount (emissions : List Emission) (console : Console) (tally : Tally) :
    emissions.foldl Console.add (console.recount tally) =
      (emissions.foldl Console.add console).recount tally := by
  induction emissions generalizing console with
  | nil => rfl
  | cons emission rest ih => exact ih (console.add emission)

end Machine

def Reply.severities {toCall : Call K} (reply : Reply toCall) : List Severity :=
  reply.reports.flatMap Channel.severities

/-! ## Machines -/

def Request.asksCount : Request K → Bool
  | .errorCount => true
  | _ => false

def Request.isTallied : Request K → Bool
  | .errorCount | .restartTally => true
  | _ => false

namespace Machine

def reply (machine : Machine K) (collaborators : Collaborators K) (toCall : Call K) :
    Reply toCall :=
  collaborators machine.calls toCall machine.host

def severities (machine : Machine K) (collaborators : Collaborators K) :
    Request K → List Severity
  | .call toCall => (machine.reply collaborators toCall).severities
  | _ => []

def recount (machine : Machine K) (tally : Tally) (history : List (Event K)) : Machine K :=
  { machine with console := machine.console.recount tally, history }

/-- The machine without the count and what was said of it. -/
def uncounted (machine : Machine K) : Machine K :=
  machine.recount {} (machine.history.filter (!·.request.asksCount))

theorem recount_uncounted (machine : Machine K) :
    machine.uncounted.recount machine.console.tally machine.history = machine :=
  rfl

variable (machine : Machine K) (tally : Tally) (history : List (Event K))

theorem recount_stopPhase :
    (machine.recount tally history).stopPhase = machine.stopPhase.recount tally history := by
  obtain ⟨console, host, metrics, clock, _ | timing, log, events⟩ := machine <;> rfl

theorem recount_updateLog :
    (machine.recount tally history).updateLog = machine.updateLog.recount tally history := by
  obtain ⟨console, host, metrics, clock, timing, _ | log, events⟩ := machine
  · rfl
  · rfl

theorem recount_absorb {toCall : Call K} (reply : Reply toCall) :
    (machine.recount tally history).absorb reply =
      (machine.absorb reply).recount (tally.addAll reply.severities) history := by
  have shown := foldl_display_recount reply.reports machine.console tally
  unfold absorb
  simp only [recount] at shown ⊢
  rw [shown, foldl_add_recount]
  rfl

theorem recount_answer (collaborators : Collaborators K) {request : Request K}
    (untallied : request.isTallied = false) (same : Event.calls history = machine.calls) :
    (machine.recount tally history).answer collaborators request =
      ((machine.answer collaborators request).1,
        (machine.answer collaborators request).2.recount
          (tally.addAll (machine.severities collaborators request)) history) := by
  cases request with
  | call toCall =>
      have replied : (machine.recount tally history).reply collaborators toCall =
          machine.reply collaborators toCall := by
        change collaborators (Event.calls history) toCall machine.host = _
        rw [same]
        rfl
      change (((machine.recount tally history).reply collaborators toCall).result,
        (machine.recount tally history).absorb
          ((machine.recount tally history).reply collaborators toCall)) = _
      rw [replied, recount_absorb]
      rfl
  | errorLine line =>
      have shown : (machine.recount tally history).console.errorLine line =
          (machine.console.errorLine line).recount tally :=
        machine.console.recount_errorLine tally line
      simp only [answer]
      rw [shown]
      rfl
  | errorCount => cases untallied
  | restartTally => cases untallied
  | openLog path =>
      have here : (machine.recount tally history).host = machine.host := rfl
      simp only [answer, here]
      cases machine.host.store.openForWriting path <;> rfl
  | startPhase phase =>
      have stopped := machine.recount_stopPhase tally history
      simp only [answer]
      rw [stopped]
      rfl
  | stopPhase =>
      have stopped := machine.recount_stopPhase tally history
      simp only [answer]
      rw [stopped]
      rfl
  | _ => rfl

theorem recount_perform (collaborators : Collaborators K) {request : Request K}
    (untallied : request.isTallied = false) (same : Event.calls history = machine.calls) :
    (machine.recount tally history).perform collaborators request =
      ((machine.perform collaborators request).1,
        (machine.perform collaborators request).2.recount
          (tally.addAll (machine.severities collaborators request))
          (history ++ [⟨request, (machine.perform collaborators request).1⟩])) := by
  have answered := machine.recount_answer tally history collaborators untallied same
  simp only [perform]
  rw [answered]
  dsimp only
  rw [recount_updateLog]
  rfl

theorem tally_perform (machine : Machine K) (collaborators : Collaborators K) {request : Request K}
    (continued : request ≠ .restartTally) :
    (machine.perform collaborators request).2.console.tally =
      machine.console.tally.addAll (machine.severities collaborators request) := by
  have counted (untallied : request.isTallied = false) :
      (machine.perform collaborators request).2.console.tally =
        machine.console.tally.addAll (machine.severities collaborators request) :=
    congrArg (fun performed => performed.2.console.tally)
      (machine.recount_perform machine.console.tally machine.history collaborators untallied rfl)
  cases request with
  | errorCount => exact congrArg Console.tally machine.console_updateLog
  | restartTally => exact absurd rfl continued
  | _ => exact counted rfl

theorem calls_uncounted (machine : Machine K) : machine.uncounted.calls = machine.calls := by
  change Event.calls (machine.history.filter _) = Event.calls machine.history
  rw [Event.calls, List.filterMap_filter, Event.calls]
  congr 1
  funext event
  obtain ⟨request, result⟩ := event
  cases request <;> rfl

theorem exchanges_uncounted (machine : Machine K) :
    machine.uncounted.exchanges = machine.exchanges := by
  change (machine.history.filter _).filterMap Event.exchange? = _
  rw [List.filterMap_filter, exchanges]
  congr 1
  funext event
  obtain ⟨request, result⟩ := event
  cases request <;> rfl

theorem fileWrites_uncounted (machine : Machine K) :
    machine.uncounted.fileWrites = machine.fileWrites := by
  change (machine.history.filter _).filter _ = _
  rw [List.filter_filter, fileWrites]
  congr 1
  funext event
  obtain ⟨request, result⟩ := event
  cases request <;> rfl

end Machine

/-! ## Machines that counted otherwise -/

/-- The machines differ in nothing but what they had counted by some time, `first` and `second`, and
have counted the same since then. -/
structure Machine.Recounted (first second : Tally) (left right : Machine K) : Prop where
  same : left.uncounted = right.uncounted
  counted : ∃ severities, left.console.tally = first.addAll severities ∧
    right.console.tally = second.addAll severities

namespace Machine.Recounted

variable {first second : Tally} {left right : Machine K}

theorem of_recount {base : Machine K} {past others : List (Event K)} {severities : List Severity}
    (same : past.filter (!·.request.asksCount) = others.filter (!·.request.asksCount)) :
    Recounted first second (base.recount (first.addAll severities) past)
      (base.recount (second.addAll severities) others) where
  same := congrArg (base.recount {}) same
  counted := ⟨severities, rfl, rfl⟩

theorem exists_recount (recounted : Recounted first second left right) :
    ∃ (base : Machine K) (past others : List (Event K)) (severities : List Severity),
      left = base.recount (first.addAll severities) past ∧
      right = base.recount (second.addAll severities) others ∧
      past.filter (!·.request.asksCount) = others.filter (!·.request.asksCount) ∧
      Event.calls past = base.calls ∧ Event.calls others = base.calls := by
  obtain ⟨severities, leftTally, rightTally⟩ := recounted.counted
  refine ⟨left.uncounted, left.history, right.history, severities, ?_, ?_, ?_, ?_, ?_⟩
  · rw [← leftTally, recount_uncounted]
  · rw [← rightTally, recounted.same, recount_uncounted]
  · exact congrArg Machine.history recounted.same
  · exact left.calls_uncounted.symm
  · rw [recounted.same]
    exact right.calls_uncounted.symm

theorem stopPhase (recounted : Recounted first second left right) :
    Recounted first second left.stopPhase right.stopPhase := by
  obtain ⟨base, past, others, severities, rfl, rfl, same, -, -⟩ := recounted.exists_recount
  rw [recount_stopPhase, recount_stopPhase]
  exact .of_recount same

theorem perform (recounted : Recounted first second left right)
    (collaborators : Collaborators K) {request : Request K}
    (untallied : request.isTallied = false) :
    (left.perform collaborators request).1 = (right.perform collaborators request).1 ∧
      Recounted first second (left.perform collaborators request).2
        (right.perform collaborators request).2 := by
  obtain ⟨base, past, others, severities, rfl, rfl, same, inPast, inOthers⟩ :=
    recounted.exists_recount
  rw [recount_perform _ _ _ _ untallied inPast, recount_perform _ _ _ _ untallied inOthers,
    ← Tally.addAll_append, ← Tally.addAll_append]
  refine ⟨rfl, .of_recount ?_⟩
  rw [List.filter_append, List.filter_append, same]

theorem perform_errorCount (recounted : Recounted first second left right)
    (collaborators : Collaborators K) :
    ∃ more,
      (left.perform collaborators .errorCount).1 = .ok (first.errors + more) ∧
      (right.perform collaborators .errorCount).1 = .ok (second.errors + more) ∧
      Recounted first second (left.perform collaborators .errorCount).2
        (right.perform collaborators .errorCount).2 := by
  obtain ⟨base, past, others, severities, rfl, rfl, same, -, -⟩ := recounted.exists_recount
  have asked (tally : Tally) (history : List (Event K)) :
      (base.recount tally history).perform collaborators .errorCount =
        (.ok tally.errors,
          base.updateLog.recount tally (history ++ [⟨.errorCount, .ok tally.errors⟩])) := by
    simp only [Machine.perform, answer]
    rw [recount_updateLog]
    rfl
  rw [asked, asked]
  refine ⟨severities.count .error, ?_, ?_, .of_recount ?_⟩
  · rw [Tally.errors_addAll]
  · rw [Tally.errors_addAll]
  · rw [List.filter_append, List.filter_append, same]
    rfl

end Machine.Recounted

def Similarity.recounted (first second : Tally) : Similarity K where
  rel := Machine.Recounted first second
  stopPhase recounted := recounted.stopPhase

def RisenAlike (first second : Tally) (left right : Nat) : Prop :=
  left + second.errors = right + first.errors

section

variable {first second : Tally}

/-- Between two looks both counts have risen, or neither has. -/
theorem RisenAlike.unchanged_iff {before after other another : Nat}
    (risen : RisenAlike first second before other)
    (later : RisenAlike first second after another) : after = before ↔ another = other := by
  unfold RisenAlike at risen later
  omega

theorem respects_recounted {request : Request K} (untallied : request.isTallied = false) :
    (Similarity.recounted first second).Respects collaborators request Eq := by
  intro left right recounted
  obtain ⟨same, after⟩ := recounted.perform collaborators untallied
  rw [same]
  exact ⟨agree_rfl _, after⟩

theorem respects_errorCount :
    (Similarity.recounted first second).Respects collaborators .errorCount
      (RisenAlike first second) := by
  intro left right recounted
  obtain ⟨more, leftCount, rightCount, after⟩ := recounted.perform_errorCount collaborators
  rw [leftCount, rightCount]
  refine ⟨.ok ?_, after⟩
  unfold RisenAlike
  omega

theorem Request.untallied_of_isRegular {request : Request K} (regular : request.isRegular) :
    request.isTallied = false := by
  cases request <;> first | rfl | cases regular

end

end VerifiedBuild
