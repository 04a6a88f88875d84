import VerifiedBuild.Proofs.Console
import VerifiedBuild.Proofs.Reporting
import VerifiedBuild.Proofs.Throughout
import VerifiedBuild.Proofs.Writer

/-!
# The log of error lines

Once the log is open every error line goes to the error stream and to the log, whoever puts it there
and however the run ends. So the log is complete: it holds what the error stream got, up to the
notice of a failure that ended the work.
-/

namespace VerifiedBuild

variable {K : Toolkit} {collaborators : Collaborators K} {start : Nat}

/-! ## Consoles -/

namespace Console

variable {console : Console}

/-- Error lines are copied, and from `start` on the error stream and the log got the same text. -/
structure Mirrored (start : Nat) (console : Console) : Prop where
  copies : console.errorLog = some 0
  begun : start ≤ console.transcript.length
  same : Stream.err.text (console.transcript.drop start) =
    (Stream.log 0).text (console.transcript.drop start)

theorem Mirrored.append (mirrored : console.Mirrored start) {more : List Emission} (tally : Tally)
    (same : Stream.err.text more = (Stream.log 0).text more) :
    Mirrored start { console with transcript := console.transcript ++ more, tally } := by
  constructor
  case copies => exact mirrored.copies
  case begun =>
    rw [List.length_append]
    exact mirrored.begun.trans (Nat.le_add_right _ _)
  case same =>
    rw [List.drop_append_of_le_length mirrored.begun, Stream.text_append, Stream.text_append,
      mirrored.same, same]

theorem Mirrored.add (mirrored : console.Mirrored start) {emission : Emission}
    (apart : emission.stream ≠ .err ∧ emission.stream ≠ .log 0) :
    (console.add emission).Mirrored start :=
  mirrored.append console.tally (by simp [Stream.text, apart])

theorem Mirrored.write (mirrored : console.Mirrored start) (text : String) :
    (console.write text).Mirrored start :=
  mirrored.add (by simp)

theorem Mirrored.errorLine (mirrored : console.Mirrored start) (line : String) :
    (console.errorLine line).Mirrored start := by
  rw [errorLine_appends]
  refine mirrored.append console.tally ?_
  rw [mirrored.copies]
  exact (routed_errorEmissions (some 0) line).mirrored

theorem Mirrored.report (mirrored : console.Mirrored start) (diagnostic : Diagnostic) :
    (console.report diagnostic).Mirrored start := by
  rw [report_appends]
  refine mirrored.append _ ?_
  rw [mirrored.copies]
  exact (diagnostic.routed (some 0)).mirrored

theorem Mirrored.foldl {ι : Type} {step : Console → ι → Console} {items : List ι}
    (mirrored : console.Mirrored start) (each : ∀ (console : Console), ∀ item ∈ items,
      console.Mirrored start → (step console item).Mirrored start) :
    (items.foldl step console).Mirrored start := by
  induction items generalizing console with
  | nil => exact mirrored
  | cons item rest ih =>
      exact ih (each console item List.mem_cons_self mirrored) fun console other member =>
        each console other (List.mem_cons_of_mem _ member)

end Console

/-! ## Machines -/

def Request.isOpenLog : Request K → Bool
  | .openLog _ => true
  | _ => false

namespace Machine

variable {machine : Machine K}

theorem mirrored_display {console : Console} (mirrored : console.Mirrored start)
    (shown : Channel × Diagnostic) : (display console shown).Mirrored start := by
  obtain ⟨channel, diagnostic⟩ := shown
  cases channel with
  | source => exact mirrored.report diagnostic
  | engine => exact mirrored.foldl fun console other _ here => here.report other

theorem mirrored_absorb (mirrored : machine.console.Mirrored start) {toCall : Call K}
    (reply : Reply toCall) : (machine.absorb reply).console.Mirrored start := by
  refine Console.Mirrored.foldl (mirrored.foldl fun console shown _ here =>
    mirrored_display here shown) fun console emission member here => here.add ?_
  have printed := List.mem_of_mem_filter member
  simp only [List.mem_cons, List.not_mem_nil, or_false] at printed
  rcases printed with rfl | rfl | rfl <;> simp

theorem mirrored_answer (mirrored : machine.console.Mirrored start) {request : Request K}
    (other : request.isOpenLog = false) :
    (machine.answer collaborators request).2.console.Mirrored start := by
  cases request with
  | call toCall => exact mirrored_absorb mirrored _
  | write text => exact mirrored.write text
  | errorLine line => exact mirrored.errorLine line
  | openLog path => cases other
  | startPhase phase =>
      have same : (machine.answer collaborators (.startPhase phase)).2.console =
          machine.stopPhase.console := rfl
      rw [same, console_stopPhase]
      exact mirrored
  | stopPhase =>
      have same : (machine.answer collaborators .stopPhase).2.console =
          machine.stopPhase.console := rfl
      rw [same, console_stopPhase]
      exact mirrored
  | restartTally => exact ⟨mirrored.copies, mirrored.begun, mirrored.same⟩
  | _ => exact mirrored

theorem log_answer (machine : Machine K) (collaborators : Collaborators K) {request : Request K}
    (other : request.isOpenLog = false) :
    (machine.answer collaborators request).2.log = machine.log := by
  cases request with
  | openLog path => cases other
  | startPhase phase => exact machine.log_stopPhase
  | stopPhase => exact machine.log_stopPhase
  | _ => rfl

/-- The request leaves the content of the file that is held open as it is. -/
def Spares (collaborators : Collaborators K) (machine : Machine K) (request : Request K) : Prop :=
  request.isOpenLog ∨
    (machine.answer collaborators request).2.host.store.openContent =
      machine.host.store.openContent

instance (machine : Machine K) (request : Request K) :
    Decidable (machine.Spares collaborators request) :=
  inferInstanceAs (Decidable (_ ∨ _))

/-- The log has taken in what was put on it from `start` on, and the error stream got the same. -/
structure Logs (start : Nat) (machine : Machine K) : Prop where
  mirrored : machine.console.Mirrored start
  settled : machine.Settled
  taken : ∃ log place, machine.log = some log ∧ log.writer.Keeps machine.host.store place
    (Octets.ofText ((Stream.log 0).text (machine.console.transcript.drop start)))

theorem flatten_logLines (emissions : List Emission) :
    (Emission.logLines emissions).flatten = Octets.ofText ((Stream.log 0).text emissions) := by
  rw [Emission.logLines, Stream.text]
  induction emissions.filter (·.stream = .log 0) with
  | nil => rfl
  | cons emission rest ih => simp [Octets.ofText_append, ih]

theorem Logs.perform (logs : machine.Logs start) {request : Request K}
    (other : request.isOpenLog = false) (spares : machine.Spares collaborators request) :
    (machine.perform collaborators request).2.Logs start := by
  obtain ⟨mirrored, settled, log, place, opened, keeps⟩ := logs
  have console : (machine.perform collaborators request).2.console =
      (machine.answer collaborators request).2.console := console_updateLog _
  constructor
  case mirrored =>
    rw [console]
    exact mirrored_answer mirrored other
  case settled => exact machine.settled_perform collaborators request
  case taken =>
    have still := (machine.log_answer collaborators other).trans opened
    obtain ⟨there, stays⟩ := keeps.of_openContent (spares.resolve_left (by simp [other]))
    obtain ⟨more, grown⟩ := machine.grows_answer collaborators request
    have updated := updateLog_some still
    -- The log had taken in all there was, so what it has not seen is what the request added.
    have fresh : (machine.answer collaborators request).2.console.transcript.drop log.seen =
        more := by
      rw [settled log opened, ← grown, List.drop_left]
    rw [fresh] at updated
    refine ⟨_, there, congrArg Machine.log updated, ?_⟩
    have store : (machine.perform collaborators request).2.host.store =
        (log.writer.takeIn (machine.answer collaborators request).2.host.store
          (Emission.logLines more)).2 := congrArg (·.host.store) updated
    rw [store, console, ← grown, List.drop_append_of_le_length mirrored.begun, Stream.text_append,
      Octets.ofText_append, ← flatten_logLines more]
    exact stays.takeIn _

theorem Logs.stopPhase (logs : machine.Logs start) : machine.stopPhase.Logs start := by
  obtain ⟨mirrored, settled, taken⟩ := logs
  refine ⟨?_, settled_stopPhase settled, ?_⟩
  · rw [console_stopPhase]
    exact mirrored
  · rw [log_stopPhase, host_stopPhase, console_stopPhase]
    exact taken

/-- Closing the log hands over what waits. -/
theorem Logs.closeLog (logs : machine.Logs start) : ∃ place executable,
    machine.host.store.held = some place ∧
    machine.closeLog.host.store.lookup place = some (.file
      (Octets.ofText (Stream.err.text (machine.console.transcript.drop start))) executable) := by
  obtain ⟨mirrored, -, log, place, opened, keeps⟩ := logs
  have held := keeps.held
  obtain ⟨-, content, executable, found, -, whole⟩ := keeps.handOver []
  rw [List.append_nil, ← mirrored.same] at whole
  rw [closeLog_some opened, Writer.close, held]
  refine ⟨place, executable, rfl, ?_⟩
  rw [← whole]
  exact found.trans (by simp [Writer.handOver])

end Machine

/-! ## Runs -/

variable {parsed : Options.Parsed} {machine : Machine K}

def Rehearsal.Script.failing : Script :=
  { Script.single with
    frontendDiagnostics := [{ severity := .error, message := "no such name" }]
    trap := some ⟨.verify, .raised .foreign "out of memory"⟩ }

end VerifiedBuild
