import VerifiedBuild.Proofs.Interruption
import VerifiedBuild.Proofs.Parallel

/-!
# Machines that show different text

Machines that differ in what was put on the output stream, in the metrics and in the time, and in
calls that are hidden. Such machines answer alike, if the collaborators do, and stay as they are
when text is put out or a hidden call is made. What the log takes in is no output, so the log must
not lag behind the transcript of either machine.
-/

namespace VerifiedBuild

variable {K : Toolkit} {collaborators : Collaborators K} {hidden : Call K → Bool}

/-! ## Consoles -/

namespace Console

def muted (console : Console) : Console :=
  { console with transcript := console.transcript.filter (·.stream ≠ .out) }

theorem muted_write (console : Console) (text : String) :
    (console.write text).muted = console.muted := by
  simp [write, emit, add, muted]

theorem muted_add (console : Console) {emission : Emission} (audible : emission.stream ≠ .out) :
    (console.add emission).muted = console.muted.add emission := by
  simp [add, muted, audible]

theorem muted_errorLine (console : Console) (line : String) :
    (console.errorLine line).muted = console.muted.errorLine line := by
  obtain ⟨transcript, _ | index, tally⟩ := console
  · simp [errorLine, emit, add, muted]
  · simp [errorLine, emit, add, muted]

def count (console : Console) (severity : Severity) : Console :=
  { console with tally := console.tally.add severity }

theorem report_eq (console : Console) (diagnostic : Diagnostic) :
    console.report diagnostic =
      if diagnostic.severity = .error then
        (console.count diagnostic.severity).errorLine diagnostic.render
      else (console.count diagnostic.severity).writeLine diagnostic.render :=
  rfl

theorem muted_count (console : Console) (severity : Severity) :
    (console.count severity).muted = console.muted.count severity :=
  rfl

theorem muted_report {left right : Console} (same : left.muted = right.muted)
    (diagnostic : Diagnostic) : (left.report diagnostic).muted = (right.report diagnostic).muted := by
  rw [report_eq, report_eq]
  split
  · rw [muted_errorLine, muted_errorLine, muted_count, muted_count, same]
  · rw [writeLine, writeLine, muted_write, muted_write, muted_count, muted_count, same]

theorem muted_foldl {ι : Type} {step : Console → ι → Console}
    (each : ∀ {left right : Console} item, left.muted = right.muted →
      (step left item).muted = (step right item).muted)
    (items : List ι) {left right : Console} (same : left.muted = right.muted) :
    (items.foldl step left).muted = (items.foldl step right).muted := by
  induction items generalizing left right with
  | nil => exact same
  | cons item rest ih => exact ih (each item same)

theorem muted_foldl_add {emissions others : List Emission}
    (audible : emissions.filter (·.stream ≠ .out) = others.filter (·.stream ≠ .out))
    {left right : Console} (same : left.muted = right.muted) :
    (emissions.foldl add left).muted = (others.foldl add right).muted := by
  have added (emissions : List Emission) (console : Console) :
      (emissions.foldl add console).muted =
        (emissions.filter (·.stream ≠ .out)).foldl add console.muted := by
    induction emissions generalizing console with
    | nil => rfl
    | cons emission rest ih =>
        rw [List.foldl_cons, ih]
        by_cases out : emission.stream = .out
        · simp [out, add, muted]
        · simp [out, muted_add]
  rw [added, added, audible, same]

end Console

namespace Machine

theorem muted_display {left right : Console} (shown : Channel × Diagnostic)
    (same : left.muted = right.muted) :
    (display left shown).muted = (display right shown).muted := by
  obtain ⟨channel, diagnostic⟩ := shown
  cases channel with
  | source => exact Console.muted_report same diagnostic
  | engine => exact Console.muted_foldl (fun other here => Console.muted_report here other) _ same

end Machine

/-! ## Replies -/

structure Reply.Agrees {toCall : Call K} (reply other : Reply toCall) : Prop where
  reports : reply.reports = other.reports
  childOut : reply.childOut = other.childOut
  childErr : reply.childErr = other.childErr
  host : reply.host = other.host
  result : reply.result = other.result

/-- Nothing happens but that text is put out. -/
structure Reply.Quiet {toCall : Call K} (reply : Reply toCall) (host : Host) : Prop where
  reports : reply.reports = []
  childOut : reply.childOut = ""
  childErr : reply.childErr = ""
  host : reply.host = host
  result : ∃ answer, reply.result = .ok answer

/-- Hidden calls only put out text, and no other reply depends on them. -/
structure Collaborators.Hides (collaborators : Collaborators K) (hidden : Call K → Bool) :
    Prop where
  quiet : ∀ earlier toCall host, hidden toCall → (collaborators earlier toCall host).Quiet host
  steady : ∀ earlier toCall host, hidden toCall = false →
    (collaborators earlier toCall host).Agrees
      (collaborators (earlier.filter (!hidden ·)) toCall host)

theorem Collaborators.hides_nothing (collaborators : Collaborators K) :
    collaborators.Hides fun _ => false where
  quiet _ _ _ impossible := nomatch impossible
  steady earlier toCall host _ := by
    have all : earlier.filter (fun _ => true) = earlier := List.filter_true earlier
    simp only [Bool.not_false, all]
    exact ⟨rfl, rfl, rfl, rfl, rfl⟩

/-! ## The log -/

def Writer.takeIn (writer : Writer) (store : Store) (lines : List Octets) : Writer × Store :=
  match store.held with
  | none => (writer, store)
  | some place =>
      lines.foldl (fun (writer, store) line => writer.putLine store place line) (writer, store)

def Emission.logLines (emissions : List Emission) : List Octets :=
  (emissions.filter (·.stream = .log 0)).map fun emission => Octets.ofText emission.text

namespace Machine

/-- The log has taken in all that was shown. -/
def Settled (machine : Machine K) : Prop :=
  ∀ log, machine.log = some log → log.seen = machine.console.transcript.length

/-- The machine after lines were handed over: what is left of the writer, and the store. -/
def keepLog (machine : Machine K) (kept : Writer × Store) : Machine K :=
  { machine.setStore kept.2 with
    log := some { writer := kept.1, seen := machine.console.transcript.length } }

theorem updateLog_none {machine : Machine K} (closed : machine.log = none) :
    machine.updateLog = machine := by
  rw [updateLog, closed]

theorem updateLog_some {machine : Machine K} {log : OpenLog} (opened : machine.log = some log) :
    machine.updateLog = machine.keepLog (log.writer.takeIn machine.host.store
      (Emission.logLines (machine.console.transcript.drop log.seen))) := by
  rw [updateLog, opened]
  dsimp only [withLog, Writer.takeIn, keepLog]
  cases machine.host.store.held <;> rfl

theorem updateLog_of_settled {machine : Machine K} (settled : machine.Settled) :
    machine.updateLog = machine := by
  cases opened : machine.log with
  | none => exact updateLog_none opened
  | some log =>
      have seen := settled log opened
      have nothing : log.writer.takeIn machine.host.store (Emission.logLines []) =
          (log.writer, machine.host.store) := by
        unfold Writer.takeIn
        cases machine.host.store.held <;> rfl
      rw [updateLog_some opened, seen, List.drop_length, nothing, keepLog, ← seen]
      obtain ⟨console, host, metrics, clock, timing, _, history⟩ := machine
      cases opened
      rfl

theorem settled_updateLog (machine : Machine K) : machine.updateLog.Settled := by
  intro log opened
  cases before : machine.log with
  | none =>
      rw [updateLog_none before, before] at opened
      cases opened
  | some old =>
      rw [updateLog_some before] at opened ⊢
      cases opened
      rfl

end Machine

/-! ## Machines -/

/-- Requests that change nothing but what is put out and what the clock shows. -/
def Request.isSilent (hidden : Call K → Bool) : Request K → Bool
  | .call toCall => hidden toCall
  | .write _ | .clock => true
  | _ => false

def Event.audible (hidden : Call K → Bool) (events : List (Event K)) : List (Event K) :=
  events.filter (!·.request.isSilent hidden)

/-- The machines differ only in what silent requests change, and in the metrics. -/
structure Machine.Alike (hidden : Call K → Bool) (left right : Machine K) : Prop where
  console : left.console.muted = right.console.muted
  host : left.host = right.host
  writer : left.log.map (·.writer) = right.log.map (·.writer)
  history : Event.audible hidden left.history = Event.audible hidden right.history
  settled : left.Settled ∧ right.Settled

namespace Machine

theorem alike_self {machine : Machine K} (settled : machine.Settled) :
    machine.Alike hidden machine :=
  ⟨rfl, rfl, rfl, rfl, settled, settled⟩

theorem Alike.symm {left right : Machine K} (alike : left.Alike hidden right) :
    right.Alike hidden left :=
  ⟨alike.console.symm, alike.host.symm, alike.writer.symm, alike.history.symm, alike.settled.symm⟩

theorem Alike.trans {left middle right : Machine K} (first : left.Alike hidden middle)
    (second : middle.Alike hidden right) : left.Alike hidden right :=
  ⟨first.console.trans second.console, first.host.trans second.host,
    first.writer.trans second.writer, first.history.trans second.history, first.settled.1,
    second.settled.2⟩

theorem Alike.tally {left right : Machine K} (alike : left.Alike hidden right) :
    left.console.tally = right.console.tally := by
  have muted : left.console.muted.tally = right.console.muted.tally := by rw [alike.console]
  exact muted

/-- From machines that are alike, text was added of which the audible part is the same. -/
structure Grown (left right further other : Machine K) : Prop where
  shows : left.console.Grows further.console
  alsoShows : right.console.Grows other.console
  leftLog : further.log = left.log
  rightLog : other.log = right.log
  console : further.console.muted = other.console.muted
  host : further.host = other.host

theorem Alike.logLines {left right further other : Machine K} {log opened : OpenLog}
    (alike : left.Alike hidden right) (grown : left.Grown right further other)
    (leftLog : left.log = some log) (rightLog : right.log = some opened) :
    Emission.logLines (further.console.transcript.drop log.seen) =
      Emission.logLines (other.console.transcript.drop opened.seen) := by
  obtain ⟨more, leftWhole⟩ := grown.shows
  obtain ⟨others, rightWhole⟩ := grown.alsoShows
  rw [alike.settled.1 log leftLog, alike.settled.2 opened rightLog, ← leftWhole, ← rightWhole,
    List.drop_left, List.drop_left]
  have audible := congrArg Console.transcript grown.console
  have before := congrArg Console.transcript alike.console
  simp only [Console.muted, ← leftWhole, ← rightWhole, List.filter_append] at audible before
  rw [before] at audible
  have same := List.append_cancel_left audible
  have heard (emissions : List Emission) : emissions.filter (·.stream = .log 0) =
      (emissions.filter (·.stream ≠ .out)).filter (·.stream = .log 0) := by
    rw [List.filter_filter]
    congr 1
    funext ⟨stream, text⟩
    cases stream <;> simp
  rw [Emission.logLines, Emission.logLines, heard more, heard others, same]

theorem Alike.updateLog {left right further other : Machine K} (alike : left.Alike hidden right)
    (grown : left.Grown right further other) {past others : List (Event K)}
    (same : Event.audible hidden past = Event.audible hidden others) :
    Alike hidden { further.updateLog with history := past }
      { other.updateLog with history := others } := by
  have settled : further.updateLog.Settled ∧ other.updateLog.Settled :=
    ⟨settled_updateLog further, settled_updateLog other⟩
  have writers := alike.writer
  cases leftLog : left.log with
  | none =>
      rw [leftLog] at writers
      have rightLog : right.log = none := by simpa using writers.symm
      have closed := grown.leftLog.trans leftLog
      have alsoClosed := grown.rightLog.trans rightLog
      rw [updateLog_none closed, updateLog_none alsoClosed] at settled ⊢
      refine ⟨grown.console, grown.host, ?_, same, settled⟩
      rw [closed, alsoClosed]
  | some log =>
      rw [leftLog] at writers
      obtain ⟨opened, rightLog, writer⟩ := Option.map_eq_some_iff.mp writers.symm
      have lines := alike.logLines grown leftLog rightLog
      rw [updateLog_some (grown.leftLog.trans leftLog),
        updateLog_some (grown.rightLog.trans rightLog)] at settled ⊢
      rw [lines, grown.host, writer] at settled ⊢
      refine ⟨grown.console, ?_, rfl, same, settled⟩
      simp only [keepLog, setStore, grown.host]

/-! ### Answers -/

theorem log_stopPhase (machine : Machine K) : machine.stopPhase.log = machine.log := by
  unfold stopPhase
  split <;> rfl

theorem host_stopPhase (machine : Machine K) : machine.stopPhase.host = machine.host := by
  unfold stopPhase
  split <;> rfl

theorem settled_stopPhase {machine : Machine K} (settled : machine.Settled) :
    machine.stopPhase.Settled := by
  intro log opened
  rw [log_stopPhase] at opened
  rw [console_stopPhase]
  exact settled log opened

theorem settled_perform (machine : Machine K) (collaborators : Collaborators K)
    (request : Request K) : (machine.perform collaborators request).2.Settled :=
  settled_updateLog (machine.answer collaborators request).2

theorem Alike.grown_stopPhase {left right : Machine K} (alike : left.Alike hidden right) :
    left.Grown right left.stopPhase right.stopPhase := by
  constructor
  case shows =>
    rw [console_stopPhase]
    exact .refl _
  case alsoShows =>
    rw [console_stopPhase]
    exact .refl _
  case leftLog => exact left.log_stopPhase
  case rightLog => exact right.log_stopPhase
  case console => rw [console_stopPhase, console_stopPhase, alike.console]
  case host => rw [host_stopPhase, host_stopPhase, alike.host]

theorem audible_calls (events : List (Event K)) :
    (Event.calls events).filter (!hidden ·) = Event.calls (Event.audible hidden events) := by
  rw [Event.calls, Event.calls, Event.audible, List.filter_filterMap, List.filterMap_filter]
  congr 1
  funext event
  obtain ⟨request, result⟩ := event
  cases request with
  | call toCall => cases heard : hidden toCall <;> simp [Request.call?, Request.isSilent, heard]
  | _ => simp [Request.call?, Request.isSilent]

theorem audible_texts (printed childOut childErr : String) :
    (([⟨.out, printed⟩, ⟨.childOut, childOut⟩, ⟨.childErr, childErr⟩] : List Emission).filter
      (·.text ≠ "")).filter (·.stream ≠ .out) =
    ([⟨.childOut, childOut⟩, ⟨.childErr, childErr⟩] : List Emission).filter (·.text ≠ "") := by
  rw [List.filter_comm]
  rfl

theorem muted_absorb {left right : Machine K} {toCall : Call K} {reply other : Reply toCall}
    (console : left.console.muted = right.console.muted) (agrees : reply.Agrees other) :
    (left.absorb reply).console.muted = (right.absorb other).console.muted := by
  refine Console.muted_foldl_add ?_ ?_
  · rw [audible_texts, audible_texts, agrees.childOut, agrees.childErr]
  · rw [agrees.reports]
    exact Console.muted_foldl muted_display _ console

theorem Alike.replies {left right : Machine K} (alike : left.Alike hidden right)
    (hides : collaborators.Hides hidden) {toCall : Call K} (heard : hidden toCall = false) :
    (collaborators left.calls toCall left.host).Agrees
      (collaborators right.calls toCall right.host) := by
  have steady := hides.steady left.calls toCall left.host heard
  have alsoSteady := hides.steady right.calls toCall right.host heard
  have calls : left.calls.filter (!hidden ·) = right.calls.filter (!hidden ·) := by
    rw [calls, calls, audible_calls, audible_calls, alike.history]
  rw [alike.host, calls] at steady
  rw [alike.host]
  exact ⟨steady.reports.trans alsoSteady.reports.symm,
    steady.childOut.trans alsoSteady.childOut.symm,
    steady.childErr.trans alsoSteady.childErr.symm, steady.host.trans alsoSteady.host.symm,
    steady.result.trans alsoSteady.result.symm⟩

theorem Alike.answer {left right : Machine K} (alike : left.Alike hidden right)
    (hides : collaborators.Hides hidden) {request : Request K}
    (heard : request.isSilent hidden = false) (closed : ∀ path, request ≠ .openLog path) :
    (left.answer collaborators request).1 = (right.answer collaborators request).1 ∧
      left.Grown right (left.answer collaborators request).2
        (right.answer collaborators request).2 := by
  have shows := left.grows_answer collaborators request
  have alsoShows := right.grows_answer collaborators request
  cases request with
  | call toCall =>
      have agrees := alike.replies hides heard
      exact ⟨agrees.result, shows, alsoShows, rfl, rfl, muted_absorb alike.console agrees,
        agrees.host⟩
  | errorLine line =>
      refine ⟨rfl, shows, alsoShows, rfl, rfl, ?_, alike.host⟩
      change (left.console.errorLine line).muted = (right.console.errorLine line).muted
      rw [Console.muted_errorLine, Console.muted_errorLine, alike.console]
  | look =>
      exact ⟨congrArg Except.ok alike.host, shows, alsoShows, rfl, rfl, alike.console, alike.host⟩
  | errorCount =>
      refine ⟨?_, shows, alsoShows, rfl, rfl, alike.console, alike.host⟩
      simp only [Machine.answer, alike.tally]
  | restartTally =>
      exact ⟨rfl, shows, alsoShows, rfl, rfl,
        congrArg (fun console => { console with tally := {} }) alike.console, alike.host⟩
  | saveFile path text =>
      have same := alike.host
      refine ⟨?_, shows, alsoShows, rfl, rfl, alike.console, ?_⟩
      · simp only [Machine.answer, same]
      · simp only [Machine.answer, setStore, same]
  | copyFile source destination =>
      have same := alike.host
      refine ⟨?_, shows, alsoShows, rfl, rfl, alike.console, ?_⟩
      · simp only [Machine.answer, same]
      · simp only [Machine.answer, setStore, same]
  | openLog path => exact absurd rfl (closed path)
  | startPhase phase =>
      have stopped := alike.grown_stopPhase
      exact ⟨rfl, shows, alsoShows, stopped.leftLog, stopped.rightLog, stopped.console,
        stopped.host⟩
  | stopPhase => exact ⟨rfl, alike.grown_stopPhase⟩
  | count key amount => exact ⟨rfl, shows, alsoShows, rfl, rfl, alike.console, alike.host⟩
  | write text => cases heard
  | clock => cases heard

theorem Alike.audible_append {left right : Machine K} (alike : left.Alike hidden right)
    {request : Request K} {result other : Except Failure request.Answer} (same : result = other) :
    Event.audible hidden (left.history ++ [⟨request, result⟩]) =
      Event.audible hidden (right.history ++ [⟨request, other⟩]) := by
  have before := alike.history
  unfold Event.audible at before ⊢
  rw [List.filter_append, List.filter_append, before, same]

theorem Alike.perform_openLog {left right : Machine K} (alike : left.Alike hidden right)
    (collaborators : Collaborators K) (path : String) :
    (left.perform collaborators (.openLog path)).1 =
        (right.perform collaborators (.openLog path)).1 ∧
      (left.perform collaborators (.openLog path)).2.Alike hidden
        (right.perform collaborators (.openLog path)).2 := by
  have same := alike.host
  simp only [Machine.perform, Machine.answer, same]
  cases right.host.store.openForWriting path with
  | error failure =>
      have kept : left.Grown right left right :=
        ⟨.refl _, .refl _, rfl, rfl, alike.console, same⟩
      exact ⟨rfl, alike.updateLog kept (alike.audible_append rfl)⟩
  | ok opened =>
      obtain ⟨store, place⟩ := opened
      -- The log begins with what is shown next, so there is nothing to take in yet.
      have fresh (machine : Machine K) : Settled
          { machine.setStore { store with held := some place } with
            log := some { seen := machine.console.transcript.length }
            console := { machine.console with errorLog := some 0 } } := by
        intro log here
        cases here
        rfl
      rw [updateLog_of_settled (fresh left), updateLog_of_settled (fresh right)]
      refine ⟨rfl, ?_, ?_, rfl, alike.audible_append rfl, fresh left, fresh right⟩
      · exact congrArg (fun console : Console => { console with errorLog := some 0 }) alike.console
      · simp only [setStore, same]

theorem Alike.perform {left right : Machine K} (alike : left.Alike hidden right)
    (hides : collaborators.Hides hidden) {request : Request K}
    (heard : request.isSilent hidden = false) :
    (left.perform collaborators request).1 = (right.perform collaborators request).1 ∧
      (left.perform collaborators request).2.Alike hidden
        (right.perform collaborators request).2 := by
  rcases Classical.em (∃ path, request = .openLog path) with ⟨path, rfl⟩ | closed
  · exact alike.perform_openLog collaborators path
  · obtain ⟨same, grown⟩ := alike.answer hides heard fun path here => closed ⟨path, here⟩
    exact ⟨same, alike.updateLog grown (alike.audible_append same)⟩

theorem alike_perform_silent {machine : Machine K} (settled : machine.Settled)
    (hides : collaborators.Hides hidden) {request : Request K}
    (silent : request.isSilent hidden) :
    (∃ answer, (machine.perform collaborators request).1 = .ok answer) ∧
      machine.Alike hidden (machine.perform collaborators request).2 := by
  have shows := machine.grows_answer collaborators request
  have forgotten (result : Except Failure request.Answer) :
      Event.audible hidden machine.history =
        Event.audible hidden (machine.history ++ [⟨request, result⟩]) := by
    simp [Event.audible, List.filter_append, silent]
  have stays (grown : machine.Grown machine machine (machine.answer collaborators request).2) :
      machine.Alike hidden (machine.perform collaborators request).2 := by
    have before : machine.Alike hidden machine := alike_self settled
    have alike := before.updateLog grown (forgotten (machine.answer collaborators request).1)
    rw [updateLog_of_settled settled] at alike
    exact alike
  cases request with
  | call toCall =>
      have quiet := hides.quiet machine.calls toCall machine.host silent
      refine ⟨quiet.result, stays ⟨.refl _, shows, rfl, rfl, Eq.symm ?_, quiet.host.symm⟩⟩
      change (machine.absorb _).console.muted = (([] : List Emission).foldl Console.add _).muted
      rw [absorb, quiet.reports]
      refine Console.muted_foldl_add ?_ rfl
      rw [audible_texts, quiet.childOut, quiet.childErr]
      rfl
  | write text =>
      refine ⟨⟨(), rfl⟩, stays ⟨.refl _, shows, rfl, rfl, ?_, rfl⟩⟩
      exact (machine.console.muted_write text).symm
  | clock => exact ⟨⟨machine.clock, rfl⟩, stays ⟨.refl _, shows, rfl, rfl, rfl, rfl⟩⟩
  | _ => cases silent

/-! ### What can be observed -/

theorem Alike.stopPhase {left right : Machine K} (alike : left.Alike hidden right) :
    left.stopPhase.Alike hidden right.stopPhase := by
  have stopped := alike.grown_stopPhase
  constructor
  case console => exact stopped.console
  case host => exact stopped.host
  case writer => rw [log_stopPhase, log_stopPhase, alike.writer]
  case history => rw [history_stopPhase, history_stopPhase, alike.history]
  case settled => exact ⟨settled_stopPhase alike.settled.1, settled_stopPhase alike.settled.2⟩

theorem Alike.text {left right : Machine K} (alike : left.Alike hidden right) {stream : Stream}
    (audible : stream ≠ .out) :
    stream.text left.console.transcript = stream.text right.console.transcript := by
  have heard (console : Console) :
      stream.text console.muted.transcript = stream.text console.transcript := by
    rw [Stream.text, Console.muted, List.filter_filter, Stream.text]
    congr 3
    funext emission
    by_cases here : emission.stream = stream
    · simp [here, audible]
    · simp [here]
  rw [← heard, alike.console, heard]

theorem Alike.exchanges {left right : Machine K} (alike : left.Alike hidden right) :
    left.exchanges.filter (!hidden ·.call) = right.exchanges.filter (!hidden ·.call) := by
  have heard (machine : Machine K) : machine.exchanges.filter (!hidden ·.call) =
      (Event.audible hidden machine.history).filterMap Event.exchange? := by
    rw [Machine.exchanges, Event.audible, List.filter_filterMap, List.filterMap_filter]
    congr 1
    funext event
    obtain ⟨request, result⟩ := event
    cases request with
    | call toCall => cases said : hidden toCall <;> simp [Event.exchange?, Request.isSilent, said]
    | _ => simp [Event.exchange?, Request.isSilent]
  rw [heard, heard, alike.history]

theorem Alike.fileWrites {left right : Machine K} (alike : left.Alike hidden right) :
    left.fileWrites = right.fileWrites := by
  have heard (machine : Machine K) : machine.fileWrites =
      (Event.audible hidden machine.history).filter (·.request.isFileWrite) := by
    rw [Machine.fileWrites, Event.audible, List.filter_filter]
    congr 1
    funext event
    obtain ⟨request, result⟩ := event
    cases request <;> rfl
  rw [heard, heard, alike.history]

end Machine

/-! ## Jobs -/

def Similarity.alike (hidden : Call K → Bool) : Similarity K where
  rel := Machine.Alike hidden
  stopPhase alike := alike.stopPhase

variable {α β : Type}

theorem respects_alike (hides : collaborators.Hides hidden) {request : Request K}
    (heard : request.isSilent hidden = false) :
    (Similarity.alike hidden).Respects collaborators request Eq := by
  intro left right alike
  obtain ⟨same, after⟩ := alike.perform hides heard
  rw [same]
  exact ⟨agree_rfl _, after⟩

theorem respects_silent (hides : collaborators.Hides hidden) {request : Request K}
    (silent : request.isSilent hidden) :
    (Similarity.alike hidden).Respects collaborators request fun _ _ => True := by
  intro left right alike
  obtain ⟨⟨answer, answered⟩, stays⟩ :=
    Machine.alike_perform_silent alike.settled.1 hides silent
  obtain ⟨⟨other, alsoAnswered⟩, alsoStays⟩ :=
    Machine.alike_perform_silent alike.settled.2 hides silent
  rw [answered, alsoAnswered]
  exact ⟨.ok trivial, (stays.symm.trans alike).trans alsoStays⟩

namespace Job

/-- On settled machines the job ends with the value and leaves the machine as it is. -/
def Silent (collaborators : Collaborators K) (hidden : Call K → Bool) (job : Job K α) (value : α) :
    Prop :=
  ∀ ⦃machine⦄, machine.Settled → (job.run collaborators machine).1 = .ok value ∧
    machine.Alike hidden (job.run collaborators machine).2

theorem silent_pure (value : α) : Silent collaborators hidden (pure value) value := by
  intro machine settled
  exact ⟨rfl, Machine.alike_self settled⟩

theorem silent_request (hides : collaborators.Hides hidden) {request : Request K}
    (silent : request.isSilent hidden) {answer : request.Answer}
    (only : ∀ other : request.Answer, other = answer) :
    Silent collaborators hidden (Job.request request) answer := by
  intro machine settled
  obtain ⟨⟨given, answered⟩, stays⟩ := Machine.alike_perform_silent settled hides silent
  rw [Job.request, run]
  generalize machine.perform collaborators request = performed at answered stays
  obtain ⟨result, after⟩ := performed
  obtain rfl : result = .ok given := answered
  exact ⟨congrArg Except.ok (only given), stays⟩

theorem silent_write (hides : collaborators.Hides hidden) (text : String) :
    Silent collaborators hidden (Job.write text) () :=
  silent_request hides rfl fun _ => rfl

theorem Silent.bind {job : Job K α} {next : α → Job K β} {value : α} {result : β}
    (first : Silent collaborators hidden job value)
    (rest : Silent collaborators hidden (next value) result) :
    Silent collaborators hidden (job >>= next) result := by
  intro machine settled
  obtain ⟨ended, alike⟩ := first settled
  rw [run_bind]
  generalize job.run collaborators machine = ran at ended alike
  obtain ⟨_, middle⟩ := ran
  obtain rfl : _ = Except.ok value := ended
  obtain ⟨finished, alsoAlike⟩ := rest alike.settled.2
  exact ⟨finished, alike.trans alsoAlike⟩

theorem Silent.optional {condition : Prop} [Decidable condition] {job : Job K Unit}
    (silent : Silent collaborators hidden job ()) :
    Silent collaborators hidden (if condition then job else pure ()) () := by
  split
  · exact silent
  · exact silent_pure ()

theorem Silent.matches {job other : Job K α} {value : α}
    (first : Silent collaborators hidden job value)
    (second : Silent collaborators hidden other value) :
    Matches (.alike hidden) collaborators Eq job other := by
  intro left right alike
  obtain ⟨ended, stays⟩ := first alike.settled.1
  obtain ⟨alsoEnded, alsoStays⟩ := second alike.settled.2
  rw [ended, alsoEnded]
  exact ⟨.ok rfl, (stays.symm.trans alike).trans alsoStays⟩

end Job

end VerifiedBuild
