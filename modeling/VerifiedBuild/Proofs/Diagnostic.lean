import Mathlib.Algebra.Ring.Nat
import VerifiedBuild.Proofs.Console
import VerifiedBuild.Proofs.Tally

/-!
# Sinks of diagnostics

The sources report on the console, the proof engine to a sink before it that moves columns and
tells of the origins of a location. What the console counts and shows of any sequence of reports
follows from what one report of the proof engine stands for.
-/

namespace VerifiedBuild

/-! ## Places -/

/-- The location is the place in the coordinates of the sources. -/
structure Realigned (place : Position) (location : Location) : Prop where
  file : location.file = place.file
  line : location.line = place.line
  column : location.column = max (place.column - 1) 0
  origins : location.origins = []
  /-- The same in arithmetic of 32 bits. -/
  word (column : Int32) (same : place.column = column.toInt) :
    location.column = (if 0 < column then column - 1 else 0).toInt

theorem Position.column_inSource (place : Position) :
    place.inSource.column = max (place.column - 1) 0 := by
  simp only [inSource]
  split <;> omega

theorem toInt_pred {column : Int32} (positive : 0 < column) :
    (column - 1).toInt = column.toInt - 1 := by
  have above : 0 < column.toInt := Int32.lt_iff_toInt_lt.mp positive
  have below := column.toInt_lt
  rw [Int32.toInt_sub, Int32.toInt_one]
  exact Int.bmod_eq_of_le (by omega) (by omega)

theorem Position.realigned (place : Position) : Realigned place { place.inSource with } where
  file := rfl
  line := rfl
  column := place.column_inSource
  origins := rfl
  word column same := by
    change place.inSource.column = _
    rw [column_inSource, same]
    split
    next positive =>
      have above : 0 < column.toInt := Int32.lt_iff_toInt_lt.mp positive
      rw [toInt_pred positive]
      omega
    next negative =>
      have below : ¬0 < column.toInt := fun above => negative (Int32.lt_iff_toInt_lt.mpr above)
      rw [Int32.toInt_zero]
      omega

/-! ## Sinks -/

structure Sink (σ : Type) where
  report : σ → Diagnostic → σ
  count : σ → Severity → Nat

/-- The sink of the proof engine before a target. -/
def Sink.realigning {σ : Type} (target : Sink σ) : Sink σ where
  report state diagnostic := diagnostic.location.origins.foldl
    (fun state origin => target.report state (.related diagnostic.category origin))
    (target.report state { diagnostic with location := diagnostic.location.inSource })
  count := target.count

theorem Sink.report_realigning {σ : Type} (target : Sink σ) (state : σ) (diagnostic : Diagnostic) :
    target.realigning.report state diagnostic =
      diagnostic.inSource.foldl target.report state := by
  rw [Diagnostic.inSource, List.foldl_cons, List.foldl_map]
  rfl

def Console.sink : Sink Console where
  report := Console.report
  count console := console.tally.of

def Channel.sink : Channel → Sink Console
  | .source => Console.sink
  | .engine => Console.sink.realigning

theorem Machine.display_eq_report (console : Console) (shown : Channel × Diagnostic) :
    display console shown = shown.1.sink.report console shown.2 := by
  obtain ⟨channel, diagnostic⟩ := shown
  cases channel with
  | source => rfl
  | engine => exact (Console.sink.report_realigning console diagnostic).symm

namespace Diagnostic

structure Tells (category : String) (origin : Position) (note : Diagnostic) : Prop where
  severity : note.severity = .info
  message : note.message = "Related location"
  category : note.category = category
  location : Realigned origin note.location

/-- What a diagnostic of the proof engine stands for: itself, then a note for each origin. -/
structure Expansion (diagnostic shown : Diagnostic) (notes : List Diagnostic) : Prop where
  severity : shown.severity = diagnostic.severity
  message : shown.message = diagnostic.message
  category : shown.category = diagnostic.category
  location : Realigned diagnostic.location.toPosition shown.location
  length : (shown :: notes).length = 1 + diagnostic.location.origins.length
  origins : List.Forall₂ (Tells diagnostic.category) diagnostic.location.origins notes

theorem expansion_inSource (diagnostic : Diagnostic) :
    diagnostic.Expansion { diagnostic with location := diagnostic.location.inSource }
      (diagnostic.location.origins.map (related diagnostic.category)) where
  severity := rfl
  message := rfl
  category := rfl
  location := diagnostic.location.toPosition.realigned
  length := by rw [List.length_cons, List.length_map, Nat.add_comm]
  origins := by
    refine List.forall₂_map_right_iff.mpr (List.forall₂_same.mpr fun origin _ => ?_)
    exact ⟨rfl, rfl, rfl, origin.realigned⟩

end Diagnostic

/-! ## Counts -/

namespace Channel

def diagnostics : Channel × Diagnostic → List Diagnostic
  | (.source, diagnostic) => [diagnostic]
  | (.engine, diagnostic) => diagnostic.inSource

def notes : Channel × Diagnostic → Nat
  | (.source, _) => 0
  | (.engine, diagnostic) => diagnostic.location.origins.length

theorem count_diagnostics (shown : Channel × Diagnostic) (severity : Severity) :
    ((diagnostics shown).map (·.severity)).count severity =
      (if shown.2.severity == severity then 1 else 0) +
        if severity = .info then notes shown else 0 := by
  obtain ⟨channel, diagnostic⟩ := shown
  cases channel with
  | source => simp [diagnostics, notes, List.count_singleton]
  | engine =>
      have infos : (diagnostic.location.origins.map (Diagnostic.related diagnostic.category)).map
          (·.severity) = List.replicate diagnostic.location.origins.length .info := by
        rw [List.map_map]
        exact List.map_const'
      simp only [diagnostics, notes, Diagnostic.inSource]
      rw [List.map_cons, infos, List.count_cons, List.count_replicate, Nat.add_comm]
      cases severity <;> rfl

theorem count_flatMap_diagnostics (reports : List (Channel × Diagnostic)) (severity : Severity) :
    ((reports.flatMap diagnostics).map (·.severity)).count severity =
      (reports.map (·.2.severity)).count severity +
        if severity = .info then (reports.map notes).sum else 0 := by
  induction reports with
  | nil => cases severity <;> rfl
  | cons shown rest ih =>
      rw [List.flatMap_cons, List.map_append, List.count_append, ih, count_diagnostics,
        List.map_cons, List.count_cons, List.map_cons, List.sum_cons]
      by_cases info : severity = .info
      · rw [if_pos info, if_pos info, if_pos info]
        omega
      · rw [if_neg info, if_neg info, if_neg info]
        omega

end Channel

namespace Diagnostic

theorem countP_err_emissions (log : Option Nat) (diagnostic : Diagnostic) :
    (diagnostic.emissions log).countP (·.stream = .err) =
      if diagnostic.severity == .error then 1 else 0 := by
  obtain ⟨severity, location, message, category⟩ := diagnostic
  cases severity <;> cases log <;> rfl

theorem countP_out_emissions (log : Option Nat) (diagnostic : Diagnostic) :
    (diagnostic.emissions log).countP (·.stream = .out) =
      if diagnostic.severity != .error then 1 else 0 := by
  obtain ⟨severity, location, message, category⟩ := diagnostic
  cases severity <;> cases log <;> rfl

end Diagnostic

theorem countP_ne_error (severities : List Severity) :
    severities.countP (· != .error) = severities.count .warning + severities.count .info := by
  induction severities with
  | nil => rfl
  | cons severity rest ih =>
      rw [List.countP_cons, ih, List.count_cons, List.count_cons]
      cases severity <;> simp <;> omega

namespace Console

variable (console : Console)

/-- How often something was put on the stream. -/
def lines (stream : Stream) : Nat :=
  console.transcript.countP (·.stream = stream)

theorem lines_foldl_report {stream : Stream} (routed : Severity → Bool)
    (each : ∀ (log : Option Nat) (diagnostic : Diagnostic),
      (diagnostic.emissions log).countP (·.stream = stream) =
        if routed diagnostic.severity then 1 else 0)
    (diagnostics : List Diagnostic) :
    (diagnostics.foldl report console).lines stream =
      console.lines stream + (diagnostics.map (·.severity)).countP routed := by
  induction diagnostics generalizing console with
  | nil => rfl
  | cons diagnostic rest ih =>
      have one : (console.report diagnostic).lines stream =
          console.lines stream + if routed diagnostic.severity then 1 else 0 := by
        rw [lines, transcript_report, List.countP_append, each, lines]
      rw [List.foldl_cons, ih, one, List.map_cons, List.countP_cons]
      omega

theorem tally_foldl_report (diagnostics : List Diagnostic) :
    (diagnostics.foldl report console).tally =
      console.tally.addAll (diagnostics.map (·.severity)) :=
  congrArg Console.tally (Machine.foldl_report_recount diagnostics console console.tally)

theorem foldl_display (reports : List (Channel × Diagnostic)) :
    reports.foldl Machine.display console =
      (reports.flatMap Channel.diagnostics).foldl report console := by
  rw [List.foldl_flatMap]
  congr 1
  funext console ⟨channel, diagnostic⟩
  cases channel <;> rfl

theorem of_tally_foldl_display (reports : List (Channel × Diagnostic)) (severity : Severity) :
    (reports.foldl Machine.display console).tally.of severity =
      console.tally.of severity + (reports.map (·.2.severity)).count severity +
        if severity = .info then (reports.map Channel.notes).sum else 0 := by
  rw [foldl_display, tally_foldl_report, Tally.of_addAll, Channel.count_flatMap_diagnostics,
    Nat.add_assoc]

theorem lines_err_foldl_display (reports : List (Channel × Diagnostic)) :
    (reports.foldl Machine.display console).lines .err + console.tally.errors =
      console.lines .err + (reports.foldl Machine.display console).tally.errors := by
  have shown := console.lines_foldl_report (· == .error) Diagnostic.countP_err_emissions
    (reports.flatMap Channel.diagnostics)
  have counted := console.tally.errors_addAll
    ((reports.flatMap Channel.diagnostics).map (·.severity))
  rw [foldl_display, tally_foldl_report, shown, counted, List.count]
  omega

theorem lines_out_foldl_display (reports : List (Channel × Diagnostic)) :
    (reports.foldl Machine.display console).lines .out +
        (console.tally.warnings + console.tally.infos) =
      console.lines .out + ((reports.foldl Machine.display console).tally.warnings +
        (reports.foldl Machine.display console).tally.infos) := by
  have shown := console.lines_foldl_report (· != .error) Diagnostic.countP_out_emissions
    (reports.flatMap Channel.diagnostics)
  have warnings := console.tally.of_addAll
    ((reports.flatMap Channel.diagnostics).map (·.severity)) .warning
  have infos := console.tally.of_addAll
    ((reports.flatMap Channel.diagnostics).map (·.severity)) .info
  rw [foldl_display, tally_foldl_report, shown, countP_ne_error]
  simp only [Tally.of] at warnings infos
  omega

/-- What a sequence of reports to the two sinks adds to the console. -/
structure Accounts (console : Console) (reports : List (Channel × Diagnostic))
    (after : Console) : Prop where
  displayed : after = reports.foldl Machine.display console
  transcript : after.transcript = console.transcript ++
    (reports.flatMap Channel.diagnostics).flatMap (·.emissions console.errorLog)
  errors : sink.count after .error =
    sink.count console .error + (reports.map (·.2.severity)).count .error
  warnings : sink.count after .warning =
    sink.count console .warning + (reports.map (·.2.severity)).count .warning
  infos : sink.count after .info = sink.count console .info +
    (reports.map (·.2.severity)).count .info + (reports.map Channel.notes).sum
  /-- The same with counters of 64 bits. -/
  word severity : Tally.countWord severity
      ((reports.flatMap Channel.diagnostics).map (·.severity))
      (UInt64.ofNat (sink.count console severity)) = UInt64.ofNat (sink.count after severity)
  alike severity : sink.realigning.count after severity = sink.count after severity
  errLines : after.lines .err + sink.count console .error =
    console.lines .err + sink.count after .error
  outLines : after.lines .out + (sink.count console .warning + sink.count console .info) =
    console.lines .out + (sink.count after .warning + sink.count after .info)

/-- A report to the sink of the proof engine is one for the diagnostic and one for each origin, for
any target; so of what the console counts and shows only the notes are beyond the reports. -/
theorem foldl_sink_accounts (reports : List (Channel × Diagnostic)) :
    (∀ diagnostic : Diagnostic, ∃ shown notes, diagnostic.Expansion shown notes ∧
      ∀ {σ : Type} (target : Sink σ) (state : σ), target.realigning.report state diagnostic =
        (shown :: notes).foldl target.report state) ∧
    console.Accounts reports
      (reports.foldl (fun console shown => shown.1.sink.report console shown.2) console) := by
  have displayed : reports.foldl (fun console shown => shown.1.sink.report console shown.2)
      console = reports.foldl Machine.display console := by
    congr 1
    funext console shown
    exact (Machine.display_eq_report console shown).symm
  constructor
  case left =>
    intro diagnostic
    exact ⟨_, _, diagnostic.expansion_inSource, fun target state =>
      target.report_realigning state diagnostic⟩
  case right =>
    rw [displayed]
    constructor
    case displayed => rfl
    case transcript => rw [foldl_display, transcript_foldl_report]
    case errors => exact console.of_tally_foldl_display reports .error
    case warnings => exact console.of_tally_foldl_display reports .warning
    case infos => exact console.of_tally_foldl_display reports .info
    case word =>
      intro severity
      have counted := console.tally.countWord_ofNat
        ((reports.flatMap Channel.diagnostics).map (·.severity)) severity
      rw [← tally_foldl_report, ← foldl_display] at counted
      exact counted
    case alike =>
      intro severity
      rfl
    case errLines => exact console.lines_err_foldl_display reports
    case outLines => exact console.lines_out_foldl_display reports

end Console

end VerifiedBuild
