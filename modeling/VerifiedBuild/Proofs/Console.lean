import VerifiedBuild.Console
import Mathlib.Data.List.Induction

/-!
# The streams of the console

What a sequence of actions puts on each stream. The error stream gets the error lines, a log those
that are shown while it is the one that errors are copied to, and the output stream all other text,
whatever becomes of the errors.
-/

namespace VerifiedBuild

def textOf (lines : List String) : String :=
  String.join (lines.map (· ++ "\n"))

theorem textOf_append (first second : List String) :
    textOf (first ++ second) = textOf first ++ textOf second := by
  rw [textOf, List.map_append, String.join_append, textOf, textOf]

theorem textOf_singleton (line : String) : textOf [line] = line ++ "\n" := by
  simp [textOf]

/-! ## Emissions -/

/-- The emissions put the lines on the error stream and copy them to the log that is in place, and
put the text on the output stream. -/
structure Routed (log : Option Nat) (emissions : List Emission) (lines : List String)
    (text : String) : Prop where
  err : Stream.err.text emissions = textOf lines
  copied index : (Stream.log index).text emissions = if log = some index then textOf lines else ""
  out : Stream.out.text emissions = text

namespace Routed

variable {log : Option Nat}

theorem nil : Routed log [] [] "" where
  err := rfl
  copied index := by split <;> rfl
  out := rfl

theorem append {first second : List Emission} {lines more : List String} {text rest : String}
    (earlier : Routed log first lines text) (later : Routed log second more rest) :
    Routed log (first ++ second) (lines ++ more) (text ++ rest) where
  err := by rw [Stream.text_append, earlier.err, later.err, textOf_append]
  copied index := by
    rw [Stream.text_append, earlier.copied, later.copied]
    split
    · rw [textOf_append]
    · rfl
  out := by rw [Stream.text_append, earlier.out, later.out]

theorem flatMap {ι : Type} {emissions : ι → List Emission} {lines : ι → List String}
    {text : ι → String} (each : ∀ item, Routed log (emissions item) (lines item) (text item))
    (items : List ι) :
    Routed log (items.flatMap emissions) (items.flatMap lines) (String.join (items.map text)) := by
  induction items with
  | nil => exact nil
  | cons item rest ih =>
      rw [List.flatMap_cons, List.flatMap_cons, List.map_cons, String.join_cons]
      exact (each item).append ih

theorem mirrored {index : Nat} {emissions : List Emission} {lines : List String} {text : String}
    (routed : Routed (some index) emissions lines text) :
    Stream.err.text emissions = (Stream.log index).text emissions := by
  rw [routed.err, routed.copied, if_pos rfl]

theorem written (text : String) : Routed log [⟨.out, text⟩] [] text where
  err := rfl
  copied index := by split <;> rfl
  out := by simp [Stream.text]

end Routed

/-! ## Error lines -/

namespace Console

def errorEmissions (log : Option Nat) (line : String) : List Emission :=
  ⟨.err, line ++ "\n"⟩ :: (log.map fun index => ⟨.log index, line ++ "\n"⟩).toList

theorem routed_errorEmissions (log : Option Nat) (line : String) :
    Routed log (errorEmissions log line) [line] "" where
  err := by
    rw [textOf_singleton]
    cases log <;> simp [errorEmissions, Stream.text]
  copied index := by
    rw [textOf_singleton]
    cases log with
    | none => simp [errorEmissions, Stream.text]
    | some other => by_cases same : other = index <;> simp [errorEmissions, Stream.text, same]
  out := by cases log <;> simp [errorEmissions, Stream.text]

theorem errorLine_appends (console : Console) (line : String) :
    console.errorLine line = { console with
      transcript := console.transcript ++ errorEmissions console.errorLog line } := by
  obtain ⟨transcript, _ | index, tally⟩ := console <;>
    simp [errorLine, errorEmissions, emit, add]

end Console

/-! ## Diagnostics -/

namespace Diagnostic

def emissions (log : Option Nat) (diagnostic : Diagnostic) : List Emission :=
  if diagnostic.severity = .error then Console.errorEmissions log diagnostic.render
  else [⟨.out, diagnostic.render ++ "\n"⟩]

def errorLines (diagnostic : Diagnostic) : List String :=
  if diagnostic.severity = .error then [diagnostic.render] else []

def outText (diagnostic : Diagnostic) : String :=
  if diagnostic.severity = .error then "" else diagnostic.render ++ "\n"

theorem routed (log : Option Nat) (diagnostic : Diagnostic) :
    Routed log (diagnostic.emissions log) diagnostic.errorLines diagnostic.outText := by
  unfold emissions errorLines outText
  split
  · exact Console.routed_errorEmissions log diagnostic.render
  · exact .written _

end Diagnostic

namespace Console

variable (console : Console)

theorem report_appends (diagnostic : Diagnostic) :
    console.report diagnostic = { console with
      transcript := console.transcript ++ diagnostic.emissions console.errorLog
      tally := console.tally.add diagnostic.severity } := by
  rw [report, Diagnostic.emissions]
  split
  · rw [errorLine_appends]
  · rfl

theorem transcript_report (diagnostic : Diagnostic) :
    (console.report diagnostic).transcript =
      console.transcript ++ diagnostic.emissions console.errorLog :=
  congrArg (·.transcript) (console.report_appends diagnostic)

theorem errorLog_report (diagnostic : Diagnostic) :
    (console.report diagnostic).errorLog = console.errorLog :=
  congrArg (·.errorLog) (console.report_appends diagnostic)

theorem errorLog_foldl_report (diagnostics : List Diagnostic) :
    (diagnostics.foldl report console).errorLog = console.errorLog := by
  induction diagnostics generalizing console with
  | nil => rfl
  | cons diagnostic rest ih => rw [List.foldl_cons, ih, errorLog_report]

theorem transcript_foldl_report (diagnostics : List Diagnostic) :
    (diagnostics.foldl report console).transcript =
      console.transcript ++ diagnostics.flatMap (·.emissions console.errorLog) := by
  induction diagnostics generalizing console with
  | nil => exact (List.append_nil _).symm
  | cons diagnostic rest ih =>
      rw [List.foldl_cons, ih, transcript_report, errorLog_report, List.flatMap_cons,
        List.append_assoc]

/-! ## Actions -/

namespace Action

def emissions (log : Option Nat) : Action → List Emission
  | .line text | .advisory text => [⟨.out, text ++ "\n"⟩]
  | .raw text => [⟨.out, text⟩]
  | .error text => errorEmissions log text
  | .copyErrorsTo _ => []
  | .trailer statistics => [⟨.out, statistics.trailer⟩]
  | .report diagnostic => diagnostic.emissions log
  | .engineReport diagnostic => diagnostic.inSource.flatMap (·.emissions log)

def log? : Action → Option (Option Nat)
  | .copyErrorsTo log => some log
  | _ => none

def errorLines : Action → List String
  | .error text => [text]
  | .report diagnostic => diagnostic.errorLines
  | .engineReport diagnostic => diagnostic.inSource.flatMap (·.errorLines)
  | _ => []

def outText : Action → String
  | .line text | .advisory text => text ++ "\n"
  | .raw text => text
  | .trailer statistics => statistics.trailer
  | .report diagnostic => diagnostic.outText
  | .engineReport diagnostic => String.join (diagnostic.inSource.map (·.outText))
  | _ => ""

theorem routed (log : Option Nat) (action : Action) :
    Routed log (action.emissions log) action.errorLines action.outText := by
  cases action with
  | line text => exact .written _
  | advisory text => exact .written _
  | raw text => exact .written text
  | error text => exact routed_errorEmissions log text
  | copyErrorsTo other => exact .nil
  | trailer statistics => exact .written _
  | report diagnostic => exact diagnostic.routed log
  | engineReport diagnostic => exact .flatMap (Diagnostic.routed log) diagnostic.inSource

end Action

theorem transcript_perform (action : Action) :
    (console.perform action).transcript =
      console.transcript ++ action.emissions console.errorLog := by
  cases action with
  | error text => exact congrArg (·.transcript) (console.errorLine_appends text)
  | copyErrorsTo log => exact (List.append_nil _).symm
  | report diagnostic => exact console.transcript_report diagnostic
  | engineReport diagnostic => exact console.transcript_foldl_report diagnostic.inSource
  | _ => rfl

theorem errorLog_perform (action : Action) :
    (console.perform action).errorLog = action.log?.getD console.errorLog := by
  cases action with
  | error text => exact congrArg (·.errorLog) (console.errorLine_appends text)
  | report diagnostic => exact console.errorLog_report diagnostic
  | engineReport diagnostic => exact console.errorLog_foldl_report diagnostic.inSource
  | _ => rfl

theorem text_perform (stream : Stream) (action : Action) :
    stream.text (console.perform action).transcript =
      stream.text console.transcript ++ stream.text (action.emissions console.errorLog) := by
  rw [transcript_perform, Stream.text_append]

theorem performAll_concat (actions : List Action) (action : Action) :
    console.performAll (actions ++ [action]) = (console.performAll actions).perform action :=
  console.performAll_append actions [action]

/-! ## The log in place -/

/-- The log that errors are copied to after the actions: the last one put in place. -/
def logAfter (first : Option Nat) (actions : List Action) : Option Nat :=
  (actions.filterMap Action.log?).getLast?.getD first

/-- The actions performed while errors are copied to the log. -/
def actionsUnder (first : Option Nat) (index : Nat) (actions : List Action) : List Action :=
  (actions.zipIdx.filter fun timed => logAfter first (actions.take timed.2) = some index).map (·.1)

theorem errorLog_performAll (actions : List Action) :
    (console.performAll actions).errorLog = logAfter console.errorLog actions := by
  induction actions using List.reverseRecOn with
  | nil => rfl
  | append_singleton actions action ih =>
      rw [performAll_concat, errorLog_perform, ih, logAfter, logAfter, List.filterMap_append]
      cases set : action.log? with
      | none => simp [set]
      | some log => simp [set]

theorem actionsUnder_concat (first : Option Nat) (index : Nat) (actions : List Action)
    (action : Action) : actionsUnder first index (actions ++ [action]) =
      actionsUnder first index actions ++
        if logAfter first actions = some index then [action] else [] := by
  have earlier : actions.zipIdx.filter (fun timed =>
      logAfter first ((actions ++ [action]).take timed.2) = some index) =
      actions.zipIdx.filter fun timed =>
        logAfter first (actions.take timed.2) = some index := by
    refine List.filter_congr fun timed member => ?_
    have inside : timed.2 < actions.length := List.snd_lt_of_mem_zipIdx member
    rw [List.take_append_of_le_length (Nat.le_of_lt inside)]
  rw [actionsUnder, List.zipIdx_append, List.filter_append, earlier, List.map_append, actionsUnder]
  congr 1
  by_cases here : logAfter first actions = some index <;> simp [here]

/-! ## Without the errors -/

namespace Action

/-- What remains of an action without its error lines. The notes of a diagnostic of the proof engine
are no errors and remain when it is one. -/
def withoutErrors : Action → List Action
  | .copyErrorsTo _ | .error _ => []
  | .report diagnostic => if diagnostic.severity = .error then [] else [.report diagnostic]
  | .engineReport diagnostic =>
      if diagnostic.severity = .error then
        diagnostic.location.origins.map fun origin => .report (.related diagnostic.category origin)
      else [.engineReport diagnostic]
  | action => [action]

theorem outText_withoutErrors (action : Action) :
    String.join (action.withoutErrors.map outText) = action.outText := by
  cases action with
  | report diagnostic =>
      simp only [withoutErrors]
      split
      next isError => simp [outText, Diagnostic.outText, isError]
      next => simp
  | engineReport diagnostic =>
      simp only [withoutErrors]
      split
      next isError =>
        simp [outText, Diagnostic.outText, Diagnostic.inSource, isError, Function.comp_def]
      next => simp
  | error text => rfl
  | copyErrorsTo log => rfl
  | _ => simp [withoutErrors]

theorem of_mem_withoutErrors {action remaining : Action}
    (member : remaining ∈ action.withoutErrors) :
    remaining.errorLines = [] ∧ remaining.log? = none := by
  cases action with
  | report diagnostic =>
      simp only [withoutErrors] at member
      split at member
      next => cases member
      next notError =>
        obtain rfl := List.mem_singleton.mp member
        exact ⟨if_neg notError, rfl⟩
  | engineReport diagnostic =>
      simp only [withoutErrors] at member
      split at member
      next =>
        obtain ⟨origin, -, rfl⟩ := List.mem_map.mp member
        exact ⟨rfl, rfl⟩
      next notError =>
        obtain rfl := List.mem_singleton.mp member
        refine ⟨?_, rfl⟩
        simp [errorLines, Diagnostic.inSource, Diagnostic.errorLines, Diagnostic.related, notError]
  | error text => cases member
  | copyErrorsTo log => cases member
  | _ =>
      obtain rfl := List.mem_singleton.mp member
      exact ⟨rfl, rfl⟩

end Action

/-! ## Sequences of actions -/

theorem text_err_performAll (actions : List Action) :
    Stream.err.text (console.performAll actions).transcript =
      Stream.err.text console.transcript ++ textOf (actions.flatMap Action.errorLines) := by
  induction actions using List.reverseRecOn with
  | nil => exact String.append_empty.symm
  | append_singleton actions action ih =>
      rw [performAll_concat, text_perform, ih, (action.routed _).err, List.flatMap_append,
        textOf_append, List.flatMap_singleton, String.append_assoc]

theorem text_log_performAll (index : Nat) (actions : List Action) :
    (Stream.log index).text (console.performAll actions).transcript =
      (Stream.log index).text console.transcript ++
        textOf ((actionsUnder console.errorLog index actions).flatMap Action.errorLines) := by
  -- Actions are added at the end, since the ones before decide which log is in place.
  induction actions using List.reverseRecOn with
  | nil => exact String.append_empty.symm
  | append_singleton actions action ih =>
      rw [performAll_concat, text_perform, ih, (action.routed _).copied, errorLog_performAll,
        actionsUnder_concat, List.flatMap_append, textOf_append, String.append_assoc]
      congr 2
      split
      · rw [List.flatMap_singleton]
      · rfl

theorem text_out_performAll (actions : List Action) :
    Stream.out.text (console.performAll actions).transcript =
      Stream.out.text console.transcript ++ String.join (actions.map Action.outText) := by
  induction actions using List.reverseRecOn with
  | nil => exact String.append_empty.symm
  | append_singleton actions action ih =>
      rw [performAll_concat, text_perform, ih, (action.routed _).out, List.map_append,
        String.join_append, String.append_assoc, List.map_singleton, String.join_cons,
        String.join_nil, String.append_empty]

theorem outText_flatMap_withoutErrors (actions : List Action) :
    String.join ((actions.flatMap Action.withoutErrors).map Action.outText) =
      String.join (actions.map Action.outText) := by
  induction actions with
  | nil => rfl
  | cons action rest ih =>
      rw [List.flatMap_cons, List.map_append, String.join_append, action.outText_withoutErrors, ih,
        List.map_cons, String.join_cons]

/-- What the streams got from the actions: the error stream all error lines, a log those of the
actions performed while it was in place, the output stream the text of all that remains without the
error lines and without any log. -/
structure Separates (console : Console) (actions : List Action) : Prop where
  err : Stream.err.text (console.performAll actions).transcript =
    Stream.err.text console.transcript ++ textOf (actions.flatMap Action.errorLines)
  log index : (Stream.log index).text (console.performAll actions).transcript =
    (Stream.log index).text console.transcript ++
      textOf ((actionsUnder console.errorLog index actions).flatMap Action.errorLines)
  out : Stream.out.text (console.performAll actions).transcript =
    Stream.out.text console.transcript ++ String.join (actions.map Action.outText)
  unaffected : Stream.out.text (console.performAll actions).transcript =
    Stream.out.text (console.performAll (actions.flatMap Action.withoutErrors)).transcript
  removed : ∀ remaining ∈ actions.flatMap Action.withoutErrors,
    remaining.errorLines = [] ∧ remaining.log? = none

/-- Copying errors loses and leaks nothing, whatever the order of the actions. -/
theorem performAll_separates (actions : List Action) : console.Separates actions := by
  constructor
  case err => exact console.text_err_performAll actions
  case log => exact fun index => console.text_log_performAll index actions
  case out => exact console.text_out_performAll actions
  case unaffected =>
    rw [text_out_performAll, text_out_performAll, outText_flatMap_withoutErrors]
  case removed =>
    intro remaining member
    obtain ⟨action, -, here⟩ := List.mem_flatMap.mp member
    exact action.of_mem_withoutErrors here

end Console

end VerifiedBuild
