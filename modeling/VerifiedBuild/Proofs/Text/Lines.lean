import VerifiedBuild.Text.Lines

/-!
# Messages of a text

A text is cut into its messages from left to right, one line after the other. This ends after the
last line and finds the messages of the whole text. Lines keep their messages whatever stands before
and after them, so that messages written on lines of their own come out again.
-/

namespace VerifiedBuild.Text

/-! ## Lines -/

def messagesOf (chars : List Char) : List String :=
  (((chars.splitOn '\n').map stripReturn).filter (· ≠ [])).map String.ofList

theorem messageLines_eq (text : String) : messageLines text = messagesOf text.toList :=
  rfl

/-- The message that a line holds, unless it is blank. -/
def messageOn (line : List Char) : Option String :=
  if stripReturn line = [] then none else some (String.ofList (stripReturn line))

theorem messagesOf_line {line : List Char} (unbroken : '\n' ∉ line) :
    messagesOf line = (messageOn line).toList := by
  rw [messagesOf, List.splitOn_eq_singleton unbroken, messageOn]
  split
  next blank => simp [blank]
  next some => simp [some]

theorem messagesOf_append (first second : List Char) :
    messagesOf (first ++ '\n' :: second) = messagesOf first ++ messagesOf second := by
  rw [messagesOf, List.splitOn_append_cons_self, List.map_append, List.filter_append,
    List.map_append]
  rfl

theorem messageLines_append (first second : String) :
    messageLines (first ++ "\n" ++ second) = messageLines first ++ messageLines second := by
  have chars : (first ++ "\n" ++ second).toList = first.toList ++ '\n' :: second.toList := by simp
  rw [messageLines_eq, chars, messagesOf_append]
  rfl

/-! ## Cutting -/

/-- Where the line that begins at a position ends: before the next newline, or with the text. -/
def lineEnd (text : List Char) (start : Nat) : Nat :=
  match (text.drop start).idxOf? '\n' with
  | some distance => start + distance
  | none => text.length

def lineAt (text : List Char) (start : Nat) : List Char :=
  (text.drop start).take (lineEnd text start - start)

/-- Cutting a text from a position on, with the messages that are found. -/
inductive Cutting (text : List Char) : Nat → List String → Prop
  | done {start : Nat} (past : text.length ≤ start) : Cutting text start []
  | next {start : Nat} {later : List String} (inside : start < text.length)
      (rest : Cutting text (lineEnd text start + 1) later) :
      Cutting text start ((messageOn (lineAt text start)).toList ++ later)

variable {text : List Char} {start : Nat}

theorem Cutting.unique {found others : List String} (cutting : Cutting text start found)
    (again : Cutting text start others) : found = others := by
  induction cutting generalizing others with
  | done past =>
      cases again with
      | done => rfl
      | next inside => exact absurd past (Nat.not_le_of_lt inside)
  | next inside _ ih =>
      cases again with
      | done past => exact absurd past (Nat.not_le_of_lt inside)
      | next _ rest => rw [ih rest]

theorem lineEnd_of_newline {front later : List Char} (absent : '\n' ∉ front)
    (split : text.drop start = front ++ '\n' :: later) :
    lineEnd text start = start + front.length := by
  have found : (front ++ '\n' :: later).idxOf? '\n' = some front.length := by
    rw [List.idxOf?, List.findIdx?_eq_some_iff_getElem]
    refine ⟨by simp, by simp, fun earlier before => ?_⟩
    rw [List.getElem_append_left before, beq_iff_eq]
    exact fun same => absent (same ▸ List.getElem_mem before)
  rw [lineEnd, split, found]

theorem lineEnd_of_last (absent : '\n' ∉ text.drop start) : lineEnd text start = text.length := by
  rw [lineEnd, List.idxOf?_eq_none_iff.mpr absent]

/-- The line that begins before the end of the text is followed by a newline and the rest of the
text, or by nothing. -/
theorem drop_eq_lineAt (inside : start < text.length) :
    start ≤ lineEnd text start ∧ '\n' ∉ lineAt text start ∧
      (text.drop start = lineAt text start ++ '\n' :: text.drop (lineEnd text start + 1) ∨
        text.drop start = lineAt text start ∧ text.drop (lineEnd text start + 1) = []) := by
  rw [lineAt]
  by_cases present : '\n' ∈ text.drop start
  case pos =>
    obtain ⟨front, later, split, absent⟩ := List.eq_append_cons_of_mem present
    have line : (text.drop start).take (start + front.length - start) = front := by
      rw [split, Nat.add_sub_cancel_left, List.take_left]
    have rest : text.drop (start + front.length + 1) = later := by
      rw [Nat.add_assoc, ← List.drop_drop, split, List.drop_append]
      simp
    rw [lineEnd_of_newline absent split, line, rest]
    exact ⟨Nat.le_add_right _ _, absent, .inl split⟩
  case neg =>
    have line : (text.drop start).take (text.length - start) = text.drop start := by
      rw [← List.length_drop, List.take_length]
    rw [lineEnd_of_last present, line]
    exact ⟨Nat.le_of_lt inside, present, .inr ⟨rfl, List.drop_of_length_le (Nat.le_succ _)⟩⟩

theorem messagesOf_drop (inside : start < text.length) :
    messagesOf (text.drop start) =
      (messageOn (lineAt text start)).toList ++ messagesOf (text.drop (lineEnd text start + 1)) := by
  obtain ⟨-, unbroken, followed | ⟨last, ended⟩⟩ := drop_eq_lineAt inside
  · rw [followed, messagesOf_append, messagesOf_line unbroken]
  · rw [last, ended, messagesOf_line unbroken]
    exact (List.append_nil _).symm

theorem cutting_messagesOf (text : List Char) (start : Nat) :
    Cutting text start (messagesOf (text.drop start)) := by
  by_cases inside : start < text.length
  case pos =>
    have forward := (drop_eq_lineAt inside).1
    rw [messagesOf_drop inside]
    exact .next inside (cutting_messagesOf text (lineEnd text start + 1))
  case neg =>
    have past := Nat.le_of_not_lt inside
    rw [List.drop_of_length_le past]
    exact .done past
termination_by text.length - start

/-! ## Writing -/

/-- What can stand on a line and be read back from it. -/
structure Message where
  text : String
  nonempty : text ≠ ""
  unbroken : '\n' ∉ text.toList
  unreturned : text.toList.getLast? ≠ some '\r'

/-- A line that is ended by a newline, perhaps with a return before it. Without a message it is
blank. -/
structure Row where
  message : Option Message
  returned : Bool

def written (message : Option Message) : String :=
  (message.map Message.text).getD ""

def Row.content (row : Row) : String :=
  written row.message ++ if row.returned then "\r" else ""

/-- Lines one after the other. A last message may go without the end of its line. -/
def joined : List Row → Option Message → String
  | [], unfinished => written unfinished
  | row :: rows, unfinished => row.content ++ "\n" ++ joined rows unfinished

theorem newline_not_mem_written (message : Option Message) : '\n' ∉ (written message).toList := by
  cases message with
  | none => exact List.not_mem_nil
  | some message => exact message.unbroken

theorem stripReturn_written (message : Option Message) :
    stripReturn (written message).toList = (written message).toList := by
  rw [stripReturn, if_neg]
  cases message with
  | none => nofun
  | some message => exact message.unreturned

theorem stripReturn_concat (line : List Char) : stripReturn (line ++ ['\r']) = line := by
  rw [stripReturn, if_pos List.getLast?_concat, List.dropLast_concat]

theorem messageLines_of_strip {line : String} {message : Option Message}
    (unbroken : '\n' ∉ line.toList) (strips : stripReturn line.toList = (written message).toList) :
    messageLines line = message.toList.map Message.text := by
  rw [messageLines_eq, messagesOf_line unbroken, messageOn, strips]
  cases message with
  | none => rfl
  | some message => simp [written, message.nonempty]

theorem Row.messageLines_content (row : Row) :
    messageLines row.content = row.message.toList.map Message.text := by
  apply messageLines_of_strip
  · rw [content, String.toList_append, List.mem_append, not_or]
    exact ⟨newline_not_mem_written row.message, by split <;> decide⟩
  · rw [content, String.toList_append]
    split
    · exact stripReturn_concat _
    · rw [String.toList_empty, List.append_nil, stripReturn_written]

theorem messageLines_joined (rows : List Row) (unfinished : Option Message) :
    messageLines (joined rows unfinished) =
      (rows.filterMap Row.message ++ unfinished.toList).map Message.text := by
  induction rows with
  | nil =>
      exact messageLines_of_strip (newline_not_mem_written unfinished)
        (stripReturn_written unfinished)
  | cons row rows ih =>
      rw [joined, messageLines_append, Row.messageLines_content, ih, ← List.map_append,
        List.filterMap_cons]
      cases row.message <;> simp

/-- Cutting a text ends and finds its messages. The messages of texts on lines of their own are
those of one after those of the other, and messages that are written on lines come out again, however
the lines end and whatever blank lines there are. -/
theorem messageLines_recovers (text first second : String) (rows : List Row)
    (unfinished : Option Message) :
    (∀ messages, Cutting text.toList 0 messages ↔ messages = messageLines text) ∧
    messageLines (first ++ "\n" ++ second) = messageLines first ++ messageLines second ∧
    messageLines (joined rows unfinished) =
      (rows.filterMap Row.message ++ unfinished.toList).map Message.text := by
  refine ⟨fun messages => ?_, messageLines_append first second, messageLines_joined rows unfinished⟩
  have whole : Cutting text.toList 0 (messageLines text) := cutting_messagesOf text.toList 0
  constructor
  · exact fun cutting => cutting.unique whole
  · rintro rfl
    exact whole

end VerifiedBuild.Text
