import VerifiedBuild.Elapsed
import VerifiedBuild.Proofs.Text.Padding

/-!
# Reading an elapsed time back

A duration is shown by the hours, minutes and seconds that its whole seconds make. A number of whole
seconds makes one time of the clock, and a time has one text, so that this text tells the whole
seconds and nothing else of the duration.
-/

namespace VerifiedBuild

/-! ## Times of the clock -/

/-- A time as a clock shows it, except that its hours are not wrapped. -/
structure Clock where
  hours : Nat
  minutes : Fin 60
  seconds : Fin 60
deriving DecidableEq, Repr

namespace Clock

open Text

variable {clock : Clock} {chars : List Char} {text : String}

def total (clock : Clock) : Nat :=
  3600 * clock.hours + 60 * clock.minutes + clock.seconds

def ofTotal (total : Nat) : Clock where
  hours := total / 3600
  minutes := ⟨total % 3600 / 60, by omega⟩
  seconds := ⟨total % 60, by omega⟩

theorem total_ofTotal (total : Nat) : (ofTotal total).total = total := by
  simp only [Clock.total, ofTotal]
  omega

theorem ofTotal_total (clock : Clock) : ofTotal clock.total = clock := by
  obtain ⟨hours, minutes, seconds⟩ := clock
  simp only [ofTotal, total, Clock.mk.injEq, Fin.ext_iff]
  omega

theorem total_eq_iff {total : Nat} : clock.total = total ↔ clock = ofTotal total := by
  constructor
  case mp =>
    rintro rfl
    exact clock.ofTotal_total.symm
  case mpr =>
    rintro rfl
    exact total_ofTotal total

/-! ## Texts of times -/

/-- Hours, minutes and seconds between colons. Minutes and seconds have two places, hours may have
more. -/
inductive Shown (clock : Clock) : List Char → Prop
  | mk {hours minutes seconds : List Char} (hoursPadded : Padded 2 clock.hours hours)
      (minutesPadded : Padded 2 clock.minutes minutes) (minutesPlaces : minutes.length = 2)
      (secondsPadded : Padded 2 clock.seconds seconds) (secondsPlaces : seconds.length = 2) :
      Shown clock (hours ++ ':' :: (minutes ++ ':' :: seconds))

theorem length_eq_two {value : Fin 60} {digits : List Char} (padded : Padded 2 value digits) :
    digits.length = 2 :=
  Nat.le_antisymm (padded.length_le (Nat.le_refl 2) (by omega)) padded.wide

theorem shown_of_padded {hours minutes seconds : List Char}
    (hoursPadded : Padded 2 clock.hours hours) (minutesPadded : Padded 2 clock.minutes minutes)
    (secondsPadded : Padded 2 clock.seconds seconds) :
    clock.Shown (hours ++ ':' :: (minutes ++ ':' :: seconds)) :=
  .mk hoursPadded minutesPadded (length_eq_two minutesPadded) secondsPadded
    (length_eq_two secondsPadded)

theorem Shown.unique {others : List Char} (shown : clock.Shown chars)
    (also : clock.Shown others) : chars = others := by
  obtain ⟨hours, minutes, -, seconds, -⟩ := shown
  obtain ⟨otherHours, otherMinutes, -, otherSeconds, -⟩ := also
  rw [hours.unique otherHours, minutes.unique otherMinutes, seconds.unique otherSeconds]

/-- The time that a text shows, if it shows one. -/
def read? (text : String) : Option Clock :=
  match text.toList.splitOn ':' with
  | [hours, minutes, seconds] => do
      let hours ← padded? 2 hours
      let minutes ← padded? 2 minutes
      let seconds ← padded? 2 seconds
      if within : minutes < 60 ∧ seconds < 60 then
        some ⟨hours, ⟨minutes, within.1⟩, ⟨seconds, within.2⟩⟩
      else none
  | _ => none

theorem read?_of_shown (shown : clock.Shown text.toList) : read? text = some clock := by
  have colon : ':'.isDigit = false := rfl
  rw [read?]
  generalize text.toList = chars at shown
  obtain ⟨hours, minutes, -, seconds, -⟩ := shown
  rw [List.splitOn_append_cons_self_of_not_mem (not_mem_of_all_isDigit hours.spelled colon),
    List.splitOn_append_cons_self_of_not_mem (not_mem_of_all_isDigit minutes.spelled colon),
    List.splitOn_eq_singleton (not_mem_of_all_isDigit seconds.spelled colon)]
  simp only [(padded?_eq_some_iff Nat.two_pos).mpr hours,
    (padded?_eq_some_iff Nat.two_pos).mpr minutes, (padded?_eq_some_iff Nat.two_pos).mpr seconds]
  exact dif_pos ⟨clock.minutes.isLt, clock.seconds.isLt⟩

theorem shown_of_read? (read : read? text = some clock) : clock.Shown text.toList := by
  rw [read?] at read
  split at read
  next hours minutes seconds parts =>
    have joined : hours ++ ':' :: (minutes ++ ':' :: seconds) = text.toList := by
      have whole : [':'].intercalate (text.toList.splitOn ':') = text.toList :=
        List.intercalate_splitOn ':'
      simpa [parts, List.intercalate] using whole
    simp only [Option.bind_eq_bind, Option.bind_eq_some_iff, padded?_eq_some_iff Nat.two_pos]
      at read
    obtain ⟨_, hoursPadded, _, minutesPadded, _, secondsPadded, built⟩ := read
    split at built
    next =>
      obtain rfl := Option.some.inj built
      rw [← joined]
      exact shown_of_padded hoursPadded minutesPadded secondsPadded
    next => cases built
  next => cases read

theorem read?_eq_some_iff : read? text = some clock ↔ clock.Shown text.toList :=
  ⟨shown_of_read?, read?_of_shown⟩

/-! ## Durations -/

theorem padded_twoPlaces (value : Nat) : Padded 2 value (twoPlaces value).toList :=
  padded_zeroPadded Nat.two_pos value

theorem elapsedText_eq (elapsed : Nat) : elapsedText elapsed =
    twoPlaces ((elapsed / 1000000000 / 3600 : Nat) : Int) ++ ":" ++
      twoPlaces ((elapsed / 1000000000 % 3600 / 60 : Nat) : Int) ++ ":" ++
      twoPlaces ((elapsed / 1000000000 % 60 : Nat) : Int) :=
  rfl

theorem shown_elapsedText (elapsed : Nat) :
    (ofTotal (elapsed / 1000000000)).Shown (elapsedText elapsed).toList := by
  have chars (hours minutes seconds : String) :
      (hours ++ ":" ++ minutes ++ ":" ++ seconds).toList =
        hours.toList ++ ':' :: (minutes.toList ++ ':' :: seconds.toList) := by
    simp
  rw [elapsedText_eq, chars]
  exact shown_of_padded (padded_twoPlaces _) (padded_twoPlaces _) (padded_twoPlaces _)

theorem shown_iff (elapsed : Nat) (text : String) :
    (ofTotal (elapsed / 1000000000)).Shown text.toList ↔ text = elapsedText elapsed := by
  constructor
  case mp => exact fun shown => String.toList_inj.mp (shown.unique (shown_elapsedText elapsed))
  case mpr =>
    rintro rfl
    exact shown_elapsedText elapsed

theorem elapsedText_inj {elapsed other : Nat} :
    elapsedText elapsed = elapsedText other ↔ elapsed / 1000000000 = other / 1000000000 := by
  constructor
  case mp =>
    intro same
    have read := read?_of_shown (shown_elapsedText elapsed)
    rw [same, read?_of_shown (shown_elapsedText other)] at read
    have totals := congrArg total (Option.some.inj read)
    rw [total_ofTotal, total_ofTotal] at totals
    exact totals.symm
  case mpr =>
    intro same
    rw [elapsedText_eq, elapsedText_eq, same]

end Clock

/-- The text of a duration in arithmetic of 64 bits. -/
def elapsedTextOfWord (nanoseconds : Int64) : String :=
  let seconds := nanoseconds / 1000000000
  twoPlaces (seconds / 3600).toInt ++ ":" ++ twoPlaces (seconds % 3600 / 60).toInt ++ ":" ++
    twoPlaces (seconds % 60).toInt

theorem elapsedTextOfWord_eq (nanoseconds : Int64) :
    elapsedTextOfWord nanoseconds = elapsedText nanoseconds.toInt := by
  have divided (value unit : Int64) (apart : unit ≠ -1) :
      (value / unit).toInt = value.toInt.tdiv unit.toInt :=
    Int64.toInt_div_of_ne_right value unit apart
  simp only [elapsedTextOfWord, elapsedText]
  rw [divided _ 3600 (by decide), divided _ 60 (by decide), Int64.toInt_mod, Int64.toInt_mod,
    divided _ 1000000000 (by decide)]
  rfl

/-- The whole seconds of a duration make one time of the clock, and the duration has the one text
that shows this time and that it is read from. So durations have the same text if they have the same
whole seconds, and only then. Arithmetic of 64 bits gives the same text. -/
theorem elapsedText_readsBack (elapsed other : Nat) (word : Int64) :
    (∃ clock : Clock,
      (∀ time : Clock, time.total = elapsed / 1000000000 ↔ time = clock) ∧
      (∀ text : String, clock.Shown text.toList ↔ text = elapsedText elapsed) ∧
      ∀ text : String, Clock.read? text = some clock ↔ text = elapsedText elapsed) ∧
    (elapsedText elapsed = elapsedText other ↔ elapsed / 1000000000 = other / 1000000000) ∧
    elapsedTextOfWord word = elapsedText word.toInt := by
  refine ⟨⟨.ofTotal (elapsed / 1000000000), ?_, ?_, ?_⟩, Clock.elapsedText_inj,
    elapsedTextOfWord_eq word⟩
  · exact fun time => Clock.total_eq_iff
  · exact Clock.shown_iff elapsed
  · intro text
    rw [Clock.read?_eq_some_iff, Clock.shown_iff]

example : Clock.read? "100:00:09" = some ⟨100, 0, 9⟩ ∧ Clock.read? "1:00:09" = none ∧
    Clock.read? "0100:00:09" = none ∧ Clock.read? "00:60:09" = none := by
  decide +kernel

end VerifiedBuild
