import VerifiedBuild.Proofs.Writer

/-!
# What a buffer hides

A text is written through a stream, whatever stands behind the path. Whether it worked is asked
before the stream is closed, so what goes wrong with the bytes that wait until then is told to no
one. For the files of a store this is what writing comes to.
-/

namespace VerifiedBuild

/-! ## Receivers and streams -/

/-- What stands behind a path: whether it opens for writing, and how many of the bytes that it is
offered it takes, given those that it has taken before. -/
structure Receiver where
  opens : Bool
  takes : Octets → Octets → Nat

/-- A stream that was opened for writing: the bytes that wait, those that the receiver has taken,
and whether nothing went wrong so far. -/
structure OutputStream where
  waiting : Octets := []
  taken : Octets := []
  good : Bool := true

namespace OutputStream

/-- Offer the receiver all that waits, and a piece after it. -/
def handOver (receiver : Receiver) (stream : OutputStream) (piece : Octets) : OutputStream :=
  let offered := stream.waiting ++ piece
  let count := receiver.takes stream.taken offered
  { taken := stream.taken ++ offered.take count
    good := stream.good && decide (offered.length ≤ count) }

def put (receiver : Receiver) (stream : OutputStream) (piece : Octets) : OutputStream :=
  if piece.length < Store.largePiece then { stream with waiting := stream.waiting ++ piece }
  else stream.handOver receiver piece

def close (receiver : Receiver) (stream : OutputStream) : OutputStream :=
  stream.handOver receiver []

end OutputStream

namespace Receiver

/-- Write a text: what is reported, and what the receiver has taken in the end. -/
def write (receiver : Receiver) (path text : String) : Option WriteError × Octets :=
  if receiver.opens then
    let stream := ({} : OutputStream).put receiver (Octets.ofText text)
    (if stream.good then none else some (.cannotWrite path), (stream.close receiver).taken)
  else (some (.cannotOpen path), [])

variable {receiver : Receiver} {path text : String}

def TakesAll (receiver : Receiver) (text : String) : Prop :=
  (Octets.ofText text).length ≤ receiver.takes [] (Octets.ofText text)

def IsShort (text : String) : Prop :=
  (Octets.ofText text).length < Store.largePiece

instance (receiver : Receiver) (text : String) : Decidable (receiver.TakesAll text) :=
  inferInstanceAs (Decidable (_ ≤ _))

/-- What the report on a text tells. It names the path if it tells of an error. It misses nothing
but what is refused of a short text. -/
structure Reports (receiver : Receiver) (path text : String) : Prop where
  unopened : (receiver.write path text).1 = some (.cannotOpen path) ↔ receiver.opens = false
  refused : (receiver.write path text).1 = some (.cannotWrite path) ↔
    receiver.opens ∧ ¬IsShort text ∧ ¬receiver.TakesAll text
  written : (receiver.write path text).1 = none ↔
    receiver.opens ∧ (IsShort text ∨ receiver.TakesAll text)
  named : ∀ error, (receiver.write path text).1 = some error →
    error.message = "failed to open file for write: " ++ path ∨
      error.message = "failed to write file: " ++ path
  missed : (receiver.write path text).1 = none ∧
      (receiver.write path text).2 ≠ Octets.ofText text ↔
    receiver.opens ∧ IsShort text ∧ ¬receiver.TakesAll text

theorem write_unopened (closed : receiver.opens = false) :
    receiver.write path text = (some (.cannotOpen path), []) := by
  rw [write, closed]
  rfl

theorem write_short (opens : receiver.opens) (short : IsShort text) :
    receiver.write path text =
      (none, (Octets.ofText text).take (receiver.takes [] (Octets.ofText text))) := by
  have waits : ({} : OutputStream).put receiver (Octets.ofText text) =
      { waiting := Octets.ofText text } := if_pos short
  rw [write, if_pos opens, waits]
  simp [OutputStream.close, OutputStream.handOver]

theorem write_long (opens : receiver.opens) (long : ¬IsShort text) :
    receiver.write path text =
      (if receiver.TakesAll text then none else some (.cannotWrite path),
        (Octets.ofText text).take (receiver.takes [] (Octets.ofText text))) := by
  have passes : ({} : OutputStream).put receiver (Octets.ofText text) =
      ({} : OutputStream).handOver receiver (Octets.ofText text) := if_neg long
  rw [write, if_pos opens, passes]
  simp only [OutputStream.close, OutputStream.handOver, List.nil_append, Bool.true_and,
    decide_eq_true_eq, List.take_nil, List.append_nil]
  rfl

theorem error_names_path {error : WriteError}
    (told : (receiver.write path text).1 = some error) :
    error.message = "failed to open file for write: " ++ path ∨
      error.message = "failed to write file: " ++ path := by
  unfold write at told
  split at told
  next =>
    dsimp only at told
    split at told
    · cases told
    · cases told
      exact .inr rfl
  next =>
    cases told
    exact .inl rfl

theorem reports (receiver : Receiver) (path text : String) : receiver.Reports path text := by
  have whole : (Octets.ofText text).take (receiver.takes [] (Octets.ofText text)) =
      Octets.ofText text ↔ receiver.TakesAll text := List.take_eq_self_iff _
  have named : ∀ error, (receiver.write path text).1 = some error →
      error.message = "failed to open file for write: " ++ path ∨
        error.message = "failed to write file: " ++ path := fun _ => error_names_path
  cases opens : receiver.opens with
  | false =>
      have ended : receiver.write path text = _ := write_unopened opens
      refine ⟨?_, ?_, ?_, named, ?_⟩ <;> simp [ended, opens]
  | true =>
      by_cases short : IsShort text
      · have ended : receiver.write path text = _ := write_short opens short
        refine ⟨?_, ?_, ?_, named, ?_⟩ <;> simp [ended, opens, short, whole]
      · have ended : receiver.write path text = _ := write_long opens short
        by_cases all : receiver.TakesAll text <;>
          refine ⟨?_, ?_, ?_, named, ?_⟩ <;> simp [ended, opens, short, whole, all]

end Receiver

/-! ## The files of a store -/

theorem Octets.length_ofText (text : String) : (ofText text).length = text.utf8ByteSize := by
  have size := congrArg ByteArray.size (String.utf8Encode_toList (b := text))
  rw [List.utf8Encode, List.size_toByteArray] at size
  exact size

namespace Store

variable {store : Store} {place : Place}

/-- What stands behind a path: a full device takes nothing, all else takes everything. -/
def receiver (store : Store) (path : String) : Receiver :=
  match store.openForWriting path with
  | .error _ => { opens := false, takes := fun _ _ => 0 }
  | .ok (opened, place) =>
      { opens := true
        takes := fun _ offered => if opened.isFull place then 0 else offered.length }

theorem receiver_ok {path : String} {opened : Store}
    (opens : store.openForWriting path = .ok (opened, place)) :
    store.receiver path =
      ⟨true, fun _ offered => if opened.isFull place then 0 else offered.length⟩ := by
  rw [receiver, opens]

theorem report_eq (store : Store) (path text : String) :
    (store.write path text).1 = ((store.receiver path).write path text).1 := by
  cases opens : store.openForWriting path with
  | error error =>
      have closed : (store.receiver path).opens = false := by rw [receiver, opens]
      rw [Receiver.write_unopened closed, write, opens]
  | ok found =>
      obtain ⟨opened, place⟩ := found
      have known := receiver_ok opens
      have isOpen : (store.receiver path).opens := by rw [known]
      rw [write, opens]
      dsimp only
      by_cases short : Receiver.IsShort text
      · have small : ¬largePiece ≤ text.utf8ByteSize := by
          rw [← Octets.length_ofText, Nat.not_le]
          exact short
        rw [Receiver.write_short isOpen short, if_neg fun both => small both.2]
      · have large : largePiece ≤ text.utf8ByteSize := by
          rw [← Octets.length_ofText]
          exact Nat.not_lt.mp short
        have all : (store.receiver path).TakesAll text ↔ opened.isFull place = false := by
          have nonempty : 0 < (Octets.ofText text).length :=
            Nat.lt_of_lt_of_le (by decide) (Nat.not_lt.mp short)
          rw [Receiver.TakesAll, known]
          cases opened.isFull place with
          | true => exact iff_of_false (Nat.not_le.mpr nonempty) nofun
          | false => exact iff_of_true (Nat.le_refl _) rfl
        rw [Receiver.write_long isOpen short, if_congr all rfl rfl]
        cases opened.isFull place <;> simp [large]

end Store

end VerifiedBuild
