/-!
# Texts as bytes

Files and processes deal in bytes, all else in texts. A text is written as its UTF-8 bytes; bytes
are read as UTF-8, where each byte that fits into no character is read as the replacement character.
What works on single bytes can also see them as a *narrow* text, in which each character stands for
the byte of its number.
-/

namespace VerifiedBuild

abbrev Octets := List UInt8

namespace Octets

def ofText (text : String) : Octets :=
  text.toList.flatMap String.utf8EncodeChar

theorem ofText_append (first second : String) :
    ofText (first ++ second) = ofText first ++ ofText second := by
  simp [ofText]

/-! ## Reading -/

def isContinuation (byte : UInt8) : Bool :=
  0x80 ≤ byte && byte < 0xC0

def followers (lead : UInt8) : Nat :=
  if lead < 0xC2 then 0
  else if lead < 0xE0 then 1
  else if lead < 0xF0 then 2
  else if lead < 0xF5 then 3
  else 0

/-- The least number that takes a first byte and so many others. -/
def leastValue : Nat → Nat
  | 1 => 0x80
  | 2 => 0x800
  | _ => 0x10000

def replacement : Char := '\uFFFD'

/-- The first character, and how many bytes after the first belong to it. -/
def firstChar (lead : UInt8) (rest : Octets) : Char × Nat :=
  let count := followers lead
  let others := rest.take count
  let value := others.foldl (fun value byte => value * 64 + byte.toNat % 64)
    (lead.toNat % (64 >>> count))
  if lead < 0x80 then (Char.ofNat lead.toNat, 0)
  else if count ≠ 0 ∧ others.length = count ∧ others.all isContinuation ∧
      leastValue count ≤ value ∧ value.isValidChar then (Char.ofNat value, count)
  else (replacement, 0)

def chars : Octets → List Char
  | [] => []
  | lead :: rest => (firstChar lead rest).1 :: chars (rest.drop (firstChar lead rest).2)
termination_by bytes => bytes.length
decreasing_by simp only [List.length_drop, List.length_cons]; omega

def toText (bytes : Octets) : String :=
  String.ofList bytes.chars

def number (bytes : Octets) : Nat :=
  bytes.foldr (fun byte rest => byte.toNat + 256 * rest) 0

/-! ## Narrow texts -/

def narrow (bytes : Octets) : String :=
  String.ofList (bytes.map fun byte => Char.ofNat byte.toNat)

def ofNarrow (text : String) : Octets :=
  text.toList.map fun c => UInt8.ofNat c.toNat

end Octets

def narrowed (text : String) : String :=
  (Octets.ofText text).narrow

def widened (text : String) : String :=
  (Octets.ofNarrow text).toText

end VerifiedBuild
