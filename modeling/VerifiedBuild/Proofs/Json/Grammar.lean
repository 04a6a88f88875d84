/-!
# JSON

The values of JSON and which texts spell them. A text is one value with blanks around it. Escapes in
strings stand for characters, those outside the basic plane as pairs of surrogates; an escape for
half a pair stands for no character and has no place in a text.
-/

namespace VerifiedBuild

/-- A number is a coefficient times a power of ten. The members of an object are in the order of the
text. -/
inductive Json where
  | null
  | bool (value : Bool)
  | number (coefficient exponent : Int)
  | text (value : String)
  | array (items : List Json)
  | object (members : List (String × Json))

namespace Json

def isBlank (c : Char) : Bool :=
  c = ' ' || c = '\t' || c = '\n' || c = '\r'

abbrev Blank (gap : List Char) : Prop := gap.all isBlank

/-! ## Numbers -/

structure Digits (digits : List Char) : Prop where
  nonempty : digits ≠ []
  digits : digits.all Char.isDigit

def decimal (digits : List Char) : Nat := Nat.ofDigitChars 10 digits 0

/-- The digits of a whole number: no zero stands in front. -/
inductive Whole : List Char → Prop
  | zero : Whole ['0']
  | positive {lead : Char} {digits : List Char} (nonzero : lead ≠ '0')
      (spelled : Digits (lead :: digits)) : Whole (lead :: digits)

inductive Fraction : List Char → List Char → Prop
  | absent : Fraction [] []
  | present {digits : List Char} (spelled : Digits digits) : Fraction digits ('.' :: digits)

inductive Power : Int → List Char → Prop
  | unsigned {digits : List Char} (spelled : Digits digits) : Power (decimal digits) digits
  | plus {digits : List Char} (spelled : Digits digits) : Power (decimal digits) ('+' :: digits)
  | minus {digits : List Char} (spelled : Digits digits) : Power (-decimal digits) ('-' :: digits)

inductive Exponent : Int → List Char → Prop
  | absent : Exponent 0 []
  | present {mark : Char} {power : Int} {digits : List Char} (marked : mark = 'e' ∨ mark = 'E')
      (spelled : Power power digits) : Exponent power (mark :: digits)

inductive Magnitude : Nat → Int → List Char → Prop
  | mk {whole fraction point mark : List Char} {power : Int} (front : Whole whole)
      (back : Fraction fraction point) (exponent : Exponent power mark) :
      Magnitude (decimal (whole ++ fraction)) (power - fraction.length) (whole ++ point ++ mark)

inductive Numeral : Json → List Char → Prop
  | positive {magnitude : Nat} {exponent : Int} {text : List Char}
      (spelled : Magnitude magnitude exponent text) : Numeral (.number magnitude exponent) text
  | negative {magnitude : Nat} {exponent : Int} {text : List Char}
      (spelled : Magnitude magnitude exponent text) :
      Numeral (.number (-magnitude) exponent) ('-' :: text)

/-! ## Strings -/

/-- The letters after a backslash and the characters they stand for. -/
def escapes : List (Char × Char) :=
  [('"', '"'), ('\\', '\\'), ('/', '/'), ('b', '\x08'), ('f', '\x0c'), ('n', '\n'), ('r', '\r'),
    ('t', '\t')]

def hexDigit? (c : Char) : Option Nat :=
  if c.isDigit then some (c.toNat - '0'.toNat)
  else if 'a' ≤ c ∧ c ≤ 'f' then some (c.toNat - 'a'.toNat + 10)
  else if 'A' ≤ c ∧ c ≤ 'F' then some (c.toNat - 'A'.toNat + 10)
  else none

def hexValue? (digits : List Char) : Option Nat :=
  digits.foldlM (fun value c => (hexDigit? c).map (16 * value + ·)) 0

/-- Four hexadecimal digits: a unit of UTF-16. -/
structure Unit16 (code : Nat) (digits : List Char) : Prop where
  four : digits.length = 4
  spelled : hexValue? digits = some code

def isHighSurrogate (code : Nat) : Bool := 0xD800 ≤ code && code < 0xDC00

def isLowSurrogate (code : Nat) : Bool := 0xDC00 ≤ code && code < 0xE000

def joinSurrogates (high low : Nat) : Nat := 0x10000 + (high - 0xD800) * 0x400 + (low - 0xDC00)

/-- The ways to write a character between quotes. -/
inductive Mark : Char → List Char → Prop
  | plain {c : Char} (quote : c ≠ '"') (backslash : c ≠ '\\') (printable : 32 ≤ c.toNat) :
      Mark c [c]
  | escape {letter c : Char} (listed : (letter, c) ∈ escapes) : Mark c ['\\', letter]
  | unit {c : Char} {digits : List Char} (spelled : Unit16 c.toNat digits) :
      Mark c ('\\' :: 'u' :: digits)
  | pair {c : Char} {high low : Nat} {first second : List Char} (isHigh : isHighSurrogate high)
      (isLow : isLowSurrogate low) (spelledHigh : Unit16 high first)
      (spelledLow : Unit16 low second) (joined : c.toNat = joinSurrogates high low) :
      Mark c ('\\' :: 'u' :: first ++ '\\' :: 'u' :: second)

inductive Quoted : List Char → List Char → Prop
  | nil : Quoted [] []
  | cons {c : Char} {chars mark text : List Char} (first : Mark c mark)
      (others : Quoted chars text) : Quoted (c :: chars) (mark ++ text)

/-! ## Values -/

inductive Phrase where
  | value (value : Json)
  | element (value : Json)
  | elements (items : List Json)
  | member (name : String) (value : Json)
  | members (members : List (String × Json))

/-- Which phrases a text spells. -/
inductive Spells : Phrase → List Char → Prop
  | nullWord : Spells (.value .null) ['n', 'u', 'l', 'l']
  | trueWord : Spells (.value (.bool true)) ['t', 'r', 'u', 'e']
  | falseWord : Spells (.value (.bool false)) ['f', 'a', 'l', 's', 'e']
  | number {value : Json} {text : List Char} (numeral : Numeral value text) :
      Spells (.value value) text
  | text {value : String} {inner : List Char} (quoted : Quoted value.toList inner) :
      Spells (.value (.text value)) ('"' :: inner ++ ['"'])
  | emptyArray {gap : List Char} (blank : Blank gap) :
      Spells (.value (.array [])) ('[' :: gap ++ [']'])
  | array {items : List Json} {inner : List Char} (elements : Spells (.elements items) inner) :
      Spells (.value (.array items)) ('[' :: inner ++ [']'])
  | emptyObject {gap : List Char} (blank : Blank gap) :
      Spells (.value (.object [])) ('\x7b' :: gap ++ ['\x7d'])
  | object {members : List (String × Json)} {inner : List Char}
      (spelled : Spells (.members members) inner) :
      Spells (.value (.object members)) ('\x7b' :: inner ++ ['\x7d'])
  | element {value : Json} {front back text : List Char} (before : Blank front)
      (after : Blank back) (spelled : Spells (.value value) text) :
      Spells (.element value) (front ++ text ++ back)
  | lastElement {value : Json} {text : List Char} (spelled : Spells (.element value) text) :
      Spells (.elements [value]) text
  | elements {value : Json} {items : List Json} {text others : List Char}
      (spelled : Spells (.element value) text) (rest : Spells (.elements items) others) :
      Spells (.elements (value :: items)) (text ++ ',' :: others)
  | member {name : String} {value : Json} {front back inner text : List Char}
      (before : Blank front) (after : Blank back) (quoted : Quoted name.toList inner)
      (spelled : Spells (.element value) text) :
      Spells (.member name value) (front ++ '"' :: inner ++ '"' :: back ++ ':' :: text)
  | lastMember {name : String} {value : Json} {text : List Char}
      (spelled : Spells (.member name value) text) : Spells (.members [(name, value)]) text
  | members {name : String} {value : Json} {members : List (String × Json)}
      {text others : List Char} (spelled : Spells (.member name value) text)
      (rest : Spells (.members members) others) :
      Spells (.members ((name, value) :: members)) (text ++ ',' :: others)

/-- A whole text spells a value. -/
def IsText (value : Json) (text : String) : Prop := Spells (.element value) text.toList

end Json

end VerifiedBuild
