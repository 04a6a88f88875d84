import Mathlib.Data.List.TakeWhile
import VerifiedBuild.Proofs.Json.Grammar

/-!
# Reading JSON

A reader for JSON texts, one function for each kind of phrase. It is exact: it reads a value from
a text if and only if the text spells that value, so that no text spells two.
-/

namespace VerifiedBuild.Json

/-! ## The reader -/

def readDigits (chars : List Char) : Option (List Char × List Char) :=
  let digits := chars.takeWhile Char.isDigit
  if digits = [] then none else some (digits, chars.dropWhile Char.isDigit)

def readWhole : List Char → Option (List Char × List Char)
  | '0' :: rest => some (['0'], rest)
  | chars => readDigits chars

def readFraction : List Char → Option (List Char × List Char)
  | '.' :: rest => readDigits rest
  | chars => some ([], chars)

def readPower : List Char → Option (Int × List Char)
  | '-' :: rest => (readDigits rest).map fun (digits, rest) => (-decimal digits, rest)
  | '+' :: rest => (readDigits rest).map fun (digits, rest) => (decimal digits, rest)
  | chars => (readDigits chars).map fun (digits, rest) => (decimal digits, rest)

def readExponent : List Char → Option (Int × List Char)
  | [] => some (0, [])
  | mark :: rest => if mark = 'e' ∨ mark = 'E' then readPower rest else some (0, mark :: rest)

def readMagnitude (chars : List Char) : Option (Nat × Int × List Char) := do
  let (whole, rest) ← readWhole chars
  let (fraction, rest) ← readFraction rest
  let (power, rest) ← readExponent rest
  some (decimal (whole ++ fraction), power - fraction.length, rest)

def readNumeral : List Char → Option (Json × List Char)
  | '-' :: rest => (readMagnitude rest).map fun (magnitude, exponent, rest) =>
      (.number (-magnitude) exponent, rest)
  | chars => (readMagnitude chars).map fun (magnitude, exponent, rest) =>
      (.number magnitude exponent, rest)

def readUnit (chars : List Char) : Option (Nat × List Char) :=
  if (chars.take 4).length = 4 then (hexValue? (chars.take 4)).map (·, chars.drop 4) else none

def charOf? (code : Nat) : Option Char :=
  if code.isValidChar then some (Char.ofNat code) else none

def readPair (high : Nat) : List Char → Option (Char × List Char)
  | '\\' :: 'u' :: rest => do
      let (low, rest) ← readUnit rest
      if isLowSurrogate low then (charOf? (joinSurrogates high low)).map (·, rest) else none
  | _ => none

def readMark : List Char → Option (Char × List Char)
  | '\\' :: 'u' :: rest => do
      let (code, rest) ← readUnit rest
      if isHighSurrogate code then readPair code rest else (charOf? code).map (·, rest)
  | '\\' :: letter :: rest => (escapes.lookup letter).map (·, rest)
  | c :: rest => if c = '"' ∨ c = '\\' ∨ c.toNat < 32 then none else some (c, rest)
  | [] => none

/-! ## Strings -/

theorem readUnit_append {code : Nat} {digits : List Char} (spelled : Unit16 code digits)
    (rest : List Char) : readUnit (digits ++ rest) = some (code, rest) := by
  have taken : (digits ++ rest).take 4 = digits := List.take_left' spelled.four
  have dropped : (digits ++ rest).drop 4 = rest := List.drop_left' spelled.four
  rw [readUnit, taken, dropped, if_pos spelled.four, spelled.spelled]
  rfl

theorem of_readUnit {chars rest : List Char} {code : Nat}
    (read : readUnit chars = some (code, rest)) :
    ∃ digits, Unit16 code digits ∧ chars = digits ++ rest := by
  rw [readUnit] at read
  split at read
  next four =>
    obtain ⟨value, spelled, same⟩ := Option.map_eq_some_iff.mp read
    cases same
    exact ⟨chars.take 4, ⟨four, spelled⟩, (List.take_append_drop 4 chars).symm⟩
  next => cases read

theorem charOf?_eq_some_iff {code : Nat} {c : Char} : charOf? code = some c ↔ c.toNat = code := by
  rw [charOf?]
  constructor
  case mp =>
    intro read
    split at read
    next valid =>
      cases read
      rw [Char.ofNat, dif_pos valid]
      rfl
    next => cases read
  case mpr =>
    rintro rfl
    have valid : c.toNat.isValidChar := c.valid
    rw [if_pos valid, Char.ofNat_toNat]

theorem not_surrogate (c : Char) : isHighSurrogate c.toNat = false := by
  have valid : c.toNat.isValidChar := c.valid
  rw [Nat.isValidChar] at valid
  simp [isHighSurrogate]
  omega

theorem lookup_escapes_eq_some_iff {letter c : Char} :
    escapes.lookup letter = some c ↔ (letter, c) ∈ escapes := by
  have found : ∀ escape ∈ escapes, escapes.lookup escape.1 = some escape.2 := by decide
  constructor
  case mp =>
    intro read
    obtain ⟨earlier, later, same, -⟩ := List.lookup_eq_some_iff.mp read
    rw [same]
    simp
  case mpr => exact found _

theorem readPair_append {c : Char} {high low : Nat} {digits : List Char}
    (isLow : isLowSurrogate low) (spelled : Unit16 low digits)
    (joined : c.toNat = joinSurrogates high low) (rest : List Char) :
    readPair high ('\\' :: 'u' :: digits ++ rest) = some (c, rest) := by
  simp [readPair, readUnit_append spelled, isLow, charOf?_eq_some_iff.mpr joined]

theorem of_readPair {c : Char} {high : Nat} {chars rest : List Char}
    (read : readPair high chars = some (c, rest)) :
    ∃ low digits, isLowSurrogate low ∧ Unit16 low digits ∧ c.toNat = joinSurrogates high low ∧
      chars = '\\' :: 'u' :: digits ++ rest := by
  unfold readPair at read
  split at read
  next tail =>
    obtain ⟨⟨low, others⟩, unit, passed⟩ := Option.bind_eq_some_iff.mp read
    dsimp only at passed
    split at passed
    next isLow =>
      obtain ⟨joined, known, same⟩ := Option.map_eq_some_iff.mp passed
      cases same
      obtain ⟨digits, spelled, rfl⟩ := of_readUnit unit
      exact ⟨low, digits, isLow, spelled, charOf?_eq_some_iff.mp known, rfl⟩
    next => cases passed
  next => cases read

theorem readMark_append {c : Char} {mark : List Char} (written : Mark c mark) (rest : List Char) :
    readMark (mark ++ rest) = some (c, rest) := by
  cases written with
  | plain quote backslash printable =>
      have above : ¬c.toNat < 32 := by omega
      simp [readMark, quote, backslash, above]
  | escape listed =>
      have other : ∀ escape ∈ escapes, escape.1 ≠ 'u' := by decide
      have plain := other _ listed
      simp [readMark, lookup_escapes_eq_some_iff.mpr listed]
  | unit spelled =>
      have known : charOf? c.toNat = some c := charOf?_eq_some_iff.mpr rfl
      simp [readMark, readUnit_append spelled, not_surrogate, known]
  | pair isHigh isLow spelledHigh spelledLow joined =>
      have second := readPair_append isLow spelledLow joined rest
      simp only [List.cons_append] at second
      simp [readMark, readUnit_append spelledHigh, isHigh, second]

theorem of_readMark {chars rest : List Char} {c : Char} (read : readMark chars = some (c, rest)) :
    ∃ mark, Mark c mark ∧ chars = mark ++ rest := by
  unfold readMark at read
  split at read
  next tail =>
    obtain ⟨⟨code, others⟩, unit, passed⟩ := Option.bind_eq_some_iff.mp read
    obtain ⟨digits, spelled, rfl⟩ := of_readUnit unit
    dsimp only at passed
    split at passed
    next isHigh =>
      obtain ⟨low, second, isLow, spelledLow, joined, rfl⟩ := of_readPair passed
      exact ⟨_, .pair isHigh isLow spelled spelledLow joined, by simp⟩
    next =>
      obtain ⟨known, same, listed⟩ := Option.map_eq_some_iff.mp passed
      cases listed
      have code := charOf?_eq_some_iff.mp same
      subst code
      exact ⟨_, .unit spelled, rfl⟩
  next letter tail _ =>
    obtain ⟨known, listed, same⟩ := Option.map_eq_some_iff.mp read
    cases same
    exact ⟨_, .escape (lookup_escapes_eq_some_iff.mp listed), rfl⟩
  next =>
    split at read
    next => cases read
    next plain =>
      cases read
      obtain ⟨quote, backslash, printable⟩ : c ≠ '"' ∧ c ≠ '\\' ∧ 32 ≤ c.toNat := by
        simpa using plain
      exact ⟨[c], .plain quote backslash printable, rfl⟩
  next => cases read

theorem Mark.nonempty {c : Char} {mark : List Char} (written : Mark c mark) : mark ≠ [] := by
  cases written <;> simp

theorem length_of_readMark {chars rest : List Char} {c : Char}
    (read : readMark chars = some (c, rest)) : rest.length < chars.length := by
  obtain ⟨mark, written, rfl⟩ := of_readMark read
  have long := List.length_pos_iff.mpr written.nonempty
  rw [List.length_append]
  omega

/-- Read up to the closing quote. -/
def readQuoted (chars : List Char) : Option (List Char × List Char) :=
  if chars.head? = some '"' then some ([], chars.tail)
  else match _read : readMark chars with
    | some (c, rest) => (readQuoted rest).map fun (others, rest) => (c :: others, rest)
    | none => none
termination_by chars.length
decreasing_by exact length_of_readMark _read

theorem Mark.head?_ne {c : Char} {mark : List Char} (written : Mark c mark) (rest : List Char) :
    (mark ++ rest).head? ≠ some '"' := by
  cases written with
  | plain quote => simpa using quote
  | escape | unit | pair => simp

theorem readQuoted_append {value inner : List Char} (quoted : Quoted value inner)
    (rest : List Char) : readQuoted (inner ++ '"' :: rest) = some (value, rest) := by
  induction quoted with
  | nil => simp [readQuoted]
  | cons first others ih =>
      rw [List.append_assoc, readQuoted, if_neg (first.head?_ne _)]
      split
      next c tail known =>
        rw [readMark_append first] at known
        cases known
        rw [ih]
        rfl
      next missing =>
        rw [readMark_append first] at missing
        cases missing

theorem of_readQuoted {chars value rest : List Char}
    (read : readQuoted chars = some (value, rest)) :
    ∃ inner, Quoted value inner ∧ chars = inner ++ '"' :: rest := by
  induction chars using readQuoted.induct generalizing value rest with
  | case1 chars closed =>
      rw [readQuoted, if_pos closed] at read
      cases read
      obtain ⟨tail, rfl⟩ := List.head?_eq_some_iff.mp closed
      exact ⟨[], .nil, rfl⟩
  | case2 chars inside c tail known ih =>
      rw [readQuoted, if_neg inside] at read
      split at read
      next first tail same =>
        rw [known] at same
        cases same
        obtain ⟨⟨others, last⟩, later, same⟩ := Option.map_eq_some_iff.mp read
        cases same
        obtain ⟨mark, written, rfl⟩ := of_readMark known
        obtain ⟨inner, quoted, rfl⟩ := ih later
        exact ⟨mark ++ inner, .cons written quoted, by simp⟩
      next => cases read
  | case3 chars inside missing =>
      rw [readQuoted, if_neg inside] at read
      split at read
      next same =>
        rw [missing] at same
        cases same
      next => cases read

/-! ## Numbers -/

def NoDigit (rest : List Char) : Prop := ∀ c ∈ rest.head?, c.isDigit = false

/-- A number that stands before does not go on here. -/
structure Ended (rest : List Char) : Prop where
  digit : NoDigit rest
  point : rest.head? ≠ some '.'
  mark : rest.head? ≠ some 'e' ∧ rest.head? ≠ some 'E'

theorem readDigits_append {digits rest : List Char} (spelled : Digits digits)
    (ended : NoDigit rest) : readDigits (digits ++ rest) = some (digits, rest) := by
  have all : ∀ c ∈ digits, c.isDigit := List.all_eq_true.mp spelled.digits
  have stops : rest.takeWhile Char.isDigit = [] ∧ rest.dropWhile Char.isDigit = rest := by
    cases rest with
    | nil => exact ⟨rfl, rfl⟩
    | cons c tail => simp [ended c rfl]
  rw [readDigits, List.takeWhile_append_of_pos all, List.dropWhile_append_of_pos all, stops.1,
    stops.2, List.append_nil, if_neg spelled.nonempty]

theorem of_readDigits {chars digits rest : List Char}
    (read : readDigits chars = some (digits, rest)) : Digits digits ∧ chars = digits ++ rest := by
  rw [readDigits] at read
  split at read
  next => cases read
  next some =>
    cases read
    exact ⟨⟨some, List.all_takeWhile⟩, List.takeWhile_append_dropWhile.symm⟩

theorem Digits.starts {digits : List Char} (spelled : Digits digits) :
    ∃ lead others, digits = lead :: others ∧ lead.isDigit := by
  cases digits with
  | nil => exact absurd rfl spelled.nonempty
  | cons lead others => exact ⟨lead, others, rfl, (Bool.and_eq_true_iff.mp spelled.digits).1⟩

theorem readWhole_append {whole rest : List Char} (spelled : Whole whole) (ended : NoDigit rest) :
    readWhole (whole ++ rest) = some (whole, rest) := by
  cases spelled with
  | zero => rfl
  | positive nonzero spelled =>
      have read := readDigits_append spelled ended
      rw [List.cons_append] at read ⊢
      unfold readWhole
      split
      next same => exact absurd (List.cons.inj same).1 nonzero
      next => exact read

theorem of_readWhole {chars whole rest : List Char}
    (read : readWhole chars = some (whole, rest)) : Whole whole ∧ chars = whole ++ rest := by
  unfold readWhole at read
  split at read
  next =>
    cases read
    exact ⟨.zero, rfl⟩
  next other =>
    obtain ⟨spelled, rfl⟩ := of_readDigits read
    cases whole with
    | nil => exact absurd rfl spelled.nonempty
    | cons lead digits =>
        refine ⟨.positive ?_ spelled, rfl⟩
        rintro rfl
        exact other _ rfl

theorem readFraction_append {fraction point rest : List Char} (spelled : Fraction fraction point)
    (ended : NoDigit rest) (plain : rest.head? ≠ some '.') :
    readFraction (point ++ rest) = some (fraction, rest) := by
  cases spelled with
  | present spelled => exact readDigits_append spelled ended
  | absent =>
      rw [List.nil_append]
      unfold readFraction
      split
      next => exact absurd rfl plain
      next => rfl

theorem of_readFraction {chars fraction rest : List Char}
    (read : readFraction chars = some (fraction, rest)) :
    ∃ point, Fraction fraction point ∧ chars = point ++ rest := by
  unfold readFraction at read
  split at read
  next =>
    obtain ⟨spelled, rfl⟩ := of_readDigits read
    exact ⟨_, .present spelled, rfl⟩
  next =>
    cases read
    exact ⟨[], .absent, rfl⟩

theorem readPower_append {power : Int} {digits rest : List Char} (spelled : Power power digits)
    (ended : NoDigit rest) : readPower (digits ++ rest) = some (power, rest) := by
  cases spelled with
  | plus spelled => simp [readPower, readDigits_append spelled ended]
  | minus spelled => simp [readPower, readDigits_append spelled ended]
  | unsigned spelled =>
      have read := readDigits_append spelled ended
      obtain ⟨lead, others, rfl, digit⟩ := spelled.starts
      have sign : lead ≠ '-' ∧ lead ≠ '+' := by
        constructor <;> rintro rfl <;> revert digit <;> decide
      rw [List.cons_append] at read ⊢
      simp [readPower, sign, read]

theorem of_readPower {power : Int} {chars rest : List Char}
    (read : readPower chars = some (power, rest)) :
    ∃ digits, Power power digits ∧ chars = digits ++ rest := by
  unfold readPower at read
  split at read
  all_goals
    obtain ⟨⟨digits, others⟩, known, same⟩ := Option.map_eq_some_iff.mp read
    cases same
    obtain ⟨spelled, rfl⟩ := of_readDigits known
  · exact ⟨_, .minus spelled, rfl⟩
  · exact ⟨_, .plus spelled, rfl⟩
  · exact ⟨_, .unsigned spelled, rfl⟩

theorem readExponent_append {power : Int} {mark rest : List Char} (spelled : Exponent power mark)
    (ended : Ended rest) : readExponent (mark ++ rest) = some (power, rest) := by
  cases spelled with
  | present marked spelled => simp [readExponent, marked, readPower_append spelled ended.digit]
  | absent =>
      cases rest with
      | nil => rfl
      | cons c tail =>
          have other := ended.mark
          simp only [List.head?_cons, ne_eq, Option.some.injEq] at other
          simp [readExponent, other]

theorem of_readExponent {power : Int} {chars rest : List Char}
    (read : readExponent chars = some (power, rest)) :
    ∃ mark, Exponent power mark ∧ chars = mark ++ rest := by
  unfold readExponent at read
  split at read
  next =>
    cases read
    exact ⟨[], .absent, rfl⟩
  next =>
    split at read
    next marked =>
      obtain ⟨digits, spelled, rfl⟩ := of_readPower read
      exact ⟨_, .present marked spelled, rfl⟩
    next =>
      cases read
      exact ⟨[], .absent, rfl⟩

theorem readMagnitude_append {magnitude : Nat} {exponent : Int} {text rest : List Char}
    (spelled : Magnitude magnitude exponent text) (ended : Ended rest) :
    readMagnitude (text ++ rest) = some (magnitude, exponent, rest) := by
  obtain ⟨front, back, last⟩ := spelled
  rename_i whole fraction point mark power
  have third := readExponent_append last ended
  have plain : NoDigit (mark ++ rest) ∧ (mark ++ rest).head? ≠ some '.' := by
    cases last with
    | absent => exact ⟨ended.digit, ended.point⟩
    | present marked =>
        rcases marked with rfl | rfl <;> exact ⟨by simp [NoDigit], by simp⟩
  have second := readFraction_append back plain.1 plain.2
  have stops : NoDigit (point ++ (mark ++ rest)) := by
    cases back with
    | absent => exact plain.1
    | present => simp [NoDigit]
  have first := readWhole_append front stops
  simp [readMagnitude, first, second, third]

theorem of_readMagnitude {magnitude : Nat} {exponent : Int} {chars rest : List Char}
    (read : readMagnitude chars = some (magnitude, exponent, rest)) :
    ∃ text, Magnitude magnitude exponent text ∧ chars = text ++ rest := by
  obtain ⟨⟨whole, others⟩, first, read⟩ := Option.bind_eq_some_iff.mp read
  obtain ⟨⟨fraction, others⟩, second, read⟩ := Option.bind_eq_some_iff.mp read
  obtain ⟨⟨power, others⟩, third, read⟩ := Option.bind_eq_some_iff.mp read
  cases read
  obtain ⟨front, rfl⟩ := of_readWhole first
  obtain ⟨point, back, rfl⟩ := of_readFraction second
  obtain ⟨mark, last, rfl⟩ := of_readExponent third
  exact ⟨_, .mk front back last, by simp⟩

theorem Magnitude.starts {magnitude : Nat} {exponent : Int} {text : List Char}
    (spelled : Magnitude magnitude exponent text) :
    ∃ lead others, text = lead :: others ∧ lead.isDigit := by
  obtain ⟨front, -, -⟩ := spelled
  cases front with
  | zero => exact ⟨_, _, rfl, rfl⟩
  | positive nonzero spelled => exact ⟨_, _, rfl, (Bool.and_eq_true_iff.mp spelled.digits).1⟩

theorem readNumeral_append {value : Json} {text rest : List Char} (spelled : Numeral value text)
    (ended : Ended rest) : readNumeral (text ++ rest) = some (value, rest) := by
  cases spelled with
  | negative spelled => simp [readNumeral, readMagnitude_append spelled ended]
  | positive spelled =>
      have read := readMagnitude_append spelled ended
      obtain ⟨lead, others, rfl, digit⟩ := spelled.starts
      have sign : lead ≠ '-' := by
        rintro rfl
        revert digit
        decide
      rw [List.cons_append] at read ⊢
      simp [readNumeral, sign, read]

theorem of_readNumeral {value : Json} {chars rest : List Char}
    (read : readNumeral chars = some (value, rest)) :
    ∃ text, Numeral value text ∧ chars = text ++ rest := by
  unfold readNumeral at read
  split at read
  all_goals
    obtain ⟨⟨magnitude, exponent, others⟩, known, same⟩ := Option.map_eq_some_iff.mp read
    cases same
    obtain ⟨text, spelled, rfl⟩ := of_readMagnitude known
  · exact ⟨_, .negative spelled, rfl⟩
  · exact ⟨_, .positive spelled, rfl⟩

/-! ## Values -/

def skip (chars : List Char) : List Char := chars.dropWhile isBlank

def readElement (read : List Char → Option (Json × List Char)) (chars : List Char) :
    Option (Json × List Char) :=
  (read (skip chars)).map fun (value, rest) => (value, skip rest)

/-- Read the name of a member, up to the colon. -/
def readName (chars : List Char) : Option (String × List Char) :=
  match skip chars with
  | '"' :: rest => do
      let (name, rest) ← readQuoted rest
      match skip rest with
      | ':' :: rest => some (String.ofList name, rest)
      | _ => none
  | _ => none

-- The elements of an array are read with the bracket behind them, the members of an object with the
-- brace. Each call takes a character at least, so that the length of a text is enough as `depth`.
mutual

def readValue : Nat → List Char → Option (Json × List Char)
  | 0, _ => none
  | depth + 1, chars => match chars with
    | 'n' :: 'u' :: 'l' :: 'l' :: rest => some (.null, rest)
    | 't' :: 'r' :: 'u' :: 'e' :: rest => some (.bool true, rest)
    | 'f' :: 'a' :: 'l' :: 's' :: 'e' :: rest => some (.bool false, rest)
    | '"' :: rest => (readQuoted rest).map fun (value, rest) => (.text (String.ofList value), rest)
    | '[' :: rest =>
        if (skip rest).head? = some ']' then some (.array [], (skip rest).tail)
        else (readElements depth rest).map fun (items, rest) => (.array items, rest)
    | '\x7b' :: rest =>
        if (skip rest).head? = some '\x7d' then some (.object [], (skip rest).tail)
        else (readMembers depth rest).map fun (members, rest) => (.object members, rest)
    | _ => readNumeral chars

def readElements : Nat → List Char → Option (List Json × List Char)
  | 0, _ => none
  | depth + 1, chars => do
      let (value, rest) ← readElement (readValue depth) chars
      match rest with
      | ']' :: rest => some ([value], rest)
      | ',' :: rest => (readElements depth rest).map fun (items, rest) => (value :: items, rest)
      | _ => none

def readMembers : Nat → List Char → Option (List (String × Json) × List Char)
  | 0, _ => none
  | depth + 1, chars => do
      let (name, rest) ← readName chars
      let (value, rest) ← readElement (readValue depth) rest
      match rest with
      | '\x7d' :: rest => some ([(name, value)], rest)
      | ',' :: rest => (readMembers depth rest).map fun (members, rest) =>
          ((name, value) :: members, rest)
      | _ => none

end

/-- The value that a text spells. -/
def parse? (text : String) : Option Json :=
  match readElement (readValue text.length) text.toList with
  | some (value, []) => some value
  | _ => none

/-! ## What is spelled is read -/

theorem skip_append {gap rest : List Char} (blank : Blank gap)
    (ended : ∀ c ∈ rest.head?, isBlank c = false) : skip (gap ++ rest) = rest := by
  rw [skip, List.dropWhile_append_of_pos (List.all_eq_true.mp blank)]
  cases rest with
  | nil => rfl
  | cons c tail => simp [ended c rfl]

theorem of_skip (chars : List Char) : ∃ gap, Blank gap ∧ chars = gap ++ skip chars :=
  ⟨chars.takeWhile isBlank, List.all_takeWhile, List.takeWhile_append_dropWhile.symm⟩

/-- What stands behind an element. -/
def Closed (rest : List Char) : Prop := ∀ c ∈ rest.head?, c = ',' ∨ c = ']' ∨ c = '\x7d'

theorem Closed.not_blank {rest : List Char} (closed : Closed rest) :
    ∀ c ∈ rest.head?, isBlank c = false := by
  intro c first
  rcases closed c first with rfl | rfl | rfl <;> rfl

theorem Closed.ended {gap rest : List Char} (closed : Closed rest) (blank : Blank gap) :
    Ended (gap ++ rest) := by
  have bounds : ∀ c ∈ (gap ++ rest).head?, isBlank c ∨ c = ',' ∨ c = ']' ∨ c = '\x7d' := by
    cases gap with
    | nil => exact fun c first => .inr (closed c first)
    | cons lead others =>
        intro c first
        cases first
        exact .inl (Bool.and_eq_true_iff.mp blank).1
  cases joined : gap ++ rest with
  | nil => exact ⟨by simp [NoDigit], by simp, by simp⟩
  | cons c tail =>
      rw [joined] at bounds
      have bound := bounds c rfl
      simp only [isBlank, Bool.or_eq_true, decide_eq_true_eq] at bound
      constructor
      case digit =>
        intro first same
        cases same
        rcases bound with ((((rfl | rfl) | rfl) | rfl) | rfl | rfl | rfl) <;> rfl
      case point => rcases bound with ((((rfl | rfl) | rfl) | rfl) | rfl | rfl | rfl) <;> simp
      case mark => rcases bound with ((((rfl | rfl) | rfl) | rfl) | rfl | rfl | rfl) <;> simp

/-- What may stand first in a value. -/
def opens (c : Char) : Bool :=
  c.isDigit || c ∈ ['-', 'n', 't', 'f', '"', '[', '\x7b']

theorem Spells.starts {value : Json} {text : List Char} (spelled : Spells (.value value) text) :
    ∃ lead others, text = lead :: others ∧ opens lead := by
  cases spelled with
  | number numeral =>
      cases numeral with
      | negative spelled => exact ⟨_, _, rfl, rfl⟩
      | positive spelled =>
          obtain ⟨lead, others, same, digit⟩ := spelled.starts
          exact ⟨lead, others, same, by simp [opens, digit]⟩
  | nullWord | trueWord | falseWord | text | emptyArray | array | emptyObject | object =>
      exact ⟨_, _, rfl, rfl⟩

theorem not_opens_of_blank {c : Char} (blank : isBlank c) : opens c = false := by
  simp only [isBlank, Bool.or_eq_true, decide_eq_true_eq] at blank
  rcases blank with ((rfl | rfl) | rfl) | rfl <;> rfl

theorem readValue_numeral {depth : Nat} {lead : Char} {rest : List Char}
    (sign : lead.isDigit ∨ lead = '-') :
    readValue (depth + 1) (lead :: rest) = readNumeral (lead :: rest) := by
  have other : lead ≠ 'n' ∧ lead ≠ 't' ∧ lead ≠ 'f' ∧ lead ≠ '"' ∧ lead ≠ '[' ∧ lead ≠ '\x7b' := by
    refine ⟨?_, ?_, ?_, ?_, ?_, ?_⟩ <;> rintro rfl <;> revert sign <;> decide
  simp [readValue, other]

theorem skip_value {value : Json} {front text : List Char} (before : Blank front)
    (spelled : Spells (.value value) text) (rest : List Char) :
    skip (front ++ (text ++ rest)) = text ++ rest := by
  obtain ⟨lead, others, rfl, first⟩ := spelled.starts
  refine skip_append before ?_
  rintro _ ⟨⟩
  exact Bool.eq_false_iff.mpr fun blank => by simp [not_opens_of_blank blank] at first

theorem skip_element {value : Json} {text : List Char} (spelled : Spells (.element value) text)
    (rest : List Char) : ∃ lead others, skip (text ++ rest) = lead :: others ∧ opens lead := by
  cases spelled with
  | element before after spelled =>
      obtain ⟨lead, others, same, first⟩ := spelled.starts
      rw [List.append_assoc, List.append_assoc, skip_value before spelled, same]
      exact ⟨lead, _, rfl, first⟩

theorem skip_elements {items : List Json} {text : List Char}
    (spelled : Spells (.elements items) text) (rest : List Char) :
    (skip (text ++ rest)).head? ≠ some ']' := by
  have opened : ∃ lead others, skip (text ++ rest) = lead :: others ∧ opens lead := by
    cases spelled with
    | lastElement spelled => exact skip_element spelled rest
    | elements spelled others =>
        rw [List.append_assoc]
        exact skip_element spelled _
  obtain ⟨lead, others, same, first⟩ := opened
  rw [same]
  rintro ⟨⟩
  cases first

theorem skip_members {members : List (String × Json)} {text : List Char}
    (spelled : Spells (.members members) text) (rest : List Char) :
    (skip (text ++ rest)).head? ≠ some '\x7d' := by
  have opened (name : String) (value : Json) (text rest : List Char)
      (spelled : Spells (.member name value) text) : (skip (text ++ rest)).head? = some '"' := by
    cases spelled with
    | member before after quoted spelled =>
        rw [List.append_assoc, List.append_assoc, List.append_assoc]
        rw [skip_append before (by rintro _ ⟨⟩; rfl)]
        rfl
  cases spelled with
  | lastMember spelled => simp [opened _ _ _ _ spelled]
  | members spelled others =>
      rw [List.append_assoc]
      simp [opened _ _ _ _ spelled]

/-- The reader of a phrase reads it from a text, whatever stands behind. -/
def IsRead (text : List Char) : Phrase → Prop
  | .value value => ∀ depth rest, text.length ≤ depth → Ended rest →
      readValue depth (text ++ rest) = some (value, rest)
  | .element value => ∀ depth rest, text.length ≤ depth → Closed rest →
      readElement (readValue depth) (text ++ rest) = some (value, rest)
  | .elements items => ∀ depth rest, text.length < depth →
      readElements depth (text ++ ']' :: rest) = some (items, rest)
  | .member name value => ∀ depth rest, text.length ≤ depth → Closed rest →
      ∃ others, readName (text ++ rest) = some (name, others) ∧
        readElement (readValue depth) others = some (value, rest)
  | .members members => ∀ depth rest, text.length < depth →
      readMembers depth (text ++ '\x7d' :: rest) = some (members, rest)

theorem Spells.isRead {phrase : Phrase} {text : List Char} (spelled : Spells phrase text) :
    IsRead text phrase := by
  induction spelled with
  | nullWord | trueWord | falseWord =>
      rintro (_ | depth) rest long ended
      · cases long
      · rfl
  | number numeral =>
      rintro (_ | depth) rest long ended
      · obtain ⟨lead, others, rfl, -⟩ := Spells.starts (.number numeral)
        cases long
      · have read := readNumeral_append numeral ended
        cases numeral with
        | negative => exact (readValue_numeral (.inr rfl)).trans read
        | positive spelled =>
            obtain ⟨lead, others, rfl, digit⟩ := spelled.starts
            exact (readValue_numeral (.inl digit)).trans read
  | text quoted =>
      rintro (_ | depth) rest long ended
      · cases long
      · have read := readQuoted_append quoted rest
        simp [readValue, read]
  | emptyArray blank =>
      rintro (_ | depth) rest long ended
      · cases long
      · rename_i gap
        have skipped : skip (gap ++ ']' :: rest) = ']' :: rest :=
          skip_append blank (by rintro _ ⟨⟩; rfl)
        simp [readValue, skipped]
  | array spelled ih =>
      rintro (_ | depth) rest long ended
      · cases long
      · have read := ih depth rest (by simp at long; omega)
        have opened := skip_elements spelled (']' :: rest)
        simp [readValue, read, opened]
  | emptyObject blank =>
      rintro (_ | depth) rest long ended
      · cases long
      · rename_i gap
        have skipped : skip (gap ++ '\x7d' :: rest) = '\x7d' :: rest :=
          skip_append blank (by rintro _ ⟨⟩; rfl)
        simp [readValue, skipped]
  | object spelled ih =>
      rintro (_ | depth) rest long ended
      · cases long
      · have read := ih depth rest (by simp at long; omega)
        have opened := skip_members spelled ('\x7d' :: rest)
        simp [readValue, read, opened]
  | element before after spelled ih =>
      intro depth rest long closed
      simp only [List.length_append] at long
      have read := ih depth _ (by omega) (closed.ended after)
      have skipped := skip_append after closed.not_blank
      rw [readElement, List.append_assoc, List.append_assoc, skip_value before spelled, read]
      simp [skipped]
  | lastElement spelled ih =>
      rintro (_ | depth) rest long
      · cases long
      · have read := ih depth (']' :: rest) (by omega) (by simp [Closed])
        simp [readElements, read]
  | elements spelled others ih later =>
      rename_i value items text inner
      rintro (_ | depth) rest long
      · cases long
      · simp only [List.length_append, List.length_cons] at long
        have read := ih depth (',' :: (inner ++ ']' :: rest)) (by omega) (by simp [Closed])
        have readLater := later depth rest (by omega)
        simp [readElements, read, readLater]
  | member before after quoted spelled ih =>
      rename_i name value front back inner text
      intro depth rest long closed
      simp only [List.length_append, List.length_cons] at long
      refine ⟨text ++ rest, ?_, ih depth rest (by omega) closed⟩
      have first : skip (front ++ '"' :: (inner ++ '"' :: (back ++ ':' :: (text ++ rest)))) = _ :=
        skip_append before (by rintro _ ⟨⟩; rfl)
      have second := readQuoted_append quoted (back ++ ':' :: (text ++ rest))
      have third : skip (back ++ ':' :: (text ++ rest)) = _ :=
        skip_append after (by rintro _ ⟨⟩; rfl)
      simp [readName, first, second, third]
  | lastMember spelled ih =>
      rintro (_ | depth) rest long
      · cases long
      · obtain ⟨others, named, read⟩ := ih depth ('\x7d' :: rest) (by omega) (by simp [Closed])
        simp [readMembers, named, read]
  | members spelled others ih later =>
      rename_i name value members text inner
      rintro (_ | depth) rest long
      · cases long
      · simp only [List.length_append, List.length_cons] at long
        obtain ⟨others, named, read⟩ :=
          ih depth (',' :: (inner ++ '\x7d' :: rest)) (by omega) (by simp [Closed])
        have readLater := later depth rest (by omega)
        simp [readMembers, named, read, readLater]

/-! ## What is read is spelled -/

theorem of_readElement {read : List Char → Option (Json × List Char)}
    (sound : ∀ chars value rest, read chars = some (value, rest) →
      ∃ text, Spells (.value value) text ∧ chars = text ++ rest)
    {chars rest : List Char} {value : Json} (known : readElement read chars = some (value, rest)) :
    ∃ text, Spells (.element value) text ∧ chars = text ++ rest := by
  obtain ⟨⟨value, others⟩, given, same⟩ := Option.map_eq_some_iff.mp known
  cases same
  obtain ⟨front, before, split⟩ := of_skip chars
  obtain ⟨back, after, splitBack⟩ := of_skip others
  obtain ⟨text, spelled, located⟩ := sound _ _ _ given
  refine ⟨front ++ text ++ back, .element before after spelled, ?_⟩
  rw [split, located, List.append_assoc, List.append_assoc, ← splitBack]

theorem of_skip_head {chars : List Char} {mark : Char} (closed : (skip chars).head? = some mark) :
    ∃ gap, Blank gap ∧ chars = gap ++ mark :: (skip chars).tail := by
  obtain ⟨gap, blank, split⟩ := of_skip chars
  obtain ⟨last, same⟩ := List.head?_eq_some_iff.mp closed
  refine ⟨gap, blank, ?_⟩
  rw [same] at split ⊢
  exact split

theorem of_readName {chars rest : List Char} {name : String}
    (read : readName chars = some (name, rest)) :
    ∃ front back inner, Blank front ∧ Blank back ∧ Quoted name.toList inner ∧
      chars = front ++ '"' :: inner ++ '"' :: back ++ ':' :: rest := by
  obtain ⟨front, before, split⟩ := of_skip chars
  unfold readName at read
  split at read
  next tail same =>
    obtain ⟨⟨value, others⟩, quoted, read⟩ := Option.bind_eq_some_iff.mp read
    obtain ⟨back, after, splitBack⟩ := of_skip others
    dsimp only at read
    split at read
    next last sameBack =>
      cases read
      obtain ⟨inner, spelled, rfl⟩ := of_readQuoted quoted
      refine ⟨front, back, inner, before, after, by simpa using spelled, ?_⟩
      rw [split, same, splitBack, sameBack]
      simp
    next => cases read
  next => cases read

/-- What the readers of a depth read, a text spells. -/
structure Sound (depth : Nat) : Prop where
  value : ∀ chars value rest, readValue depth chars = some (value, rest) →
    ∃ text, Spells (.value value) text ∧ chars = text ++ rest
  elements : ∀ chars items rest, readElements depth chars = some (items, rest) →
    ∃ text, Spells (.elements items) text ∧ chars = text ++ ']' :: rest
  members : ∀ chars members rest, readMembers depth chars = some (members, rest) →
    ∃ text, Spells (.members members) text ∧ chars = text ++ '\x7d' :: rest

theorem sound_zero : Sound 0 := by
  constructor
  case value => rintro chars value rest ⟨⟩
  case elements => rintro chars items rest ⟨⟩
  case members => rintro chars members rest ⟨⟩

theorem of_readValue {depth : Nat} (sound : Sound depth) {chars rest : List Char} {value : Json}
    (read : readValue (depth + 1) chars = some (value, rest)) :
    ∃ text, Spells (.value value) text ∧ chars = text ++ rest := by
  unfold readValue at read
  split at read
  next =>
    cases read
    exact ⟨_, .nullWord, rfl⟩
  next =>
    cases read
    exact ⟨_, .trueWord, rfl⟩
  next =>
    cases read
    exact ⟨_, .falseWord, rfl⟩
  next =>
    obtain ⟨⟨chars, others⟩, known, same⟩ := Option.map_eq_some_iff.mp read
    cases same
    obtain ⟨inner, quoted, rfl⟩ := of_readQuoted known
    exact ⟨_, .text (by simpa using quoted), by simp⟩
  next tail =>
    split at read
    next closed =>
      cases read
      obtain ⟨gap, blank, split⟩ := of_skip_head closed
      exact ⟨_, .emptyArray blank, by simpa using split⟩
    next =>
      obtain ⟨⟨items, others⟩, known, same⟩ := Option.map_eq_some_iff.mp read
      cases same
      obtain ⟨text, spelled, rfl⟩ := sound.elements _ _ _ known
      exact ⟨_, .array spelled, by simp⟩
  next tail =>
    split at read
    next closed =>
      cases read
      obtain ⟨gap, blank, split⟩ := of_skip_head closed
      exact ⟨_, .emptyObject blank, by simpa using split⟩
    next =>
      obtain ⟨⟨members, others⟩, known, same⟩ := Option.map_eq_some_iff.mp read
      cases same
      obtain ⟨text, spelled, rfl⟩ := sound.members _ _ _ known
      exact ⟨_, .object spelled, by simp⟩
  next =>
    obtain ⟨text, numeral, same⟩ := of_readNumeral read
    exact ⟨text, .number numeral, same⟩

theorem of_readElements {depth : Nat} (sound : Sound depth) {chars rest : List Char}
    {items : List Json} (read : readElements (depth + 1) chars = some (items, rest)) :
    ∃ text, Spells (.elements items) text ∧ chars = text ++ ']' :: rest := by
  rw [readElements] at read
  obtain ⟨⟨value, others⟩, first, passed⟩ := Option.bind_eq_some_iff.mp read
  obtain ⟨text, spelled, rfl⟩ := of_readElement sound.value first
  dsimp only at passed
  split at passed
  next =>
    cases passed
    exact ⟨text, .lastElement spelled, rfl⟩
  next =>
    obtain ⟨⟨later, last⟩, known, same⟩ := Option.map_eq_some_iff.mp passed
    cases same
    obtain ⟨inner, spelledLater, rfl⟩ := sound.elements _ _ _ known
    exact ⟨_, .elements spelled spelledLater, by simp⟩
  next => cases passed

theorem of_readMembers {depth : Nat} (sound : Sound depth) {chars rest : List Char}
    {members : List (String × Json)} (read : readMembers (depth + 1) chars = some (members, rest)) :
    ∃ text, Spells (.members members) text ∧ chars = text ++ '\x7d' :: rest := by
  rw [readMembers] at read
  obtain ⟨⟨name, tail⟩, named, passed⟩ := Option.bind_eq_some_iff.mp read
  obtain ⟨⟨value, others⟩, first, ended⟩ := Option.bind_eq_some_iff.mp passed
  obtain ⟨front, back, inner, before, after, quoted, rfl⟩ := of_readName named
  obtain ⟨text, spelled, rfl⟩ := of_readElement sound.value first
  have member := Spells.member before after quoted spelled
  dsimp only at ended
  split at ended
  next =>
    cases ended
    exact ⟨_, .lastMember member, by simp⟩
  next =>
    obtain ⟨⟨later, last⟩, known, same⟩ := Option.map_eq_some_iff.mp ended
    cases same
    obtain ⟨rest, spelledLater, rfl⟩ := sound.members _ _ _ known
    exact ⟨_, .members member spelledLater, by simp⟩
  next => cases ended

theorem sound (depth : Nat) : Sound depth := by
  induction depth with
  | zero => exact sound_zero
  | succ depth ih =>
      constructor
      case value => exact fun _ _ _ => of_readValue ih
      case elements => exact fun _ _ _ => of_readElements ih
      case members => exact fun _ _ _ => of_readMembers ih

/-- The reader is exact, so that a text spells one value at most. -/
theorem parse?_eq_some_iff {text : String} {value : Json} :
    parse? text = some value ↔ IsText value text := by
  rw [parse?]
  constructor
  case mp =>
    intro read
    split at read
    next known =>
      cases read
      obtain ⟨inner, spelled, same⟩ := of_readElement (sound _).value known
      rw [IsText, same, List.append_nil]
      exact spelled
    next => cases read
  case mpr =>
    intro spelled
    have long : text.toList.length ≤ text.length := by rw [String.length_toList]
    have read := spelled.isRead text.length [] long (by simp [Closed])
    rw [List.append_nil] at read
    rw [read]

end VerifiedBuild.Json
