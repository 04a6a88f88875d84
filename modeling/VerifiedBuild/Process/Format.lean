import VerifiedBuild.Process.Arithmetic
import VerifiedBuild.Text.Integer
/-!
# Printed texts

What `echo` and `printf` print: escape sequences, and formats whose conversions take arguments. A
format is used again as long as it takes arguments and some are left; missing ones count as empty.
-/

namespace VerifiedBuild.Shell.Format

/-! ## Escapes -/

def isOctal (c : Char) : Bool := '0' ≤ c && c < '8'

def octalEscape (chars : List Char) : Char × List Char :=
  let digits := (chars.take 3).takeWhile isOctal
  (Char.ofNat (digits.foldl (fun value c => value * 8 + digitValue c) 0 % 256),
    chars.drop digits.length)
where
  digitValue (c : Char) : Nat := c.toNat - '0'.toNat

def controls : List (Char × Char) :=
  [('\\', '\\'), ('a', '\x07'), ('b', '\x08'), ('e', '\x1b'), ('f', '\x0c'), ('n', '\n'),
    ('r', '\r'), ('t', '\t'), ('v', '\x0b')]

def escape (chars : List Char) : Char × List Char :=
  match chars with
  | [] => ('\\', [])
  | c :: rest =>
      if isOctal c then octalEscape chars
      else match controls.find? (·.1 = c) with
        | some (_, control) => (control, rest)
        | none => ('\\', chars)

/-- A text with its escapes replaced, and whether one of them ends all output. Each step uses up a
character, so as much fuel as characters is enough. -/
def unescape : Nat → List Char → List Char × Bool
  | 0, _ | _, [] => ([], false)
  | _ + 1, '\\' :: 'c' :: _ => ([], true)
  | fuel + 1, '\\' :: rest =>
      let (c, following) := match rest with
        | '0' :: digit :: _ => escape (if isOctal digit then rest.drop 1 else rest)
        | _ => escape rest
      let (others, stops) := unescape fuel following
      (c :: others, stops)
  | fuel + 1, c :: rest =>
      let (others, stops) := unescape fuel rest
      (c :: others, stops)

def unescaped (text : String) : List Char × Bool :=
  unescape (text.length + 1) text.toList

def echoed : List String → List Char
  | [] => ['\n']
  | argument :: rest =>
      let (text, stops) := unescaped argument
      if stops then text
      else if rest = [] then text ++ ['\n']
      else text ++ ' ' :: echoed rest

/-- What `echo` prints; without the end of the line if the first argument says so. -/
def echo : List String → String
  | "-n" :: rest =>
      let text := echoed rest
      let ended := text.getLast? = some '\n' ∧ !(rest.any (unescaped · |>.2))
      String.ofList (if ended then text.dropLast else text)
  | arguments => String.ofList (echoed arguments)

/-! ## Conversions -/

structure Conversion where
  flags : List Char := []
  width : Option Int := none
  precision : Option Int := none
  kind : Char
deriving Repr, Inhabited

/-- The text so far, the arguments that are left, the warnings, and what ended the output early. -/
structure Printing where
  text : List Char := []
  arguments : List String
  taken : Nat := 0
  warnings : List String := []
  failure : Option String := none
  stopped : Bool := false
deriving Repr, Inhabited

namespace Printing

def take (printing : Printing) : Option String × Printing :=
  match printing.arguments with
  | [] => (none, printing)
  | first :: rest =>
      (some first, { printing with arguments := rest, taken := printing.taken + 1 })

def takeNumber (printing : Printing) (signed : Bool) : Int × Printing :=
  match printing.take with
  | (none, after) => (0, after)
  | (some text, after) =>
      let warn := fun (value : Int) reason =>
        (value, { after with warnings := after.warnings ++ [text ++ ": " ++ reason] })
      match text.toList with
      | [] => (0, after)
      | '\'' :: rest | '"' :: rest => ((rest.head?.map (·.toNat)).getD 0, after)
      | chars =>
          let start := chars.dropWhile Arithmetic.isBlank
          let (negative, digits) := match start with
            | '-' :: rest => (true, rest)
            | '+' :: rest => (false, rest)
            | rest => (false, rest)
          let (found, rest) := Arithmetic.number digits
          let value := if negative then -found else found
          if !digits.head?.any Char.isDigit then warn 0 "expected numeric value"
          else if rest ≠ [] then warn value "not completely converted"
          else if signed ∧ found = Arithmetic.greatest ∧ digits.length > 19 then
            warn value "Numerical result out of range"
          else (value, after)

def put (printing : Printing) (text : List Char) : Printing :=
  { printing with text := printing.text ++ text }

end Printing

def pad (conversion : Conversion) (zeros : Bool) (sign body : List Char) : List Char :=
  let width := conversion.width.getD 0
  let left := conversion.flags.contains '-' || width < 0
  let missing := width.natAbs - (sign.length + body.length)
  if left then sign ++ body ++ List.replicate missing ' '
  else if zeros then sign ++ List.replicate missing '0' ++ body
  else List.replicate missing ' ' ++ sign ++ body

/-- The digits of a number in at least as many places as the precision says. -/
def digits (conversion : Conversion) (base value : Nat) : List Char :=
  let found := if value = 0 ∧ conversion.precision = some 0 then [] else Nat.toDigits base value
  List.replicate ((conversion.precision.getD 1).toNat - found.length) '0' ++ found

def numberText (conversion : Conversion) (value : Int) : List Char :=
  let zeros := conversion.flags.contains '0' && conversion.precision.isNone
  let word := Arithmetic.bits value
  let alternative := conversion.flags.contains '#' && value ≠ 0
  match conversion.kind with
  | 'd' | 'i' =>
      let sign := if value < 0 then ['-'] else if conversion.flags.contains '+' then ['+']
        else if conversion.flags.contains ' ' then [' '] else []
      pad conversion zeros sign (digits conversion 10 value.natAbs)
  | 'o' =>
      let found := digits conversion 8 word
      let marked := alternative && found.head? ≠ some '0'
      pad conversion zeros [] (if marked then '0' :: found else found)
  | 'x' => pad conversion zeros (if alternative then ['0', 'x'] else []) (digits conversion 16 word)
  | 'X' =>
      pad conversion zeros (if alternative then ['0', 'X'] else [])
        ((digits conversion 16 word).map Char.toUpper)
  | _ => pad conversion zeros [] (digits conversion 10 word)

def fieldText (conversion : Conversion) (text : List Char) : List Char :=
  pad conversion false [] (match conversion.precision with
    | some count => if count < 0 then text else text.take count.toNat
    | none => text)

def size (printing : Printing) (chars : List Char) : Option Int × Printing × List Char :=
  match chars with
  | '*' :: rest =>
      let (value, after) := printing.takeNumber true
      (some value, after, rest)
  | _ =>
      let found := chars.takeWhile Char.isDigit
      let count := if found = [] then none else some (Int.ofNat (Text.digitsValue found))
      (count, printing, chars.drop found.length)

def conversion (printing : Printing) (chars : List Char) : Conversion × Printing × List Char :=
  let isFlag := fun c : Char => c ∈ ['#', '-', '+', ' ', '0']
  let (width, sized, afterWidth) := size printing (chars.dropWhile isFlag)
  let (precision, ready, rest) := match afterWidth with
    | '.' :: rest =>
        let (precision, ready, rest) := size sized rest
        (some (precision.getD 0), ready, rest)
    | rest => (none, sized, rest)
  ({ flags := chars.takeWhile isFlag, width, precision, kind := rest.head?.getD '\x00' }, ready,
    rest.drop 1)

/-- Print a conversion; `shown` is how it stands in the format. -/
def convert (printing : Printing) (conversion : Conversion) (shown : List Char) : Printing :=
  match conversion.kind with
  | 's' =>
      let (text, after) := printing.take
      after.put (fieldText conversion (text.getD "").toList)
  | 'b' =>
      let (text, after) := printing.take
      let (found, stops) := unescaped (text.getD "")
      { after.put (fieldText conversion found) with stopped := stops }
  | 'c' =>
      let (text, after) := printing.take
      after.put (pad conversion false [] [((text.getD "").toList.head?).getD '\x00'])
  | kind =>
      if kind ∈ ['d', 'i', 'o', 'u', 'x', 'X'] then
        let (value, after) := printing.takeNumber (kind = 'd' || kind = 'i')
        after.put (numberText conversion value)
      else if kind = '\x00' then { printing with failure := some "missing format character" }
      else { printing with failure := some (String.ofList shown ++ ": invalid directive") }

/-- Go through a format once. Each step uses up a character, so as much fuel as characters is
enough. -/
def pass : Nat → Printing → List Char → Printing
  | 0, printing, _ | _, printing, [] => printing
  | fuel + 1, printing, '\\' :: rest =>
      let (c, following) := escape rest
      pass fuel (printing.put [c]) following
  | fuel + 1, printing, '%' :: '%' :: rest => pass fuel (printing.put ['%']) rest
  | fuel + 1, printing, '%' :: rest =>
      let (found, ready, following) := conversion printing rest
      let shown := '%' :: rest.take (rest.length - following.length)
      let after := convert ready found shown
      if after.stopped || after.failure.isSome then after else pass fuel after following
  | fuel + 1, printing, c :: rest => pass fuel (printing.put [c]) rest

def passes : Nat → List Char → Printing → Printing
  | 0, _, printing => printing
  | fuel + 1, format, printing =>
      let after := pass (format.length + 1) { printing with taken := 0 } format
      if after.stopped || after.failure.isSome || after.taken = 0 || after.arguments = [] then after
      else passes fuel format after

def print (format : String) (arguments : List String) : Printing :=
  passes (arguments.length + 1) format.toList { arguments }

end VerifiedBuild.Shell.Format
