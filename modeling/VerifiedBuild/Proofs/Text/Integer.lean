import VerifiedBuild.Text.Integer

/-!
# Which texts spell an integer

The texts that are read as integers are exactly the decimal ones, and no text is read as two. Every
integer is read off the text that it is written as.
-/

namespace VerifiedBuild.Text

/-- The decimal texts of an integer: digits, perhaps with zeros in front, perhaps after a minus
sign. -/
inductive Decimal : Int → List Char → Prop
  | unsigned {digits : List Char} (nonempty : digits ≠ []) (spelled : digits.all Char.isDigit) :
      Decimal (Nat.ofDigitChars 10 digits 0) digits
  | negative {digits : List Char} (nonempty : digits ≠ []) (spelled : digits.all Char.isDigit) :
      Decimal (-Nat.ofDigitChars 10 digits 0) ('-' :: digits)

theorem digitsValue_eq (digits : List Char) :
    digitsValue digits = Nat.ofDigitChars 10 digits 0 :=
  rfl

theorem natural?_eq_some_iff {digits : List Char} {value : Nat} :
    natural? digits = some value ↔
      digits ≠ [] ∧ digits.all Char.isDigit ∧ Nat.ofDigitChars 10 digits 0 = value := by
  rw [natural?]
  split
  next spelled => simp [digitsValue_eq, spelled]
  next other =>
    constructor
    case mp => nofun
    case mpr =>
      rintro ⟨nonempty, spelled, -⟩
      exact absurd ⟨nonempty, spelled⟩ other

theorem integer?_eq_some_iff {text : String} {value : Int} :
    integer? text = some value ↔ Decimal value text.toList := by
  rw [integer?]
  constructor
  case mp =>
    intro read
    split at read
    next digits shape =>
      cases known : natural? digits with
      | none => simp [known] at read
      | some magnitude =>
          obtain ⟨nonempty, spelled, rfl⟩ := natural?_eq_some_iff.mp known
          obtain rfl : -((Nat.ofDigitChars 10 digits 0 : Nat) : Int) = value := by
            simpa [known] using read
          exact shape ▸ .negative nonempty spelled
    next =>
      cases known : natural? text.toList with
      | none => simp [known] at read
      | some magnitude =>
          obtain ⟨nonempty, spelled, rfl⟩ := natural?_eq_some_iff.mp known
          obtain rfl : ((Nat.ofDigitChars 10 text.toList 0 : Nat) : Int) = value := by
            simpa [known] using read
          exact .unsigned nonempty spelled
  case mpr =>
    intro spelled
    generalize text.toList = chars at spelled
    cases spelled with
    | negative nonempty spelled => simp [natural?_eq_some_iff.mpr ⟨nonempty, spelled, rfl⟩]
    | unsigned nonempty spelled =>
        have known := natural?_eq_some_iff.mpr ⟨nonempty, spelled, rfl⟩
        split
        next digits _ => simp at spelled
        next => simp [known]

theorem integer?_of_boundedInteger? {text : String} {least most value : Int}
    (read : boundedInteger? text least most = some value) : integer? text = some value :=
  (boundedInteger?_eq_some_iff.mp read).1

theorem bounds_of_boundedInteger? {text : String} {least most value : Int}
    (read : boundedInteger? text least most = some value) : least ≤ value ∧ value ≤ most :=
  (boundedInteger?_eq_some_iff.mp read).2.2.2

/-! ## Rendering -/

theorem all_isDigit_toDigits (value : Nat) : (Nat.toDigits 10 value).all Char.isDigit := by
  rw [List.all_eq_true]
  exact fun char member => Nat.isDigit_of_mem_toDigits (by decide) (by decide) member

theorem not_mem_of_all_isDigit {digits : List Char} (spelled : digits.all Char.isDigit)
    {mark : Char} (noDigit : mark.isDigit = false) : mark ∉ digits := by
  intro member
  rw [List.all_eq_true.mp spelled mark member] at noDigit
  cases noDigit

theorem lead_toDigits {n : Nat} (positive : 0 < n) :
    ∃ lead others, Nat.toDigits 10 n = lead :: others ∧ lead ≠ '0' := by
  induction n using Nat.strongRecOn with
  | ind n ih =>
      by_cases small : n < 10
      case pos =>
        refine ⟨n.digitChar, [], Nat.toDigits_of_lt_base small, ?_⟩
        have all : ∀ digit < 10, 0 < digit → Nat.digitChar digit ≠ '0' := by decide
        exact all n small positive
      case neg =>
        obtain ⟨lead, others, same, nonzero⟩ := ih (n / 10) (by omega) (by omega)
        rw [Nat.toDigits_of_base_le (by decide : 1 < 10) (by omega), same]
        exact ⟨lead, _, rfl, nonzero⟩

theorem decimal_toString (value : Int) : Decimal value (toString value).toList := by
  cases value with
  | ofNat magnitude =>
      have chars : (toString (Int.ofNat magnitude)).toList = Nat.toDigits 10 magnitude :=
        Nat.toList_repr
      rw [chars]
      simpa using Decimal.unsigned Nat.toDigits_ne_nil (all_isDigit_toDigits magnitude)
  | negSucc predecessor =>
      have chars : (toString (Int.negSucc predecessor)).toList =
          '-' :: Nat.toDigits 10 (predecessor + 1) := by
        change ("-" ++ (predecessor + 1).repr).toList = _
        simp [Nat.toList_repr]
      have value : Int.negSucc predecessor =
          -Nat.ofDigitChars 10 (Nat.toDigits 10 (predecessor + 1)) 0 := by
        rw [Nat.ofDigitChars_toDigits (by decide) (by decide)]
        rfl
      rw [chars, value]
      exact .negative Nat.toDigits_ne_nil (all_isDigit_toDigits _)

theorem integer?_toString (value : Int) : integer? (toString value) = some value :=
  integer?_eq_some_iff.mpr (decimal_toString value)

theorem toString_injective {first second : Int} (same : toString first = toString second) :
    first = second := by
  have read := integer?_toString first
  rw [same, integer?_toString] at read
  exact (Option.some.inj read).symm

theorem Decimal.unique {value other : Int} {chars : List Char} (spelled : Decimal value chars)
    (again : Decimal other chars) : value = other := by
  obtain ⟨text, rfl⟩ : ∃ text : String, text.toList = chars := ⟨_, String.toList_ofList⟩
  have read := integer?_eq_some_iff.mpr spelled
  rw [integer?_eq_some_iff.mpr again] at read
  exact (Option.some.inj read).symm

theorem Decimal.ne_nil {value : Int} {chars : List Char} (spelled : Decimal value chars) :
    chars ≠ [] := by
  cases spelled with
  | unsigned nonempty _ => exact nonempty
  | negative _ _ => exact List.cons_ne_nil _ _

theorem Decimal.mem {value : Int} {chars : List Char} (spelled : Decimal value chars) {char : Char}
    (member : char ∈ chars) : char = '-' ∨ char.isDigit := by
  cases spelled with
  | unsigned _ digits => exact .inr (List.all_eq_true.mp digits char member)
  | negative _ digits =>
      rcases List.mem_cons.mp member with rfl | inDigits
      · exact .inl rfl
      · exact .inr (List.all_eq_true.mp digits char inDigits)

end VerifiedBuild.Text
