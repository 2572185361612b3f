import PackageRequires.Lisp.Numeral

namespace PackageRequires.Lisp

/-! # Numeric literals

Which characters a literal is made of, and the grammar that tells the literals
from the symbols.
-/

/-! ## Their characters -/

theorem mem_dropSign {text : Text} {c : Char} (member : c ∈ text) :
    c = '+' ∨ c = '-' ∨ c ∈ dropSign text := by
  unfold dropSign
  split
  · rcases List.mem_cons.mp member with sign | member
    · exact .inl sign
    · exact .inr (.inr member)
  · rcases List.mem_cons.mp member with sign | member
    · exact .inr (.inl sign)
    · exact .inr (.inr member)
  · exact .inr (.inr member)

def isNumeralChar (c : Char) : Bool :=
  c.isDigit || c == '+' || c == '-' || c == '.' || c == 'e' || c == 'E'

theorem isNumeralChar_of_allDigits {digits : Text} {c : Char} (all : allDigits digits = true)
    (member : c ∈ digits) : isNumeralChar c = true := by
  simp [isNumeralChar, List.all_eq_true.mp all c member]

theorem isNumeralChar_of_isMantissa {mantissa whole : Text} {fraction : Option Text} {c : Char}
    (digits : mantissa.cut isPoint = (whole, fraction)) (accepted : isMantissa whole fraction = true)
    (member : c ∈ mantissa) : isNumeralChar c = true := by
  simp only [isMantissa, Bool.and_eq_true] at accepted
  obtain ⟨⟨wholeDigits, fractionDigits⟩, -⟩ := accepted
  rcases (Text.cut_spec digits).2 with ⟨-, rfl⟩ | ⟨point, rest, isPoint, rfl, rfl⟩
  · exact isNumeralChar_of_allDigits wholeDigits member
  · rcases List.mem_append.mp member with inWhole | later
    · exact isNumeralChar_of_allDigits wholeDigits inWhole
    · rcases List.mem_cons.mp later with rfl | inFraction
      · simp_all [Lisp.isPoint, isNumeralChar]
      · exact isNumeralChar_of_allDigits (by simpa using fractionDigits) inFraction

theorem isNumeralChar_of_isExponent {power : Text} {c : Char} (accepted : isExponent power = true)
    (member : c ∈ power) : isNumeralChar c = true := by
  simp only [isExponent, Bool.and_eq_true] at accepted
  rcases mem_dropSign member with rfl | rfl | inDigits
  · decide
  · decide
  · exact isNumeralChar_of_allDigits accepted.2 inDigits

theorem isNumeralChar_of_mem {text : Text} {c : Char} (numeral : isNumeral text = true)
    (member : c ∈ text) : isNumeralChar c = true := by
  cases parts : (dropSign text).cut isExponentMark with
  | mk mantissa exponent =>
      cases digits : mantissa.cut isPoint with
      | mk whole fraction =>
          simp only [isNumeral, parts, digits, Bool.and_eq_true] at numeral
          obtain ⟨accepted, power⟩ := numeral
          rcases mem_dropSign member with rfl | rfl | inside
          · decide
          · decide
          · rcases (Text.cut_spec parts).2 with ⟨-, same⟩ | ⟨mark, rest, isMark, rfl, same⟩
            · exact isNumeralChar_of_isMantissa digits accepted (same ▸ inside)
            · rw [same] at inside
              rcases List.mem_append.mp inside with inMantissa | later
              · exact isNumeralChar_of_isMantissa digits accepted inMantissa
              · simp only [Option.all_some, Bool.and_eq_true] at power
                rcases List.mem_cons.mp later with rfl | inPower
                · simp only [isExponentMark, Bool.or_eq_true, beq_iff_eq] at isMark
                  rcases isMark with rfl | rfl <;> decide
                · exact isNumeralChar_of_isExponent power.1 inPower

/-! ## Their grammar -/

namespace Numeral

def Digit (c : Char) : Prop := '0' ≤ c ∧ c ≤ '9'

/-- One digit or more. -/
def Digits (text : Text) : Prop := text ≠ [] ∧ ∀ c ∈ text, Digit c

/-- One sign or none. -/
def Sign (text : Text) : Prop := text = [] ∨ text = ['+'] ∨ text = ['-']

/-- Digits alone, or a point with digits behind it. -/
inductive Decimal : Text → Prop
  | whole {digits : Text} (digit : Digits digits) : Decimal digits
  | fraction {whole digits : Text} (leading : ∀ c ∈ whole, Digit c) (digit : Digits digits) :
      Decimal (whole ++ '.' :: digits)

end Numeral

open Numeral in
/-- The numeric literals.  A point at the end stands without an exponent only. -/
inductive Numeral : Text → Prop
  | decimal {sign number : Text} (signed : Sign sign) (decimal : Decimal number) :
      Numeral (sign ++ number)
  | pointed {sign digits : Text} (signed : Sign sign) (digit : Digits digits) :
      Numeral (sign ++ (digits ++ ['.']))
  | power {sign number direction digits : Text} {mark : Char} (signed : Sign sign)
      (decimal : Decimal number) (marked : mark = 'e' ∨ mark = 'E') (directed : Sign direction)
      (digit : Digits digits) : Numeral (sign ++ (number ++ mark :: (direction ++ digits)))

namespace Numeral

variable {sign number whole : Text} {fraction : Option Text} {c mark : Char}

theorem digit_iff : Digit c ↔ c.isDigit = true := by
  simp [Digit, Char.isDigit, Char.le_def]

theorem allDigits_iff {digits : Text} : allDigits digits = true ↔ ∀ c ∈ digits, Digit c := by
  simp only [allDigits, List.all_eq_true, digit_iff]

theorem digits_iff {digits : Text} :
    Digits digits ↔ (!digits.isEmpty && allDigits digits) = true := by
  simp [Digits, allDigits_iff]

instance : DecidablePred Digit := fun c => inferInstanceAs (Decidable ('0' ≤ c ∧ c ≤ '9'))

theorem ne_of_digit {d : Char} (digit : Digit c) (other : ¬ Digit d) : c ≠ d :=
  fun same => other (same ▸ digit)

theorem isPoint_of_digit (digit : Digit c) : isPoint c = false :=
  beq_false_of_ne (ne_of_digit digit (by decide))

/-! ### The mantissa -/

theorem decimal_iff (cut : number.cut isPoint = (whole, fraction)) :
    Decimal number ↔ isMantissa whole fraction = true ∧
      (fraction.all fun digits => !digits.isEmpty) = true := by
  constructor
  · intro decimal
    cases decimal with
    | whole digit =>
        rw [Text.cut_of_clear fun c member => isPoint_of_digit (digit.2 c member)] at cut
        obtain ⟨rfl, rfl⟩ := Prod.mk.inj cut
        simp [isMantissa, allDigits_iff.mpr digit.2, digit.1]
    | fraction leading digit =>
        rw [Text.cut_append_cons (fun c member => isPoint_of_digit (leading c member)) rfl] at cut
        obtain ⟨rfl, rfl⟩ := Prod.mk.inj cut
        simp [isMantissa, allDigits_iff.mpr leading, allDigits_iff.mpr digit.2, digit.1]
  · intro ⟨accepted, nonempty⟩
    simp only [isMantissa, Bool.and_eq_true, allDigits_iff] at accepted
    obtain ⟨⟨leading, digit⟩, visible⟩ := accepted
    rcases (Text.cut_spec cut).2 with ⟨rfl, rfl⟩ | ⟨point, rest, isPoint, rfl, rfl⟩
    · exact .whole ⟨by simpa using visible, leading⟩
    · obtain rfl : point = '.' := beq_iff_eq.mp isPoint
      exact .fraction leading ⟨by simpa using nonempty, allDigits_iff.mp digit⟩

theorem pointed_iff (cut : number.cut isPoint = (whole, fraction)) :
    (∃ digits, Digits digits ∧ number = digits ++ ['.']) ↔
      isMantissa whole fraction = true ∧ fraction = some [] := by
  constructor
  · intro ⟨digits, digit, split⟩
    rw [split, Text.cut_append_cons (fun c member => isPoint_of_digit (digit.2 c member)) rfl]
      at cut
    obtain ⟨rfl, rfl⟩ := Prod.mk.inj cut
    have none : allDigits [] = true := rfl
    simp [isMantissa, allDigits_iff.mpr digit.2, digit.1, none]
  · intro ⟨accepted, nothing⟩
    subst nothing
    simp only [isMantissa, Bool.and_eq_true, allDigits_iff] at accepted
    obtain ⟨⟨leading, -⟩, visible⟩ := accepted
    rcases (Text.cut_spec cut).2 with ⟨absent, -⟩ | ⟨point, rest, isPoint, same, rfl⟩
    · cases absent
    · obtain rfl : point = '.' := beq_iff_eq.mp isPoint
      obtain rfl := Option.some.inj same
      exact ⟨whole, ⟨by simpa using visible, leading⟩, rfl⟩

/-- What stands between a sign and an exponent. -/
def Unsigned (number : Text) : Prop := number ≠ [] ∧ ∀ c ∈ number, Digit c ∨ c = '.'

theorem Digits.unsigned (digit : Digits number) : Unsigned number :=
  ⟨digit.1, fun c member => .inl (digit.2 c member)⟩

theorem Digits.unsigned_point (digit : Digits number) : Unsigned (number ++ ['.']) := by
  refine ⟨List.append_ne_nil_of_left_ne_nil digit.1 _, ?_⟩
  intro c member
  rcases List.mem_append.mp member with inDigits | last
  · exact .inl (digit.2 c inDigits)
  · exact .inr (List.mem_singleton.mp last)

theorem Decimal.unsigned (decimal : Decimal number) : Unsigned number := by
  cases decimal with
  | whole digit => exact digit.unsigned
  | fraction leading digit =>
      refine ⟨List.append_ne_nil_of_right_ne_nil _ (List.cons_ne_nil _ _), ?_⟩
      intro c member
      rcases List.mem_append.mp member with inWhole | later
      · exact .inl (leading c inWhole)
      · rcases List.mem_cons.mp later with point | inDigits
        · exact .inr point
        · exact .inl (digit.2 c inDigits)

theorem Unsigned.clear (unsigned : Unsigned number) (member : c ∈ number) :
    c ≠ '+' ∧ c ≠ '-' ∧ isExponentMark c = false := by
  rcases unsigned.2 c member with digit | rfl
  · refine ⟨ne_of_digit digit (by decide), ne_of_digit digit (by decide), ?_⟩
    rw [isExponentMark, beq_false_of_ne (ne_of_digit digit (by decide : ¬ Digit 'e')),
      beq_false_of_ne (ne_of_digit digit (by decide : ¬ Digit 'E'))]
    rfl
  · decide

/-! ### Signs and exponents -/

theorem exists_sign (text : Text) : ∃ sign, Sign sign ∧ text = sign ++ dropSign text := by
  unfold dropSign
  split
  · exact ⟨['+'], .inr (.inl rfl), rfl⟩
  · exact ⟨['-'], .inr (.inr rfl), rfl⟩
  · exact ⟨[], .inl rfl, rfl⟩

theorem dropSign_append (signed : Sign sign) (unsigned : Unsigned number) (rest : Text) :
    dropSign (sign ++ (number ++ rest)) = number ++ rest := by
  rcases signed with rfl | rfl | rfl
  · obtain ⟨c, later, rfl⟩ := List.exists_cons_of_ne_nil unsigned.1
    obtain ⟨plus, minus, -⟩ := unsigned.clear (List.mem_cons_self : c ∈ c :: later)
    unfold dropSign
    split <;> simp_all
  · rfl
  · rfl

theorem isExponent_iff {power : Text} :
    isExponent power = true ↔
      ∃ direction digits, Sign direction ∧ Digits digits ∧ power = direction ++ digits := by
  rw [isExponent, ← digits_iff]
  constructor
  · intro digit
    obtain ⟨direction, directed, split⟩ := exists_sign power
    exact ⟨direction, dropSign power, directed, digit, split⟩
  · intro ⟨direction, digits, directed, digit, split⟩
    have dropped := dropSign_append directed digit.unsigned []
    rw [List.append_nil] at dropped
    rwa [split, dropped]

theorem isNumeral_iff_parts {text mantissa whole : Text} {exponent fraction : Option Text}
    (parts : (dropSign text).cut isExponentMark = (mantissa, exponent))
    (cut : mantissa.cut isPoint = (whole, fraction)) :
    isNumeral text = true ↔ isMantissa whole fraction = true ∧
      (exponent.all fun power =>
        isExponent power && fraction.all fun digits => !digits.isEmpty) = true := by
  simp only [isNumeral, parts, cut, Bool.and_eq_true]

theorem numeral_of_isNumeral {text : Text} (accepted : isNumeral text = true) : Numeral text := by
  obtain ⟨sign, signed, split⟩ := exists_sign text
  cases parts : (dropSign text).cut isExponentMark with
  | mk mantissa exponent =>
      cases cut : mantissa.cut isPoint with
      | mk whole fraction =>
          obtain ⟨accepted, rest⟩ := (isNumeral_iff_parts parts cut).mp accepted
          rw [split]
          rcases (Text.cut_spec parts).2 with ⟨-, same⟩ | ⟨mark, power, marked, rfl, same⟩
          · rw [same]
            by_cases nothing : fraction = some []
            · obtain ⟨digits, digit, rfl⟩ := (pointed_iff cut).mpr ⟨accepted, nothing⟩
              exact .pointed signed digit
            · refine .decimal signed ((decimal_iff cut).mpr ⟨accepted, ?_⟩)
              cases fraction with
              | none => rfl
              | some digits => simpa using nothing
          · rw [same]
            simp only [Option.all_some, Bool.and_eq_true] at rest
            obtain ⟨direction, digits, directed, digit, rfl⟩ := isExponent_iff.mp rest.1
            have decimal := (decimal_iff cut).mpr ⟨accepted, rest.2⟩
            exact .power signed decimal (by simpa [isExponentMark] using marked) directed digit

theorem isNumeral_of_unsigned (signed : Sign sign) (unsigned : Unsigned number)
    (cut : number.cut isPoint = (whole, fraction)) (accepted : isMantissa whole fraction = true) :
    isNumeral (sign ++ number) = true := by
  have dropped := dropSign_append signed unsigned []
  rw [List.append_nil] at dropped
  have parts : (dropSign (sign ++ number)).cut isExponentMark = (number, none) := by
    rw [dropped]
    exact Text.cut_of_clear fun c member => (unsigned.clear member).2.2
  exact (isNumeral_iff_parts parts cut).mpr ⟨accepted, rfl⟩

theorem isNumeral_of_numeral {text : Text} (numeral : Numeral text) : isNumeral text = true := by
  cases numeral with
  | @decimal sign number signed decimal =>
      have accepted := (decimal_iff (rfl : number.cut isPoint = _)).mp decimal
      exact isNumeral_of_unsigned signed decimal.unsigned rfl accepted.1
  | @pointed sign digits signed digit =>
      have accepted := (pointed_iff (rfl : (digits ++ ['.']).cut isPoint = _)).mp ⟨digits, digit, rfl⟩
      exact isNumeral_of_unsigned signed digit.unsigned_point rfl accepted.1
  | @power sign number direction digits mark signed decimal marked directed digit =>
      have exponent := isExponent_iff.mpr ⟨direction, digits, directed, digit, rfl⟩
      have accepted := (decimal_iff (rfl : number.cut isPoint = _)).mp decimal
      have isMark : isExponentMark mark = true := by simpa [isExponentMark] using marked
      have parts := Text.cut_append_cons
        (fun c member => (decimal.unsigned.clear member).2.2) isMark (direction ++ digits)
      rw [← dropSign_append signed decimal.unsigned] at parts
      refine (isNumeral_iff_parts parts rfl).mpr ⟨accepted.1, ?_⟩
      simp [exponent, accepted.2]

end Numeral

theorem isNumeral_iff_numeral (text : Text) : isNumeral text = true ↔ Numeral text :=
  ⟨Numeral.numeral_of_isNumeral, Numeral.isNumeral_of_numeral⟩

end PackageRequires.Lisp
