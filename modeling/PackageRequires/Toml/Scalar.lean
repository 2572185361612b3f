import PackageRequires.Toml.Value

namespace PackageRequires.Toml

/-! # Numbers, booleans and dates

The values that are written without quotes and brackets.
-/

/-- A text without one leading sign. -/
def dropSign : Text → Text
  | '+' :: rest => rest
  | '-' :: rest => rest
  | rest => rest

/-- Whether a text is a row of digits, in which single underscores may stand
between two digits. -/
def isDigitRow (isDigit : Char → Bool) : Text → Bool
  | [] => false
  | [c] => isDigit c
  | c :: '_' :: rest => isDigit c && isDigitRow isDigit rest
  | c :: rest => isDigit c && isDigitRow isDigit rest

/-- Whether a text is a row of decimal digits that does not begin with a spare zero. -/
def isWhole (text : Text) : Bool :=
  text == ['0'] || (text.head? != some '0' && isDigitRow Char.isDigit text)

/-- Value of a hexadecimal digit. -/
def digitValue (c : Char) : Nat :=
  if c.isDigit then c.toNat - '0'.toNat
  else if 'a' ≤ c && c ≤ 'f' then c.toNat - 'a'.toNat + 10
  else if 'A' ≤ c && c ≤ 'F' then c.toNat - 'A'.toNat + 10
  else 0

def isHexDigit (c : Char) : Bool :=
  c.isDigit || ('a' ≤ c && c ≤ 'f') || ('A' ≤ c && c ≤ 'F')

def isOctalDigit (c : Char) : Bool := '0' ≤ c && c ≤ '7'

def isBinaryDigit (c : Char) : Bool := c == '0' || c == '1'

/-- Value of a row of digits in some base. -/
def rowValue (base : Nat) (row : Text) : Nat :=
  (row.filter (· != '_')).foldl (fun value c => base * value + digitValue c) 0

/-- Whether each underscore of a text stands between two hexadecimal digits. -/
def fitsUnderscores : Text → Bool
  | [] => true
  | [c] => c != '_'
  | c :: d :: rest =>
    (d != '_' || isHexDigit c) && (c != '_' || isHexDigit d) && fitsUnderscores (d :: rest)

/-- Whether a text is read as a decimal integer: digits only, or digits and
anything behind an underscore that has no mark of a float.  Whether there is such
a number is asked when the value is used. -/
def isDecimal (text : Text) : Bool :=
  let rest := text.dropWhile Char.isDigit
  isWhole text ||
    (text.head?.any (fun c => c.isDigit && c != '0') && rest.head? == some '_' &&
      fitsUnderscores text && rest.all fun c => !(c == '.' || c == 'e' || c == 'E'))

/-- Whether a text is read as an integer: decimal with an optional sign, or
without one in base 16, 8 or 2, where digits may be missing. -/
def isInteger (text : Text) : Bool :=
  match text with
  | '0' :: 'x' :: row => row.isEmpty || isDigitRow isHexDigit row
  | '0' :: 'o' :: row => row.isEmpty || isDigitRow isOctalDigit row
  | '0' :: 'b' :: row => row.isEmpty || isDigitRow isBinaryDigit row
  | _ => isDecimal (dropSign text)

/-- The number that a text read as an integer denotes, if there is one. -/
def integer? (text : Text) : Option Int :=
  match text with
  | '0' :: 'x' :: row => if isDigitRow isHexDigit row then some (rowValue 16 row) else none
  | '0' :: 'o' :: row => if isDigitRow isOctalDigit row then some (rowValue 8 row) else none
  | '0' :: 'b' :: row => if isDigitRow isBinaryDigit row then some (rowValue 2 row) else none
  | '-' :: row => if isWhole row then some (-(rowValue 10 row : Int)) else none
  | _ => if isWhole (dropSign text) then some (rowValue 10 (dropSign text)) else none

def isExponentMark (c : Char) : Bool := c == 'e' || c == 'E'

def isPoint (c : Char) : Bool := c == '.'

/-- Whether a text denotes a float: a whole part with a fraction, an exponent or
both, or one of the special words. -/
def isFloat (text : Text) : Bool :=
  let unsigned := dropSign text
  let (mantissa, exponent) := unsigned.cut isExponentMark
  let (whole, fraction) := mantissa.cut isPoint
  unsigned == "inf".toList || unsigned == "nan".toList ||
    ((fraction.isSome || exponent.isSome) && isWhole whole &&
      fraction.all (isDigitRow Char.isDigit) &&
      exponent.all fun power => isDigitRow Char.isDigit (dropSign power))

/-- The least number that rounds to infinity as a double. -/
def overflowBound : Nat := Nat.pow 2 1024 - Nat.pow 2 970

/-- Whether a float's literal denotes a number too large for a double.  The
special words do not. -/
def overflows (literal : Text) : Bool :=
  let (mantissa, exponent) := (dropSign literal).cut isExponentMark
  let (whole, fraction) := mantissa.cut isPoint
  let digits := ((whole ++ fraction.getD []).filter Char.isDigit).dropWhile (· == '0')
  let places : Int := ((fraction.getD []).filter Char.isDigit).length
  let power : Int := match exponent with
    | some ('-' :: row) => -(rowValue 10 row : Int)
    | some row => rowValue 10 (dropSign row)
    | none => 0
  let shift := power - places
  if digits.isEmpty || digits.length + shift < 300 then false
  else if digits.length + shift > 320 then true
  else decide (overflowBound * Nat.pow 10 (-shift).toNat ≤ rowValue 10 digits * Nat.pow 10 shift.toNat)

/-- Two digits, as a number. -/
def pair? : Text → Option (Nat × Text)
  | a :: b :: rest =>
    if a.isDigit && b.isDigit then some (digitValue a * 10 + digitValue b, rest) else none
  | _ => none

/-- Number of days of a month. -/
def daysIn (year month : Nat) : Nat :=
  if month == 2 then
    if (year % 4 == 0 && year % 100 != 0) || year % 400 == 0 then 29 else 28
  else if month == 4 || month == 6 || month == 9 || month == 11 then 30
  else 31

/-- What follows a date `YYYY-MM-DD`. -/
def afterDate? (text : Text) : Option Text := do
  let (century, rest) ← pair? text
  let (years, rest) ← pair? rest
  let rest ← Text.dropFront? ['-'] rest
  let (month, rest) ← pair? rest
  let rest ← Text.dropFront? ['-'] rest
  let (day, rest) ← pair? rest
  guard (1 ≤ month && month ≤ 12 && 1 ≤ day && day ≤ daysIn (century * 100 + years) month)
  return rest

/-- What follows the seconds of a time, which may be missing. -/
def afterSeconds? (text : Text) : Option Text :=
  match text with
  | ':' :: rest => do
    let (second, rest) ← pair? rest
    guard (second ≤ 60)
    match rest with
    | '.' :: places =>
      guard (places.head?.any Char.isDigit)
      return places.dropWhile Char.isDigit
    | _ => return rest
  | _ => some text

/-- What follows a time `HH:MM`, with or without seconds and a fraction of them. -/
def afterTime? (text : Text) : Option Text := do
  let (hour, rest) ← pair? text
  let rest ← Text.dropFront? [':'] rest
  let (minute, rest) ← pair? rest
  guard (hour ≤ 23 && minute ≤ 59)
  afterSeconds? rest

/-- Whether a text is empty or the offset of a time from UTC. -/
def isOffset : Text → Bool
  | [] => true
  | ['Z'] | ['z'] => true
  | c :: text =>
    (c == '+' || c == '-') &&
      match pair? text with
      | some (hour, ':' :: rest) =>
        match pair? rest with
        | some (minute, []) => hour ≤ 23 && minute ≤ 59
        | _ => false
      | _ => false

/-- Whether a text is a date, a time, or both with or without an offset. -/
def isDateTime (text : Text) : Bool :=
  match afterDate? text with
  | some [] => true
  | some (c :: rest) =>
    (c == 'T' || c == 't' || c == ' ') && (afterTime? rest).any isOffset
  | none => (afterTime? text).any List.isEmpty

/-- The value of a text without quotes and brackets. -/
def scalar? (text : Text) : Option Value :=
  if text = "true".toList then some (.boolean true)
  else if text = "false".toList then some (.boolean false)
  else if isInteger text then some (.integer text)
  else if isFloat text then some (.float text)
  else if isDateTime text then some (.dateTime text)
  else none

namespace Value

mutual

/-- Whether all numbers in a value fit the widest number types: integers of 128
bits and doubles. -/
def isRepresentable : Value → Bool
  | integer literal =>
    (integer? literal).any fun value =>
      -(Nat.pow 2 127 : Int) ≤ value && value < (Nat.pow 2 128 : Int)
  | float literal => !overflows literal
  | array items => allRepresentable items
  | table _ entries => entriesRepresentable entries
  | tables latestFirst => allRepresentable latestFirst
  | _ => true

def allRepresentable : List Value → Bool
  | [] => true
  | value :: rest => isRepresentable value && allRepresentable rest

def entriesRepresentable : List (Text × Value) → Bool
  | [] => true
  | (_, value) :: rest => isRepresentable value && entriesRepresentable rest

end

end Value

end PackageRequires.Toml
