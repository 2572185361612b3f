import PackageRequires.Text

namespace PackageRequires.Lisp

/-! # Numeric literals

Integers such as `12`, `-3` and `4.`, and floats such as `1.5`, `.5` and `1e3`.
An atom with any other spelling is a symbol.
-/

/-- A text without one leading sign. -/
def dropSign : Text → Text
  | '+' :: digits => digits
  | '-' :: digits => digits
  | digits => digits

/-- Whether a text consists of digits; the empty text does. -/
def allDigits (text : Text) : Bool := text.all Char.isDigit

def isExponentMark (c : Char) : Bool := c == 'e' || c == 'E'

def isPoint (c : Char) : Bool := c == '.'

/-- Whether a text can follow the exponent mark. -/
def isExponent (text : Text) : Bool :=
  let digits := dropSign text
  !digits.isEmpty && allDigits digits

/-- Whether `whole`, or `whole` and `fraction` around a point, are the digits of a literal. -/
def isMantissa (whole : Text) (fraction : Option Text) : Bool :=
  allDigits whole && fraction.all allDigits &&
    !(whole.isEmpty && fraction.all List.isEmpty)

/-- Whether an atom is a numeric literal.  A point directly before an exponent
must have digits after it. -/
def isNumeral (text : Text) : Bool :=
  let (mantissa, exponent) := (dropSign text).cut isExponentMark
  let (whole, fraction) := mantissa.cut isPoint
  isMantissa whole fraction &&
    exponent.all fun power => isExponent power && fraction.all fun digits => !digits.isEmpty

end PackageRequires.Lisp
