import PackageRequires.Text

namespace PackageRequires.Uri

/-! # Tables of characters

What is known of characters is kept in rows, each for a range of codes.  A row is
written as its first code, the last one behind a hyphen if it is another, the
distance between the codes behind a slash if it is not one, and what belongs to
them behind a colon, all in hexadecimal: `100-12E/2:101`.
-/

structure Row where
  first : Nat
  last : Nat
  step : Nat
  values : List Nat
  deriving DecidableEq, Repr

namespace Row

def holds (row : Row) (c : Char) : Bool :=
  row.first ≤ c.toNat && c.toNat ≤ row.last && (c.toNat - row.first) % row.step == 0

/-- The row that a text is. -/
def read? (text : Text) : Option Row := do
  let (span, values) := Text.cut (· == ':') text
  let (codes, step) := Text.cut (· == '/') span
  let (first, last) := Text.cut (· == '-') codes
  let start ← Text.numeral? 16 first
  return {
    first := start
    last := ← Text.numeral? 16 (last.getD first)
    step := ← Text.numeral? 16 (step.getD ['1'])
    values := ← (Text.words (· == '+') (values.getD [])).mapM (Text.numeral? 16) }

end Row

/-- The rows of a table. -/
def rows (lines : List String) : List Row :=
  lines.flatMap fun line => (Text.words Text.isSpace line.toList).filterMap Row.read?

/-- The row of a character. -/
def row? (table : List Row) (c : Char) : Option Row := table.find? (·.holds c)

/-- Whether a table has a row for a character. -/
def isWithin (table : List Row) (c : Char) : Bool := (row? table c).isSome

end PackageRequires.Uri
