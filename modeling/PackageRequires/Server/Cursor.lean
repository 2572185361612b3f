import PackageRequires.Text

namespace PackageRequires.Server

/-! # Cursors

Editors give a column in UTF-16 units; here a cursor is the number of characters
before it on its line.
-/

/-- The least number of characters that take at least `units` UTF-16 units, or
all characters of the line. -/
def cursorAt : (line : Text) → (units : Nat) → Nat
  | [], _ => 0
  | c :: rest, units => if units = 0 then 0 else cursorAt rest (units - Text.unitsOf c) + 1

/-- Characters of the symbols that a cursor can stand on. -/
def isSymbolCharacter (c : Char) : Bool :=
  !(Text.isBlank c || c == '(' || c == ')' || c == '\"' || c == '\x27' || c == ';' || c == ':')

/-- The part of the symbol around a cursor that stands before it. -/
def symbolBefore (line : Text) (cursor : Nat) : Text :=
  ((line.take cursor).reverse.takeWhile isSymbolCharacter).reverse

/-- The part of the symbol around a cursor that stands behind it. -/
def symbolBehind (line : Text) (cursor : Nat) : Text :=
  (line.drop cursor).takeWhile isSymbolCharacter

/-- The symbol around a cursor. -/
def symbolAt? (line : Text) (cursor : Nat) : Option Text :=
  let symbol := symbolBefore line cursor ++ symbolBehind line cursor
  if symbol.isEmpty then none else some symbol

end PackageRequires.Server
