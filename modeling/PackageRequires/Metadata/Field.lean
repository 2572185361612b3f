import PackageRequires.Text

namespace PackageRequires

/-! # Header fields

Comment lines such as `;; Keywords: tools, lisp` carry a package's properties,
up to the line that begins the code.
-/

/-- A field: its key in lower case, and its value. -/
structure Field where
  key : Text
  value : Text
  deriving DecidableEq, Repr

namespace Field

def isKeyCharacter (c : Char) : Bool := c.isAlphanum || c == '-'

/-- A text without `front`, if it starts with that. -/
def dropOptional (front text : Text) : Text := (Text.dropFront? front text).getD text

/-- Reads a line of the form `;; KEY: VALUE`.  An SCCS mark and a dollar sign
may stand before the key. -/
def ofLine? (line : Text) : Option Field := do
  let rest ← Text.dropFront? [';'] line
  let rest := rest.dropWhile (· == ';')
  guard (rest.head?.any Text.isSpaceOrTab)
  let rest := dropOptional "@(#)".toList (rest.dropWhile Text.isSpaceOrTab)
  let rest := dropOptional ['$'] (rest.dropWhile Text.isSpaceOrTab)
  let key := rest.takeWhile isKeyCharacter
  guard !key.isEmpty
  let rest := (rest.dropWhile isKeyCharacter).dropWhile Text.isSpaceOrTab
  let value ← Text.dropFront? [':'] rest
  return ⟨key.map Char.toLower, value.trimWhile Text.isSpaceOrTab⟩

/-- Whether a line begins the code: `;;; Code:` in any case. -/
def beginsCode (line : Text) : Bool :=
  match Text.dropFront? ";;;".toList line with
  | some rest =>
    ((rest.dropWhile Text.isSpaceOrTab).take 5).map Char.toLower == "code:".toList
  | none => false

/-- The fields of a list of lines before the code. -/
def ofLines (lines : List Text) : List Field :=
  (lines.takeWhile fun line => !beginsCode line).filterMap ofLine?

/-- The value of the first field with a key. -/
def value? (key : Text) (fields : List Field) : Option Text :=
  (fields.find? fun field => field.key == key).map Field.value

end Field

end PackageRequires
