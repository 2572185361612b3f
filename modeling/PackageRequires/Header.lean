import PackageRequires.Text

namespace PackageRequires

/-! # The Package-Requires line

The header line is matched from its first column, and only the space character
counts as a blank in it.
-/

/-- A document's Package-Requires line: its number, counted from one, and the
text behind the colon without the spaces around it. -/
structure Header where
  line : Nat
  text : Text
  deriving DecidableEq, Repr

namespace Header

/-- The text behind the colon, if a line has the form of the header. -/
def text? (line : Text) : Option Text := do
  let rest ← Text.dropFront? ";;".toList line
  let rest ← Text.dropFront? "Package-Requires".toList (rest.dropWhile Text.isSpace)
  let rest ← Text.dropFront? [':'] (rest.dropWhile Text.isSpace)
  return rest.trimWhile Text.isSpace

/-- The first of a list of lines that has the form of the header, the lines
being numbered from `number` on. -/
def among? (number : Nat) : (lines : List Text) → Option Header
  | [] => none
  | line :: later =>
    match text? line with
    | some text => some ⟨number, text⟩
    | none => among? (number + 1) later

/-- The header of a document. -/
def locate? (document : Text) : Option Header := among? 1 document.lines

end Header

end PackageRequires
