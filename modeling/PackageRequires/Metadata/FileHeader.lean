import PackageRequires.Text

namespace PackageRequires

/-! # The file header line

The first line of a package file, such as

    ;;; demo.el --- Demonstrate things  -*- lexical-binding: t -*-

names the file and sums it up.  Editor settings between `-*-` marks at the end
of the line are not part of the summary.
-/

/-- What a file header line says. -/
structure FileHeader where
  name : Text
  summary : Text
  deriving DecidableEq, Repr

namespace FileHeader

/-- The mark around editor settings. -/
def settingsMark : Text := "-*-".toList

/-- The summary in the text behind the dashes, which begins with no space or
tab.  The settings reach from the first mark on, if the text ends in a further
mark. -/
def summaryOf (text : Text) : Text :=
  let shown := text.dropEndWhile Text.isSpaceOrTab
  match (Text.dropBack? settingsMark shown).bind (Text.cutAt? settingsMark) with
  | some (before, _) => before.dropEndWhile Text.isSpaceOrTab
  | none => shown

/-- Reads a line of the form `;;; NAME.el --- SUMMARY`, where the name has no space. -/
def ofLine? (line : Text) : Option FileHeader := do
  let rest ← Text.dropFront? ";;; ".toList line
  let name ← Text.dropBack? ".el".toList (rest.takeWhile fun c => !Text.isSpace c)
  let rest ← Text.dropFront? " ---".toList (rest.dropWhile fun c => !Text.isSpace c)
  return ⟨name, summaryOf (rest.dropWhile Text.isSpaceOrTab)⟩

/-- The first file header of a list of lines, with its own line and those after it. -/
def among? : (lines : List Text) → Option (FileHeader × Text × List Text)
  | [] => none
  | line :: later =>
    match ofLine? line with
    | some header => some (header, line, later)
    | none => among? later

/-- The text that a file's last line holds. -/
def terminator (header : FileHeader) : Text :=
  ";;; ".toList ++ header.name ++ ".el ends here".toList

end FileHeader

end PackageRequires
