import PackageRequires.Check
import PackageRequires.Server.Cursor

namespace PackageRequires.Server

/-! # Hover and completion

Both are offered on the Package-Requires line only.
-/

/-- A position in a document; lines count from zero and columns in UTF-16 units. -/
structure Position where
  line : Nat
  character : Nat
  deriving DecidableEq, Repr

/-- A name that completes the symbol before a cursor. -/
structure Completion where
  label : Text
  detail : Text
  documentation : Option Text
  deriving DecidableEq, Repr

/-- The text of a document's header line, if the line is that of the position. -/
def headerLine? (document : Text) (position : Position) : Option Text :=
  match Header.locate? document with
  | some header => if header.line = position.line + 1 then document.line? header.line else none
  | none => none

/-- Version and archive of a package. -/
def origin (package : Package) : Text :=
  match package.version with
  | some version => version ++ " (".toList ++ package.archive ++ ")".toList
  | none => package.archive

/-- What is known about a name. -/
def description? (catalogue : Catalogue) (name : Text) : Option Text :=
  if name = hostPackage then
    some ("**".toList ++ hostPackage ++
      "**\n\nMinimum Emacs version required by this package.".toList)
  else
    (catalogue.get? name).map fun package =>
      "**".toList ++ package.name ++ "**".toList ++
        (package.version.map (' ' :: ·)).getD [] ++
        " _(".toList ++ package.archive ++ ")_".toList ++
        (package.summary.map ("\n\n".toList ++ ·)).getD []

/-- The description of the name under a position. -/
def hover? (catalogue : Catalogue) (document : Text) (position : Position) : Option Text :=
  match headerLine? document position with
  | some line =>
    (symbolAt? line (cursorAt line position.character)).bind (description? catalogue)
  | none => none

/-- A name as a completion. -/
def completionOf (catalogue : Catalogue) (name : Text) : Completion where
  label := name
  detail := ((catalogue.get? name).map origin).getD "Emacs version".toList
  documentation := (catalogue.get? name).bind Package.summary

/-- The names that begin with `start`: that of the host first, then those of the catalogue. -/
def completionsOf (catalogue : Catalogue) (start : Text) : List Completion :=
  ((hostPackage :: catalogue.names).filter fun name => start.isPrefixOf name).map
    (completionOf catalogue)

/-- The completions at a position. -/
def completions (catalogue : Catalogue) (document : Text) (position : Position) :
    List Completion :=
  match headerLine? document position with
  | some line => completionsOf catalogue (symbolBefore line (cursorAt line position.character))
  | none => []

end PackageRequires.Server
