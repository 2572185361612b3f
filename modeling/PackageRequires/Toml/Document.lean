import PackageRequires.Toml.Statement

namespace PackageRequires.Toml

/-! # TOML documents

The table that a file's statements build up.
-/

/-- A document under construction: its root table, and the path of the header
above the next assignment. -/
structure Draft where
  root : Entries
  header : List Text

namespace Draft

/-- Changes the table that a header's last key stands in. -/
def atHeader (draft : Draft) (path : List Text) (change : Text → Entries → Option Entries) :
    Option Draft :=
  match path.getLast? with
  | some key => (draft.root.within (change key) path.dropLast).map fun root => ⟨root, path⟩
  | none => none

/-- Carries out a statement. -/
def add (draft : Draft) : Statement → Option Draft
  | .table path => draft.atHeader path Entries.openTable
  | .element path => draft.atHeader path Entries.addTable
  | .assignment path value =>
    (draft.root.within (Entries.assign value path) draft.header).map fun root =>
      ⟨root, draft.header⟩

end Draft

/-- The root table of a document. -/
def document? (text : Text) : Option Entries := do
  let tokens ← tokens? text
  let statements ← statements? tokens
  let draft ← statements.foldlM Draft.add ⟨[], []⟩
  return draft.root

end PackageRequires.Toml
