import PackageRequires.Lisp.Reader

namespace PackageRequires

open Lisp

/-! # Dependency declarations

A header's text is one list, and each of its items should be a declaration
`(name "version")`.
-/

/-- A dependency on a package, from some version on. -/
structure Declaration where
  name : Text
  version : Text
  deriving DecidableEq, Repr

namespace Declaration

/-- The expression `(name "version")`. -/
def toExpr (declaration : Declaration) : Expr :=
  .list [.symbol declaration.name, .string declaration.version]

/-- The declaration that an expression is: a symbol and a string, and nothing else. -/
def ofExpr? : Expr → Option Declaration
  | .list [.symbol name, .string version] => some ⟨name, version⟩
  | _ => none

@[simp] theorem ofExpr?_toExpr (declaration : Declaration) :
    ofExpr? declaration.toExpr = some declaration := rfl

theorem ofExpr?_eq_some_iff {expr : Expr} {declaration : Declaration} :
    ofExpr? expr = some declaration ↔ expr = declaration.toExpr := by
  constructor
  · intro shaped
    unfold ofExpr? at shaped
    split at shaped
    · cases shaped
      rfl
    · cases shaped
  · rintro rfl
    rfl

end Declaration

/-- Why a header's text is not a list. -/
inductive DeclarationsError where
  | unreadable (error : ReadError)
  | notAList (found : Expr)

def DeclarationsError.message : DeclarationsError → Text
  | unreadable error => error.message
  | notAList found => "Expected a list of dependencies, but found ".toList ++ found.print

/-- The items of a header's list, of any shape, and whether anything but blanks
follows it. -/
structure Declarations where
  items : List Expr
  trailing : Bool

/-- Reads a header's text.  A comment behind the list counts as more text. -/
def Declarations.read (text : Text) : Except DeclarationsError Declarations :=
  match Lisp.read text with
  | .error failure => .error (.unreadable failure.error)
  | .ok (.list items, rest) => .ok ⟨items, !rest.allBlank⟩
  | .ok (found, _) => .error (.notAList found)

end PackageRequires
