import PackageRequires.Text

namespace PackageRequires.Lisp

/-! # Expressions

The data that a dependency list is made of, and its printed form.  Nothing is
evaluated.
-/

/-- A literal of the Lisp reader. -/
inductive Expr where
  | symbol (name : Text)
  | string (contents : Text)
  | number (literal : Text)
  | list (items : List Expr)
  deriving Repr

namespace Expr

/-- Characters that a printed symbol escapes by a backslash. -/
def isEscapedInSymbol (c : Char) : Bool :=
  Text.isBlank c || c == '(' || c == ')' || c == '\"' || c == '\x27' || c == ';' || c == '\\'

/-- Characters that a printed string escapes by a backslash. -/
def isEscapedInString (c : Char) : Bool := c == '\"' || c == '\\'

/-- The text with a backslash in front of each character that satisfies `escaped`. -/
def escape (escaped : Char → Bool) (text : Text) : Text :=
  text.flatMap fun c => if escaped c then ['\\', c] else [c]

def printSymbol (name : Text) : Text := escape isEscapedInSymbol name

def printString (contents : Text) : Text :=
  '\"' :: escape isEscapedInString contents ++ ['\"']

mutual

/-- Text from which the reader gets the expression back.  The empty list is `nil`. -/
def print : Expr → Text
  | .symbol name => printSymbol name
  | .string contents => printString contents
  | .number literal => literal
  | .list [] => "nil".toList
  | .list (item :: items) => '(' :: print item ++ printRest items

/-- The items after the first, each behind a space, and the closing parenthesis. -/
def printRest : List Expr → Text
  | [] => [')']
  | item :: items => ' ' :: print item ++ printRest items

end

/-- The list `(quote value)`, which `'value` abbreviates. -/
def quoted (value : Expr) : Expr := .list [.symbol "quote".toList, value]

/-- The value of a symbol token: `nil` is the empty list. -/
def ofSymbol (name : Text) : Expr := if name = "nil".toList then .list [] else .symbol name

end Expr

end PackageRequires.Lisp
