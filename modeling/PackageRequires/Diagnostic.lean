import PackageRequires.Text

namespace PackageRequires

/-! # Diagnostics -/

inductive Severity where
  | error
  | warning
  deriving DecidableEq, Repr

def Severity.label : Severity → Text
  | error => "error".toList
  | warning => "warning".toList

/-- A finding about a document.  Lines count from one and columns from zero;
line zero stands for the document as a whole. -/
structure Diagnostic where
  line : Nat
  column : Nat
  severity : Severity
  message : Text
  deriving DecidableEq, Repr

namespace Diagnostic

def isError (diagnostic : Diagnostic) : Bool := diagnostic.severity == .error

/-- Whether any finding is an error. -/
def hasErrors (diagnostics : List Diagnostic) : Bool := diagnostics.any isError

end Diagnostic

end PackageRequires
