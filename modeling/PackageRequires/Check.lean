import PackageRequires.Catalogue
import PackageRequires.Declaration
import PackageRequires.Diagnostic
import PackageRequires.Header
import PackageRequires.Metadata

namespace PackageRequires

open Lisp

/-! # Checking a document

The header's problems come first, in the order of its list, and then at most one
warning about the document's metadata.
-/

/-- The name that stands for the Emacs version itself. -/
def hostPackage : Text := "emacs".toList

/-- A problem with a dependency header. -/
inductive Problem where
  | unreadable (error : DeclarationsError)
  | moreThanOneExpression
  | misshapen (item : Expr)
  | invalidVersion (version : Text)
  | unknownPackage (name : Text)

namespace Problem

def message : Problem → Text
  | unreadable error => "Couldn't parse dependency header: ".toList ++ error.message
  | moreThanOneExpression => "more than one expression provided".toList
  | misshapen item => "Expected (package-name \"version-num\"), but found ".toList ++ item.print
  | invalidVersion version =>
    Expr.printString version ++ " is not a valid version string".toList
  | unknownPackage name =>
    "Package ".toList ++ Expr.printSymbol name ++
      " is unknown in the current package list.".toList

/-- The diagnostic for a problem of the header on a line. -/
def toDiagnostic (line : Nat) (problem : Problem) : Diagnostic :=
  ⟨line, 0, .error, problem.message⟩

end Problem

/-- Whether a declaration may name a package. -/
def isAvailable (catalogue : Catalogue) (name : Text) : Bool :=
  name == hostPackage || catalogue.contains name

namespace Declaration

/-- The problems of one declaration: its version's and its name's, each for itself. -/
def problems (catalogue : Catalogue) (declaration : Declaration) : List Problem :=
  (if Version.isValid declaration.version then [] else [.invalidVersion declaration.version]) ++
    if isAvailable catalogue declaration.name then [] else [.unknownPackage declaration.name]

end Declaration

/-- The problems of one item of the dependency list. -/
def itemProblems (catalogue : Catalogue) (item : Expr) : List Problem :=
  match Declaration.ofExpr? item with
  | some declaration => declaration.problems catalogue
  | none => [.misshapen item]

namespace Declarations

/-- The problems of a dependency list. -/
def problems (catalogue : Catalogue) (declarations : Declarations) : List Problem :=
  (if declarations.trailing then [.moreThanOneExpression] else []) ++
    declarations.items.flatMap (itemProblems catalogue)

end Declarations

namespace Header

/-- The problems of a header's text. -/
def problems (catalogue : Catalogue) (text : Text) : List Problem :=
  match Declarations.read text with
  | .error error => [.unreadable error]
  | .ok declarations => declarations.problems catalogue

/-- The diagnostics for a header. -/
def check (catalogue : Catalogue) (header : Header) : List Diagnostic :=
  (problems catalogue header.text).map (Problem.toDiagnostic header.line)

end Header

/-- What reads a document's metadata. -/
abbrev Extractor := Text → Except MetadataError Metadata

/-- The warning for a document whose metadata cannot be read. -/
def MetadataError.toDiagnostic (error : MetadataError) : Diagnostic :=
  ⟨0, 0, .warning, "package metadata cannot be parsed: ".toList ++ error.message⟩

/-- The diagnostics for a document's metadata. -/
def checkMetadata (extract : Extractor) (document : Text) : List Diagnostic :=
  match extract document with
  | .ok _ => []
  | .error error => [error.toDiagnostic]

/-- The diagnostics for a document's header, if it has one. -/
def checkHeader (catalogue : Catalogue) (document : Text) : List Diagnostic :=
  match Header.locate? document with
  | some header => header.check catalogue
  | none => []

/-- The diagnostics for a document. -/
def checkDocument (extract : Extractor) (catalogue : Catalogue) (document : Text) :
    List Diagnostic :=
  checkHeader catalogue document ++ checkMetadata extract document

end PackageRequires
