import PackageRequires.Check

namespace PackageRequires

/-! # Checkers

A host runs every checker that is registered for a document's language, in the
order of registration.
-/

/-- Something that reports diagnostics for documents of some languages. -/
structure Checker where
  name : Text
  modes : List Text
  check : Catalogue → Text → List Diagnostic

/-- The language of package files. -/
def packageMode : Text := "emacs-lisp".toList

namespace Checker

/-- The checker for package files, which reads metadata by `extract`. -/
def forPackages (extract : Extractor) : Checker where
  name := "emacs-lisp-package".toList
  modes := [packageMode]
  check := checkDocument extract

def supports (checker : Checker) (mode : Text) : Bool := checker.modes.contains mode

end Checker

/-- The checkers that a host has registered, the earliest first. -/
structure CheckerRegistry where
  checkers : List Checker

namespace CheckerRegistry

def empty : CheckerRegistry := ⟨[]⟩

def names (registry : CheckerRegistry) : List Text := registry.checkers.map Checker.name

def isRegistered (registry : CheckerRegistry) (name : Text) : Bool :=
  registry.checkers.any fun checker => checker.name == name

/-- Adds a checker, unless its name is taken; says whether it was added. -/
def register (registry : CheckerRegistry) (checker : Checker) : CheckerRegistry × Bool :=
  if registry.isRegistered checker.name then (registry, false)
  else (⟨registry.checkers ++ [checker]⟩, true)

/-- Adds the checker for package files. -/
def setUp (registry : CheckerRegistry) : CheckerRegistry × Bool :=
  registry.register (.forPackages Metadata.extract)

/-- The checkers for a language. -/
def forMode (registry : CheckerRegistry) (mode : Text) : List Checker :=
  registry.checkers.filter (·.supports mode)

/-- Runs the checkers for a language on a document. -/
def run (registry : CheckerRegistry) (mode : Text) (catalogue : Catalogue) (document : Text) :
    List Diagnostic :=
  (registry.forMode mode).flatMap fun checker => checker.check catalogue document

/-- The registry with the checker for package files alone. -/
def standard : CheckerRegistry := (setUp empty).1

end CheckerRegistry

end PackageRequires
