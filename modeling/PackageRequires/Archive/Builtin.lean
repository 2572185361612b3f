import PackageRequires.Archive

namespace PackageRequires

/-! # The built-in archive

A snapshot of GNU ELPA, which is available before any archive file is read.
-/

namespace Archive

/-- An entry of the built-in archive. -/
def listed (name version summary : String) : Offer :=
  ⟨name.toList, some version.toList, some summary.toList⟩

/-- The archive that is available without a file. -/
def builtin : Archive where
  name := "gnu".toList
  url := some "https://elpa.gnu.org/packages/".toList
  offers := [
    listed "cl-lib" "0.7.1" "Forward cl-lib compatibility library for Emacs<24.3",
    listed "compat" "30.0.0.0" "Emacs Lisp Compatibility Library",
    listed "let-alist" "1.0.6" "Easily let-bind values of an assoc-list by their names",
    listed "seq" "2.24" "Sequence manipulation functions",
    listed "map" "3.3.1" "Map manipulation functions",
    listed "jsonrpc" "1.0.25" "JSON-RPC library",
    listed "eglot" "1.17" "The Emacs Client for LSP servers",
    listed "xref" "1.7.0" "Cross-referencing commands",
    listed "project" "0.11.1" "Operations on the current project",
    listed "transient" "0.7.5" "Transient commands",
    listed "xr" "1.25" "Convert string regexp to rx notation",
    listed "async" "1.9.9" "Asynchronous processing in Emacs",
    listed "spinner" "1.7.4"
      "Add spinners and progress-bars to the mode-line for ongoing operations",
    listed "nadvice" "0.4" "Forward compatibility for Emacs-24.4's nadvice",
    listed "org" "9.7.11" "Outline-based notes management and organizer"]

end Archive

namespace Catalogue

/-- Adds the packages of the built-in archive. -/
def addBuiltin (catalogue : Catalogue) : Catalogue := catalogue.addArchive Archive.builtin

/-- The packages of the built-in archive. -/
def builtin : Catalogue := empty.addBuiltin

end Catalogue

end PackageRequires
