import PackageRequires.Catalogue
import PackageRequires.Toml.Document

namespace PackageRequires

/-! # Package archives

An archive file names the archive and lists the packages that it offers.  A
record may be written as a table, whose unknown keys are ignored, or as an array
of its fields in order.
-/

/-- A package as an archive lists it. -/
structure Offer where
  name : Text
  version : Option Text
  summary : Option Text
  deriving DecidableEq, Repr

structure Archive where
  name : Text
  url : Option Text
  offers : List Offer
  deriving DecidableEq, Repr

namespace Archive

/-- The packages of an archive, in the order of its list. -/
def packages (archive : Archive) : List Package :=
  archive.offers.map fun offer => ⟨offer.name, offer.version, offer.summary, archive.name⟩

/-- The fields of a record by their names; a table may leave some out.  What is
ignored must be representable all the same. -/
def fields? (names : List Text) : Toml.Value → Option (List (Option Toml.Value))
  | .table _ entries =>
    if (entries.filter fun entry => !names.contains entry.1).all fun entry =>
        entry.2.isRepresentable
    then some (names.map (Toml.Entries.get? entries))
    else none
  | value =>
    match value.items? with
    | some items =>
      if names.length ≤ items.length then some ((items.take names.length).map some) else none
    | none => none

/-- A field that may be missing, and otherwise is a string. -/
def optionalText? : Option Toml.Value → Option (Option Text)
  | none => some none
  | some value => value.text?.map some

/-- A field that must be a string. -/
def text? (field : Option Toml.Value) : Option Text := field.bind Toml.Value.text?

def offer? (value : Toml.Value) : Option Offer := do
  match ← fields? ["name".toList, "version".toList, "summary".toList] value with
  | [name, version, summary] =>
    return ⟨← text? name, ← optionalText? version, ← optionalText? summary⟩
  | _ => none

/-- The list of packages, which is empty if it is missing. -/
def offers? : Option Toml.Value → Option (List Offer)
  | none => some []
  | some value => value.items?.bind fun items => items.mapM offer?

/-- The archive that the root table of a file describes. -/
def ofEntries? (entries : Toml.Entries) : Option Archive := do
  match ← fields? ["archive".toList, "packages".toList] (.table .stated entries) with
  | [some about, packages] =>
    match ← fields? ["name".toList, "url".toList] about with
    | [name, url] => return ⟨← text? name, ← optionalText? url, ← offers? packages⟩
    | _ => none
  | _ => none

/-- The archive that a file describes. -/
def parse? (content : Text) : Option Archive := (Toml.document? content).bind ofEntries?

end Archive

/-- Adds the packages of an archive. -/
def Catalogue.addArchive (catalogue : Catalogue) (archive : Archive) : Catalogue :=
  catalogue.insertAll archive.packages

end PackageRequires
