import PackageRequires.Keyed

namespace PackageRequires

/-! # The packages that are available

A catalogue holds one package for each name, in the order of the names.  The name
that a package is filed under is kept beside it.
-/

/-- A package that an archive offers. -/
structure Package where
  name : Text
  version : Option Text
  summary : Option Text
  archive : Text
  deriving DecidableEq, Repr

/-- The available packages, each filed under a name. -/
structure Catalogue where
  /-- The packages, each behind the name that it is filed under. -/
  entries : List (Text × Package)
  ascending : Keyed.Ascending Prod.fst entries

namespace Catalogue

def empty : Catalogue := ⟨[], List.Pairwise.nil⟩

/-- Files a package under its name, instead of an earlier one. -/
def insert (catalogue : Catalogue) (package : Package) : Catalogue where
  entries := Keyed.insert Prod.fst (package.name, package) catalogue.entries
  ascending := Keyed.ascending_insert _ catalogue.ascending (package.name, package)

/-- Adds packages one after another. -/
def insertAll (catalogue : Catalogue) (packages : List Package) : Catalogue :=
  packages.foldl insert catalogue

def get? (catalogue : Catalogue) (name : Text) : Option Package :=
  (Keyed.find? Prod.fst name catalogue.entries).map Prod.snd

def contains (catalogue : Catalogue) (name : Text) : Bool :=
  (Keyed.find? Prod.fst name catalogue.entries).isSome

/-- The names that packages are filed under, in ascending order. -/
def names (catalogue : Catalogue) : List Text := catalogue.entries.map Prod.fst

/-- The packages, in the order of the names that they are filed under. -/
def packages (catalogue : Catalogue) : List Package := catalogue.entries.map Prod.snd

def size (catalogue : Catalogue) : Nat := catalogue.entries.length

def isEmpty (catalogue : Catalogue) : Bool := catalogue.entries.isEmpty

@[simp] theorem get?_empty (name : Text) : empty.get? name = none := rfl

theorem contains_eq (catalogue : Catalogue) (name : Text) :
    catalogue.contains name = (catalogue.get? name).isSome := by
  rw [get?, Option.isSome_map, contains]

/-- The last package of a name wins. -/
theorem get?_insert (catalogue : Catalogue) (package : Package) (name : Text) :
    (catalogue.insert package).get? name =
      if package.name = name then some package else catalogue.get? name := by
  have found := Keyed.find?_insert Prod.fst (package.name, package) catalogue.entries name
  rw [get?, insert, found]
  split <;> rfl

end Catalogue

end PackageRequires
