import Mathlib.Data.List.Dedup
import PackageRequires.Archive.Builtin
import PackageRequires.Proofs.ByteOrder
import PackageRequires.Proofs.Catalogue
import PackageRequires.Proofs.Keyed

namespace PackageRequires.Catalogue

/-! # Catalogues after any history

A catalogue is filled by single packages and by whole archives, which may repeat
a name within themselves and among each other.  Every change inserts a list of
packages, so a history inserts them all, one after another, and only the last one
of each name is left.  Every insertion files a package under its own name, and so
each one is found there (`Filed`).
-/

/-- A change to a catalogue. -/
inductive Change where
  | insert (package : Package)
  | addArchive (archive : Archive)
  | addBuiltin
  deriving DecidableEq, Repr

namespace Change

def apply (catalogue : Catalogue) : Change → Catalogue
  | insert package => catalogue.insert package
  | addArchive archive => catalogue.addArchive archive
  | addBuiltin => catalogue.addBuiltin

/-- What an archive of some name offers, as a package that carries the archive's name. -/
def tagged (archive : Text) (offer : Offer) : Package where
  name := offer.name
  version := offer.version
  summary := offer.summary
  archive := archive

/-- The packages that a change adds, in order. -/
def added : Change → List Package
  | insert package => [package]
  | addArchive archive => archive.offers.map (tagged archive.name)
  | addBuiltin => Archive.builtin.offers.map (tagged "gnu".toList)

theorem apply_eq (catalogue : Catalogue) (change : Change) :
    change.apply catalogue = catalogue.insertAll change.added := by
  cases change <;> rfl

end Change

/-- The catalogue that a history leaves. -/
def after (history : List Change) : Catalogue := history.foldl Change.apply empty

theorem after_eq (history : List Change) :
    after history = empty.insertAll (history.flatMap Change.added) := by
  rw [after, insertAll, List.foldl_flatMap]
  congr
  funext catalogue change
  exact change.apply_eq catalogue

/-! ## Names -/

theorem names_ascending (catalogue : Catalogue) :
    catalogue.names.Pairwise fun left right => left.bytes < right.bytes := by
  rw [names, List.pairwise_map]
  exact catalogue.ascending.imp Text.isBefore_iff_bytes_lt.mp

theorem names_nodup (catalogue : Catalogue) : catalogue.names.Nodup := by
  refine catalogue.names_ascending.imp ?_
  intro left right before same
  rw [same] at before
  exact List.lt_irrefl _ before

/-- The names of a catalogue are those of the packages that were inserted, each once. -/
theorem names_insertAll_perm (packages : List Package) :
    (empty.insertAll packages).names.Perm (packages.map Package.name).dedup := by
  rw [List.perm_ext_iff_of_nodup (names_nodup _) (List.nodup_dedup _)]
  intro name
  rw [mem_names_iff, contains_insertAll_empty_iff, List.mem_dedup, List.mem_map]

theorem length_names (catalogue : Catalogue) : catalogue.names.length = catalogue.size :=
  List.length_map _

theorem isEmpty_iff_names {catalogue : Catalogue} :
    catalogue.isEmpty = true ↔ catalogue.names = [] := by
  rw [isEmpty, List.isEmpty_iff, names, List.map_eq_nil_iff]

theorem isEmpty_insertAll_iff {packages : List Package} :
    (empty.insertAll packages).isEmpty = true ↔ packages = [] := by
  rw [isEmpty_iff_names, ← List.length_eq_zero_iff, (names_insertAll_perm packages).length_eq,
    List.length_eq_zero_iff, List.dedup_eq_nil, List.map_eq_nil_iff]

/-! ## Lookup -/

theorem get?_eq_none_iff {catalogue : Catalogue} {name : Text} :
    catalogue.get? name = none ↔ catalogue.contains name = false := by
  rw [contains_eq, Option.isSome_eq_false_iff, Option.isNone_iff_eq_none]

theorem get?_eq_some_iff {catalogue : Catalogue} {name : Text} {package : Package} :
    catalogue.get? name = some package ↔ (name, package) ∈ catalogue.entries := by
  simp only [get?, Option.map_eq_some_iff, Keyed.find?_eq_some_iff catalogue.ascending]
  constructor
  · intro found
    obtain ⟨entry, ⟨member, here⟩, same⟩ := found
    rwa [← here, ← same]
  · intro member
    exact ⟨(name, package), ⟨member, rfl⟩, rfl⟩

/-- Every package is filed under its own name. -/
def Filed (catalogue : Catalogue) : Prop := ∀ entry ∈ catalogue.entries, entry.2.name = entry.1

theorem filed_empty : empty.Filed := nofun

section Filed

variable {catalogue : Catalogue} (filed : catalogue.Filed)
include filed

theorem Filed.insert (package : Package) : (catalogue.insert package).Filed := by
  intro entry member
  rcases Keyed.mem_insert Prod.fst member with new | earlier
  · rw [new]
  · exact filed entry earlier

theorem Filed.insertAll (packages : List Package) : (catalogue.insertAll packages).Filed := by
  induction packages generalizing catalogue with
  | nil => exact filed
  | cons package packages ih => exact ih (filed.insert package)

theorem Filed.get?_eq_some_iff {name : Text} {package : Package} :
    catalogue.get? name = some package ↔ package ∈ catalogue.packages ∧ package.name = name := by
  rw [Catalogue.get?_eq_some_iff, packages, List.mem_map]
  constructor
  · intro member
    exact ⟨⟨(name, package), member, rfl⟩, filed _ member⟩
  · intro found
    obtain ⟨⟨entry, member, same⟩, here⟩ := found
    have own := filed entry member
    rw [same, here] at own
    rwa [own, ← same]

end Filed

/-- After any history, a catalogue maps each name to the last package of that name, and
holds each package under its own name only. -/
theorem after_maps_to_last (history : List Change) :
    let added := history.flatMap Change.added
    (∀ name,
      (∀ package, (after history).get? name = some package ↔
        LastWith (fun other => other.name = name) added package) ∧
      ((after history).get? name = none ↔ ∀ package ∈ added, package.name ≠ name) ∧
      ((after history).contains name = true ↔ ∃ package ∈ added, package.name = name)) ∧
    ((after history).names.Pairwise fun left right => left.bytes < right.bytes) ∧
    (after history).names.Perm (added.map Package.name).dedup ∧
    (after history).size = (added.map Package.name).dedup.length ∧
    ((after history).isEmpty = true ↔ added = []) ∧
    (∀ name package, (name, package) ∈ (after history).entries → package.name = name) ∧
    ∀ name package, (after history).get? name = some package ↔
      package ∈ (after history).packages ∧ package.name = name := by
  intro added
  have filled : after history = empty.insertAll added := after_eq history
  rw [filled]
  have filed : (empty.insertAll added).Filed := filed_empty.insertAll added
  refine ⟨fun name => ⟨fun package => get?_insertAll_empty_iff, ?_,
    contains_insertAll_empty_iff⟩, names_ascending _, names_insertAll_perm added, ?_,
    isEmpty_insertAll_iff, fun name package => filed (name, package),
    fun name package => filed.get?_eq_some_iff⟩
  · rw [get?_eq_none_iff, ← Bool.not_eq_true, contains_insertAll_empty_iff]
    simp
  · rw [← length_names, (names_insertAll_perm added).length_eq]

end PackageRequires.Catalogue
