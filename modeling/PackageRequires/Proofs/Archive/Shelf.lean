import Mathlib.Data.List.Forall2
import PackageRequires.Archive.Library
import PackageRequires.Proofs.Catalogue
import PackageRequires.Proofs.FileSystem

namespace PackageRequires

/-! # What loading puts on the shelf

The shelf is described source by source: the archive files of a directory in
the order of their names, and from each path one archive or none.  The relations
leave no choice, so they hold of the loaded shelf and of no other.
-/

variable {files : FileSystem} {priority : Priority} {path directory : Text} {location : Location}

/-- What a path adds to a shelf: the archive that its file describes, or nothing. -/
inductive Adds (files : FileSystem) (priority : Priority) (path : Text) : Shelf → Prop
  | archive {content : Text} {archive : Archive} (holds : files.Holds path content)
      (described : Archive.parse? content = some archive) :
      Adds files priority path [⟨archive, priority, some path⟩]
  | nothing (unusable : ∀ content, files.Holds path content → Archive.parse? content = none) :
      Adds files priority path []

/-- The paths of the archive files of a directory, which has none if it does not exist. -/
inductive ListsArchives (files : FileSystem) (directory : Text) : List Text → Prop
  | entries {location : Location} {names : List Text}
      (found : files.NamesDirectory directory location)
      (archives : names.Perm ((files.children location).filter fun name => Path.IsArchiveFile name))
      (sorted : FileSystem.InOrder names) :
      ListsArchives files directory (names.map (Path.join directory))
  | nothing (missing : ∀ location, ¬ files.NamesDirectory directory location) :
      ListsArchives files directory []

/-- The built-in archive, then what the directories add, then what the explicit files add. -/
def Arranged (files : FileSystem) (sources : Sources) (shelf : Shelf) : Prop :=
  ∃ paths fromDirectories fromFiles,
    List.Forall₂ (ListsArchives files) sources.directories paths ∧
    List.Forall₂ (Adds files .directory) paths.flatten fromDirectories ∧
    List.Forall₂ (Adds files .explicit) sources.files fromFiles ∧
    shelf = Shelf.builtin :: (fromDirectories.flatten ++ fromFiles.flatten)

theorem loadFile_eq_some_iff {shelved : ShelvedArchive} :
    (loadFile files priority path).toOption = some shelved ↔
      ∃ content archive, files.Holds path content ∧ Archive.parse? content = some archive ∧
        shelved = ⟨archive, priority, some path⟩ := by
  simp only [← FileSystem.read_eq_ok_iff, loadFile]
  cases files.read path with
  | error cause => simp [Except.toOption]
  | ok content => cases parsed : Archive.parse? content <;> simp [Except.toOption, parsed, eq_comm]

theorem loadFile_eq_none_iff :
    (loadFile files priority path).toOption = none ↔
      ∀ content, files.Holds path content → Archive.parse? content = none := by
  simp only [← FileSystem.read_eq_ok_iff, loadFile]
  cases files.read path with
  | error cause => simp [Except.toOption]
  | ok content => cases parsed : Archive.parse? content <;> simp [Except.toOption, parsed]

theorem adds_iff {added : Shelf} :
    Adds files priority path added ↔ added = (loadFile files priority path).toOption.toList := by
  constructor
  · intro adds
    cases adds with
    | archive holds described =>
        rw [loadFile_eq_some_iff.mpr ⟨_, _, holds, described, rfl⟩]
        rfl
    | nothing unusable =>
        rw [loadFile_eq_none_iff.mpr unusable]
        rfl
  · intro same
    rw [same]
    cases loaded : (loadFile files priority path).toOption with
    | none => exact .nothing (loadFile_eq_none_iff.mp loaded)
    | some shelved =>
        obtain ⟨content, archive, holds, described, rfl⟩ := loadFile_eq_some_iff.mp loaded
        exact .archive holds described

/-- The paths that a directory gives for loading. -/
def archivePaths (files : FileSystem) (directory : Text) : List Text :=
  (archiveFiles files directory).toOption.getD []

theorem loaded_directory (files : FileSystem) (directory : Text) :
    (loadDirectory files directory).filterMap Except.toOption =
      (archivePaths files directory).filterMap fun path =>
        (loadFile files .directory path).toOption := by
  rw [loadDirectory, archivePaths]
  cases archiveFiles files directory with
  | error error => rfl
  | ok paths =>
      rw [List.filterMap_map]
      rfl

theorem archivePaths_of_list {names : List Text} (listed : files.list directory = .ok names) :
    archivePaths files directory = (names.filter Path.isArchiveName).map (Path.join directory) := by
  obtain ⟨location, found, _⟩ := FileSystem.list_eq_ok_iff.mp listed
  have present : files.isPresent directory = true := by
    rw [FileSystem.isPresent, found.1]
    rfl
  simp [archivePaths, archiveFiles, present, listed, Except.toOption]

theorem archivePaths_of_missing (missing : ∀ location, ¬ files.NamesDirectory directory location) :
    archivePaths files directory = [] := by
  cases listed : files.list directory with
  | ok names =>
      obtain ⟨location, found, _⟩ := FileSystem.list_eq_ok_iff.mp listed
      exact absurd found (missing location)
  | error cause =>
      cases present : files.isPresent directory <;>
        simp [archivePaths, archiveFiles, present, listed, Except.toOption]

theorem filter_isArchiveName (names : List Text) :
    (names.filter fun name => Path.IsArchiveFile name) = names.filter Path.isArchiveName := by
  apply List.filter_congr
  intro name _
  rw [Bool.eq_iff_iff, decide_eq_true_iff, Path.isArchiveName_iff]

theorem listsArchives_iff {paths : List Text} :
    ListsArchives files directory paths ↔ paths = archivePaths files directory := by
  constructor
  · intro lists
    cases lists with
    | nothing missing => exact (archivePaths_of_missing missing).symm
    | @entries location names found archives sorted =>
        obtain ⟨all, listed, same, allSorted⟩ := found.exists_list
        rw [filter_isArchiveName] at archives
        have equal : names = all.filter Path.isArchiveName :=
          FileSystem.eq_of_inOrder sorted (allSorted.filter _)
            (archives.trans (same.symm.filter _))
        rw [equal, archivePaths_of_list listed]
  · intro same
    rw [same]
    by_cases found : ∃ location, files.NamesDirectory directory location
    · obtain ⟨location, found⟩ := found
      obtain ⟨all, listed, same, allSorted⟩ := found.exists_list
      rw [archivePaths_of_list listed]
      refine .entries found ?_ (allSorted.filter _)
      rw [filter_isArchiveName]
      exact same.filter _
    · have missing := not_exists.mp found
      rw [archivePaths_of_missing missing]
      exact .nothing missing

theorem forall₂_iff_eq_map {α β : Type} {related : α → β → Prop} {f : α → β}
    (function : ∀ item image, related item image ↔ image = f item) {items : List α}
    {images : List β} : List.Forall₂ related items images ↔ images = items.map f := by
  induction items generalizing images with
  | nil => simp
  | cons item items ih =>
      cases images with
      | nil => simp
      | cons image images => simp [function, ih]

/-- What loading a path gives, as a list of one archive or none. -/
def added (files : FileSystem) (priority : Priority) (path : Text) : Shelf :=
  (loadFile files priority path).toOption.toList

theorem load_eq (files : FileSystem) (sources : Sources) :
    Shelf.load files sources = Shelf.builtin ::
      ((sources.directories.flatMap (archivePaths files)).flatMap (added files .directory) ++
        sources.files.flatMap (added files .explicit)) := by
  have directories : (sources.directories.flatMap (loadDirectory files)).filterMap
      Except.toOption =
      (sources.directories.flatMap (archivePaths files)).flatMap (added files .directory) := by
    rw [List.filterMap_flatMap, List.flatMap_assoc]
    apply List.flatMap_congr
    intro directory _
    rw [loaded_directory, List.filterMap_eq_flatMap_toList]
    rfl
  have explicit : (sources.files.map (loadFile files .explicit)).filterMap Except.toOption =
      sources.files.flatMap (added files .explicit) := by
    rw [List.filterMap_map, List.filterMap_eq_flatMap_toList]
    rfl
  rw [Shelf.load, attempts, List.filterMap_append, directories, explicit]

/-- The sources fix the shelf. -/
theorem arranged_iff {sources : Sources} {shelf : Shelf} :
    Arranged files sources shelf ↔ shelf = Shelf.load files sources := by
  have lists {paths : List (List Text)} :
      List.Forall₂ (ListsArchives files) sources.directories paths ↔
        paths = sources.directories.map (archivePaths files) := by
    apply forall₂_iff_eq_map
    intro directory paths
    exact listsArchives_iff
  have adds {priority : Priority} {paths : List Text} {shelves : List Shelf} :
      List.Forall₂ (Adds files priority) paths shelves ↔
        shelves = paths.map (added files priority) := by
    apply forall₂_iff_eq_map
    intro path shelf
    exact adds_iff
  simp only [Arranged, lists, adds, load_eq]
  constructor
  · intro arranged
    obtain ⟨paths, fromDirectories, fromFiles, rfl, rfl, rfl, same⟩ := arranged
    exact same
  · intro same
    exact ⟨_, _, _, rfl, rfl, rfl, same⟩

/-- Ranks from the lowest priority to the highest. -/
def Priority.rank : Priority → Nat
  | .builtIn => 0
  | .directory => 1
  | .explicit => 2

theorem priority_of_mem_added {shelved : ShelvedArchive}
    (member : shelved ∈ added files priority path) : shelved.priority = priority := by
  rw [added, Option.mem_toList, loadFile_eq_some_iff] at member
  obtain ⟨content, archive, _, _, rfl⟩ := member
  rfl

theorem load_ascending (files : FileSystem) (sources : Sources) :
    (Shelf.load files sources).Pairwise fun lower upper =>
      lower.priority.rank ≤ upper.priority.rank := by
  have level {priority : Priority} {paths : List Text} {shelved : ShelvedArchive}
      (member : shelved ∈ paths.flatMap (added files priority)) : shelved.priority = priority := by
    obtain ⟨path, _, member⟩ := List.mem_flatMap.mp member
    exact priority_of_mem_added member
  have flat {priority : Priority} {paths : List Text} :
      (paths.flatMap (added files priority)).Pairwise fun lower upper =>
        lower.priority.rank ≤ upper.priority.rank := by
    apply List.pairwise_of_forall_mem_list
    intro lower left upper right
    rw [level left, level right]
  rw [load_eq, List.pairwise_cons, List.pairwise_append]
  refine ⟨fun shelved _ => Nat.zero_le _, flat, flat, ?_⟩
  intro lower left upper right
  rw [level left, level right]
  decide

/-- An archive lists a package of the name. -/
def Archive.Lists (archive : Archive) (name : Text) : Prop :=
  ∃ offer ∈ archive.offers, offer.name = name

/-- The package is the last entry of its name in the last archive that has one. -/
def Shelf.Stores (shelf : Shelf) (name : Text) (package : Package) : Prop :=
  ∃ shelved offer, LastWith (fun other => other.archive.Lists name) shelf shelved ∧
    LastWith (fun other => other.name = name) shelved.archive.offers offer ∧
    package = ⟨name, offer.version, offer.summary, shelved.archive.name⟩

namespace Shelf

theorem catalogue_eq (shelf : Shelf) :
    shelf.catalogue = Catalogue.empty.insertAll (shelf.flatMap fun shelved =>
      shelved.archive.packages) := by
  rw [catalogue, Catalogue.insertAll, List.foldl_flatMap]
  rfl

theorem exists_package_iff {archive : Archive} {name : Text} :
    (∃ package ∈ archive.packages, package.name = name) ↔ archive.Lists name := by
  simp [Archive.packages, Archive.Lists]

theorem contains_catalogue_iff {shelf : Shelf} {name : Text} :
    shelf.catalogue.contains name = true ↔ ∃ shelved ∈ shelf, shelved.archive.Lists name := by
  rw [catalogue_eq, Catalogue.contains_insertAll_empty_iff]
  simp only [← exists_package_iff, List.mem_flatMap]
  grind

theorem get?_catalogue_iff {shelf : Shelf} {name : Text} {package : Package} :
    shelf.catalogue.get? name = some package ↔ shelf.Stores name package := by
  rw [catalogue_eq, Catalogue.get?_insertAll_empty_iff, lastWith_flatMap_iff]
  simp only [exists_package_iff]
  simp only [Archive.packages, lastWith_map_iff, Stores]
  constructor
  · intro found
    obtain ⟨shelved, inShelf, offer, inOffers, rfl⟩ := found
    refine ⟨shelved, offer, inShelf, inOffers, ?_⟩
    rw [inOffers.mem.2]
  · intro stored
    obtain ⟨shelved, offer, inShelf, inOffers, rfl⟩ := stored
    refine ⟨shelved, inShelf, offer, inOffers, ?_⟩
    rw [inOffers.mem.2]

end Shelf

theorem flatMap_filter_of_nil {α β : Type} {kept : α → Bool} {f : α → List β} {items : List α}
    (empty : ∀ item ∈ items, kept item = false → f item = []) :
    (items.filter kept).flatMap f = items.flatMap f := by
  induction items with
  | nil => rfl
  | cons head tail ih =>
      have tailEmpty : ∀ item ∈ tail, kept item = false → f item = [] := by
        intro item later
        exact empty item (List.mem_cons_of_mem _ later)
      cases keeps : kept head with
      | true => simp [keeps, ih tailEmpty]
      | false => simp [keeps, ih tailEmpty, empty head]

/-- The file at a location is not UTF-8 or does not describe an archive. -/
structure FileSystem.Unusable (files : FileSystem) (location : Location) : Prop where
  file : ∃ bytes, files.node? location = some (.file bytes) ∧
    ∀ content, Text.ofUtf8? bytes = some content → Archive.parse? content = none
  /-- Names have no slashes. -/
  named : ∀ name ∈ location.getLast?, '/' ∉ name

namespace FileSystem.Unusable

variable (unusable : files.Unusable location)
include unusable

theorem loadFile_eq_none (located : files.locate path = .ok location) :
    (loadFile files priority path).toOption = none := by
  rw [loadFile_eq_none_iff]
  intro content holds
  obtain ⟨bytes, isFile, noArchive⟩ := unusable.file
  obtain ⟨place, stored, found, same, decoded⟩ := holds
  obtain rfl : location = place := Except.ok.inj (located.symm.trans found)
  obtain rfl : bytes = stored := by simpa [isFile] using same
  exact noArchive content decoded

theorem loadFile_without :
    (loadFile (files.without location) priority path).toOption =
      (loadFile files priority path).toOption := by
  obtain ⟨bytes, isFile, _⟩ := unusable.file
  by_cases located : files.locate path = .ok location
  · rw [unusable.loadFile_eq_none located, loadFile_eq_none_iff]
    intro content holds
    exact absurd located ((holds_without_iff isFile).mp holds).2
  · apply Option.ext
    intro shelved
    simp only [loadFile_eq_some_iff, holds_without_iff isFile, ne_eq, located, not_false_eq_true,
      and_true]

theorem paths_without (directory : Text) :
    (archivePaths (files.without location) directory).flatMap (added files .directory) =
      (archivePaths files directory).flatMap (added files .directory) := by
  obtain ⟨bytes, isFile, _⟩ := unusable.file
  by_cases found : ∃ here, files.NamesDirectory directory here
  · obtain ⟨here, found⟩ := found
    obtain ⟨all, listed, same, sorted⟩ := found.exists_list
    have remaining : (files.without location).list directory =
        .ok (all.filter fun name => here ++ [name] ≠ location) := by
      apply list_eq_ok_iff.mpr
      refine ⟨here, (namesDirectory_without_iff isFile).mpr found, ?_, sorted.filter _⟩
      rw [children_without]
      exact same.filter _
    rw [archivePaths_of_list listed, archivePaths_of_list remaining, List.flatMap_map,
      List.flatMap_map, List.filter_comm]
    apply flatMap_filter_of_nil
    intro name member dropped
    obtain ⟨_, archive⟩ := List.mem_filter.mp member
    have place : here ++ [name] = location := by simpa using dropped
    have plain : '/' ∉ name := unusable.named name (by simp [← place])
    have located : files.locate (Path.join directory name) = .ok location := by
      rw [← place] at isFile ⊢
      exact found.locate_join (Path.isArchiveName_iff.mp archive) plain (by simp [isFile])
    rw [added, unusable.loadFile_eq_none located]
    rfl
  · have missing := not_exists.mp found
    have missingWithout : ∀ here, ¬ (files.without location).NamesDirectory directory here := by
      intro here named
      exact missing here ((namesDirectory_without_iff isFile).mp named)
    rw [archivePaths_of_missing missing, archivePaths_of_missing missingWithout]

theorem load_without (sources : Sources) :
    Shelf.load (files.without location) sources = Shelf.load files sources := by
  have same {priority : Priority} :
      added (files.without location) priority = added files priority := by
    funext path
    rw [added, unusable.loadFile_without, added]
  rw [load_eq, load_eq, same, same, List.flatMap_assoc, List.flatMap_assoc]
  simp only [unusable.paths_without]

end FileSystem.Unusable

theorem size_builtin : Catalogue.builtin.size = Archive.builtin.offers.length := by decide

namespace Library

end Library

end PackageRequires
