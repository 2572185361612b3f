import PackageRequires.Proofs.Archive.Shelf
import PackageRequires.Proofs.Check
import PackageRequires.Proofs.FileSystem.Growth
import PackageRequires.Proofs.Lisp.Atom
import PackageRequires.Proofs.Report

namespace PackageRequires

open Lisp

/-! # More archives

A wider catalogue takes away the errors about its names and changes nothing else.
A library whose files or sources grow offers every name that it offered before,
so no document gets worse.
-/

/-! ## A wider catalogue -/

section Wider

variable {narrow wide : Catalogue}

/-- An error about a package that is not available. -/
def Diagnostic.IsUnknownPackage (diagnostic : Diagnostic) (name : Text) : Prop :=
  diagnostic.severity = .error ∧
    diagnostic.message = "Package ".toList ++ Expr.printSymbol name ++
      " is unknown in the current package list.".toList

instance (diagnostic : Diagnostic) : DecidablePred diagnostic.IsUnknownPackage :=
  fun _ => inferInstanceAs (Decidable (_ ∧ _))

theorem printSymbol_injective : Function.Injective Expr.printSymbol := by
  intro name other same
  have unescaped := unescape?_printSymbol name
  rw [same, unescape?_printSymbol] at unescaped
  exact (Option.some.inj unescaped).symm

/-- Only an unknown package is reported in these words: other messages begin with
another character. -/
theorem Problem.message_eq_iff {problem : Problem} {name : Text} :
    problem.message = (Problem.unknownPackage name).message ↔ problem = .unknownPackage name := by
  constructor
  · intro same
    have start : problem.message.head? = some 'P' := by
      rw [same]
      rfl
    cases problem with
    | unknownPackage other =>
        have printed : Expr.printSymbol other = Expr.printSymbol name :=
          List.append_cancel_left (List.append_cancel_right same)
        rw [printSymbol_injective printed]
    | _ => exact absurd (Option.some.inj start) (by decide)
  · intro same
    rw [same]

theorem Problem.isUnknownPackage_iff {line : Nat} {problem : Problem} {name : Text} :
    (problem.toDiagnostic line).IsUnknownPackage name ↔ problem = .unknownPackage name := by
  rw [← message_eq_iff]
  exact ⟨And.right, fun same => ⟨rfl, same⟩⟩

/-- Whether a catalogue has the package that a problem misses. -/
def Problem.isSolvedBy (catalogue : Catalogue) : Problem → Bool
  | .unknownPackage name => catalogue.contains name
  | _ => false

theorem Problem.isSolvedBy_iff {catalogue : Catalogue} {line : Nat} {problem : Problem} :
    problem.isSolvedBy catalogue = true ↔
      ∃ name ∈ catalogue.names, (problem.toDiagnostic line).IsUnknownPackage name := by
  simp only [isUnknownPackage_iff]
  cases problem with
  | unknownPackage name => simp [isSolvedBy, Catalogue.mem_names_iff]
  | _ => simp [isSolvedBy]

variable (wider : ∀ name ∈ narrow.names, name ∈ wide.names)
include wider

theorem itemProblems_wider (item : Expr) :
    itemProblems wide item =
      (itemProblems narrow item).filter fun problem => !problem.isSolvedBy wide := by
  rw [itemProblems, itemProblems]
  cases Declaration.ofExpr? item with
  | none => rfl
  | some declaration =>
      obtain ⟨name, version⟩ := declaration
      have version : (if Version.isValid version then [] else [Problem.invalidVersion version]).filter
          (fun problem => !problem.isSolvedBy wide) =
          if Version.isValid version then [] else [.invalidVersion version] := by
        split <;> rfl
      simp only [Declaration.problems, List.filter_append, version]
      congr 1
      by_cases inWide : wide.contains name = true
      · cases isAvailable narrow name <;> simp [isAvailable, inWide, Problem.isSolvedBy]
      · have inNarrow : narrow.contains name = false := by
          rw [Bool.eq_false_iff]
          intro listed
          exact inWide (Catalogue.mem_names_iff.mp (wider name (Catalogue.mem_names_iff.mpr listed)))
        rw [Bool.not_eq_true] at inWide
        simp only [isAvailable, inWide, inNarrow, Bool.or_false]
        split <;> simp [Problem.isSolvedBy, inWide]

theorem problems_wider (text : Text) :
    Header.problems wide text =
      (Header.problems narrow text).filter fun problem => !problem.isSolvedBy wide := by
  rw [Header.problems, Header.problems]
  cases Declarations.read text with
  | error error => rfl
  | ok declarations =>
      have trailing : (if declarations.trailing then [Problem.moreThanOneExpression] else []).filter
          (fun problem => !problem.isSolvedBy wide) =
          if declarations.trailing then [.moreThanOneExpression] else [] := by
        split <;> rfl
      have items : itemProblems wide = fun item =>
          (itemProblems narrow item).filter fun problem => !problem.isSolvedBy wide :=
        funext (itemProblems_wider wider)
      simp only [Declarations.problems, List.filter_append, trailing, List.filter_flatMap, items]

theorem checkDocument_wider (extract : Extractor) (document : Text) :
    checkDocument extract wide document =
      (checkDocument extract narrow document).filter fun diagnostic =>
        ¬ ∃ name ∈ wide.names, diagnostic.IsUnknownPackage name := by
  have header : checkHeader wide document =
      (checkHeader narrow document).filter fun diagnostic =>
        ¬ ∃ name ∈ wide.names, diagnostic.IsUnknownPackage name := by
    rw [checkHeader, checkHeader]
    cases Header.locate? document with
    | none => rfl
    | some header =>
        simp only [Header.check]
        rw [problems_wider wider, List.filter_map]
        congr 1
        apply List.filter_congr
        intro problem _
        rw [Bool.eq_iff_iff, Function.comp, decide_eq_true_iff, ← Problem.isSolvedBy_iff]
        simp
  have metadata : (checkMetadata extract document).filter (fun diagnostic =>
      ¬ ∃ name ∈ wide.names, diagnostic.IsUnknownPackage name) = checkMetadata extract document := by
    rw [checkMetadata]
    cases extract document with
    | ok _ => rfl
    | error error =>
        simp [MetadataError.toDiagnostic, Diagnostic.IsUnknownPackage]
  rw [checkDocument, checkDocument, List.filter_append, header, metadata]

omit wider in
theorem checkDocument_congr (same : ∀ name, name ∈ narrow.names ↔ name ∈ wide.names)
    (extract : Extractor) (document : Text) :
    checkDocument extract narrow document = checkDocument extract wide document := by
  have fromWide := checkDocument_wider (fun name => (same name).mpr) extract document
  have fromNarrow := checkDocument_wider (fun name => (same name).mp) extract document
  apply List.Sublist.antisymm
  · rw [fromWide]
    exact List.filter_sublist
  · rw [fromNarrow]
    exact List.filter_sublist

theorem mem_findingsOf_wider {contents : List (Text × Text)} {finding : Finding}
    (member : finding ∈ findingsOf wide contents) : finding ∈ findingsOf narrow contents := by
  simp only [findingsOf, CheckerRegistry.run_standard, List.mem_flatMap, List.mem_map] at member ⊢
  obtain ⟨file, listed, diagnostic, diagnosed, same⟩ := member
  rw [checkDocument_wider wider] at diagnosed
  exact ⟨file, listed, diagnostic, List.mem_of_mem_filter diagnosed, same⟩

end Wider

/-! ## A growing library -/

/-- Files and sources are only added. -/
structure Library.Grows (before after : Library) : Prop where
  files : before.files.Grows after.files
  directories : before.sources.directories ⊆ after.sources.directories
  explicit : before.sources.files ⊆ after.sources.files

/-- No name gets lost, no diagnostic is added, and no check that succeeded fails. -/
structure Library.NoWorse (before after : Library) : Prop where
  names : ∀ name ∈ before.reload.catalogue.names, name ∈ after.reload.catalogue.names
  diagnostics : ∀ extract document,
    (checkDocument extract after.reload.catalogue document).Sublist
      (checkDocument extract before.reload.catalogue document)
  exit : ∀ paths format,
    (CheckRequest.runWith before.files before.sources paths format).exit = 0 →
      (CheckRequest.runWith after.files after.sources paths format).exit = 0

section Growth

variable {files more : FileSystem} (grows : files.Grows more)
include grows

theorem mem_archivePaths_of_grows {directory path : Text}
    (member : path ∈ archivePaths files directory) : path ∈ archivePaths more directory := by
  by_cases found : ∃ location, files.NamesDirectory directory location
  · obtain ⟨location, found⟩ := found
    obtain ⟨names, listed, same, _⟩ := found.exists_list
    obtain ⟨moreNames, moreListed, moreSame, _⟩ := (grows.namesDirectory found).exists_list
    rw [archivePaths_of_list listed, List.mem_map] at member
    rw [archivePaths_of_list moreListed, List.mem_map]
    obtain ⟨name, archive, joined⟩ := member
    obtain ⟨entry, named⟩ := List.mem_filter.mp archive
    have kept : name ∈ moreNames := moreSame.mem_iff.mpr (grows.child (same.mem_iff.mp entry))
    exact ⟨name, List.mem_filter.mpr ⟨kept, named⟩, joined⟩
  · rw [archivePaths_of_missing (not_exists.mp found)] at member
    cases member

theorem mem_added_of_grows {priority : Priority} {path : Text} {shelved : ShelvedArchive}
    (member : shelved ∈ added files priority path) : shelved ∈ added more priority path := by
  rw [added, Option.mem_toList, loadFile_eq_some_iff] at member ⊢
  obtain ⟨content, archive, holds, described, same⟩ := member
  exact ⟨content, archive, grows.holds holds, described, same⟩

theorem readFiles_of_grows {paths : List Text} {contents : List (Text × Text)}
    (finished : readFiles files paths = .ok contents) : readFiles more paths = .ok contents := by
  induction paths generalizing contents with
  | nil => exact finished
  | cons path rest ih =>
      obtain ⟨content, later, holds, finishedLater, same⟩ := readFiles_cons_eq_ok_iff.mp finished
      exact readFiles_cons_eq_ok_iff.mpr
        ⟨content, later, grows.holds holds, ih finishedLater, same⟩

end Growth

namespace Library

variable {before after : Library}

theorem files_write (library : Library) (path : Text) (bytes : ByteArray) :
    (library.write path bytes).files = library.files.write (library.files.place path) bytes ∧
      (library.write path bytes).sources = library.sources := by
  simp only [write, update]
  split <;> exact ⟨rfl, rfl⟩

/-- A file is written where nothing was. -/
theorem grows_write {library : Library} {path : Text}
    (free : library.files.node? (library.files.place path) = none) (bytes : ByteArray) :
    library.Grows (library.write path bytes) := by
  obtain ⟨files, sources⟩ := library.files_write path bytes
  refine ⟨?_, ?_, ?_⟩
  · rw [files]
    exact FileSystem.grows_write free bytes
  · rw [sources]
    exact List.Subset.refl _
  · rw [sources]
    exact List.Subset.refl _

theorem mem_shelf_of_grows (grows : before.Grows after) {shelved : ShelvedArchive}
    (member : shelved ∈ before.reload.shelf) : shelved ∈ after.reload.shelf := by
  simp only [reload, load_eq, List.mem_cons, List.mem_append, List.mem_flatMap] at member ⊢
  rcases member with builtin | ⟨path, ⟨directory, source, listed⟩, loaded⟩ |
    ⟨path, source, loaded⟩
  · exact .inl builtin
  · exact .inr (.inl ⟨path, ⟨directory, grows.directories source,
      mem_archivePaths_of_grows grows.files listed⟩, mem_added_of_grows grows.files loaded⟩)
  · exact .inr (.inr ⟨path, grows.explicit source, mem_added_of_grows grows.files loaded⟩)

theorem names_of_grows (grows : before.Grows after) :
    ∀ name ∈ before.reload.catalogue.names, name ∈ after.reload.catalogue.names := by
  intro name member
  rw [Catalogue.mem_names_iff, catalogue_reload, Shelf.contains_catalogue_iff] at member ⊢
  obtain ⟨shelved, onShelf, lists⟩ := member
  exact ⟨shelved, mem_shelf_of_grows grows onShelf, lists⟩

theorem exit_of_grows (grows : before.Grows after) {paths : List Text} {format : Format}
    (passed : (CheckRequest.runWith before.files before.sources paths format).exit = 0) :
    (CheckRequest.runWith after.files after.sources paths format).exit = 0 := by
  cases read : readFiles before.files paths with
  | error path =>
      rw [CheckRequest.runWith_of_error before.sources read] at passed
      cases passed
  | ok contents =>
      rw [CheckRequest.exit_of_ok before.sources read, ite_eq_right_iff] at passed
      rw [CheckRequest.exit_of_ok after.sources (readFiles_of_grows grows.files read),
        ite_eq_right_iff]
      intro failed
      obtain ⟨finding, member, error⟩ := failed
      exact passed ⟨finding, mem_findingsOf_wider (names_of_grows grows) member, error⟩

theorem noWorse_of_grows (grows : before.Grows after) : before.NoWorse after where
  names := names_of_grows grows
  diagnostics extract document := by
    rw [checkDocument_wider (names_of_grows grows)]
    exact List.filter_sublist
  exit _ _ := exit_of_grows grows

/-- More archives take away the errors about the names that they add, and never make a
document worse. -/
theorem no_worse_with_more_archives (extract : Extractor) (document : Text)
    (narrow wide : Catalogue) (library : Library) (path : Text) (bytes : ByteArray) :
    ((∀ name ∈ narrow.names, name ∈ wide.names) →
      checkDocument extract wide document =
        (checkDocument extract narrow document).filter fun diagnostic =>
          ¬ ∃ name ∈ wide.names, diagnostic.IsUnknownPackage name) ∧
    ((∀ name, name ∈ narrow.names ↔ name ∈ wide.names) →
      checkDocument extract narrow document = checkDocument extract wide document) ∧
    (library.files.node? (library.files.place path) = none →
      library.NoWorse (library.write path bytes)) ∧
    library.NoWorse { library with
      sources := { library.sources with files := library.sources.files ++ [path] } } := by
  refine ⟨fun wider => checkDocument_wider wider extract document,
    fun same => checkDocument_congr same extract document,
    fun free => noWorse_of_grows (grows_write free bytes), noWorse_of_grows ?_⟩
  exact ⟨.refl _, List.Subset.refl _, List.subset_append_left _ _⟩

/-- A file is added to an empty archive directory, and a catalogue of one name is given
another version of it and a second name. -/
theorem no_worse_with_more_archives_second_name :
    let narrow := Catalogue.empty.insert ⟨"a".toList, none, none, []⟩
    let wide := (Catalogue.empty.insert ⟨"a".toList, some "1".toList, none, []⟩).insert
      ⟨"b".toList, none, none, []⟩
    let library := Library.new ⟨["/d".toList], []⟩ ⟨[(["d".toList], .directory)], []⟩
    (∀ name ∈ narrow.names, name ∈ wide.names) ∧
      (∀ document, checkDocument Metadata.extract wide document =
        (checkDocument Metadata.extract narrow document).filter fun diagnostic =>
          ¬ ∃ name ∈ wide.names, diagnostic.IsUnknownPackage name) ∧
      library.files.node? (library.files.place "/d/a.toml".toList) = none ∧
      library.NoWorse (library.write "/d/a.toml".toList .empty) := by
  intro narrow wide library
  have wider : ∀ name ∈ narrow.names, name ∈ wide.names := by decide
  have free : library.files.node? (library.files.place "/d/a.toml".toList) = none := by rfl
  refine ⟨wider, fun document => ?_, free, ?_⟩
  · exact (no_worse_with_more_archives Metadata.extract document narrow wide library [] .empty).1
      wider
  · exact (no_worse_with_more_archives Metadata.extract [] narrow wide library
      "/d/a.toml".toList .empty).2.2.1 free

end Library

end PackageRequires
