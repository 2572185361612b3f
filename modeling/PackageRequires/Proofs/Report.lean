import PackageRequires.Proofs.FileSystem
import PackageRequires.Proofs.Json
import PackageRequires.Proofs.Version.Canonical
import PackageRequires.Report

namespace PackageRequires

/-! # What the command-line checker leaves

The files of a command line are either all reported on, one after another, or
only the first one that cannot be read is named.
-/

variable {files : FileSystem} {catalogue : Catalogue} {paths : List Text}

theorem CheckerRegistry.run_standard (catalogue : Catalogue) (document : Text) :
    standard.run packageMode catalogue document =
      checkDocument Metadata.extract catalogue document := by
  have only : standard.checkers = [.forPackages Metadata.extract] := rfl
  have supported : (Checker.forPackages Metadata.extract).supports packageMode = true :=
    List.contains_iff_mem.mpr (List.mem_singleton_self packageMode)
  simp only [run, forMode, only, List.filter_cons, supported, if_true, List.filter_nil,
    List.flatMap_cons, List.flatMap_nil, List.append_nil]
  rfl

/-- The findings for files: those of each file in the order of its check, file by file. -/
inductive Reported (files : FileSystem) (catalogue : Catalogue) : List Text → List Finding → Prop
  | nil : Reported files catalogue [] []
  | cons {path content : Text} {paths : List Text} {findings : List Finding}
      (holds : files.Holds path content) (later : Reported files catalogue paths findings) :
      Reported files catalogue (path :: paths)
        ((checkDocument Metadata.extract catalogue content).map (Finding.mk path) ++ findings)

/-! ## Reading the files -/

theorem readFiles_error {path : Text} (failed : readFiles files paths = .error path) :
    ∃ before after, paths = before ++ path :: after ∧
      (∀ earlier ∈ before, ∃ content, files.Holds earlier content) ∧
      ∀ content, ¬ files.Holds path content := by
  induction paths with
  | nil => simp [readFiles] at failed
  | cons first rest ih =>
      cases found : files.read first with
      | error cause =>
          obtain rfl : first = path := by simpa [readFiles, found] using failed
          refine ⟨[], rest, rfl, by simp, ?_⟩
          intro content holds
          rw [FileSystem.read_eq_ok_iff.mpr holds] at found
          cases found
      | ok content =>
          cases later : readFiles files rest with
          | ok contents => simp [readFiles, found, later, Except.map] at failed
          | error other =>
              obtain rfl : other = path := by
                simpa [readFiles, found, later, Except.map] using failed
              obtain ⟨before, after, rfl, readable, unreadable⟩ := ih later
              refine ⟨first :: before, after, rfl, ?_, unreadable⟩
              intro earlier member
              rcases List.mem_cons.mp member with rfl | member
              · exact ⟨content, FileSystem.read_eq_ok_iff.mp found⟩
              · exact readable earlier member

theorem readFiles_cons_eq_ok_iff {first : Text} {rest : List Text}
    {contents : List (Text × Text)} :
    readFiles files (first :: rest) = .ok contents ↔
      ∃ content later, files.Holds first content ∧ readFiles files rest = .ok later ∧
        contents = (first, content) :: later := by
  simp only [← FileSystem.read_eq_ok_iff, readFiles]
  cases files.read first with
  | error cause => simp
  | ok content => cases readFiles files rest <;> simp [Except.map, eq_comm]

theorem readFiles_singleton {path text : Text} (holds : files.Holds path text) :
    readFiles files [path] = .ok [(path, text)] :=
  readFiles_cons_eq_ok_iff.mpr ⟨text, [], holds, rfl, rfl⟩

theorem holds_of_readFiles {contents : List (Text × Text)}
    (finished : readFiles files paths = .ok contents) :
    ∀ path ∈ paths, ∃ content, files.Holds path content := by
  induction paths generalizing contents with
  | nil => simp
  | cons first rest ih =>
      obtain ⟨content, later, holds, finishedLater, _⟩ := readFiles_cons_eq_ok_iff.mp finished
      intro path member
      rcases List.mem_cons.mp member with rfl | member
      · exact ⟨content, holds⟩
      · exact ih finishedLater path member

theorem reported_findingsOf (catalogue : Catalogue) {contents : List (Text × Text)}
    (finished : readFiles files paths = .ok contents) :
    Reported files catalogue paths (findingsOf catalogue contents) := by
  induction paths generalizing contents with
  | nil =>
      cases finished
      exact .nil
  | cons first rest ih =>
      obtain ⟨content, later, holds, finishedLater, rfl⟩ := readFiles_cons_eq_ok_iff.mp finished
      have reported := Reported.cons holds (ih finishedLater)
      rwa [← CheckerRegistry.run_standard] at reported

theorem readFiles_append {front back : List Text} {contents : List (Text × Text)}
    (finished : readFiles files (front ++ back) = .ok contents) :
    ∃ first second, readFiles files front = .ok first ∧ readFiles files back = .ok second ∧
      contents = first ++ second := by
  induction front generalizing contents with
  | nil => exact ⟨[], contents, rfl, finished, rfl⟩
  | cons path front ih =>
      obtain ⟨content, later, holds, finishedLater, rfl⟩ := readFiles_cons_eq_ok_iff.mp finished
      obtain ⟨first, second, ofFront, ofBack, rfl⟩ := ih finishedLater
      exact ⟨(path, content) :: first, second,
        readFiles_cons_eq_ok_iff.mpr ⟨content, first, holds, ofFront, rfl⟩, ofBack, rfl⟩

/-! ## The written findings -/

theorem isNumber_ofNat (value : Nat) : Json.IsNumber (Text.ofNat value) := by
  refine ⟨?_, ?_⟩
  · intro c member
    simp [Json.isNumberCharacter, Version.isDigit_of_mem_ofNat member]
  · obtain ⟨c, rest, digits⟩ := List.exists_cons_of_ne_nil (Version.ofNat_ne_nil value)
    have member : c ∈ Text.ofNat value := by simp [digits]
    exact ⟨c, member, Version.isDigit_of_mem_ofNat member⟩

theorem sound_findings (findings : List Finding) :
    Json.Sound (.array (findings.map Finding.toJson)) := by
  rw [Json.Sound]
  induction findings with
  | nil => trivial
  | cons finding findings ih =>
      refine ⟨?_, ih⟩
      simp [Finding.toJson, Json.Sound, Json.SoundFields, Json.ofNat, isNumber_ofNat]

namespace CheckRequest

theorem runWith_of_error (sources : Sources) {path : Text}
    (failed : readFiles files paths = .error path) (format : Format) :
    runWith files sources paths format =
      ⟨1, [], some ("Error: Failed to read ".toList ++ path)⟩ := by
  simp [runWith, failed]

theorem runWith_of_ok (sources : Sources) {contents : List (Text × Text)}
    (finished : readFiles files paths = .ok contents) (format : Format) :
    runWith files sources paths format =
      let findings := findingsOf (Shelf.load files sources).catalogue contents
      ⟨if findings.any fun finding => finding.diagnostic.isError then 1 else 0,
        format.render findings, none⟩ := by
  simp [runWith, finished]

theorem output_append (sources : Sources) {front back : List Text} {contents : List (Text × Text)}
    (finished : readFiles files (front ++ back) = .ok contents) :
    (runWith files sources (front ++ back) .text).output =
      (runWith files sources front .text).output ++
        (runWith files sources back .text).output := by
  obtain ⟨first, second, ofFront, ofBack, rfl⟩ := readFiles_append finished
  simp only [runWith_of_ok sources finished, runWith_of_ok sources ofFront,
    runWith_of_ok sources ofBack, findingsOf, Format.render, List.flatMap_append]

theorem exit_of_ok (sources : Sources) {contents : List (Text × Text)}
    (finished : readFiles files paths = .ok contents) (format : Format) :
    (runWith files sources paths format).exit =
      if ∃ finding ∈ findingsOf (Shelf.load files sources).catalogue contents,
        finding.diagnostic.severity = .error then 1 else 0 := by
  simp only [runWith_of_ok sources finished, List.any_eq_true, Diagnostic.isError, beq_iff_eq]

end CheckRequest

end PackageRequires
