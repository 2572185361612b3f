import PackageRequires.Metadata
import PackageRequires.Proofs.Metadata.Line

namespace PackageRequires

/-! # Extracting metadata

What is extracted from a document, told by its lines: the first file header, the
first terminating comment behind it, and the first field of each key between
them and before the code.
-/

/-- `line` is the first of the lines that satisfy `holds`, between those before
it and those after it. -/
structure IsFirst (holds : Text → Prop) (lines before : List Text) (line : Text)
    (after : List Text) : Prop where
  split : lines = before ++ line :: after
  here : holds line
  none : ∀ earlier ∈ before, ¬ holds earlier

/-- `region` holds the lines up to the first one that satisfies `stops`. -/
def IsUpTo (stops : Text → Prop) (lines region : List Text) : Prop :=
  (∀ line ∈ region, ¬ stops line) ∧
    ∃ rest, lines = region ++ rest ∧ ∀ line ∈ rest.head?, stops line

theorem not_isFirst_nil {holds : Text → Prop} {line : Text} {before after : List Text} :
    ¬ IsFirst holds [] before line after := by
  intro ⟨split, _, _⟩
  simp at split

theorem isFirst_cons {holds : Text → Prop} {head line : Text} {lines before after : List Text} :
    IsFirst holds (head :: lines) before line after ↔
      (holds head ∧ before = [] ∧ line = head ∧ after = lines) ∨
        ¬ holds head ∧ ∃ inner, before = head :: inner ∧ IsFirst holds lines inner line after := by
  constructor
  · rintro ⟨split, here, none⟩
    cases before with
    | nil =>
        cases split
        exact .inl ⟨here, rfl, rfl, rfl⟩
    | cons first inner =>
        cases split
        exact .inr ⟨none _ List.mem_cons_self, inner, rfl, rfl, here,
          fun earlier member => none earlier (List.mem_cons_of_mem _ member)⟩
  · rintro (⟨here, rfl, rfl, rfl⟩ | ⟨different, inner, rfl, split, here, none⟩)
    · exact ⟨rfl, here, by simp⟩
    · exact ⟨by rw [split]; rfl, here, List.forall_mem_cons.mpr ⟨different, none⟩⟩

/-! ## The file header and the terminating comment -/

namespace FileHeader

/-- A line is the file header of some file. -/
def OnLine (line : Text) : Prop := ∃ name, Matches line name

theorem onLine_of_ofLine? {line : Text} {header : FileHeader} (found : ofLine? line = some header) :
    OnLine line := ⟨header.name, exists_ofLine?_iff.mp ⟨header, found, rfl⟩⟩

theorem not_onLine_iff {line : Text} : ¬ OnLine line ↔ ofLine? line = none := by
  rw [ofLine?_eq_none_iff, OnLine, not_exists]

theorem among?_eq_some_iff {lines later : List Text} {line : Text} {header : FileHeader} :
    among? lines = some (header, line, later) ↔
      ofLine? line = some header ∧ ∃ before, IsFirst OnLine lines before line later := by
  induction lines with
  | nil => simp [among?, not_isFirst_nil]
  | cons head lines ih =>
      simp only [isFirst_cons, among?]
      cases found : ofLine? head with
      | some here =>
          simp only [onLine_of_ofLine? found, not_true, false_and, or_false, true_and,
            Option.some.injEq, Prod.mk.injEq, exists_eq_left]
          constructor
          · rintro ⟨rfl, rfl, rfl⟩
            exact ⟨found, rfl, rfl⟩
          · rintro ⟨read, rfl, rfl⟩
            exact ⟨Option.some.inj (found.symm.trans read), rfl, rfl⟩
      | none =>
          have different := not_onLine_iff.mpr found
          simp only [ih, different, not_false_eq_true, false_and, false_or, true_and]
          exact and_congr_right fun _ =>
            ⟨fun ⟨before, first⟩ => ⟨head :: before, before, rfl, first⟩,
              fun ⟨_, before, _, first⟩ => ⟨before, first⟩⟩

theorem among?_eq_none_iff {lines : List Text} :
    among? lines = none ↔ ∀ line ∈ lines, ¬ OnLine line := by
  induction lines with
  | nil => simp [among?]
  | cons head lines ih =>
      rw [List.forall_mem_cons, ← ih, not_onLine_iff]
      cases found : ofLine? head <;> simp [among?, found]

end FileHeader

namespace Metadata

theorem contains_iff_isInfix {mark line : Text} :
    Text.contains mark line = true ↔ mark <:+: line := by
  rw [Text.contains_iff, List.IsInfix]
  simp only [eq_comm]

theorem through?_eq_some_iff {mark : Text} {lines body : List Text} :
    through? mark lines = some body ↔
      ∃ inner last rest, IsFirst (mark <:+: ·) lines inner last rest ∧ body = inner ++ [last] := by
  induction lines generalizing body with
  | nil => simp [through?, not_isFirst_nil]
  | cons head lines ih =>
      simp only [isFirst_cons, through?, contains_iff_isInfix]
      by_cases here : mark <:+: head
      · simp [here, eq_comm]
      · simp only [here, if_false, Option.map_eq_some_iff, ih, false_and, false_or,
          not_false_eq_true, true_and]
        constructor
        · rintro ⟨_, ⟨inner, last, rest, first, rfl⟩, rfl⟩
          exact ⟨head :: inner, last, rest, ⟨inner, rfl, first⟩, rfl⟩
        · rintro ⟨_, last, rest, ⟨inner, rfl, first⟩, rfl⟩
          exact ⟨_, ⟨inner, last, rest, first, rfl⟩, rfl⟩

theorem through?_eq_none_iff {mark : Text} {lines : List Text} :
    through? mark lines = none ↔ ∀ line ∈ lines, ¬ mark <:+: line := by
  induction lines with
  | nil => simp [through?]
  | cons head lines ih =>
      rw [List.forall_mem_cons, ← ih, through?, ← contains_iff_isInfix]
      by_cases here : Text.contains mark head = true <;> simp [here]

/-! ## Fields and what they give -/

/-- A line is a field with a key in lower case, however it is spelled there. -/
def HasField (key line value : Text) : Prop :=
  ∃ name, Field.Matches line name value ∧ name.map Char.toLower = key

/-- The first field with a key among the lines has a value. -/
def FirstField (lines : List Text) (key value : Text) : Prop :=
  ∃ before line after,
    IsFirst (fun line => ∃ value, HasField key line value) lines before line after ∧
      HasField key line value

theorem firstField_cons {head key value : Text} {lines : List Text} :
    FirstField (head :: lines) key value ↔ HasField key head value ∨
      (∀ other, ¬ HasField key head other) ∧ FirstField lines key value := by
  simp only [FirstField, isFirst_cons, ← not_exists]
  constructor
  · rintro ⟨_, _, _, ⟨_, rfl, rfl, rfl⟩ | ⟨none, inner, rfl, first⟩, has⟩
    · exact .inl has
    · exact .inr ⟨none, inner, _, _, first, has⟩
  · rintro (has | ⟨none, inner, line, after, first, has⟩)
    · exact ⟨[], head, lines, .inl ⟨⟨value, has⟩, rfl, rfl, rfl⟩, has⟩
    · exact ⟨head :: inner, line, after, .inr ⟨none, inner, rfl, first⟩, has⟩

theorem value?_eq_some_iff {key value : Text} {lines : List Text} :
    Field.value? key (lines.filterMap Field.ofLine?) = some value ↔ FirstField lines key value := by
  have has {line value : Text} : HasField key line value ↔ Field.ofLine? line = some ⟨key, value⟩ :=
    Field.ofLine?_eq_some_iff.symm
  induction lines with
  | nil => simp [Field.value?, FirstField, not_isFirst_nil]
  | cons head lines ih =>
      simp only [firstField_cons, ← ih, has]
      cases read : Field.ofLine? head with
      | none => simp [read]
      | some field =>
          obtain ⟨name, found⟩ := field
          rw [List.filterMap_cons_some read]
          by_cases same : name = key <;> simp [Field.value?, same]

theorem takeWhile_eq_iff_isUpTo {lines region : List Text} :
    (lines.takeWhile fun line => !Field.beginsCode line) = region ↔
      IsUpTo Field.BeginsCode lines region := by
  simp only [takeWhile_eq_iff, IsUpTo, Bool.not_eq_true', Bool.eq_false_iff, ne_eq,
    Field.beginsCode_iff, not_not]

/-- A field's value without a wrapping `$Revision: ... $`, nor blanks around either. -/
inductive Unwraps (value : Text) : (text : Text) → Prop
  | wrapped {inner dollars text : Text}
      (outer : Text.Trimmed Text.isBlank value ("$Revision:".toList ++ inner ++ dollars))
      (signs : ∀ c ∈ dollars, c = '$') (last : inner.getLast? ≠ some '$')
      (trimmed : Text.Trimmed Text.isBlank inner text) : Unwraps value text
  | plain {text : Text} (trimmed : Text.Trimmed Text.isBlank value text)
      (bare : ¬ "$Revision:".toList <+: text) : Unwraps value text

theorem revision_eq_iff {value text : Text} : revision value = text ↔ Unwraps value text := by
  have dollar {inner rest : Text} : rest.dropEndWhile (· == '$') = inner ↔
      inner.getLast? ≠ some '$' ∧ ∃ dollars, rest = inner ++ dollars ∧ ∀ c ∈ dollars, c = '$' := by
    rw [Text.dropEndWhile_eq_iff]
    simp only [beq_iff_eq, beq_eq_false_iff_ne, ne_eq, Option.mem_def]
    refine and_congr_left fun _ => ⟨fun none last => none _ last rfl, ?_⟩
    rintro none _ last rfl
    exact none last
  have trim {text inner : Text} : text.trim = inner ↔ Text.Trimmed Text.isBlank text inner :=
    Text.trimWhile_eq_iff
  constructor
  · intro equal
    rw [revision] at equal
    split at equal
    · rename_i rest starts
      obtain ⟨last, dollars, split, signs⟩ := dollar.mp rfl
      refine .wrapped (trim.mp ?_) signs last (trim.mp equal)
      rw [Text.dropFront?_eq_some_iff.mp starts, List.append_assoc, ← split]
    · rename_i starts
      refine .plain (trim.mp equal) ?_
      rintro ⟨rest, split⟩
      rw [equal, Text.dropFront?_eq_some_iff.mpr split.symm] at starts
      cases starts
  · intro unwraps
    cases unwraps with
    | @wrapped inner dollars _ outer signs last trimmed =>
        have starts : Text.dropFront? "$Revision:".toList value.trim = some (inner ++ dollars) :=
          Text.dropFront?_eq_some_iff.mpr ((trim.mpr outer).trans (List.append_assoc _ _ _))
        simp only [revision, starts]
        rw [dollar.mpr ⟨last, dollars, rfl, signs⟩, trim.mpr trimmed]
    | plain trimmed bare =>
        have starts : Text.dropFront? "$Revision:".toList value.trim = none := by
          rw [Option.eq_none_iff_forall_ne_some, trim.mpr trimmed]
          intro rest found
          exact bare ⟨rest, (Text.dropFront?_eq_some_iff.mp found).symm⟩
        simp only [revision, starts]
        exact trim.mpr trimmed

/-- The first field with a key gives a version. -/
def GivesVersion (lines : List Text) (key : Text) (version : Version) : Prop :=
  ∃ value text, FirstField lines key value ∧ Unwraps value text ∧ Version.parse text = .ok version

theorem version?_eq_some_iff {key : Text} {version : Version} {lines : List Text} :
    version? key (lines.filterMap Field.ofLine?) = some version ↔
      GivesVersion lines key version := by
  simp only [GivesVersion, ← value?_eq_some_iff, ← revision_eq_iff, version?]
  cases Field.value? key (lines.filterMap Field.ofLine?) with
  | none => simp
  | some value =>
      cases parsed : Version.parse (revision value) <;> simp [parsed, Except.toOption]

theorem version?_eq_none_iff {key : Text} {lines : List Text} :
    version? key (lines.filterMap Field.ofLine?) = none ↔
      ∀ version, ¬ GivesVersion lines key version := by
  simp only [Option.eq_none_iff_forall_ne_some, ne_eq, version?_eq_some_iff]

/-- The version that the fields give: that of the package, or else the other one. -/
def HasVersion (lines : List Text) (version : Version) : Prop :=
  GivesVersion lines "package-version".toList version ∨
    (∀ other, ¬ GivesVersion lines "package-version".toList other) ∧
      GivesVersion lines "version".toList version

/-- No field gives a version. -/
def LacksVersion (lines : List Text) : Prop :=
  ∀ version, ¬ GivesVersion lines "package-version".toList version ∧
    ¬ GivesVersion lines "version".toList version

/-- The keywords that the fields give: the parts between spaces and commas, less
the empty ones. -/
def HasKeywords (lines keywords : List Text) : Prop :=
  (∃ value, FirstField lines "keywords".toList value ∧
    keywords = (value.splitOnP fun c => c == ' ' || c == ',').filter (· ≠ [])) ∨
  (∀ value, ¬ FirstField lines "keywords".toList value) ∧ keywords = []

theorem keywords_eq_iff {lines keywords : List Text} :
    ((Field.value? "keywords".toList (lines.filterMap Field.ofLine?)).map keywordsOf).getD [] =
      keywords ↔ HasKeywords lines keywords := by
  simp only [HasKeywords, ← value?_eq_some_iff]
  cases Field.value? "keywords".toList (lines.filterMap Field.ofLine?) with
  | none => simp [eq_comm]
  | some value => simp [keywordsOf, Text.words_eq_splitOnP, eq_comm]

section OfFields

variable {header : FileHeader} {lines : List Text}

theorem ofFields_eq_ok_iff {metadata : Metadata} :
    ofFields header (lines.filterMap Field.ofLine?) = .ok metadata ↔
      metadata.name = header.name ∧ metadata.summary = header.summary ∧
        HasVersion lines metadata.version ∧
        (∀ value, metadata.requires = some value ↔
          FirstField lines "package-requires".toList value) ∧
        HasKeywords lines metadata.keywords := by
  have given : HasVersion lines metadata.version ↔
      (version? "package-version".toList (lines.filterMap Field.ofLine?)).or
        (version? "version".toList (lines.filterMap Field.ofLine?)) = some metadata.version := by
    rw [Option.or_eq_some_iff, version?_eq_some_iff, version?_eq_none_iff, version?_eq_some_iff]
    rfl
  obtain ⟨name, summary, version, requires, keywords⟩ := metadata
  simp only [given, ← value?_eq_some_iff, ← keywords_eq_iff, ← Option.ext_iff, ofFields]
  cases (version? "package-version".toList (lines.filterMap Field.ofLine?)).or
      (version? "version".toList (lines.filterMap Field.ofLine?)) with
  | none => simp
  | some found => simp [eq_comm]

theorem ofFields_eq_error_iff {error : MetadataError} :
    ofFields header (lines.filterMap Field.ofLine?) = .error error ↔
      error = .missingVersion ∧ LacksVersion lines := by
  simp only [LacksVersion, forall_and, ← version?_eq_none_iff, ← Option.or_eq_none_iff, ofFields]
  cases (version? "package-version".toList (lines.filterMap Field.ofLine?)).or
      (version? "version".toList (lines.filterMap Field.ofLine?)) <;> simp [eq_comm]

end OfFields

/-! ## The whole document -/

/-- A line holds the terminating comment of a file. -/
def Terminates (name line : Text) : Prop :=
  (";;; ".toList ++ name ++ ".el ends here".toList) <:+: line

/-- The first file header of a document stands on `line` and names the file;
the lines `later` follow. -/
structure Heads (document line name : Text) (later : List Text) : Prop where
  first : ∃ before, IsFirst FileHeader.OnLine document.lines before line later
  named : FileHeader.Matches line name

/-- The lines from the file header on `line` through the first terminating
comment, up to the code. -/
def Region (document line name : Text) (region : List Text) : Prop :=
  ∃ later inner last rest, Heads document line name later ∧
    IsFirst (Terminates name) later inner last rest ∧
    IsUpTo Field.BeginsCode (line :: (inner ++ [last])) region

/-- What a document gives, by its lines. -/
inductive Extracts (document : Text) : Except MetadataError Metadata → Prop
  | missingFileHeader (absent : ∀ line ∈ document.lines, ∀ name, ¬ FileHeader.Matches line name) :
      Extracts document (.error .missingFileHeader)
  | missingTerminator {line name : Text} {later : List Text} (heads : Heads document line name later)
      (absent : ∀ last ∈ later, ¬ Terminates name last) :
      Extracts document (.error (.missingTerminator name))
  | missingVersion {line name : Text} {region : List Text} (block : Region document line name region)
      (absent : LacksVersion region) : Extracts document (.error .missingVersion)
  | complete {line : Text} {region : List Text} {metadata : Metadata}
      (block : Region document line metadata.name region)
      (summary : (FileHeader.ofLine? line).map FileHeader.summary = some metadata.summary)
      (version : HasVersion region metadata.version)
      (requires : ∀ value, metadata.requires = some value ↔
        FirstField region "package-requires".toList value)
      (keywords : HasKeywords region metadata.keywords) : Extracts document (.ok metadata)

theorem among?_eq_some_iff_heads {document line name : Text} {later : List Text} :
    (∃ header, FileHeader.among? document.lines = some (header, line, later) ∧
      header.name = name) ↔ Heads document line name later := by
  simp only [FileHeader.among?_eq_some_iff]
  constructor
  · rintro ⟨header, ⟨read, first⟩, rfl⟩
    exact ⟨first, FileHeader.exists_ofLine?_iff.mp ⟨header, read, rfl⟩⟩
  · rintro ⟨first, named⟩
    obtain ⟨header, read, same⟩ := FileHeader.exists_ofLine?_iff.mpr named
    exact ⟨header, ⟨read, first⟩, same⟩

theorem block_of_region {document line name : Text} {region : List Text}
    (inside : Region document line name region) :
    ∃ header lines, block document = .ok (header, lines) ∧ header.name = name ∧
      FileHeader.ofLine? line = some header ∧
      Field.ofLines lines = region.filterMap Field.ofLine? := by
  obtain ⟨later, inner, last, rest, heads, first, upTo⟩ := inside
  obtain ⟨header, found, rfl⟩ := among?_eq_some_iff_heads.mpr heads
  have ends : through? header.terminator later = some (inner ++ [last]) :=
    through?_eq_some_iff.mpr ⟨inner, last, rest, first, rfl⟩
  refine ⟨header, line :: (inner ++ [last]), ?_, rfl, (FileHeader.among?_eq_some_iff.mp found).1, ?_⟩
  · simp only [block, found, ends]
  · rw [Field.ofLines, takeWhile_eq_iff_isUpTo.mpr upTo]

theorem extracts_extract (document : Text) : Extracts document (extract document) := by
  rw [extract, block]
  cases found : FileHeader.among? document.lines with
  | none =>
      exact .missingFileHeader fun line member name matched =>
        FileHeader.among?_eq_none_iff.mp found line member ⟨name, matched⟩
  | some place =>
      obtain ⟨header, line, later⟩ := place
      have heads := among?_eq_some_iff_heads.mp ⟨header, found, rfl⟩
      simp only
      cases ends : through? header.terminator later with
      | none => exact .missingTerminator heads (through?_eq_none_iff.mp ends)
      | some body =>
          obtain ⟨inner, last, rest, first, rfl⟩ := through?_eq_some_iff.mp ends
          have inside : Region document line header.name _ :=
            ⟨later, inner, last, rest, heads, first, takeWhile_eq_iff_isUpTo.mp rfl⟩
          simp only
          rw [Field.ofLines]
          cases read : ofFields header _ with
          | error error =>
              obtain ⟨rfl, absent⟩ := ofFields_eq_error_iff.mp read
              exact .missingVersion inside absent
          | ok metadata =>
              obtain ⟨name, summary, version, requires, keywords⟩ := ofFields_eq_ok_iff.mp read
              have onLine := (FileHeader.among?_eq_some_iff.mp found).1
              exact .complete (name ▸ inside) (by rw [onLine, summary]; rfl) version requires keywords

/-- Extraction gives what the lines of a document say, and nothing else. -/
theorem extract_iff (document : Text) (result : Except MetadataError Metadata) :
    extract document = result ↔ Extracts document result := by
  constructor
  · rintro rfl
    exact extracts_extract document
  · intro extracts
    cases extracts with
    | missingFileHeader absent =>
        have found : FileHeader.among? document.lines = none :=
          FileHeader.among?_eq_none_iff.mpr fun line member ⟨name, matched⟩ =>
            absent line member name matched
        simp only [extract, block, found]
    | @missingTerminator line name later heads absent =>
        obtain ⟨header, found, rfl⟩ := among?_eq_some_iff_heads.mpr heads
        have ends : through? header.terminator later = none := through?_eq_none_iff.mpr absent
        simp only [extract, block, found, ends]
    | missingVersion inside absent =>
        obtain ⟨header, lines, cut, _, _, fields⟩ := block_of_region inside
        simp only [extract, cut, fields]
        exact ofFields_eq_error_iff.mpr ⟨rfl, absent⟩
    | complete inside summary version requires keywords =>
        obtain ⟨header, lines, cut, named, onLine, fields⟩ := block_of_region inside
        rw [onLine] at summary
        simp only [extract, cut, fields]
        exact ofFields_eq_ok_iff.mpr
          ⟨named.symm, (Option.some.inj summary).symm, version, requires, keywords⟩

end Metadata

end PackageRequires
