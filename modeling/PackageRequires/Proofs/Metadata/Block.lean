import Mathlib.Logic.Relation
import PackageRequires.Proofs.Header.Locating
import PackageRequires.Proofs.Metadata

namespace PackageRequires.Metadata

/-! # The header block

A document's metadata are read from the lines between its file header and the
code, or the terminating comment if no code comes before that.  Lines may be
put in and taken out before the file header, behind the terminating comment, and
between the code's first line and the terminating comment, whatever they look
like, as long as they are not themselves taken for the file header or for the
terminating comment (`extract_of_edits`).  Inside the block, the requirements are
those of the Package-Requires line (`requires_of_header`).
-/

/-- The lines of a document in five parts. -/
structure Parts where
  before : List Text
  header : Text
  inner : List Text
  last : Text
  after : List Text

namespace Parts

variable {parts edited : Parts} {document name : Text}

def lines (parts : Parts) : List Text :=
  parts.before ++ parts.header :: (parts.inner ++ parts.last :: parts.after)

/-- The lines that hold fields. -/
def fieldLines (parts : Parts) : List Text :=
  (parts.header :: (parts.inner ++ [parts.last])).takeWhile fun line => !Field.beginsCode line

/-- The first file header stands on `header` and names the file, and the first
terminating comment behind it stands on `last`. -/
structure Frame (parts : Parts) (name : Text) : Prop where
  named : FileHeader.Matches parts.header name
  first : ∀ line ∈ parts.before, ¬ FileHeader.OnLine line
  ends : Terminates name parts.last
  inside : ∀ line ∈ parts.inner, ¬ Terminates name line

instance : DecidablePred FileHeader.OnLine := fun line =>
  decidable_of_iff (FileHeader.ofLine? line ≠ none)
    (not_congr FileHeader.not_onLine_iff.symm |>.trans not_not)

instance : DecidablePred Field.BeginsCode := fun line =>
  decidable_of_iff (Field.beginsCode line = true) Field.beginsCode_iff

instance (name : Text) : DecidablePred (Terminates name) := fun line =>
  decidable_of_iff (Text.contains _ line = true) contains_iff_isInfix

/-- Lines `old` make way for lines `new`, either of which may be none. -/
inductive Edit (name : Text) : (parts edited : Parts) → Prop
  | beforeHeader {parts : Parts} {front old new behind : List Text}
      (split : parts.before = front ++ old ++ behind)
      (other : ∀ line ∈ new, ¬ FileHeader.OnLine line) :
      Edit name parts { parts with before := front ++ new ++ behind }
  | behindCode {parts : Parts} {front old new behind : List Text}
      (split : parts.inner = front ++ old ++ behind)
      (code : ∃ line ∈ parts.header :: front, Field.BeginsCode line)
      (other : ∀ line ∈ new, ¬ Terminates name line) :
      Edit name parts { parts with inner := front ++ new ++ behind }
  | behindLast {parts : Parts} {front old new behind : List Text}
      (split : parts.after = front ++ old ++ behind) :
      Edit name parts { parts with after := front ++ new ++ behind }

theorem forall_mem_replace {holds : Text → Prop} {front old new behind : List Text}
    (all : ∀ line ∈ front ++ old ++ behind, holds line) (more : ∀ line ∈ new, holds line) :
    ∀ line ∈ front ++ new ++ behind, holds line := by
  simp only [List.mem_append] at all ⊢
  intro line member
  rcases member with (inFront | inNew) | inBehind
  · exact all line (.inl (.inl inFront))
  · exact more line inNew
  · exact all line (.inr inBehind)

theorem Edit.frame (edit : Edit name parts edited) (frame : parts.Frame name) :
    edited.Frame name := by
  obtain ⟨named, first, ends, inside⟩ := frame
  cases edit with
  | beforeHeader split other =>
      exact ⟨named, forall_mem_replace (split ▸ first) other, ends, inside⟩
  | behindCode split _ other =>
      exact ⟨named, first, ends, forall_mem_replace (split ▸ inside) other⟩
  | behindLast split => exact ⟨named, first, ends, inside⟩

/-- What stands behind the code's first line does not count. -/
theorem takeWhile_before_code {front : List Text} (code : ∃ line ∈ front, Field.BeginsCode line)
    (behind : List Text) :
    (front ++ behind).takeWhile (fun line => !Field.beginsCode line) =
      front.takeWhile fun line => !Field.beginsCode line := by
  obtain ⟨line, member, begins⟩ := code
  rw [List.takeWhile_append, if_neg]
  intro all
  have kept := (List.takeWhile_prefix _).eq_of_length all
  have clear := List.mem_takeWhile_imp (kept.symm ▸ member)
  simp [Field.beginsCode_iff.mpr begins] at clear

theorem Edit.header_eq (edit : Edit name parts edited) : edited.header = parts.header := by
  cases edit <;> rfl

theorem Edit.fieldLines_eq (edit : Edit name parts edited) :
    edited.fieldLines = parts.fieldLines := by
  cases edit with
  | beforeHeader split other => rfl
  | @behindCode front old new behind split code other =>
      have kept (middle : List Text) :
          (parts.header :: (front ++ middle ++ behind ++ [parts.last])).takeWhile
              (fun line => !Field.beginsCode line) =
            (parts.header :: front).takeWhile fun line => !Field.beginsCode line := by
        rw [← takeWhile_before_code code (middle ++ behind ++ [parts.last])]
        simp only [List.append_assoc, List.cons_append]
      simp only [fieldLines, split, kept]
  | behindLast split => rfl

theorem Frame.region (frame : parts.Frame name) (whole : document.lines = parts.lines) :
    Region document parts.header name parts.fieldLines := by
  refine ⟨parts.inner ++ parts.last :: parts.after, parts.inner, parts.last, parts.after, ?_, ?_,
    takeWhile_eq_iff_isUpTo.mp rfl⟩
  · exact ⟨⟨parts.before, whole, ⟨name, frame.named⟩, frame.first⟩, frame.named⟩
  · exact ⟨rfl, frame.ends, frame.inside⟩

/-- What every sequence of edits keeps. -/
theorem keeps_of_edits (edits : Relation.ReflTransGen (Edit name) parts edited)
    (frame : parts.Frame name) :
    edited.Frame name ∧ edited.header = parts.header ∧ edited.fieldLines = parts.fieldLines := by
  induction edits with
  | refl => exact ⟨frame, rfl, rfl⟩
  | tail _ edit ih =>
      obtain ⟨kept, header, fields⟩ := ih
      exact ⟨edit.frame kept, edit.header_eq.trans header, edit.fieldLines_eq.trans fields⟩

end Parts

/-- The header line and the lines with fields decide what is extracted. -/
theorem extract_of_region {document line name : Text} {region : List Text}
    (inside : Region document line name region) :
    ∃ header, FileHeader.ofLine? line = some header ∧
      extract document = ofFields header (region.filterMap Field.ofLine?) := by
  obtain ⟨header, lines, cut, -, onLine, fields⟩ := block_of_region inside
  exact ⟨header, onLine, by simp only [extract, cut, fields]⟩

/-! ## Edits outside the block -/

theorem exists_parts_of_block {document : Text} {header : FileHeader} {lines : List Text}
    (found : block document = .ok (header, lines)) :
    ∃ parts : Parts, document.lines = parts.lines ∧ parts.Frame header.name := by
  rw [block] at found
  cases located : FileHeader.among? document.lines with
  | none => simp [located] at found
  | some place =>
      obtain ⟨first, line, later⟩ := place
      cases ends : through? first.terminator later with
      | none => simp [located, ends] at found
      | some body =>
          simp only [located, ends, Except.ok.injEq, Prod.mk.injEq] at found
          obtain ⟨rfl, -⟩ := found
          obtain ⟨read, before, headed⟩ := FileHeader.among?_eq_some_iff.mp located
          obtain ⟨inner, last, after, ended, -⟩ := through?_eq_some_iff.mp ends
          refine ⟨⟨before, line, inner, last, after⟩, ?_, ?_⟩
          · rw [headed.split, ended.split]
            rfl
          · exact ⟨FileHeader.exists_ofLine?_iff.mp ⟨first, read, rfl⟩, headed.none, ended.here,
              ended.none⟩

/-- Edits outside the header block change nothing about the metadata, be they
extracted or refused. -/
theorem extract_of_edits {document : Text} {header : FileHeader} {lines : List Text}
    (found : block document = .ok (header, lines)) :
    (∃ parts : Parts, document.lines = parts.lines ∧ parts.Frame header.name) ∧
    ∀ (parts parts' : Parts) (edited : Text), document.lines = parts.lines →
      parts.Frame header.name → Relation.ReflTransGen (Parts.Edit header.name) parts parts' →
      edited.lines = parts'.lines → extract edited = extract document := by
  refine ⟨exists_parts_of_block found, ?_⟩
  intro parts parts' edited whole frame edits whole'
  obtain ⟨frame', same, fields⟩ := Parts.keeps_of_edits edits frame
  obtain ⟨read, onLine, extracted⟩ := extract_of_region (frame.region whole)
  obtain ⟨read', onLine', extracted'⟩ := extract_of_region (frame'.region whole')
  rw [same, onLine] at onLine'
  rw [extracted, extracted', fields, Option.some.inj onLine']

/-- Versions before the file header and behind the code, and a second file header
behind the terminating comment. -/
theorem extract_of_edits_elsewhere :
    let document : Text := [";; Note".toList, ";;; x.el ---".toList, ";; Version: 1".toList,
      ";;; Code:".toList, "(x)".toList, ";;; x.el ends here".toList].flatMap (· ++ ['\n'])
    let edited : Text := [";; Version: 9".toList, ";;; x.el ---".toList, ";; Version: 1".toList,
      ";;; Code:".toList, ";; Package-Version: 2".toList, ";;; x.el ends here".toList,
      ";;; y.el ---".toList].flatMap (· ++ ['\n'])
    (∃ header lines, block document = .ok (header, lines)) ∧ extract edited = extract document := by
  intro document edited
  let fields := [";; Version: 1".toList, ";;; Code:".toList]
  let parts : Parts := ⟨[";; Note".toList], ";;; x.el ---".toList, fields ++ ["(x)".toList],
    ";;; x.el ends here".toList, []⟩
  let above : Parts := { parts with before := [";; Version: 9".toList] }
  let below : Parts := { above with inner := fields ++ [";; Package-Version: 2".toList] }
  have frame : parts.Frame ['x'] := ⟨⟨by decide, [], rfl⟩, by decide, by decide, by decide⟩
  have first : Parts.Edit ['x'] parts above :=
    @Parts.Edit.beforeHeader _ parts [] [";; Note".toList] [";; Version: 9".toList] [] rfl
      (by decide)
  have second : Parts.Edit ['x'] above below :=
    @Parts.Edit.behindCode _ above fields ["(x)".toList] [";; Package-Version: 2".toList] [] rfl
      (by decide) (by decide)
  have third := @Parts.Edit.behindLast ['x'] below [] [] [";;; y.el ---".toList] [] rfl
  have whole : document.lines = parts.lines := Text.lines_flatMap_newline (by decide)
  obtain ⟨header, lines, found, named, -⟩ := block_of_region (frame.region whole)
  obtain ⟨-, kept⟩ := extract_of_edits found
  rw [named] at kept
  exact ⟨⟨header, lines, found⟩, kept parts _ edited whole frame
    (.tail (.tail (.single first) second) third) (Text.lines_flatMap_newline (by decide))⟩

/-! ## The requirements in the block -/

theorem not_beginsCode_of_space {line : Text} (spaced : ";; ".toList <+: line) :
    ¬ Field.BeginsCode line := by
  intro ⟨blanks, word, rest, whole, _⟩
  obtain ⟨behind, rfl⟩ := spaced
  simp at whole

theorem takeWhile_through_line {earlier : List Text} {line : Text}
    (beforeCode : ∀ other ∈ earlier, ¬ Field.BeginsCode other) (here : ¬ Field.BeginsCode line)
    (behind : List Text) :
    (earlier ++ line :: behind).takeWhile (fun line => !Field.beginsCode line) =
      earlier ++ line :: behind.takeWhile fun line => !Field.beginsCode line := by
  have clear {other : Text} (absent : ¬ Field.BeginsCode other) :
      (!Field.beginsCode other) = true := by
    rw [Bool.not_eq_true', Bool.eq_false_iff]
    exact fun begins => absent (Field.beginsCode_iff.mp begins)
  rw [List.takeWhile_append_of_pos fun other member => clear (beforeCode other member)]
  congr 1
  exact List.takeWhile_cons_of_pos (clear here)

/-- A line of the header's form is a field as well if a space follows its semicolons. -/
theorem hasField_of_hasForm {line rest value : Text} (form : Header.HasForm line rest)
    (spaced : ";; ".toList <+: line) (trimmed : Text.Trimmed Text.isSpaceOrTab rest value) :
    HasField "package-requires".toList line value := by
  obtain ⟨first, second, rfl⟩ := form
  have space {count : Nat} {c : Char} (member : c ∈ List.replicate count ' ') :
      Text.isSpaceOrTab c = true := by
    rw [List.eq_of_mem_replicate member]
    rfl
  have indented : List.replicate first ' ' ≠ [] := by
    intro none
    obtain ⟨behind, whole⟩ := spaced
    rw [none] at whole
    simp at whole
  have comment : ";;".toList ≠ [] ∧ ∀ c ∈ ";;".toList, c = ';' := by simp
  have name : "Package-Requires".toList ≠ [] ∧
      ∀ c ∈ "Package-Requires".toList, Field.isKeyCharacter c = true :=
    ⟨by decide, List.all_eq_true.mp (by decide)⟩
  have matched := Field.Matches.intro comment ⟨indented, fun c => space⟩ (.inl rfl)
    (List.forall_mem_nil _) (.inl rfl) name (fun c => @space second c) trimmed
  exact ⟨_, by simpa only [List.append_nil] using matched, by decide⟩

/-- The requirements are the text of the header, if the header stands in the block
before any code, is indented, and is the first field of its key there. -/
theorem requires_of_header {document text line : Text} {number : Nat} {metadata : Metadata}
    {parts : Parts} {earlier behind : List Text}
    (located : Header.locate? document = some ⟨number, text⟩)
    (extracted : extract document = .ok metadata)
    (whole : document.lines = parts.lines) (frame : parts.Frame metadata.name)
    (inBlock : parts.header :: (parts.inner ++ [parts.last]) = earlier ++ line :: behind)
    (here : number = parts.before.length + earlier.length + 1)
    (beforeCode : ∀ other ∈ earlier, ¬ Field.BeginsCode other)
    (spaced : ";; ".toList <+: line)
    (first : ∀ other ∈ earlier, ∀ value, ¬ HasField "package-requires".toList other value) :
    ∃ value, metadata.requires = some value ∧ Text.Trimmed Text.isSpaceOrTab text value := by
  have split : document.lines = (parts.before ++ earlier) ++ line :: (behind ++ parts.after) := by
    have moved : parts.lines =
        parts.before ++ (parts.header :: (parts.inner ++ [parts.last])) ++ parts.after := by
      simp [Parts.lines]
    rw [whole, moved, inBlock]
    simp only [List.append_assoc, List.cons_append]
  have found : document.line? number = some line := by
    rw [here, ← List.length_append]
    exact Text.line?_of_lines split
  obtain ⟨line', rest, found', -, form, trimmed⟩ := Header.exists_line_of_locate? located
  obtain rfl : line = line' := Option.some.inj (found.symm.trans found')
  have again : Text.Trimmed Text.isSpaceOrTab text (text.trimWhile Text.isSpaceOrTab) :=
    Text.trimWhile_eq_iff.mp rfl
  have wider (c : Char) (space : Text.isSpace c = true) : Text.isSpaceOrTab c = true := by
    simp [Text.isSpaceOrTab, beq_iff_eq.mp space]
  have isField := hasField_of_hasForm form spaced (trimmed.again wider again)
  have fieldLines : parts.fieldLines =
      earlier ++ line :: behind.takeWhile fun line => !Field.beginsCode line := by
    rw [Parts.fieldLines, inBlock]
    exact takeWhile_through_line beforeCode (not_beginsCode_of_space spaced) behind
  obtain ⟨header, -, read⟩ := extract_of_region (frame.region whole)
  obtain ⟨-, -, -, requires, -⟩ := ofFields_eq_ok_iff.mp (read.symm.trans extracted)
  refine ⟨_, (requires _).mpr ?_, again⟩
  rw [fieldLines]
  have absent : ∀ other ∈ earlier, ¬ ∃ value, HasField "package-requires".toList other value := by
    intro other member has
    obtain ⟨value, field⟩ := has
    exact first other member value field
  exact ⟨earlier, line, _, ⟨rfl, ⟨_, isField⟩, absent⟩, isField⟩

/-- The header's text keeps its tabs, and the requirements do not. -/
theorem requires_of_header_tabs :
    let line := ";; Package-Requires : \t(()) \t ".toList
    let document : Text := [";;; x.el ---".toList, ";; Version: 1".toList, line,
      ";;; x.el ends here".toList].flatMap (· ++ ['\n'])
    Header.locate? document = some ⟨3, "\t(()) \t".toList⟩ ∧
      ∃ metadata, extract document = .ok metadata ∧ metadata.requires = some "(())".toList := by
  intro line document
  let parts : Parts :=
    ⟨[], ";;; x.el ---".toList, [";; Version: 1".toList, line], ";;; x.el ends here".toList, []⟩
  let metadata : Metadata := ⟨['x'], [], ⟨[.number 1]⟩, some "(())".toList, []⟩
  have located : Header.locate? document = some ⟨3, "\t(()) \t".toList⟩ := by decide +kernel
  have extracted : extract document = .ok metadata := by decide +kernel
  have frame : parts.Frame metadata.name := ⟨⟨by decide, [], rfl⟩, by decide, by decide, by decide⟩
  have others : ∀ other ∈ [parts.header, ";; Version: 1".toList],
      (Field.ofLine? other).map Field.key ≠ some "package-requires".toList := by decide
  have first : ∀ other ∈ [parts.header, ";; Version: 1".toList],
      ∀ value, ¬ HasField "package-requires".toList other value := by
    intro other member value has
    exact others other member (by rw [Field.ofLine?_eq_some_iff.mpr has]; rfl)
  obtain ⟨value, given, trimmed⟩ := requires_of_header located extracted
    (Text.lines_flatMap_newline (by decide)) frame rfl rfl (by decide) ⟨_, rfl⟩ first
  obtain rfl : "(())".toList = value := Text.trimWhile_eq_iff.mpr trimmed
  exact ⟨located, metadata, extracted, given⟩

end PackageRequires.Metadata
