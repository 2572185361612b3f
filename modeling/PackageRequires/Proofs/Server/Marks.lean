import PackageRequires.Proofs.Check
import PackageRequires.Proofs.Lines
import PackageRequires.Server.Wire

namespace PackageRequires.Server

/-! # Where diagnostics are shown

A diagnostic about the header is shown along the header line, and one about the
document along the first line, if there is one.  A diagnostic counts lines from
one and a mark from zero, and both kinds end up on the line that is meant.
-/

variable {extract : Extractor} {catalogue : Catalogue} {document line : Text} {index : Nat}
  {diagnostic : Diagnostic}

theorem line?_succ (document : Text) (index : Nat) :
    document.line? (index + 1) = document.lines[index]? := by
  rw [Text.line?, if_neg (Nat.succ_ne_zero index), Nat.add_sub_cancel]

/-- The UTF-16 size of a line, which is zero if there is no such line. -/
def sizeAt (document : Text) (index : Nat) : Nat :=
  (document.lines[index]?.map Text.utf16Size).getD 0

theorem sizeAt_of_line (here : document.lines[index]? = some line) :
    sizeAt document index = line.utf16Size := by
  rw [sizeAt, here, Option.map_some, Option.getD_some]

theorem sizeAt_lt {bound : Nat} (positive : 0 < bound)
    (short : ∀ line ∈ document.lines, line.utf16Size < bound) (index : Nat) :
    sizeAt document index < bound := by
  cases here : document.lines[index]? with
  | none => rwa [sizeAt, here]
  | some line =>
      rw [sizeAt_of_line here]
      exact short line (List.mem_of_getElem? here)

theorem markOf_eq (line : diagnostic.line - 1 = index) (column : diagnostic.column = 0) :
    markOf document diagnostic =
      ⟨⟨index, 0⟩, ⟨index, sizeAt document index⟩, diagnostic.severity, diagnostic.message⟩ := by
  simp only [markOf, line, column, line?_succ, Nat.max_zero, sizeAt]

theorem ofIndex_of_lt (small : index < 2 ^ 32) : ofIndex index = .ofNat index := by
  have fits : index < UInt32.size := small
  rw [ofIndex, Nat.mod_eq_of_lt fits]

theorem toJson_of_lt {size : Nat} (fewLines : index < 2 ^ 32) (short : size < 2 ^ 32) :
    (⟨index, size⟩ : Position).toJson =
      fieldsOf [("line", .ofNat index), ("character", .ofNat size)] := by
  rw [Position.toJson, ofIndex_of_lt fewLines, ofIndex_of_lt short]

theorem lines_of_first {number : Nat} {text : Text} (first : Header.First document number text) :
    ∃ index line, number = index + 1 ∧ document.lines[index]? = some line := by
  obtain ⟨before, line, after, split, same, -⟩ := first
  exact ⟨before.length, line, same, (line?_succ document _).symm.trans (Text.line?_of_lines split)⟩

/-- A check reports errors about the line of the header and warnings about the whole
document, all of them at the first column. -/
theorem place_of_mem_checkDocument (member : diagnostic ∈ checkDocument extract catalogue document) :
    diagnostic.column = 0 ∧
      ((diagnostic.severity = .error ∧ ∃ index text line, diagnostic.line = index + 1 ∧
          Header.First document (index + 1) text ∧ document.lines[index]? = some line) ∨
        diagnostic.severity = .warning ∧ diagnostic.line = 0) := by
  rcases mem_checkDocument member with
    ⟨number, text, messages, message, first, -, -, same⟩ | ⟨error, -, same⟩
  · subst same
    obtain ⟨index, line, rfl, here⟩ := lines_of_first first
    exact ⟨rfl, .inl ⟨rfl, index, text, line, rfl, first, here⟩⟩
  · subst same
    exact ⟨rfl, .inr ⟨rfl, rfl⟩⟩

theorem markOf_of_mem_checkDocument
    (member : diagnostic ∈ checkDocument extract catalogue document) :
    markOf document diagnostic =
      ⟨⟨diagnostic.line - 1, 0⟩, ⟨diagnostic.line - 1, sizeAt document (diagnostic.line - 1)⟩,
        diagnostic.severity, diagnostic.message⟩ :=
  markOf_eq rfl (place_of_mem_checkDocument member).1

/-- The numbers are sent as they are, if no line and no index of a line takes more than
32 bits. -/
theorem toJson_of_mem_checkDocument (fewLines : document.lines.length < 2 ^ 32)
    (shortLines : ∀ line ∈ document.lines, line.utf16Size < 2 ^ 32)
    (member : diagnostic ∈ checkDocument extract catalogue document) :
    (⟨diagnostic.line - 1, 0⟩ : Position).toJson =
        fieldsOf [("line", .ofNat (diagnostic.line - 1)), ("character", .ofNat 0)] ∧
      (⟨diagnostic.line - 1, sizeAt document (diagnostic.line - 1)⟩ : Position).toJson =
        fieldsOf [("line", .ofNat (diagnostic.line - 1)),
          ("character", .ofNat (sizeAt document (diagnostic.line - 1)))] := by
  have positive : 0 < 2 ^ 32 := by decide
  have inside : diagnostic.line - 1 < 2 ^ 32 := by
    rcases (place_of_mem_checkDocument member).2 with
      ⟨-, index, text, line, number, -, here⟩ | ⟨-, number⟩
    · have within := (List.getElem?_eq_some_iff.mp here).1
      omega
    · omega
  exact ⟨toJson_of_lt inside positive, toJson_of_lt inside (sizeAt_lt positive shortLines _)⟩

/-- Every diagnostic is marked along one whole line: an error on the line of the header,
and a warning on the first line.  The numbers are sent as they are, if no line and no
index of a line takes more than 32 bits. -/
theorem marks_cover_lines (extract : Extractor) (catalogue : Catalogue) (document : Text)
    (fewLines : document.lines.length < 2 ^ 32)
    (shortLines : ∀ line ∈ document.lines, line.utf16Size < 2 ^ 32) :
    ∀ diagnostic ∈ checkDocument extract catalogue document, ∃ index size,
      markOf document diagnostic =
        ⟨⟨index, 0⟩, ⟨index, size⟩, diagnostic.severity, diagnostic.message⟩ ∧
      (⟨index, 0⟩ : Position).toJson =
        fieldsOf [("line", .ofNat index), ("character", .ofNat 0)] ∧
      (⟨index, size⟩ : Position).toJson =
        fieldsOf [("line", .ofNat index), ("character", .ofNat size)] ∧
      (diagnostic.severity = .error → ∃ text line, Header.First document (index + 1) text ∧
        document.lines[index]? = some line ∧ size = line.utf16Size) ∧
      (diagnostic.severity = .warning → index = 0 ∧
        (∀ line, document.lines.head? = some line → size = line.utf16Size) ∧
        (document.lines = [] → size = 0)) := by
  intro diagnostic member
  obtain ⟨start, stop⟩ := toJson_of_mem_checkDocument fewLines shortLines member
  refine ⟨_, _, markOf_of_mem_checkDocument member, start, stop, ?_, ?_⟩
  · intro isError
    rcases (place_of_mem_checkDocument member).2 with
      ⟨-, index, text, line, number, first, here⟩ | ⟨isWarning, -⟩
    · rw [number, Nat.add_sub_cancel]
      exact ⟨text, line, first, here, sizeAt_of_line here⟩
    · rw [isWarning] at isError
      cases isError
  · intro isWarning
    rcases (place_of_mem_checkDocument member).2 with ⟨isError, -⟩ | ⟨-, number⟩
    · rw [isError] at isWarning
      cases isWarning
    · rw [number]
      refine ⟨rfl, ?_, ?_⟩
      · intro line first
        rw [List.head?_eq_getElem?] at first
        exact sizeAt_of_line first
      · intro none
        rw [sizeAt, none]
        rfl

/-- The header is a symbol that takes two units, and the document has no metadata. -/
theorem marks_cover_lines_wide_symbol :
    let document : Text := ";; Package-Requires: 😀".toList
    let error : Diagnostic := ⟨1, 0, .error,
      "Couldn't parse dependency header: ".toList ++
        ("Expected a list of dependencies, but found ".toList ++ "😀".toList)⟩
    document.lines.length < 2 ^ 32 ∧ (∀ line ∈ document.lines, line.utf16Size < 2 ^ 32) ∧
      error ∈ checkDocument Metadata.extract .empty document ∧
      ∃ index size line, (markOf document error).start = ⟨index, 0⟩ ∧
        (markOf document error).stop = ⟨index, size⟩ ∧
        document.lines[index]? = some line ∧ size = line.utf16Size := by
  intro document error
  have lines : document.lines = [document] := by decide +kernel
  have short : ∀ line ∈ document.lines, line.utf16Size < 2 ^ 32 := by
    rw [lines]
    decide
  have few : document.lines.length < 2 ^ 32 := by
    rw [lines]
    decide
  have located : Header.First document 1 "😀".toList :=
    Header.locate?_eq_some_iff.mp (by decide +kernel)
  have derived : Lisp.Derived "😀".toList (.symbol "😀".toList) [] :=
    ⟨.symbol "😀".toList, ⟨[⟨[], "😀".toList, .symbol "😀".toList⟩], .cons rfl (.nil _), rfl⟩, rfl,
      by decide⟩
  have report : HeaderDiagnosed .empty document [error] :=
    .present located (.notAList derived nofun)
  have member : error ∈ checkDocument Metadata.extract .empty document := by
    rw [checkDocument, headerDiagnosed_iff_check.mp report]
    exact List.mem_append_left _ (List.mem_singleton_self error)
  refine ⟨few, short, member, ?_⟩
  obtain ⟨index, size, marked, -, -, ofError, -⟩ :=
    marks_cover_lines Metadata.extract .empty document few short error member
  obtain ⟨text, line, -, here, same⟩ := ofError rfl
  exact ⟨index, size, line, by rw [marked], by rw [marked], here, same⟩

end PackageRequires.Server
