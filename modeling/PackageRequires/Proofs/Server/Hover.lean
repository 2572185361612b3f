import PackageRequires.Proofs.Archive.Growth
import PackageRequires.Proofs.Header.Locating
import PackageRequires.Proofs.Lisp.Neighbours
import PackageRequires.Proofs.Server.Cursor
import PackageRequires.Server.Assistance

namespace PackageRequires

open Lisp

/-! # Hovering over a name

On the header line a hover finds the symbols that the reader finds, though it cuts
the raw line and the reader cuts the header's text.  It describes a name exactly if
the checker would accept the name in a declaration.
-/

/-! ## Names that are reported -/

theorem Declaration.mem_problems_iff {catalogue : Catalogue} {declaration : Declaration}
    {name : Text} :
    .unknownPackage name ∈ declaration.problems catalogue ↔
      declaration.name = name ∧ ¬ catalogue.Offers name := by
  have other : Problem.unknownPackage name ∉
      if Version.isValid declaration.version then [] else
        [Problem.invalidVersion declaration.version] := by
    split <;> simp
  rw [problems, List.mem_append, or_iff_right other, ← isAvailable_iff]
  constructor
  · intro member
    split at member
    · contradiction
    · rename_i missing
      obtain rfl : name = declaration.name := by simpa using member
      exact ⟨rfl, missing⟩
  · intro reported
    obtain ⟨same, missing⟩ := reported
    rw [same, if_neg missing]
    exact List.mem_singleton_self _

theorem mem_itemProblems_iff {catalogue : Catalogue} {item : Expr} {name : Text} :
    .unknownPackage name ∈ itemProblems catalogue item ↔
      (∃ version, item = Declaration.toExpr ⟨name, version⟩) ∧ ¬ catalogue.Offers name := by
  rw [itemProblems]
  cases shaped : Declaration.ofExpr? item with
  | none =>
      have other : ¬ ∃ version, item = Declaration.toExpr ⟨name, version⟩ := by
        intro declares
        obtain ⟨version, same⟩ := declares
        rw [same] at shaped
        cases shaped
      simp [other]
  | some declaration =>
      rw [Declaration.ofExpr?_eq_some_iff] at shaped
      simp only [Declaration.mem_problems_iff, shaped, and_congr_left_iff]
      intro _
      constructor
      · intro same
        exact ⟨declaration.version, by rw [← same]⟩
      · intro declares
        obtain ⟨version, same⟩ := declares
        have again := congrArg Declaration.ofExpr? same
        simp only [Declaration.ofExpr?_toExpr, Option.some.injEq] at again
        rw [again]

/-- A name is reported exactly if an item of the list declares it and it is not offered. -/
theorem exists_isUnknownPackage_iff {document rest name : Text} {header : Header}
    {items : List Expr} (located : Header.locate? document = some header)
    (finished : read header.text = .ok (.list items, rest)) (extract : Extractor)
    (catalogue : Catalogue) :
    (∃ diagnostic ∈ checkDocument extract catalogue document, diagnostic.IsUnknownPackage name) ↔
      (∃ version, Declaration.toExpr ⟨name, version⟩ ∈ items) ∧ ¬ catalogue.Offers name := by
  have metadata : ¬ ∃ diagnostic ∈ checkMetadata extract document,
      diagnostic.IsUnknownPackage name := by
    rw [checkMetadata]
    cases extract document with
    | ok _ => simp
    | error error => simp [MetadataError.toDiagnostic, Diagnostic.IsUnknownPackage]
  have listed : Problem.unknownPackage name ∈ Header.problems catalogue header.text ↔
      ∃ item ∈ items, .unknownPackage name ∈ itemProblems catalogue item := by
    have trailing : Problem.unknownPackage name ∉
        if !rest.allBlank then [Problem.moreThanOneExpression] else [] := by
      split <;> simp
    simp only [Header.problems, Declarations.read, finished, Declarations.problems]
    rw [List.mem_append, or_iff_right trailing, List.mem_flatMap]
  calc (∃ diagnostic ∈ checkDocument extract catalogue document, diagnostic.IsUnknownPackage name)
    _ ↔ ∃ diagnostic ∈ header.check catalogue, diagnostic.IsUnknownPackage name := by
      simp only [checkDocument, checkHeader, located, List.mem_append, or_and_right, exists_or,
        or_iff_left metadata]
    _ ↔ .unknownPackage name ∈ Header.problems catalogue header.text := by
      simp [Header.check, Problem.isUnknownPackage_iff]
    _ ↔ ∃ item ∈ items, (∃ version, item = Declaration.toExpr ⟨name, version⟩) ∧
        ¬ catalogue.Offers name := by
      simp only [listed, mem_itemProblems_iff]
    _ ↔ (∃ version, Declaration.toExpr ⟨name, version⟩ ∈ items) ∧ ¬ catalogue.Offers name := by
      constructor
      · intro reported
        obtain ⟨item, member, ⟨version, same⟩, missing⟩ := reported
        exact ⟨⟨version, same ▸ member⟩, missing⟩
      · intro declared
        obtain ⟨⟨version, member⟩, missing⟩ := declared
        exact ⟨_, member, ⟨version, rfl⟩, missing⟩

namespace Server

/-! ## Symbols of the header -/

theorem isSymbolCharacter_of_separates {c : Char} (separates : Separates c) :
    isSymbolCharacter c = false := by
  obtain ⟨ends, supported⟩ := separates
  simp only [isUnsupported, Bool.or_eq_false_iff, beq_eq_false_iff_ne] at supported
  obtain ⟨⟨⟨⟨⟨notOpen, notClose⟩, -⟩, -⟩, -⟩, -⟩ := supported
  simp only [endsAtom, Bool.or_eq_true, beq_iff_eq] at ends
  simp only [isSymbolCharacter, Bool.not_eq_false', Bool.or_eq_true, beq_iff_eq]
  exact .inl ((ends.resolve_right notClose).resolve_right notOpen)

theorem isSymbolCharacter_of_plain {c : Char} (inside : endsAtom c = false) (bare : c ≠ ':') :
    isSymbolCharacter c = true := by
  simp_all [isSymbolCharacter, endsAtom]

theorem isSome_description?_iff {catalogue : Catalogue} {name : Text} :
    (description? catalogue name).isSome = true ↔ catalogue.Offers name := by
  rw [← isAvailable_iff, description?, isAvailable, Catalogue.contains_eq]
  by_cases host : name = hostPackage
  · simp [host]
  · simp [host]

theorem headerLine?_of_locate? {document line : Text} {header : Header} {position : Position}
    (located : Header.locate? document = some header)
    (here : document.line? header.line = some line) (same : position.line + 1 = header.line) :
    headerLine? document position = some line := by
  simp only [headerLine?, located]
  rw [if_pos same.symm, here]

theorem hover?_of_symbolAt? {catalogue : Catalogue} {document line name : Text} {header : Header}
    {position : Position} (located : Header.locate? document = some header)
    (here : document.line? header.line = some line) (same : position.line + 1 = header.line)
    (found : symbolAt? line (cursorAt line position.character) = some name) :
    hover? catalogue document position = description? catalogue name := by
  simp only [hover?, headerLine?_of_locate? located here same, found, Option.bind_some]

section Header

variable {text rest after name : Text} {value : Expr} {first lexeme : Lexeme}
  {before behind : List Lexeme} (begins : front text = .lexeme first after)
  (opens : first.token = .openParen) (finished : read text = .ok (value, rest))
  (lexed : Lexed text (before ++ lexeme :: behind) rest) (symbol : lexeme.token = .symbol name)
include begins opens finished lexed symbol

/-- Between its two ends, a symbol of a list is what a column on the line stands on. -/
theorem symbolAt?_of_lexeme (oneLine : '\n' ∉ text) (plain : '\\' ∉ lexeme.slice)
    (bare : ':' ∉ lexeme.slice) {lead trail : Text} {units : Nat}
    (starts : Text.utf16Size (lead ++ before.flatMap Lexeme.text ++ lexeme.gap) ≤ units)
    (ends : units ≤ Text.utf16Size (lead ++ before.flatMap Lexeme.text ++ lexeme.text)) :
    symbolAt? (lead ++ text ++ trail) (cursorAt (lead ++ text ++ trail) units) =
      some lexeme.slice := by
  obtain ⟨left, right, inside⟩ :=
    separates_in_list begins opens finished lexed symbol oneLine plain lead trail
  have whole : lead ++ text ++ trail = lead ++ before.flatMap Lexeme.text ++ lexeme.gap ++
      lexeme.slice ++ (behind.flatMap Lexeme.text ++ rest ++ trail) := by
    rw [← lexed.text]
    simp [Lexeme.text]
  obtain ⟨source, after, found⟩ := lexed.exists_front
  rw [Lexeme.text, ← List.append_assoc] at ends
  rw [whole]
  refine symbolAt?_cursorAt_of_word ?_ (front_slice_ne_nil found) ?_ ?_ starts ends
  · intro c member
    exact isSymbolCharacter_of_plain (inside c member) fun colon => bare (colon ▸ member)
  · intro c last
    exact isSymbolCharacter_of_separates (left c last)
  · intro c next
    exact isSymbolCharacter_of_separates (right c next)

end Header

/-- Hovering over a symbol of the header's list gives what the reader takes it for, and
describes it exactly if the checker would not report it as unknown. -/
theorem hover_agrees_with_check {document rest after name : Text} {header : Header}
    {items : List Expr} {first lexeme : Lexeme} {before behind : List Lexeme}
    (located : Header.locate? document = some header)
    (begins : front header.text = .lexeme first after) (opens : first.token = .openParen)
    (finished : read header.text = .ok (.list items, rest))
    (lexed : Lexed header.text (before ++ lexeme :: behind) rest)
    (symbol : lexeme.token = .symbol name) (plain : '\\' ∉ lexeme.slice)
    (bare : ':' ∉ lexeme.slice) :
    ∃ line, document.line? header.line = some line ∧
      (∃ lead left right, Header.HasForm lead (List.replicate left ' ') ∧
        line = lead ++ header.text ++ List.replicate right ' ') ∧
      ∀ lead trail, line = lead ++ header.text ++ trail → ∀ position : Position,
        position.line + 1 = header.line →
        Text.utf16Size (lead ++ before.flatMap Lexeme.text ++ lexeme.gap) ≤ position.character →
        position.character ≤ Text.utf16Size (lead ++ before.flatMap Lexeme.text ++ lexeme.text) →
        symbolAt? line (cursorAt line position.character) = some lexeme.slice ∧
        name = lexeme.slice ∧
        ∀ catalogue, hover? catalogue document position = description? catalogue name ∧
          ((hover? catalogue document position).isSome = true ↔ catalogue.Offers name) ∧
          (∀ version, (hover? catalogue document position).isSome = true ↔
            .unknownPackage name ∉ Declaration.problems catalogue ⟨name, version⟩) ∧
          ∀ extract version, Declaration.toExpr ⟨name, version⟩ ∈ items →
            ((hover? catalogue document position).isSome = true ↔
              ∀ diagnostic ∈ checkDocument extract catalogue document,
                ¬ diagnostic.IsUnknownPackage name) := by
  obtain ⟨number, text⟩ := header
  obtain ⟨line, behindColon, here, -, form, trimmed⟩ := Header.exists_line_of_locate? located
  refine ⟨line, here, ?_, ?_⟩
  · obtain ⟨-, -, left, right, rfl⟩ := Header.trimmed_isSpace_iff.mp trimmed
    obtain ⟨one, two, rfl⟩ := form
    refine ⟨_, left, right, ⟨one, two, rfl⟩, ?_⟩
    simp
  · intro lead trail whole position same starts ends
    have found : symbolAt? line (cursorAt line position.character) = some lexeme.slice := by
      rw [whole]
      exact symbolAt?_of_lexeme begins opens finished lexed symbol
        (Header.oneLine_of_locate? located) plain bare starts ends
    have named : name = lexeme.slice := by
      obtain ⟨source, after, here⟩ := lexed.exists_front
      exact (name_of_front here (.inl symbol)).2 plain
    refine ⟨found, named, fun catalogue => ?_⟩
    rw [← named] at found
    have hovered : hover? catalogue document position = description? catalogue name :=
      hover?_of_symbolAt? located here same found
    rw [hovered, isSome_description?_iff]
    refine ⟨rfl, Iff.rfl, ?_, ?_⟩
    · intro version
      simp [Declaration.mem_problems_iff]
    · intro extract version declared
      have reported := @exists_isUnknownPackage_iff _ _ name _ _ located finished extract catalogue
      rw [and_iff_right ⟨version, declared⟩] at reported
      rw [← not_iff_not, ← reported]
      simp

/-- The column is inside a character that takes two units, and a string adjoins the name. -/
theorem hover_agrees_with_check_inside_character :
    let document := ";; Package-Requires: ((😀x\"1\"))".toList
    let name := "😀x".toList
    Header.locate? document = some ⟨1, "((😀x\"1\"))".toList⟩ ∧
      symbolAt? document (cursorAt document 24) = some name ∧
      ∀ extract catalogue,
        ((hover? catalogue document ⟨0, 24⟩).isSome = true ↔ catalogue.Offers name) ∧
        ((hover? catalogue document ⟨0, 24⟩).isSome = true ↔
          ∀ diagnostic ∈ checkDocument extract catalogue document,
            ¬ diagnostic.IsUnknownPackage name) := by
  intro document name
  have located : Header.locate? document = some ⟨1, "((😀x\"1\"))".toList⟩ := by decide +kernel
  let declared : Expr := Declaration.toExpr ⟨name, "1".toList⟩
  let opening : Lexeme := ⟨[], ['('], .openParen⟩
  let close : Lexeme := ⟨[], [')'], .closeParen⟩
  let version : Lexeme := ⟨[], "\"1\"".toList, .string "1".toList⟩
  have lexed : Lexed "((😀x\"1\"))".toList
      ([opening, opening] ++ ⟨[], name, .symbol name⟩ :: [version, close, close]) [] :=
    .cons rfl (.cons rfl (.cons rfl (.cons rfl (.cons rfl (.cons rfl (.nil _))))))
  have finished : read "((😀x\"1\"))".toList = .ok (.list [declared], []) :=
    read_eq_ok_iff.mpr ⟨.list [.list [.symbol name, .string "1".toList]], ⟨_, lexed, rfl⟩, rfl,
      by decide⟩
  obtain ⟨line, here, -, hovered⟩ := hover_agrees_with_check located rfl rfl finished lexed rfl
    (by decide) (by decide)
  obtain rfl : document = line := Option.some.inj (Eq.trans (by decide +kernel) here)
  obtain ⟨found, -, agrees⟩ :=
    hovered ";; Package-Requires: ".toList [] (by decide +kernel) ⟨0, 24⟩ rfl (by decide)
      (by decide)
  refine ⟨located, found, fun extract catalogue => ?_⟩
  obtain ⟨-, offered, -, reported⟩ := agrees catalogue
  exact ⟨offered, reported extract "1".toList List.mem_cons_self⟩

end Server

end PackageRequires
