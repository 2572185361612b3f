import PackageRequires.Proofs.Header
import PackageRequires.Proofs.Lines
import PackageRequires.Proofs.Pattern

namespace PackageRequires.Header

/-! # Locating the header

The pattern of a header line captures its text lazily, between two runs of
spaces that take all they can.  What it captures is the text behind the colon
without the spaces at either end, so the header is the first line of the form
and nothing more depends on how the runs share the spaces.
-/

/-- A line has the form of the header, with `rest` behind its colon. -/
def HasForm (line rest : Text) : Prop :=
  ∃ first second : Nat,
    line = ";;".toList ++ List.replicate first ' ' ++ "Package-Requires".toList ++
      List.replicate second ' ' ++ ':' :: rest

theorem trimmed_isSpace_iff {rest text : Text} :
    Text.Trimmed Text.isSpace rest text ↔
      text.head? ≠ some ' ' ∧ text.getLast? ≠ some ' ' ∧
        ∃ left right, rest = List.replicate left ' ' ++ text ++ List.replicate right ' ' := by
  rw [← Text.trimWhile_eq_iff, Text.trimWhile_isSpace_eq_iff]

theorem matches_iff_hasForm {line text : Text} :
    Matches line text ↔ ∃ rest, HasForm line rest ∧ Text.Trimmed Text.isSpace rest text := by
  simp only [trimmed_isSpace_iff]
  constructor
  · intro ⟨⟨first, second, third, fourth, whole⟩, begins, ends⟩
    refine ⟨_, ⟨first, second, ?_⟩, begins, ends, third, fourth, rfl⟩
    rw [whole]
    simp only [List.append_assoc, List.cons_append, List.nil_append]
  · intro ⟨rest, ⟨first, second, whole⟩, begins, ends, third, fourth, cut⟩
    refine ⟨⟨first, second, third, fourth, ?_⟩, begins, ends⟩
    rw [whole, cut]
    simp only [List.append_assoc, List.cons_append, List.nil_append]

theorem exists_matches_iff {line : Text} :
    (∃ text, Matches line text) ↔ ∃ rest, HasForm line rest := by
  simp only [matches_iff_hasForm]
  constructor
  · intro ⟨text, rest, form, _⟩
    exact ⟨rest, form⟩
  · intro ⟨rest, form⟩
    exact ⟨_, rest, form, Text.trimWhile_eq_iff.mp rfl⟩

theorem forall_not_matches_iff {line : Text} :
    (∀ text, ¬ Matches line text) ↔ ∀ rest, ¬ HasForm line rest := by
  rw [← not_exists, exists_matches_iff, not_exists]

/-! ## The pattern -/

/-- The pattern `^;; *Package-Requires *: *(.*?) *$` of a header line. -/
def pattern : Pattern :=
  .andThen (.word ";;".toList) <|
  .andThen (.run true Text.isSpace) <|
  .andThen (.word "Package-Requires".toList) <|
  .andThen (.run true Text.isSpace) <|
  .andThen (.word [':']) <|
  .andThen (.run true Text.isSpace) <|
  .andThen (.group (.run false (· != '\n'))) <|
  .andThen (.run true Text.isSpace) .finish

/-- A word that begins with no space is matched behind all the spaces. -/
theorem groups?_spaces_word {c : Char} (visible : c ≠ ' ') (word : Text) (second : Pattern)
    (line : Text) :
    Pattern.groups? (.andThen (.run true Text.isSpace) (.andThen (.word (c :: word)) second)) line =
      (Text.dropFront? (c :: word) (line.dropWhile Text.isSpace)).bind second.groups? := by
  rw [Pattern.groups?_greedy_andThen, Pattern.groups?_word_andThen]
  left
  intro d text space
  obtain rfl : d = ' ' := by simpa [Text.isSpace] using space
  rw [Pattern.groups?_word_andThen, Text.dropFront?, if_neg visible, Option.bind_none]

theorem groups?_captured {rest : Text} (oneLine : '\n' ∉ rest) :
    Pattern.groups? (.andThen (.run true Text.isSpace) <|
      .andThen (.group (.run false (· != '\n'))) <|
      .andThen (.run true Text.isSpace) .finish) rest = some [rest.trimWhile Text.isSpace] := by
  have any : ∀ c ∈ rest.dropWhile Text.isSpace, (c != '\n') = true :=
    Pattern.bne_newline_of_not_mem fun member =>
      oneLine ((List.dropWhile_suffix Text.isSpace).subset member)
  have captured := Pattern.groups?_lazy_greedy_finish any Text.isSpace
  rw [Pattern.groups?_greedy_andThen (.inr (by rw [captured]; rfl)), captured]
  rfl

theorem suffix_of_dropFront? {front text rest : Text}
    (found : Text.dropFront? front (text.dropWhile Text.isSpace) = some rest) : rest <:+ text :=
  List.IsSuffix.trans ⟨front, (Text.dropFront?_eq_some_iff.mp found).symm⟩
    (List.dropWhile_suffix Text.isSpace)

/-- The pattern captures the text behind the colon without the spaces at either end. -/
theorem groups?_pattern {line : Text} (oneLine : '\n' ∉ line) :
    pattern.groups? line = (text? line).map ([·]) := by
  have name : "Package-Requires".toList = 'P' :: "ackage-Requires".toList := rfl
  rw [pattern, Pattern.groups?_word_andThen, text?]
  cases starts : Text.dropFront? ";;".toList line with
  | none => rfl
  | some comment =>
      simp only [Option.bind_some, Option.bind_eq_bind]
      rw [name, groups?_spaces_word (by decide)]
      cases named : Text.dropFront? ('P' :: "ackage-Requires".toList)
          (comment.dropWhile Text.isSpace) with
      | none => rfl
      | some behind =>
          simp only [Option.bind_some]
          rw [groups?_spaces_word (by decide)]
          cases colon : Text.dropFront? [':'] (behind.dropWhile Text.isSpace) with
          | none => rfl
          | some rest =>
              have suffix := (suffix_of_dropFront? colon).trans <|
                (suffix_of_dropFront? named).trans
                  ⟨_, (Text.dropFront?_eq_some_iff.mp starts).symm⟩
              exact groups?_captured fun member => oneLine (suffix.subset member)

/-! ## The document -/

/-- The line that a header was found on. -/
theorem exists_line_of_locate? {document text : Text} {number : Nat}
    (located : locate? document = some ⟨number, text⟩) :
    ∃ line rest, document.line? number = some line ∧ '\n' ∉ line ∧ HasForm line rest ∧
      Text.Trimmed Text.isSpace rest text := by
  obtain ⟨before, line, after, split, rfl, matched, -⟩ := locate?_eq_some_iff.mp located
  obtain ⟨rest, form, trimmed⟩ := matches_iff_hasForm.mp matched
  have member : line ∈ document.lines := by
    rw [split]
    exact List.mem_append_right before List.mem_cons_self
  exact ⟨line, rest, Text.line?_of_lines split, (Text.hasLines_lines document).oneLine member, form,
    trimmed⟩

theorem oneLine_of_locate? {document text : Text} {number : Nat}
    (located : locate? document = some ⟨number, text⟩) : '\n' ∉ text := by
  obtain ⟨line, rest, -, oneLine, ⟨first, second, rfl⟩, ⟨left, right, rfl, -, -⟩, -, -⟩ :=
    exists_line_of_locate? located
  intro member
  apply oneLine
  simp [member]

/-- The header is the first line of its form, and its text is what stands behind the
colon less the spaces around it. -/
theorem locate?_exact (document : Text) :
    Text.HasLines document document.lines ∧
    (∀ line ∈ document.lines, pattern.groups? line = (text? line).map ([·])) ∧
    (∀ number text, locate? document = some ⟨number, text⟩ ↔
      ∃ before line after rest, document.lines = before ++ line :: after ∧
        number = before.length + 1 ∧ HasForm line rest ∧ Text.Trimmed Text.isSpace rest text ∧
        ∀ earlier ∈ before, ∀ other, ¬ HasForm earlier other) ∧
    (locate? document = none ↔ ∀ line ∈ document.lines, ∀ rest, ¬ HasForm line rest) ∧
    ∀ number text, locate? document = some ⟨number, text⟩ →
      '\n' ∉ text ∧ text.head? ≠ some ' ' ∧ text.getLast? ≠ some ' ' ∧
        ∃ line rest, document.line? number = some line ∧ HasForm line rest ∧
          Text.Trimmed Text.isSpace rest text := by
  have cut := Text.hasLines_lines document
  refine ⟨cut, fun line member => groups?_pattern (cut.oneLine member), ?_, ?_, ?_⟩
  · intro number text
    simp only [locate?_eq_some_iff, First, forall_not_matches_iff]
    constructor
    · intro found
      obtain ⟨before, line, after, split, same, matched, absent⟩ := found
      obtain ⟨rest, form, trimmed⟩ := matches_iff_hasForm.mp matched
      exact ⟨before, line, after, rest, split, same, form, trimmed, absent⟩
    · intro formed
      obtain ⟨before, line, after, rest, split, same, form, trimmed, absent⟩ := formed
      have matched := matches_iff_hasForm.mpr ⟨rest, form, trimmed⟩
      exact ⟨before, line, after, split, same, matched, absent⟩
  · simp only [locate?_eq_none_iff, forall_not_matches_iff]
  · intro number text located
    obtain ⟨line, rest, here, -, form, trimmed⟩ := exists_line_of_locate? located
    obtain ⟨begins, ends, -⟩ := trimmed_isSpace_iff.mp trimmed
    exact ⟨oneLine_of_locate? located, begins, ends, line, rest, here, form, trimmed⟩

end PackageRequires.Header
