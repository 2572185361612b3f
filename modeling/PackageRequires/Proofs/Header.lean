import PackageRequires.Header
import PackageRequires.Proofs.Text

namespace PackageRequires

/-! # Which line is the header

A header line is `;;`, the name and a colon, with any number of spaces before and
after each of the two.  What is left between the outer spaces is the header's
text, and the first such line of a document is its header.
-/

namespace Text

theorem all_space_iff {text : Text} :
    (∀ c ∈ text, isSpace c = true) ↔ ∃ count, text = List.replicate count ' ' := by
  constructor
  · intro all
    refine ⟨text.length, List.eq_replicate_iff.mpr ⟨rfl, fun c member => ?_⟩⟩
    simpa [isSpace] using all c member
  · rintro ⟨count, rfl⟩ c member
    rw [List.eq_of_mem_replicate member]
    rfl

theorem not_space_iff {found : Option Char} :
    (∀ c ∈ found, isSpace c = false) ↔ found ≠ some ' ' := by
  cases found <;> simp [isSpace]

theorem dropWhile_isSpace_eq_iff {text rest : Text} :
    text.dropWhile isSpace = rest ↔
      rest.head? ≠ some ' ' ∧ ∃ count, text = List.replicate count ' ' ++ rest := by
  rw [dropWhile_eq_iff, not_space_iff]
  refine and_congr_right fun _ => ⟨?_, ?_⟩
  · rintro ⟨front, rfl, all⟩
    obtain ⟨count, rfl⟩ := all_space_iff.mp all
    exact ⟨count, rfl⟩
  · rintro ⟨count, rfl⟩
    exact ⟨_, rfl, all_space_iff.mpr ⟨count, rfl⟩⟩

theorem trimWhile_isSpace_eq_iff {text inner : Text} :
    text.trimWhile isSpace = inner ↔
      inner.head? ≠ some ' ' ∧ inner.getLast? ≠ some ' ' ∧
        ∃ left right, text = List.replicate left ' ' ++ inner ++ List.replicate right ' ' := by
  rw [trimWhile_eq_iff]
  constructor
  · intro ⟨⟨left, right, whole, allLeft, allRight⟩, begins, ends⟩
    obtain ⟨before, rfl⟩ := all_space_iff.mp allLeft
    obtain ⟨after, rfl⟩ := all_space_iff.mp allRight
    exact ⟨not_space_iff.mp begins, not_space_iff.mp ends, before, after, whole⟩
  · intro ⟨begins, ends, left, right, whole⟩
    exact ⟨⟨_, _, whole, all_space_iff.mpr ⟨left, rfl⟩, all_space_iff.mpr ⟨right, rfl⟩⟩,
      not_space_iff.mpr begins, not_space_iff.mpr ends⟩

end Text

namespace Header

/-- A line has the form of the header, with this text in it. -/
def Matches (line text : Text) : Prop :=
  (∃ first second third fourth : Nat,
    line = ";;".toList ++ List.replicate first ' ' ++ "Package-Requires".toList ++
      List.replicate second ' ' ++ [':'] ++
      List.replicate third ' ' ++ text ++ List.replicate fourth ' ') ∧
  text.head? ≠ some ' ' ∧ text.getLast? ≠ some ' '

theorem dropSpaces_eq_some_iff {c : Char} {word rest line : Text} (visible : c ≠ ' ') :
    Text.dropFront? (c :: word) (line.dropWhile Text.isSpace) = some rest ↔
      ∃ count, line = List.replicate count ' ' ++ (c :: word ++ rest) := by
  rw [Text.dropFront?_eq_some_iff, Text.dropWhile_isSpace_eq_iff]
  simp [visible]

theorem text?_eq_some_iff {line text : Text} : text? line = some text ↔ Matches line text := by
  have steps : text? line = some text ↔
      ∃ rest, Text.dropFront? ";;".toList line = some rest ∧
        ∃ rest', Text.dropFront? "Package-Requires".toList (rest.dropWhile Text.isSpace) = some rest' ∧
          ∃ rest'', Text.dropFront? [':'] (rest'.dropWhile Text.isSpace) = some rest'' ∧
            rest''.trimWhile Text.isSpace = text := by
    simp [text?, Option.bind_eq_some_iff]
  have name : "Package-Requires".toList = 'P' :: "ackage-Requires".toList := rfl
  rw [steps, name]
  constructor
  · rintro ⟨rest, starts, rest', named, rest'', colon, trimmed⟩
    obtain ⟨begins, last, third, fourth, rfl⟩ := Text.trimWhile_isSpace_eq_iff.mp trimmed
    obtain ⟨second, rfl⟩ := (dropSpaces_eq_some_iff (by decide)).mp colon
    obtain ⟨first, rfl⟩ := (dropSpaces_eq_some_iff (by decide)).mp named
    refine ⟨⟨first, second, third, fourth, ?_⟩, begins, last⟩
    rw [Text.dropFront?_eq_some_iff.mp starts, name]
    simp only [List.append_assoc, List.cons_append, List.nil_append]
  · rintro ⟨⟨first, second, third, fourth, rfl⟩, begins, last⟩
    refine ⟨_, Text.dropFront?_eq_some_iff.mpr ?_, _, (dropSpaces_eq_some_iff (by decide)).mpr
      ⟨first, rfl⟩, _, (dropSpaces_eq_some_iff (by decide)).mpr ⟨second, rfl⟩,
      Text.trimWhile_isSpace_eq_iff.mpr ⟨begins, last, third, fourth, rfl⟩⟩
    rw [name]
    simp only [List.append_assoc, List.cons_append, List.nil_append]

/-- The first line of a document with the form of the header. -/
def First (document : Text) (number : Nat) (text : Text) : Prop :=
  ∃ before line after, document.lines = before ++ line :: after ∧ number = before.length + 1 ∧
    Matches line text ∧ ∀ earlier ∈ before, ∀ other, ¬ Matches earlier other

theorem text?_eq_none_iff {line : Text} : text? line = none ↔ ∀ text, ¬ Matches line text := by
  simp only [Option.eq_none_iff_forall_ne_some, ne_eq, text?_eq_some_iff]

theorem among?_eq_some_iff {start number : Nat} {lines : List Text} {text : Text} :
    among? start lines = some ⟨number, text⟩ ↔
      ∃ before line after, lines = before ++ line :: after ∧ number = start + before.length ∧
        Matches line text ∧ ∀ earlier ∈ before, ∀ other, ¬ Matches earlier other := by
  induction lines generalizing start with
  | nil => simp [among?]
  | cons line lines ih =>
      cases found : text? line with
      | some here =>
          have matched := text?_eq_some_iff.mp found
          simp only [among?, found, Option.some.injEq, Header.mk.injEq]
          constructor
          · rintro ⟨rfl, rfl⟩
            exact ⟨[], line, lines, rfl, rfl, matched, by simp⟩
          · rintro ⟨before, other, after, same, rfl, matches', none⟩
            cases before with
            | nil =>
                cases same
                have equal := found.symm.trans (text?_eq_some_iff.mpr matches')
                exact ⟨rfl, Option.some.inj equal⟩
            | cons first before =>
                cases same
                exact absurd matched (none _ List.mem_cons_self here)
      | none =>
          have different := text?_eq_none_iff.mp found
          simp only [among?, found, ih]
          constructor
          · rintro ⟨before, other, after, rfl, rfl, matched, none⟩
            refine ⟨line :: before, other, after, rfl, ?_, matched, ?_⟩
            · simp only [List.length_cons]
              omega
            · intro earlier member
              rcases List.mem_cons.mp member with rfl | member
              · exact different
              · exact none earlier member
          · rintro ⟨before, other, after, same, rfl, matched, none⟩
            cases before with
            | nil =>
                cases same
                exact absurd matched (different text)
            | cons first before =>
                simp only [List.cons_append, List.cons.injEq] at same
                obtain ⟨rfl, rfl⟩ := same
                refine ⟨before, other, after, rfl, ?_, matched, ?_⟩
                · simp only [List.length_cons]
                  omega
                · exact fun earlier member => none earlier (List.mem_cons_of_mem _ member)

theorem among?_eq_none_iff {start : Nat} {lines : List Text} :
    among? start lines = none ↔ ∀ line ∈ lines, ∀ text, ¬ Matches line text := by
  induction lines generalizing start with
  | nil => simp [among?]
  | cons line lines ih =>
      rw [List.forall_mem_cons, ← text?_eq_none_iff, ← @ih (start + 1)]
      cases found : text? line <;> simp [among?, found]

theorem locate?_eq_some_iff {document text : Text} {number : Nat} :
    locate? document = some ⟨number, text⟩ ↔ First document number text := by
  simp only [locate?, among?_eq_some_iff, First, Nat.add_comm 1]

theorem locate?_eq_none_iff {document : Text} :
    locate? document = none ↔ ∀ line ∈ document.lines, ∀ text, ¬ Matches line text :=
  among?_eq_none_iff

end Header

end PackageRequires
