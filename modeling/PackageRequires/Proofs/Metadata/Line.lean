import Mathlib.Data.Option.Basic
import PackageRequires.Metadata.Field
import PackageRequires.Metadata.FileHeader
import PackageRequires.Proofs.Text

namespace PackageRequires

/-! # Lines of a package file

The three kinds of lines that metadata is taken from, each given by the form of
its text: the file header, a field, and the line that begins the code.
-/

namespace FileHeader

/-- A line is the file header of the file `name`. -/
def Matches (line name : Text) : Prop :=
  ' ' ∉ name ∧ ∃ rest, line = ";;; ".toList ++ name ++ ".el ---".toList ++ rest

theorem not_space_iff_not_mem {word : Text} :
    (∀ c ∈ word, (!Text.isSpace c) = true) ↔ ' ' ∉ word := by
  simp only [Text.isSpace, Bool.not_eq_true', beq_eq_false_iff_ne]
  exact ⟨fun all member => all ' ' member rfl, fun absent c member same => absent (same ▸ member)⟩

/-- A file header is read off the one way in which its line is of the form. -/
theorem ofLine?_eq_some_iff_summaryOf {line : Text} {header : FileHeader} :
    ofLine? line = some header ↔ ' ' ∉ header.name ∧
      ∃ rest, line = ";;; ".toList ++ header.name ++ ".el ---".toList ++ rest ∧
        header.summary = summaryOf (rest.dropWhile Text.isSpaceOrTab) := by
  have steps : ofLine? line = some header ↔
      ∃ text, Text.dropFront? ";;; ".toList line = some text ∧ ∃ name,
        Text.dropBack? ".el".toList (text.takeWhile fun c => !Text.isSpace c) = some name ∧
        ∃ rest, Text.dropFront? " ---".toList (text.dropWhile fun c => !Text.isSpace c) =
          some rest ∧ ⟨name, summaryOf (rest.dropWhile Text.isSpaceOrTab)⟩ = header := by
    simp [ofLine?, Option.bind_eq_some_iff]
  simp only [steps, Text.dropFront?_eq_some_iff, Text.dropBack?_eq_some_iff]
  constructor
  · intro ⟨text, split, name, word, rest, dashes, same⟩
    subst split same
    obtain ⟨all, _⟩ := takeWhile_eq_iff.mp word
    refine ⟨fun member => not_space_iff_not_mem.mp all (List.mem_append_left _ member), rest, ?_,
      rfl⟩
    have whole := List.takeWhile_append_dropWhile (p := fun c => !Text.isSpace c) (l := text)
    rw [word, dashes] at whole
    rw [← whole]
    simp
  · intro ⟨absent, rest, split, summary⟩
    have all : ∀ c ∈ header.name ++ ".el".toList, (!Text.isSpace c) = true :=
      not_space_iff_not_mem.mpr (by simpa using absent)
    have stops : ∀ c ∈ (" ---".toList ++ rest).head?, (!Text.isSpace c) = false := by
      simp [Text.isSpace]
    refine ⟨(header.name ++ ".el".toList) ++ (" ---".toList ++ rest), by simp [split], header.name,
      takeWhile_append_of_stop all stops, rest, dropWhile_append_of_stop all stops, ?_⟩
    rw [← summary]

theorem exists_ofLine?_iff {line name : Text} :
    (∃ header, ofLine? line = some header ∧ header.name = name) ↔ Matches line name := by
  simp only [ofLine?_eq_some_iff_summaryOf]
  constructor
  · intro ⟨header, ⟨absent, rest, split, _⟩, same⟩
    subst same
    exact ⟨absent, rest, split⟩
  · intro ⟨absent, rest, split⟩
    exact ⟨⟨name, summaryOf (rest.dropWhile Text.isSpaceOrTab)⟩, ⟨absent, rest, split, rfl⟩, rfl⟩

theorem ofLine?_eq_none_iff {line : Text} : ofLine? line = none ↔ ∀ name, ¬ Matches line name := by
  simp only [Option.eq_none_iff_forall_ne_some, ← exists_ofLine?_iff]
  exact ⟨fun none name ⟨header, found, _⟩ => none header found,
    fun none header found => none header.name ⟨header, found, rfl⟩⟩

end FileHeader

namespace Field

/-! ## The line that begins the code -/

/-- A line begins the code: `;;; Code:`, in any case and with any blanks. -/
def BeginsCode (line : Text) : Prop :=
  ∃ blanks word rest, line = ";;;".toList ++ blanks ++ word ++ rest ∧
    (∀ c ∈ blanks, Text.isSpaceOrTab c = true) ∧ word.map Char.toLower = "code:".toList

theorem not_blank_of_toLower {c : Char} (lower : c.toLower = 'c') : Text.isSpaceOrTab c = false := by
  simp only [Text.isSpaceOrTab, Bool.or_eq_false_iff, beq_eq_false_iff_ne]
  constructor <;> rintro rfl <;> exact absurd lower (by decide)

theorem beginsCode_iff {line : Text} : beginsCode line = true ↔ BeginsCode line := by
  have steps : beginsCode line = true ↔ ∃ rest, Text.dropFront? ";;;".toList line = some rest ∧
      ((rest.dropWhile Text.isSpaceOrTab).take 5).map Char.toLower = "code:".toList := by
    rw [beginsCode]
    cases Text.dropFront? ";;;".toList line <;> simp
  simp only [steps, Text.dropFront?_eq_some_iff]
  constructor
  · rintro ⟨rest, rfl, word⟩
    refine ⟨rest.takeWhile Text.isSpaceOrTab, _, (rest.dropWhile Text.isSpaceOrTab).drop 5, ?_,
      fun c => List.mem_takeWhile_imp, word⟩
    simp only [List.append_assoc, List.take_append_drop, List.takeWhile_append_dropWhile]
  · rintro ⟨blanks, word, rest, rfl, all, lower⟩
    refine ⟨blanks ++ (word ++ rest), by simp only [List.append_assoc], ?_⟩
    have size : word.length = 5 := by simpa using congrArg List.length lower
    have stops : ∀ c ∈ (word ++ rest).head?, Text.isSpaceOrTab c = false := by
      cases word with
      | nil => cases size
      | cons first word =>
          simp only [List.map_cons] at lower
          rintro c ⟨⟩
          exact not_blank_of_toLower (List.cons.inj lower).1
    rw [dropWhile_append_of_stop all stops, List.take_left' size, lower]

/-! ## Fields -/

/-- A line is a field with a key, as it is spelled, and a value. -/
inductive Matches : (line key value : Text) → Prop
  | intro {marks blanks sccs inner dollar key gap text value : Text}
      (comment : marks ≠ [] ∧ ∀ c ∈ marks, c = ';')
      (indent : blanks ≠ [] ∧ ∀ c ∈ blanks, Text.isSpaceOrTab c = true)
      (mark : sccs = [] ∨ sccs = "@(#)".toList)
      (blank : ∀ c ∈ inner, Text.isSpaceOrTab c = true)
      (sign : dollar = [] ∨ dollar = ['$'])
      (name : key ≠ [] ∧ ∀ c ∈ key, isKeyCharacter c = true)
      (space : ∀ c ∈ gap, Text.isSpaceOrTab c = true)
      (trimmed : Text.Trimmed Text.isSpaceOrTab text value) :
      Matches (marks ++ blanks ++ sccs ++ inner ++ dollar ++ key ++ gap ++ ':' :: text) key value

theorem isKeyCharacter_of_blank {c : Char} (blank : Text.isSpaceOrTab c = true) :
    isKeyCharacter c = false := by
  simp only [Text.isSpaceOrTab, Bool.or_eq_true, beq_iff_eq] at blank
  rcases blank with rfl | rfl <;> decide

theorem exists_of_dropOptional {front text rest : Text} (dropped : dropOptional front text = rest) :
    ∃ part, (part = [] ∨ part = front) ∧ text = part ++ rest := by
  rw [dropOptional] at dropped
  cases found : Text.dropFront? front text with
  | none =>
      rw [found] at dropped
      exact ⟨[], .inl rfl, dropped⟩
  | some other =>
      rw [found] at dropped
      exact ⟨front, .inr rfl, by rw [Text.dropFront?_eq_some_iff.mp found, ← dropped]; rfl⟩

theorem dropOptional_append (front rest : Text) : dropOptional front (front ++ rest) = rest := by
  rw [dropOptional, Text.dropFront?_eq_some_iff.mpr rfl]
  rfl

theorem dropOptional_of_ne {c : Char} {front rest : Text} (other : ∀ d ∈ rest.head?, d ≠ c) :
    dropOptional (c :: front) rest = rest := by
  cases found : Text.dropFront? (c :: front) rest with
  | none => simp [dropOptional, found]
  | some behind =>
      rw [Text.dropFront?_eq_some_iff.mp found] at other
      exact absurd rfl (other c rfl)

/-- The text from the key on, of a text that begins behind the comment marks. -/
def fromKey (text : Text) : Text :=
  dropOptional ['$']
    ((dropOptional "@(#)".toList (text.dropWhile Text.isSpaceOrTab)).dropWhile Text.isSpaceOrTab)

theorem exists_of_fromKey {text rest : Text} (found : fromKey text = rest) :
    ∃ blanks sccs inner dollar, text = blanks ++ sccs ++ inner ++ dollar ++ rest ∧
      blanks = text.takeWhile Text.isSpaceOrTab ∧ (sccs = [] ∨ sccs = "@(#)".toList) ∧
      (∀ c ∈ inner, Text.isSpaceOrTab c = true) ∧ (dollar = [] ∨ dollar = ['$']) := by
  obtain ⟨dollar, sign, signed⟩ := exists_of_dropOptional found
  obtain ⟨sccs, mark, marked⟩ := exists_of_dropOptional
    (rfl : dropOptional "@(#)".toList (text.dropWhile Text.isSpaceOrTab) = _)
  obtain ⟨-, inner, inside, blank⟩ := dropWhile_eq_iff.mp signed
  refine ⟨_, sccs, inner, dollar, ?_, rfl, mark, blank, sign⟩
  have whole := List.takeWhile_append_dropWhile (p := Text.isSpaceOrTab) (l := text)
  rw [marked, inside] at whole
  exact whole.symm.trans (by simp only [List.append_assoc])

section FromKey

variable {blanks sccs inner dollar rest : Text}

theorem dropOptional_dollar (blank : ∀ c ∈ inner, Text.isSpaceOrTab c = true)
    (sign : dollar = [] ∨ dollar = ['$']) (key : ∀ c ∈ rest.head?, isKeyCharacter c = true) :
    (inner ++ (dollar ++ rest)).dropWhile Text.isSpaceOrTab = dollar ++ rest ∧
      dropOptional ['$'] (dollar ++ rest) = rest := by
  have unblank {c : Char} (named : isKeyCharacter c = true) : Text.isSpaceOrTab c = false := by
    by_contra blank
    rw [isKeyCharacter_of_blank (by simpa using blank)] at named
    cases named
  constructor
  · refine dropWhile_append_of_stop blank ?_
    rcases sign with rfl | rfl
    · exact fun c first => unblank (key c first)
    · rintro c ⟨⟩
      rfl
  · rcases sign with rfl | rfl
    · refine dropOptional_of_ne fun d first => ?_
      rintro rfl
      exact absurd (key _ first) (by decide)
    · exact dropOptional_append ['$'] rest

theorem fromKey_append (indent : ∀ c ∈ blanks, Text.isSpaceOrTab c = true)
    (mark : sccs = [] ∨ sccs = "@(#)".toList) (blank : ∀ c ∈ inner, Text.isSpaceOrTab c = true)
    (sign : dollar = [] ∨ dollar = ['$']) (key : ∀ c ∈ rest.head?, isKeyCharacter c = true) :
    fromKey (blanks ++ sccs ++ inner ++ dollar ++ rest) = rest := by
  rcases mark with rfl | rfl
  · -- without a mark the blanks on both sides of its place are one run
    have together : ∀ c ∈ blanks ++ inner, Text.isSpaceOrTab c = true := by
      intro c member
      exact (List.mem_append.mp member).elim (indent c) (blank c)
    have unmarked : dropOptional "@(#)".toList (dollar ++ rest) = dollar ++ rest := by
      refine dropOptional_of_ne fun d first => ?_
      rintro rfl
      rcases sign with rfl | rfl
      · exact absurd (key _ first) (by decide)
      · cases first
    obtain ⟨outside, -⟩ := dropOptional_dollar together sign key
    obtain ⟨inside, dropped⟩ := dropOptional_dollar (List.forall_mem_nil _) sign key
    rw [List.nil_append] at inside
    rw [fromKey, List.append_nil, List.append_assoc, outside, unmarked, inside, dropped]
  · obtain ⟨inside, dropped⟩ := dropOptional_dollar blank sign key
    have marked : (blanks ++ ("@(#)".toList ++ (inner ++ (dollar ++ rest)))).dropWhile
        Text.isSpaceOrTab = "@(#)".toList ++ (inner ++ (dollar ++ rest)) :=
      dropWhile_append_of_stop indent (by rintro c ⟨⟩; rfl)
    simp only [List.append_assoc]
    rw [fromKey, marked, dropOptional_append, inside, dropped]

end FromKey

theorem ofLine?_steps {line : Text} {field : Field} :
    ofLine? line = some field ↔
      ∃ rest, line = ';' :: rest ∧ ∃ comment, rest.dropWhile (· == ';') = comment ∧
        comment.head?.any Text.isSpaceOrTab = true ∧ ∃ key,
          (fromKey comment).takeWhile isKeyCharacter = key ∧ key ≠ [] ∧ ∃ text : Text,
            ((fromKey comment).dropWhile isKeyCharacter).dropWhile Text.isSpaceOrTab = ':' :: text ∧
              ⟨key.map Char.toLower, text.trimWhile Text.isSpaceOrTab⟩ = field := by
  simp [ofLine?, fromKey, Option.bind_eq_some_iff, Option.guard_eq_some',
    Text.dropFront?_eq_some_iff]

theorem matches_of_ofLine? {line : Text} {field : Field} (found : ofLine? line = some field) :
    ∃ key, Matches line key field.value ∧ key.map Char.toLower = field.key := by
  obtain ⟨rest, rfl, comment, cut, begins, key, taken, nonempty, text, colon, rfl⟩ :=
    ofLine?_steps.mp found
  obtain ⟨-, marks, rfl, allMarks⟩ := dropWhile_eq_iff.mp cut
  obtain ⟨named, -⟩ := takeWhile_eq_iff.mp taken
  obtain ⟨-, gap, between, space⟩ := dropWhile_eq_iff.mp colon
  obtain ⟨blanks, sccs, inner, dollar, whole, indent, mark, blank, sign⟩ :=
    exists_of_fromKey (rfl : fromKey comment = _)
  have split := List.takeWhile_append_dropWhile (p := isKeyCharacter) (l := fromKey comment)
  rw [taken, between] at split
  have indented : blanks ≠ [] := by
    rintro rfl
    cases comment with
    | nil => cases begins
    | cons c comment => simp [show Text.isSpaceOrTab c = true from begins] at indent
  have matched := Matches.intro ⟨List.cons_ne_nil ';' marks, by simpa using allMarks⟩
    ⟨indented, by rw [indent]; exact fun c => List.mem_takeWhile_imp⟩ mark blank sign
    ⟨nonempty, named⟩ space (Text.trimWhile_eq_iff.mp rfl : Text.Trimmed _ text _)
  refine ⟨key, ?_, rfl⟩
  rw [whole, ← split]
  simpa only [List.append_assoc, List.cons_append] using matched

theorem ofLine?_of_matches {line key value : Text} (matched : Matches line key value) :
    ofLine? line = some ⟨key.map Char.toLower, value⟩ := by
  cases matched with
  | @intro marks blanks sccs inner dollar _ gap text _ comment indent mark blank sign name space
      trimmed =>
      obtain ⟨marked, allMarks⟩ := comment
      obtain ⟨indented, indent⟩ := indent
      obtain ⟨first, marks, rfl⟩ := List.exists_cons_of_ne_nil marked
      obtain ⟨lead, blanks, rfl⟩ := List.exists_cons_of_ne_nil indented
      obtain ⟨initial, key, rfl⟩ := List.exists_cons_of_ne_nil name.1
      obtain rfl := allMarks first List.mem_cons_self
      have leads := indent lead List.mem_cons_self
      -- a key ends at the gap or at the colon
      have ends : ∀ c ∈ (gap ++ ':' :: text).head?, isKeyCharacter c = false := by
        intro c first
        cases gap with
        | nil => cases first; rfl
        | cons d gap => cases first; exact isKeyCharacter_of_blank (space _ List.mem_cons_self)
      have start := fromKey_append indent mark blank sign
        (by rintro c ⟨⟩; exact name.2 initial List.mem_cons_self :
          ∀ c ∈ (initial :: key ++ (gap ++ ':' :: text)).head?, isKeyCharacter c = true)
      have cut : (marks ++ (lead :: blanks ++ sccs ++ inner ++ dollar ++
          (initial :: key ++ (gap ++ ':' :: text)))).dropWhile (· == ';') = _ :=
        dropWhile_append_of_stop
          (fun c member => by simp [allMarks c (List.mem_cons_of_mem _ member)])
          (by rintro c ⟨⟩; exact beq_false_of_ne (by rintro rfl; cases leads))
      refine ofLine?_steps.mpr ⟨_, ?_, _, cut, leads, initial :: key, ?_, name.1, text, ?_, ?_⟩
      · simp only [List.append_assoc, List.cons_append]
      · rw [start, takeWhile_append_of_stop name.2 ends]
      · rw [start, dropWhile_append_of_stop name.2 ends]
        exact dropWhile_append_of_stop space (by rintro c ⟨⟩; rfl)
      · rw [Text.trimWhile_eq_iff.mpr trimmed]

theorem ofLine?_eq_some_iff {line key value : Text} :
    ofLine? line = some ⟨key, value⟩ ↔
      ∃ name, Matches line name value ∧ name.map Char.toLower = key := by
  constructor
  · exact matches_of_ofLine?
  · rintro ⟨name, matched, rfl⟩
    exact ofLine?_of_matches matched

end Field

end PackageRequires
