import Mathlib.Data.List.TakeWhile
import PackageRequires.Lisp.Expr
import PackageRequires.Lisp.Token
import PackageRequires.Proofs.Lisp.Numeral

namespace PackageRequires.Lisp

open PackageRequires.Lisp.Expr

/-! # Printed atoms

A printed symbol has a backslash in front of blanks, parentheses, quotes,
semicolons and backslashes.  Brackets end an atom too, and a few characters
cannot begin one, but none of these gets a backslash: a name without them is
`PlainName`, and its printed text is one token.
-/

/-- A text in front of which an atom ends. -/
def Delimited (text : Text) : Prop := ∀ c ∈ text.head?, endsAtom c = true

/-- Whether no character of a name needs a backslash that printing does not write. -/
def PlainName (name : Text) : Prop :=
  (∀ c ∈ name, c ≠ '[' ∧ c ≠ ']') ∧
    ∀ c ∈ name.head?, c ≠ '#' ∧ c ≠ '\x60' ∧ c ≠ ',' ∧ c ≠ '?'

theorem escape_cons (escaped : Char → Bool) (c : Char) (text : Text) :
    escape escaped (c :: text) = (if escaped c then ['\\', c] else [c]) ++ escape escaped text :=
  rfl

theorem escape_append (escaped : Char → Bool) (front back : Text) :
    escape escaped (front ++ back) = escape escaped front ++ escape escaped back :=
  List.flatMap_append

theorem escape_eq_self {escaped : Char → Bool} {text : Text}
    (bare : ∀ c ∈ text, escaped c = false) : escape escaped text = text := by
  induction text with
  | nil => rfl
  | cons c text ih =>
      rw [escape_cons, ih fun d member => bare d (List.mem_cons_of_mem c member)]
      simp [bare c List.mem_cons_self]

theorem startsEscape_of_ne {c : Char} (different : c ≠ '\\') (escaped : Bool) :
    startsEscape escaped c = false := by
  simp [startsEscape, different]

theorem endsAtom_eq_false {c : Char} (bare : isEscapedInSymbol c = false)
    (noBracket : c ≠ '[' ∧ c ≠ ']') : endsAtom c = false := by
  simp_all [isEscapedInSymbol, endsAtom]

theorem splitAtom_of_delimited {text : Text} (delimited : Delimited text) :
    splitAtom false text = ([], text) := by
  cases text with
  | nil => rfl
  | cons c text => simp [splitAtom, delimited c rfl]

/-- An escaped name without brackets is one atom. -/
theorem splitAtom_printSymbol {name after : Text} (noBracket : ∀ c ∈ name, c ≠ '[' ∧ c ≠ ']')
    (delimited : Delimited after) :
    splitAtom false (printSymbol name ++ after) = (printSymbol name, after) := by
  induction name with
  | nil => exact splitAtom_of_delimited delimited
  | cons c name ih =>
      have later := ih fun d member => noBracket d (List.mem_cons_of_mem c member)
      simp only [printSymbol] at later ⊢
      rw [escape_cons]
      cases special : isEscapedInSymbol c with
      | true =>
          have inside : endsAtom '\\' = false := by decide
          simp [splitAtom, startsEscape, inside, later]
      | false =>
          have inside := endsAtom_eq_false special (noBracket c List.mem_cons_self)
          have noEscape : c ≠ '\\' := by rintro rfl; simp [isEscapedInSymbol] at special
          simp [splitAtom, startsEscape_of_ne noEscape, inside, later]

theorem unescape?_printSymbol (name : Text) : unescape? false (printSymbol name) = some name := by
  induction name with
  | nil => rfl
  | cons c name ih =>
      simp only [printSymbol] at ih ⊢
      rw [escape_cons]
      cases special : isEscapedInSymbol c with
      | true => simp [unescape?, startsEscape, ih]
      | false =>
          have noEscape : c ≠ '\\' := by rintro rfl; simp [isEscapedInSymbol] at special
          simp [unescape?, startsEscape_of_ne noEscape, ih]

theorem splitString_escape (contents after : Text) :
    splitString false (escape isEscapedInString contents ++ '\"' :: after) =
      some (escape isEscapedInString contents, after) := by
  induction contents with
  | nil => rfl
  | cons c contents ih =>
      rw [escape_cons]
      cases special : isEscapedInString c with
      | true => simp [splitString, startsEscape, ih]
      | false =>
          simp only [isEscapedInString, Bool.or_eq_false_iff, beq_eq_false_iff_ne] at special
          simp [splitString, startsEscape_of_ne special.2, special.1, ih]

theorem decodeString_escape (contents : Text) :
    decodeString false (escape isEscapedInString contents) = contents := by
  induction contents with
  | nil => rfl
  | cons c contents ih =>
      rw [escape_cons]
      cases special : isEscapedInString c with
      | true =>
          simp only [isEscapedInString, Bool.or_eq_true, beq_iff_eq] at special
          rcases special with rfl | rfl <;> simp [decodeString, escapeValue, ih]
      | false =>
          simp only [isEscapedInString, Bool.or_eq_false_iff, beq_eq_false_iff_ne] at special
          simp [decodeString, special, ih]

theorem front_of_visible {c : Char} (rest : Text) (visible : Text.isBlank c = false)
    (noComment : c ≠ ';') : front (c :: rest) = frontAfter [] (c :: rest) := by
  simp [front, splitGap, visible, noComment]

/-- An atom that is not `.` is a token. -/
theorem frontAfter_atom {c : Char} {gap rest slice after text : Text}
    (supported : isUnsupported c = false)
    (notOpen : c ≠ '(') (notClose : c ≠ ')') (notQuote : c ≠ '\x27') (notString : c ≠ '\"')
    (split : splitAtom false (c :: rest) = (slice, after))
    (denotes : unescape? false slice = some text) :
    frontAfter gap (c :: rest) =
      if text = ['.'] then .failed (gap ++ slice) (.invalidSyntax ['.']) after
      else .lexeme ⟨gap, slice, .ofAtom text⟩ after := by
  unfold frontAfter
  split
  · contradiction
  · simp_all
  · simp_all
  · simp_all
  · simp_all
  · rename_i same
    cases same
    simp only [supported, Bool.false_eq_true, if_false, split, denotes]
    split
    · contradiction
    · rename_i dot
      cases dot
      rfl
    · rename_i notDot same
      cases same
      rw [if_neg fun dot => notDot (by rw [dot])]

theorem front_unsupported {c : Char} (rest : Text) (unsupported : isUnsupported c = true) :
    front (c :: rest) = .failed [] (.invalidSyntax [c]) (c :: rest) := by
  simp only [isUnsupported, Bool.or_eq_true, beq_iff_eq] at unsupported
  rcases unsupported with ((((rfl | rfl) | rfl) | rfl) | rfl) | rfl <;> rfl

/-- The first character of a printed name that the reader can take as an atom. -/
theorem printSymbol_eq_cons {name : Text} (nonempty : name ≠ []) (plain : PlainName name) :
    ∃ c rest, printSymbol name = c :: rest ∧ Text.isBlank c = false ∧ c ≠ ';' ∧ c ≠ '(' ∧
      c ≠ ')' ∧ c ≠ '\x27' ∧ c ≠ '\"' ∧ isUnsupported c = false := by
  cases name with
  | nil => contradiction
  | cons c name =>
      simp only [printSymbol]
      rw [escape_cons]
      cases special : isEscapedInSymbol c with
      | true =>
          refine ⟨'\\', c :: escape isEscapedInSymbol name, rfl, ?_⟩
          decide
      | false =>
          refine ⟨c, escape isEscapedInSymbol name, rfl, ?_⟩
          have bracket := plain.1 c List.mem_cons_self
          have begins := plain.2 c rfl
          simp_all [isEscapedInSymbol, isUnsupported]

/-- A printed name is one atom; the name `.` is no token. -/
theorem front_printSymbol {name after : Text} (nonempty : name ≠ []) (plain : PlainName name)
    (delimited : Delimited after) :
    front (printSymbol name ++ after) =
      if name = ['.'] then .failed (printSymbol name) (.invalidSyntax ['.']) after
      else .lexeme ⟨[], printSymbol name, .ofAtom name⟩ after := by
  obtain ⟨c, rest, printed, visible, noComment, notOpen, notClose, notQuote, notString,
    supported⟩ := printSymbol_eq_cons nonempty plain
  have split := splitAtom_printSymbol plain.1 delimited
  have text := unescape?_printSymbol name
  rw [printed, List.cons_append] at split
  rw [printed] at text
  rw [printed, List.cons_append, front_of_visible _ visible noComment]
  exact frontAfter_atom supported notOpen notClose notQuote notString split text

theorem front_printString (contents after : Text) :
    front (printString contents ++ after) =
      .lexeme ⟨[], printString contents, .string contents⟩ after := by
  have visible : Text.isBlank '\"' = false := by decide
  simp only [printString, List.cons_append, List.append_assoc, List.nil_append]
  rw [front_of_visible _ visible (by decide), frontAfter, splitString_escape]
  simp only [decodeString_escape, List.cons_append]

theorem bare_of_isNumeralChar {c : Char} (numeralChar : isNumeralChar c = true) :
    isEscapedInSymbol c = false ∧ isUnsupported c = false := by
  simp only [isNumeralChar, Bool.or_eq_true, beq_iff_eq] at numeralChar
  rcases numeralChar with ((((digit | rfl) | rfl) | rfl) | rfl) | rfl
  · have codes : 48 ≤ c.toNat ∧ c.toNat ≤ 57 := by
      simpa [Char.isDigit, UInt32.le_iff_toNat_le, and_comm] using digit
    have visible : Text.isBlank c = false := by
      simp only [Text.isBlank, Bool.or_eq_false_iff, Bool.and_eq_false_iff, decide_eq_false_iff_not,
        beq_eq_false_iff_ne]
      omega
    have other (d : Char) (outside : d.isDigit = false) : c ≠ d := by
      rintro rfl
      rw [digit] at outside
      contradiction
    simp [isEscapedInSymbol, isUnsupported, visible, other]
  · decide
  · decide
  · decide
  · decide
  · decide

theorem front_printNumber {literal after : Text} (numeral : isNumeral literal = true)
    (delimited : Delimited after) :
    front (literal ++ after) = .lexeme ⟨[], literal, .number literal⟩ after := by
  have bare (c : Char) (member : c ∈ literal) :=
    bare_of_isNumeralChar (isNumeralChar_of_mem numeral member)
  have printed : printSymbol literal = literal := escape_eq_self fun c member => (bare c member).1
  have nonempty : literal ≠ [] := by rintro rfl; contradiction
  have notDot : literal ≠ ['.'] := by rintro rfl; contradiction
  have plain : PlainName literal := by
    refine ⟨fun c member => ?_, fun c begins => ?_⟩
    · have supported := (bare c member).2
      simp_all [isUnsupported]
    · have supported := (bare c (List.mem_of_mem_head? begins)).2
      simp_all [isUnsupported]
  have found := front_printSymbol nonempty plain delimited
  rwa [printed, if_neg notDot, Token.ofAtom, if_pos numeral] at found

end PackageRequires.Lisp
