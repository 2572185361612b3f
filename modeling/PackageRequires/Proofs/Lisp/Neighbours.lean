import Mathlib.Data.List.Basic
import PackageRequires.Proofs.Lisp.Cutting
import PackageRequires.Proofs.Lisp.Tiling

namespace PackageRequires.Lisp

/-! # What stands beside a symbol

Between two other tokens of one line, a symbol that is written without a
backslash has on either side a character that ends an atom.  It is neither of the
square brackets: they end an atom too, but no token begins with one.
-/

/-- A character that can stand next to an atom inside a list. -/
def Separates (c : Char) : Prop := endsAtom c = true ∧ isUnsupported c = false

instance : DecidablePred Separates := fun _ => inferInstanceAs (Decidable (_ ∧ _))

theorem separates_of_isBlank {c : Char} (blank : Text.isBlank c = true) : Separates c := by
  refine ⟨by simp [endsAtom, blank], ?_⟩
  rw [Bool.eq_false_iff]
  intro unsupported
  simp only [isUnsupported, Bool.or_eq_true, beq_iff_eq] at unsupported
  rcases unsupported with ((((rfl | rfl) | rfl) | rfl) | rfl) | rfl <;> revert blank <;> decide

/-- A comment in front of a token runs through its newline, so a gap on one line has none. -/
theorem IsGap.isBlank {gap : Text} (isGap : IsGap false gap) (oneLine : '\n' ∉ gap) :
    ∀ c ∈ gap, Text.isBlank c = true := by
  induction isGap with
  | nil => simp
  | blank blank _ ih =>
      rw [List.mem_cons, not_or] at oneLine
      exact List.forall_mem_cons.mpr ⟨blank, ih oneLine.2⟩
  | comment _ _ => simp at oneLine
  | unfinished last _ => contradiction

theorem endsAtom_of_splitAtom {text slice rest : Text}
    (split : splitAtom false text = (slice, rest)) (plain : '\\' ∉ slice) :
    ∀ c ∈ slice, endsAtom c = false := by
  induction text generalizing slice rest with
  | nil =>
      cases split
      simp
  | cons c text ih =>
      simp only [splitAtom, Bool.not_false, Bool.true_and] at split
      split at split
      · cases split
        simp
      · rename_i inside
        cases split
        rw [List.mem_cons, not_or] at plain
        have bare := startsEscape_of_ne (Ne.symm plain.1) false
        rw [bare] at plain ⊢
        exact List.forall_mem_cons.mpr ⟨by simpa using inside, ih rfl plain.2⟩

section Symbol

variable {text rest name : Text} {lexeme : Lexeme}

theorem exists_splitAtom_of_symbol (found : front text = .lexeme lexeme rest)
    (symbol : lexeme.token = .symbol name) :
    ∃ source, splitAtom false source = (lexeme.slice, rest) ∧
      (unescape? false lexeme.slice).isSome = true := by
  obtain ⟨tail, -, here⟩ := front_eq_lexeme_iff.mp found
  generalize lexeme.slice = slice at here ⊢
  generalize lexeme.token = token at here symbol
  cases here with
  | atom _ _ _ _ _ split denotes _ => exact ⟨_, split, by rw [denotes]; rfl⟩
  | _ => cases symbol

/-- A token that is no atom ends in a character of its own kind. -/
theorem delimited_or_separates (found : front text = .lexeme lexeme rest) :
    Delimited rest ∨ ∃ c, lexeme.slice.getLast? = some c ∧ Separates c := by
  obtain ⟨tail, -, here⟩ := front_eq_lexeme_iff.mp found
  generalize lexeme.slice = slice at here ⊢
  generalize lexeme.token = token at here
  cases here with
  | atom _ _ _ _ _ split denotes _ =>
      exact .inl (delimited_of_splitAtom split (by rw [denotes]; rfl))
  | openParen => exact .inr ⟨'(', rfl, by decide⟩
  | closeParen => exact .inr ⟨')', rfl, by decide⟩
  | quote => exact .inr ⟨'\x27', rfl, by decide⟩
  | string _ => exact .inr ⟨'\"', List.getLast?_concat, by decide⟩

/-- An atom is followed by what begins the next token or the gap in front of it. -/
theorem separates_of_front (found : front text = .lexeme lexeme rest) (delimited : Delimited text) :
    ∀ c ∈ text.head?, Separates c := by
  intro c begins
  refine ⟨delimited c begins, ?_⟩
  rw [Bool.eq_false_iff]
  intro unsupported
  obtain ⟨tail, rfl⟩ := List.head?_eq_some_iff.mp begins
  rw [front_unsupported tail unsupported] at found
  cases found

end Symbol

/-- A symbol between two tokens of one line stands between two characters that
separate it from them. -/
theorem separates_beside_symbol {text middle rest after name : Text}
    {previous lexeme next : Lexeme} (oneLine : '\n' ∉ lexeme.gap)
    (before : front text = .lexeme previous middle) (found : front middle = .lexeme lexeme rest)
    (behind : front rest = .lexeme next after) (symbol : lexeme.token = .symbol name)
    (plain : '\\' ∉ lexeme.slice) :
    (∀ c ∈ (previous.slice ++ lexeme.gap).getLast?, Separates c) ∧
      ∀ c ∈ rest.head?, Separates c := by
  obtain ⟨source, split, finished⟩ := exists_splitAtom_of_symbol found symbol
  refine ⟨?_, separates_of_front behind (delimited_of_splitAtom split finished)⟩
  by_cases adjoining : lexeme.gap = []
  · -- No atom can stand directly before the symbol: it would have gone on into it.
    have goesOn : ¬ Delimited middle := by
      intro delimited
      obtain ⟨c, slice, spelled⟩ := List.exists_cons_of_ne_nil (front_slice_ne_nil found)
      have ends : endsAtom c = true := by
        apply delimited c
        rw [← front_lexeme found, Lexeme.text, adjoining, spelled]
        rfl
      have inside : endsAtom c = false := by
        apply endsAtom_of_splitAtom split plain
        rw [spelled]
        exact List.mem_cons_self
      exact absurd (ends.symm.trans inside) (by decide)
    obtain ⟨c, last, separates⟩ := (delimited_or_separates before).resolve_left goesOn
    rw [adjoining, List.append_nil, last]
    intro d same
    cases same
    exact separates
  · intro c last
    rw [List.getLast?_append_of_ne_nil previous.slice adjoining] at last
    exact separates_of_isBlank
      ((isGap_of_front found).isBlank oneLine c (List.mem_of_getLast? last))

/-! ## The symbols of a list -/

theorem Lexed.unique {text rest : Text} {lexemes others : List Lexeme}
    (lexed : Lexed text lexemes rest) (lexed' : Lexed text others rest) : lexemes = others := by
  have same := lexed.scan.symm.trans lexed'.scan
  rw [Scan.mk.injEq] at same
  exact List.append_cancel_right same.1

theorem Lexed.exists_front {text rest : Text} {before behind : List Lexeme} {lexeme : Lexeme}
    (lexed : Lexed text (before ++ lexeme :: behind) rest) :
    ∃ source after, front source = .lexeme lexeme after := by
  apply exists_front_of_mem_scan
  rw [lexed.scan]
  simp

section List

variable {limit : Option Nat} {text rest after name : Text} {value : Expr} {first lexeme : Lexeme}
  {before behind : List Lexeme} (begins : front text = .lexeme first after)
  (opens : first.token = .openParen) (finished : readWithin limit text = .ok (value, rest))
  (lexed : Lexed text (before ++ lexeme :: behind) rest) (symbol : lexeme.token = .symbol name)
include begins opens finished lexed symbol

/-- A symbol of a list is neither its first token nor its last. -/
theorem exists_tokens_beside :
    ∃ outer previous next further, before = outer ++ [previous] ∧ behind = next :: further := by
  obtain ⟨inner, close, top, items, whole, -, -, closes, -⟩ :=
    exists_walks_of_list begins opens finished
  have same := lexed.unique whole
  have notFirst : before ≠ [] := by
    intro empty
    rw [empty, List.nil_append, List.cons_append, List.cons.injEq] at same
    rw [same.1, opens] at symbol
    cases symbol
  have notLast : behind ≠ [] := by
    intro empty
    rw [empty] at same
    have last : [lexeme] = [close] := (List.append_inj' same rfl).2
    rw [(List.cons.inj last).1, closes] at symbol
    cases symbol
  obtain ⟨outer, previous, rfl⟩ := (List.eq_nil_or_concat' before).resolve_left notFirst
  obtain ⟨next, further, rfl⟩ := List.exists_cons_of_ne_nil notLast
  exact ⟨outer, previous, next, further, rfl, rfl⟩

/-- The characters on either side of a symbol, whatever the list itself stands between. -/
theorem separates_in_list (oneLine : '\n' ∉ text) (plain : '\\' ∉ lexeme.slice)
    (lead trail : Text) :
    (∀ c ∈ (lead ++ before.flatMap Lexeme.text ++ lexeme.gap).getLast?, Separates c) ∧
      (∀ c ∈ (behind.flatMap Lexeme.text ++ rest ++ trail).head?, Separates c) ∧
      ∀ c ∈ lexeme.slice, endsAtom c = false := by
  obtain ⟨outer, previous, next, further, rfl, rfl⟩ :=
    exists_tokens_beside begins opens finished lexed symbol
  have shortGap : '\n' ∉ lexeme.gap := by
    intro member
    apply oneLine
    rw [← lexed.text]
    simp [Lexeme.text, member]
  rw [List.append_assoc] at lexed
  obtain ⟨source, -, tokens⟩ := lexed.split
  obtain ⟨middle, preceding, tokens⟩ := tokens.uncons
  obtain ⟨unread, found, tokens⟩ := tokens.uncons
  have unreadText := tokens.text
  obtain ⟨_, following, -⟩ := tokens.uncons
  obtain ⟨left, right⟩ :=
    separates_beside_symbol shortGap preceding found following symbol plain
  obtain ⟨_, split, -⟩ := exists_splitAtom_of_symbol found symbol
  refine ⟨?_, ?_, endsAtom_of_splitAtom split plain⟩
  · have visible : previous.slice ++ lexeme.gap ≠ [] := by
      simp [front_slice_ne_nil preceding]
    have whole : lead ++ (outer ++ [previous]).flatMap Lexeme.text ++ lexeme.gap =
        (lead ++ outer.flatMap Lexeme.text ++ previous.gap) ++
          (previous.slice ++ lexeme.gap) := by
      simp [Lexeme.text]
    rwa [whole, List.getLast?_append_of_ne_nil _ visible]
  · rw [unreadText, List.head?_append_of_ne_nil]
    · exact right
    · rw [← front_lexeme following]
      simp [Lexeme.text, front_slice_ne_nil following]

end List

end PackageRequires.Lisp
