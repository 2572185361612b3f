import PackageRequires.Proofs.Lisp.Printing
import PackageRequires.Proofs.Lisp.Tiling

namespace PackageRequires.Lisp

open PackageRequires.Lisp.Expr

/-! # The newlines of a value

A text on one line can denote strings with newlines, but only by the escape `\n`:
names and numbers keep to the characters of the text.  Printing shows each of these
newlines as it is.
-/

namespace Expr

mutual

/-- The contents of the strings in an expression, from left to right. -/
def strings : Expr → List Text
  | .symbol _ => []
  | .string contents => [contents]
  | .number _ => []
  | .list items => stringsOf items

def stringsOf : List Expr → List Text
  | [] => []
  | item :: items => strings item ++ stringsOf items

end

/-- Whether all names and numbers are without newlines. -/
def OneLine (expr : Expr) : Prop :=
  (∀ name, Occurs (.symbol name) expr → '\n' ∉ name) ∧
    ∀ literal, Occurs (.number literal) expr → '\n' ∉ literal

theorem OneLine.item {item : Expr} {items : List Expr} (oneLine : OneLine (.list items))
    (member : item ∈ items) : OneLine item :=
  ⟨fun name inside => oneLine.1 name (.item member inside),
    fun literal inside => oneLine.2 literal (.item member inside)⟩

mutual

theorem occurs_of_mem_strings {contents : Text} : (expr : Expr) → contents ∈ expr.strings →
    Occurs (.string contents) expr
  | .string _, member => by
      obtain rfl := List.mem_singleton.mp member
      exact .self
  | .list items, member => by
      obtain ⟨item, inside, occurs⟩ := occurs_of_mem_stringsOf items member
      exact .item inside occurs

theorem occurs_of_mem_stringsOf {contents : Text} : (items : List Expr) →
    contents ∈ stringsOf items → ∃ item ∈ items, Occurs (.string contents) item
  | item :: items, member => by
      rcases List.mem_append.mp member with first | later
      · exact ⟨item, List.mem_cons_self, occurs_of_mem_strings item first⟩
      · obtain ⟨other, inside, occurs⟩ := occurs_of_mem_stringsOf items later
        exact ⟨other, List.mem_cons_of_mem item inside, occurs⟩

end

/-! ## Printing -/

theorem count_escape (escaped : Char → Bool) (text : Text) :
    (escape escaped text).count '\n' = text.count '\n' := by
  induction text with
  | nil => rfl
  | cons c text ih =>
      rw [escape_cons, List.count_append, ih, List.count_cons]
      split <;> simp [List.count_cons, Nat.add_comm]

theorem count_printString (contents : Text) :
    (printString contents).count '\n' = contents.count '\n' := by
  simp [printString, List.count_append, count_escape]

mutual

theorem count_print : (expr : Expr) → expr.OneLine →
    expr.print.count '\n' = expr.strings.flatten.count '\n'
  | .symbol name, oneLine => by
      rw [print, printSymbol, count_escape, List.count_eq_zero.mpr (oneLine.1 name .self)]
      rfl
  | .string contents, _ => by simp [print, strings, count_printString]
  | .number literal, oneLine => by
      rw [print, List.count_eq_zero.mpr (oneLine.2 literal .self)]
      rfl
  | .list [], _ => rfl
  | .list (item :: items), oneLine => by
      have first := count_print item (oneLine.item List.mem_cons_self)
      have later := count_printRest items fun other member =>
        oneLine.item (List.mem_cons_of_mem item member)
      simp [print, strings, stringsOf, first, later]

theorem count_printRest : (items : List Expr) → (∀ item ∈ items, item.OneLine) →
    (printRest items).count '\n' = (stringsOf items).flatten.count '\n'
  | [], _ => rfl
  | item :: items, oneLine => by
      have first := count_print item (oneLine item List.mem_cons_self)
      have later := count_printRest items fun other member =>
        oneLine other (List.mem_cons_of_mem item member)
      simp [printRest, stringsOf, first, later]

end

/-- The token that an expression is by itself. -/
def token? : Expr → Option Token
  | .symbol name => some (.symbol name)
  | .string contents => some (.string contents)
  | .number literal => some (.number literal)
  | .list _ => none

end Expr

/-! ## Reading -/

mutual

/-- Whatever occurs in a value stands in its tokens, apart from the name that a quote
abbreviates. -/
theorem Derivation.mem_tokens {part : Expr} {token : Token} (alone : part.token? = some token) :
    (derivation : Derivation) → Occurs part derivation.value →
    token ∈ derivation.tokens ∨ token = .symbol "quote".toList
  | .symbol name, inside => by
      rw [value] at inside
      split at inside
      · cases inside with
        | self => cases alone
        | item member => contradiction
      · cases inside
        cases alone
        exact .inl (List.mem_singleton_self _)
  | .string contents, inside => by
      cases inside
      cases alone
      exact .inl (List.mem_singleton_self _)
  | .number literal, inside => by
      cases inside
      cases alone
      exact .inl (List.mem_singleton_self _)
  | .quote quoted, inside => by
      cases inside with
      | self => cases alone
      | item member inside =>
          simp only [List.mem_cons, List.not_mem_nil, or_false] at member
          rcases member with rfl | rfl
          · cases inside
            cases alone
            exact .inr rfl
          · exact (mem_tokens alone quoted inside).imp (List.mem_cons_of_mem _) id
  | .list items, inside => by
      cases inside with
      | self => cases alone
      | item member inside =>
          refine (mem_tokensOf alone items member inside).imp (fun found => ?_) id
          simp [tokens, found]

theorem Derivation.mem_tokensOf {part : Expr} {token : Token} (alone : part.token? = some token) :
    (items : List Derivation) → {item : Expr} → item ∈ valuesOf items → Occurs part item →
    token ∈ tokensOf items ∨ token = .symbol "quote".toList
  | first :: items, item, member, inside => by
      rw [tokensOf, List.mem_append]
      rcases List.mem_cons.mp member with rfl | member
      · exact (mem_tokens alone first inside).imp .inl id
      · exact (mem_tokensOf alone items member inside).imp .inr id

end

theorem mem_slice_of_unescape? {escaped : Bool} {slice text : Text} {c : Char}
    (denotes : unescape? escaped slice = some text) (member : c ∈ text) : c ∈ slice := by
  induction slice generalizing escaped text with
  | nil =>
      cases escaped with
      | true => cases denotes
      | false => cases denotes; contradiction
  | cons d slice ih =>
      simp only [unescape?] at denotes
      split at denotes
      · exact List.mem_cons_of_mem d (ih denotes member)
      · obtain ⟨later, denotesLater, rfl⟩ := Option.map_eq_some_iff.mp denotes
        rcases List.mem_cons.mp member with rfl | member
        · exact List.mem_cons_self
        · exact List.mem_cons_of_mem d (ih denotesLater member)

/-- Names and numbers consist of characters that are written. -/
theorem mem_slice_of_front {text rest name : Text} {lexeme : Lexeme} {c : Char}
    (found : front text = .lexeme lexeme rest)
    (named : lexeme.token = .symbol name ∨ lexeme.token = .number name) (member : c ∈ name) :
    c ∈ lexeme.slice := by
  obtain ⟨tail, -, here⟩ := front_eq_lexeme_iff.mp found
  generalize lexeme.slice = slice at here ⊢
  generalize lexeme.token = token at here named
  cases here with
  | @atom c tail slice rest text _ _ _ _ _ _ denotes _ =>
      obtain rfl : text = name := by
        cases numeral : isNumeral text <;> simpa [Token.ofAtom, numeral] using named
      exact mem_slice_of_unescape? denotes member
  | _ => simp at named

theorem escape_of_newline {escaped : Bool} {body : Text} (oneLine : '\n' ∉ body)
    (newline : '\n' ∈ decodeString escaped body) :
    "\\n".toList <:+: (if escaped then '\\' :: body else body) := by
  induction body generalizing escaped with
  | nil => simp [decodeString] at newline
  | cons c body ih =>
      rw [List.mem_cons, not_or] at oneLine
      obtain ⟨different, oneLine⟩ := oneLine
      rw [decodeString] at newline
      cases escaped with
      | true =>
          rcases List.mem_append.mp newline with here | later
          · obtain rfl : c = 'n' := by
              rw [escapeValue] at here
              split at here
              · assumption
              · split at here
                · simp at here
                · split at here <;> simp_all
            exact ⟨[], body, rfl⟩
          · exact (ih oneLine later).trans ⟨['\\', c], [], by simp⟩
      | false =>
          simp only [Bool.false_eq_true, if_false] at newline ⊢
          split at newline
          · rename_i backslash
            rw [backslash]
            exact ih oneLine newline
          · rcases List.mem_cons.mp newline with same | later
            · exact absurd same different
            · exact (ih oneLine later).trans ⟨[c], [], by simp⟩

theorem escape_of_string {text rest contents : Text} {lexeme : Lexeme}
    (found : front text = .lexeme lexeme rest) (string : lexeme.token = .string contents)
    (oneLine : '\n' ∉ lexeme.slice) (newline : '\n' ∈ contents) :
    "\\n".toList <:+: lexeme.slice := by
  obtain ⟨tail, -, here⟩ := front_eq_lexeme_iff.mp found
  generalize lexeme.slice = slice at here oneLine ⊢
  generalize lexeme.token = token at here string
  cases here with
  | @string tail body rest closed =>
      cases string
      have inside : '\n' ∉ body := fun member => oneLine (by simp [member])
      exact (escape_of_newline inside newline).trans ⟨['\"'], ['\"'], rfl⟩
  | @atom c tail slice rest text =>
      rw [Token.ofAtom] at string
      split at string <;> cases string
  | _ => cases string

theorem slice_infix_of_mem_scan {text : Text} {lexeme : Lexeme}
    (scanned : lexeme ∈ (scan text).lexemes) : lexeme.slice <:+: text := by
  obtain ⟨before, after, split⟩ := List.append_of_mem scanned
  exact ⟨_, _, (text_of_scan split).symm⟩

section Derived

variable {text rest : Text} {value : Expr} (oneLine : '\n' ∉ text) (derived : Derived text value rest)
include oneLine derived

/-- Each token of a value is a lexeme of the text. -/
theorem exists_lexeme_of_occurs {part : Expr} {token : Token} (inside : Occurs part value)
    (alone : part.token? = some token) (written : token ≠ .symbol "quote".toList) :
    ∃ lexeme ∈ (scan text).lexemes, lexeme.token = token ∧ '\n' ∉ lexeme.slice := by
  obtain ⟨derivation, ⟨lexemes, lexed, tokens⟩, rfl, -⟩ := derived
  have member := (derivation.mem_tokens alone inside).resolve_right written
  rw [← tokens, List.mem_map] at member
  obtain ⟨lexeme, member, same⟩ := member
  have scanned : lexeme ∈ (scan text).lexemes := by
    rw [lexed.scan]
    exact List.mem_append_left _ member
  exact ⟨lexeme, scanned, same, fun newline =>
    oneLine ((slice_infix_of_mem_scan scanned).subset newline)⟩

theorem oneLine_of_derived : value.OneLine := by
  have named {part : Expr} {token : Token} {name : Text} (inside : Occurs part value)
      (alone : part.token? = some token) (written : token ≠ .symbol "quote".toList)
      (kind : token = .symbol name ∨ token = .number name) : '\n' ∉ name := by
    obtain ⟨lexeme, scanned, rfl, clean⟩ :=
      exists_lexeme_of_occurs oneLine derived inside alone written
    obtain ⟨source, after, found⟩ := exists_front_of_mem_scan scanned
    exact fun newline => clean (mem_slice_of_front found kind newline)
  refine ⟨fun name inside => ?_, fun literal inside => named inside rfl nofun (.inr rfl)⟩
  by_cases quote : name = "quote".toList
  · rw [quote]
    decide
  · exact named inside rfl (fun same => quote (Token.symbol.inj same)) (.inl rfl)

/-- A newline in a string of the value is written as an escape in a string of the text. -/
theorem exists_escape_of_newline {contents : Text} (inside : Occurs (.string contents) value)
    (newline : '\n' ∈ contents) :
    ∃ lexeme ∈ (scan text).lexemes, lexeme.token = .string contents ∧
      "\\n".toList <:+: lexeme.slice := by
  obtain ⟨lexeme, scanned, same, clean⟩ :=
    exists_lexeme_of_occurs oneLine derived inside rfl nofun
  obtain ⟨source, after, found⟩ := exists_front_of_mem_scan scanned
  exact ⟨lexeme, scanned, same, escape_of_string found same clean newline⟩

end Derived

end PackageRequires.Lisp
