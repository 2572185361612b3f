import PackageRequires.Proofs.Lisp.Printing

namespace PackageRequires.Lisp

open PackageRequires.Lisp.Expr

/-! # Which values can be read

A token that the lexer can give has a spelling, in which a backslash stands in
front of every character of a name, and blanks keep tokens apart.  So a value is
read from some text exactly if it is lexical and not nested too deep.  Of these
values, printing keeps those whose names are plain.
-/

namespace Token

/-- A text for a token.  A name is escaped throughout, unlike in print. -/
def spelling : Token → Text
  | openParen => ['(']
  | closeParen => [')']
  | quote => ['\x27']
  | symbol name => escape (fun _ => true) name
  | string contents => printString contents
  | number literal => literal

end Token

theorem splitAtom_escape_all (name : Text) {after : Text} (delimited : Delimited after) :
    splitAtom false (escape (fun _ => true) name ++ after) =
      (escape (fun _ => true) name, after) := by
  induction name with
  | nil => exact splitAtom_of_delimited delimited
  | cons c name ih =>
      have inside : endsAtom '\\' = false := by decide
      rw [escape_cons]
      simp [splitAtom, startsEscape, inside, ih]

theorem unescape?_escape_all (name : Text) :
    unescape? false (escape (fun _ => true) name) = some name := by
  induction name with
  | nil => rfl
  | cons c name ih =>
      rw [escape_cons]
      simp [unescape?, startsEscape, ih]

theorem front_escape_all {name after : Text} (nonempty : name ≠ []) (notDot : name ≠ ['.'])
    (delimited : Delimited after) :
    front (escape (fun _ => true) name ++ after) =
      .lexeme ⟨[], escape (fun _ => true) name, .ofAtom name⟩ after := by
  have split := splitAtom_escape_all name delimited
  have denotes := unescape?_escape_all name
  obtain ⟨c, name, rfl⟩ := List.exists_cons_of_ne_nil nonempty
  have visible : Text.isBlank '\\' = false := by decide
  rw [escape_cons] at split denotes ⊢
  simp only [if_true, List.cons_append, List.nil_append] at split denotes ⊢
  rw [front_of_visible _ visible (by decide),
    frontAfter_atom (by decide) (by decide) (by decide) (by decide) (by decide) split denotes,
    if_neg notDot]

/-- A token's spelling is read as that token. -/
theorem front_spelling {token : Token} {after : Text} (lexical : token.Lexical)
    (delimited : Delimited after) :
    front (token.spelling ++ after) = .lexeme ⟨[], token.spelling, token⟩ after := by
  cases token with
  | openParen => rfl
  | closeParen => rfl
  | quote => rfl
  | symbol name =>
      obtain ⟨nonempty, notDot, notNumeral⟩ := lexical
      have found := front_escape_all nonempty notDot delimited
      rwa [Token.ofAtom, notNumeral] at found
  | string contents => exact front_printString contents after
  | number literal => exact front_printNumber lexical delimited

/-- Tokens behind blanks, each in its spelling, are read as these tokens. -/
theorem tokenized_spelling {tokens : List Token} (lexical : ∀ token ∈ tokens, token.Lexical) :
    Tokenized (tokens.flatMap fun token => ' ' :: token.spelling) tokens [] := by
  induction tokens with
  | nil => exact ⟨[], .nil [], rfl⟩
  | cons token tokens ih =>
      have later := ih fun other member => lexical other (List.mem_cons_of_mem token member)
      have delimited : Delimited (tokens.flatMap fun token => ' ' :: token.spelling) := by
        cases tokens with
        | nil => exact nofun
        | cons next tokens =>
            intro c begins
            cases begins
            decide
      have first := Tokenized.single (front_spelling (lexical token List.mem_cons_self) delimited)
      exact (first.append later).behind_blank (c := ' ') rfl (by simp)

mutual

theorem lexical_tokens : (expr : Expr) → Lexical expr →
    ∀ token ∈ expr.derivation.tokens, token.Lexical
  | .symbol name, lexical => by
      obtain ⟨nonempty, -, notDot, notNumeral⟩ := lexical.1 name .self
      intro token member
      obtain rfl := List.mem_singleton.mp member
      exact ⟨nonempty, notDot, notNumeral⟩
  | .string contents, _ => by
      intro token member
      obtain rfl := List.mem_singleton.mp member
      trivial
  | .number literal, lexical => by
      intro token member
      obtain rfl := List.mem_singleton.mp member
      exact lexical.2 literal .self
  | .list [], _ => by
      intro token member
      obtain rfl := List.mem_singleton.mp member
      exact ⟨by decide, by decide, by decide⟩
  | .list (item :: items), lexical => by
      intro token member
      simp only [derivation, Derivation.tokens, Derivation.tokensOf, List.cons_append,
        List.append_assoc, List.mem_cons, List.mem_append, List.not_mem_nil, or_false] at member
      rcases member with rfl | first | later | rfl
      · trivial
      · exact lexical_tokens item (lexical.item List.mem_cons_self) token first
      · exact lexical_tokensOf items
          (fun other member => lexical.item (List.mem_cons_of_mem item member)) token later
      · trivial

theorem lexical_tokensOf : (items : List Expr) → (∀ item ∈ items, Lexical item) →
    ∀ token ∈ Derivation.tokensOf (derivations items), token.Lexical
  | [], _ => by simp [derivations, Derivation.tokensOf]
  | item :: items, lexical => by
      intro token member
      rcases List.mem_append.mp member with first | later
      · exact lexical_tokens item (lexical item List.mem_cons_self) token first
      · exact lexical_tokensOf items
          (fun other member => lexical other (List.mem_cons_of_mem item member)) token later

end

/-- What can be read at all. -/
theorem exists_read_iff {value : Expr} :
    (∃ text rest, read text = .ok (value, rest)) ↔ Lexical value ∧ value.nesting ≤ deepest := by
  constructor
  · intro readable
    obtain ⟨text, rest, finished⟩ := readable
    exact lexical_of_read finished
  · intro readable
    obtain ⟨lexical, shallow⟩ := readable
    have within : value.derivation.depth ≤ deepest := by rwa [depth_derivation]
    exact ⟨_, [], read_eq_ok_iff.mpr ⟨value.derivation,
      tokenized_spelling (lexical_tokens value lexical), value_derivation value lexical, within⟩⟩

/-- A value is read back from its printed text, with nothing left, exactly if it can
be read from some text and has plain names only. -/
theorem read_print_eq_ok_iff {value : Expr} :
    read value.print = .ok (value, []) ↔
      (Lexical value ∧ value.nesting ≤ deepest) ∧ Plain value := by
  constructor
  · intro readBack
    have readable := lexical_of_read readBack
    exact ⟨readable, (read_print_iff readable.1 readable.2).mp readBack⟩
  · intro kept
    obtain ⟨readable, plain⟩ := kept
    exact (read_print_iff readable.1 readable.2).mpr plain

/-- The values that survive printing, and the values that can be read from any text:
they differ by brackets in names and by the first characters of names. -/
theorem read_back_and_readable (value : Expr) :
    (read value.print = .ok (value, []) ↔
      value.nesting ≤ 512 ∧
      (∀ literal, Occurs (.number literal) value → isNumeral literal = true) ∧
      ∀ name, Occurs (.symbol name) value →
        name ≠ [] ∧ name ≠ "nil".toList ∧ name ≠ ['.'] ∧ isNumeral name = false ∧
          (∀ c ∈ name, c ≠ '[' ∧ c ≠ ']') ∧
          ∀ c ∈ name.head?, c ≠ '#' ∧ c ≠ '\x60' ∧ c ≠ ',' ∧ c ≠ '?') ∧
    ((∃ text rest, read text = .ok (value, rest)) ↔
      value.nesting ≤ 512 ∧
      (∀ literal, Occurs (.number literal) value → isNumeral literal = true) ∧
      ∀ name, Occurs (.symbol name) value →
        name ≠ [] ∧ name ≠ "nil".toList ∧ name ≠ ['.'] ∧ isNumeral name = false) := by
  constructor
  · rw [read_print_eq_ok_iff, Lexical, Plain, deepest]
    simp only [PlainName]
    grind
  · rw [exists_read_iff, Lexical, deepest]
    grind

end PackageRequires.Lisp
