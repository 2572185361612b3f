import PackageRequires.Proofs.Lisp.Grammar
import PackageRequires.Proofs.Lisp.Locality

namespace PackageRequires.Lisp

open PackageRequires.Lisp.Expr

/-! # Reading what was printed

A printed expression with plain names only consists of the tokens of its
derivation (`tokenized_print`), and the tokens of any other one end in a failure
at its first name that is not plain (`stuck_print`).  So an expression that was
read is read back from its printed text exactly if it is plain.
-/

namespace Expr

/-- `part` is the expression itself, or occurs in one of its items. -/
inductive Occurs (part : Expr) : Expr → Prop
  | self : Occurs part part
  | item {item : Expr} {items : List Expr} (member : item ∈ items) (inside : Occurs part item) :
      Occurs part (.list items)

/-- Whether each symbol has a name, and each number a literal, that the reader gives it. -/
def Lexical (expr : Expr) : Prop :=
  (∀ name, Occurs (.symbol name) expr → name ≠ [] ∧ name ≠ "nil".toList ∧ name ≠ ['.'] ∧
    isNumeral name = false) ∧
  ∀ literal, Occurs (.number literal) expr → isNumeral literal = true

/-- Whether the names of all symbols are plain. -/
def Plain (expr : Expr) : Prop := ∀ name, Occurs (.symbol name) expr → PlainName name

mutual

/-- How deep lists that are not empty are nested. -/
def nesting : Expr → Nat
  | .symbol _ => 0
  | .string _ => 0
  | .number _ => 0
  | .list [] => 0
  | .list (item :: items) => max (nesting item) (nestingOf items) + 1

def nestingOf : List Expr → Nat
  | [] => 0
  | item :: items => max (nesting item) (nestingOf items)

end

mutual

/-- The derivation whose tokens are printed. -/
def derivation : Expr → Derivation
  | .symbol name => .symbol name
  | .string contents => .string contents
  | .number literal => .number literal
  | .list [] => .symbol "nil".toList
  | .list (item :: items) => .list (derivation item :: derivations items)

def derivations : List Expr → List Derivation
  | [] => []
  | item :: items => derivation item :: derivations items

end

theorem Lexical.item {item : Expr} {items : List Expr} (lexical : Lexical (.list items))
    (member : item ∈ items) : Lexical item :=
  ⟨fun name inside => lexical.1 name (.item member inside),
    fun literal inside => lexical.2 literal (.item member inside)⟩

theorem Plain.item {item : Expr} {items : List Expr} (plain : Plain (.list items))
    (member : item ∈ items) : Plain item :=
  fun name inside => plain name (.item member inside)

theorem plain_list {items : List Expr} (plain : ∀ item ∈ items, Plain item) :
    Plain (.list items) := by
  intro name inside
  cases inside with
  | item member inside => exact plain _ member name inside

theorem exists_not_plain {items : List Expr} (notPlain : ¬ Plain (.list items)) :
    ∃ item ∈ items, ¬ Plain item := by
  by_contra allPlain
  refine notPlain (plain_list fun item member => ?_)
  by_contra notPlainItem
  exact allPlain ⟨item, member, notPlainItem⟩

mutual

theorem depth_derivation : (expr : Expr) → expr.derivation.depth = expr.nesting
  | .symbol _ => rfl
  | .string _ => rfl
  | .number _ => rfl
  | .list [] => rfl
  | .list (item :: items) => by
      simp only [derivation, Derivation.depth, Derivation.depthOf, nesting]
      rw [depth_derivation item, depth_derivations items]

theorem depth_derivations : (items : List Expr) →
    Derivation.depthOf (derivations items) = nestingOf items
  | [] => rfl
  | item :: items => by
      simp only [derivations, Derivation.depthOf, nestingOf]
      rw [depth_derivation item, depth_derivations items]

end

mutual

theorem value_derivation : (expr : Expr) → Lexical expr → expr.derivation.value = expr
  | .symbol name, lexical => by
      have notNil := (lexical.1 name .self).2.1
      rw [derivation, Derivation.value, if_neg notNil]
  | .string _, _ => rfl
  | .number _, _ => rfl
  | .list [], _ => rfl
  | .list (item :: items), lexical => by
      simp only [derivation, Derivation.value, Derivation.valuesOf]
      rw [value_derivation item (lexical.item List.mem_cons_self),
        value_derivations items fun other member =>
          lexical.item (List.mem_cons_of_mem item member)]

theorem value_derivations : (items : List Expr) → (∀ item ∈ items, Lexical item) →
    Derivation.valuesOf (derivations items) = items
  | [], _ => rfl
  | item :: items, lexical => by
      simp only [derivations, Derivation.valuesOf]
      rw [value_derivation item (lexical item List.mem_cons_self),
        value_derivations items fun other member => lexical other (List.mem_cons_of_mem item member)]

end

end Expr

theorem tokenized_openParen (rest : Text) : Tokenized ('(' :: rest) [.openParen] rest :=
  ⟨[⟨[], ['('], .openParen⟩], .cons rfl (.nil rest), rfl⟩

theorem tokenized_closeParen (rest : Text) : Tokenized (')' :: rest) [.closeParen] rest :=
  ⟨[⟨[], [')'], .closeParen⟩], .cons rfl (.nil rest), rfl⟩

theorem delimited_printRest (items : List Expr) (after : Text) :
    Delimited (printRest items ++ after) := by
  cases items <;> (intro c begins; cases begins; decide)

mutual

/-- A printed expression consists of the tokens of its derivation. -/
theorem tokenized_print : (expr : Expr) → Lexical expr → Plain expr → {after : Text} →
    Delimited after → Tokenized (expr.print ++ after) expr.derivation.tokens after
  | .symbol name, lexical, plain, after, delimited => by
      obtain ⟨nonempty, -, notDot, notNumeral⟩ := lexical.1 name .self
      have found := front_printSymbol nonempty (plain name .self) delimited
      rw [if_neg notDot, Token.ofAtom, notNumeral] at found
      exact .single found
  | .string contents, _, _, after, _ => .single (front_printString contents after)
  | .number literal, lexical, _, after, delimited =>
      .single (front_printNumber (lexical.2 literal .self) delimited)
  | .list [], _, _, after, delimited => by
      have plain : PlainName "nil".toList := by simp [PlainName]
      have found := front_printSymbol (by decide) plain delimited
      exact .single found
  | .list (item :: items), lexical, plain, after, delimited => by
      have opened := tokenized_openParen (item.print ++ (printRest items ++ after))
      have first := tokenized_print item (lexical.item List.mem_cons_self)
        (plain.item List.mem_cons_self) (delimited_printRest items after)
      have others := tokenized_printRest items
        (fun other member => lexical.item (List.mem_cons_of_mem item member))
        (fun other member => plain.item (List.mem_cons_of_mem item member)) after
      have whole := (opened.append first).append others
      simpa [print, derivation, Derivation.tokens, Derivation.tokensOf] using whole

theorem tokenized_printRest : (items : List Expr) → (∀ item ∈ items, Lexical item) →
    (∀ item ∈ items, Plain item) → (after : Text) →
    Tokenized (printRest items ++ after)
      (Derivation.tokensOf (derivations items) ++ [.closeParen]) after
  | [], _, _, after => tokenized_closeParen after
  | item :: items, lexical, plain, after => by
      have first := tokenized_print item (lexical item List.mem_cons_self)
        (plain item List.mem_cons_self) (delimited_printRest items after)
      have others := tokenized_printRest items
        (fun other member => lexical other (List.mem_cons_of_mem item member))
        (fun other member => plain other (List.mem_cons_of_mem item member)) after
      have whole := (first.append others).behind_blank (c := ' ') rfl (by
        simp [item.derivation.tokens_ne_nil])
      simpa [printRest, derivations, Derivation.tokensOf] using whole

end

/-- Cutting a text into tokens fails before its end. -/
def Stuck (text : Text) : Prop :=
  ∃ consumed error rest, (scan text).ending = .failed consumed error rest

theorem stuck_of_failed {text consumed rest : Text} {error : ReadError}
    (failed : front text = .failed consumed error rest) : Stuck text := by
  rw [Stuck, scan_of_failed failed]
  exact ⟨consumed, error, rest, rfl⟩

theorem Tokenized.stuck {text rest : Text} {tokens : List Token}
    (tokenized : Tokenized text tokens rest) (stuck : Stuck rest) : Stuck text := by
  obtain ⟨lexemes, lexed, -⟩ := tokenized
  rw [Stuck, lexed.scan]
  exact stuck

theorem Stuck.behind_blank {c : Char} {text : Text} (blank : Text.isBlank c = true)
    (stuck : Stuck text) : Stuck (c :: text) := by
  have moved := front_blank text blank
  cases found : front text with
  | finished gap =>
      rw [Stuck, scan_of_finished found] at stuck
      simp at stuck
  | lexeme lexeme rest =>
      rw [Stuck, scan_of_lexeme found] at stuck
      rw [found] at moved
      rw [Stuck, scan_of_lexeme moved]
      exact stuck
  | failed consumed error rest =>
      rw [found] at moved
      exact stuck_of_failed moved

theorem Stuck.not_read {text : Text} (stuck : Stuck text) (value : Expr) :
    read text ≠ .ok (value, []) := by
  intro finished
  obtain ⟨derivation, ⟨lexemes, lexed, -⟩, -, -⟩ := read_eq_ok_iff.mp finished
  obtain ⟨consumed, error, rest, ending⟩ := stuck
  rw [lexed.scan] at ending
  simp [scan, front, splitGap, frontAfter] at ending

/-- A name that is not plain begins with a character that begins no atom, or has
a bracket behind a plain part. -/
theorem not_plainName {name : Text} (notPlain : ¬ PlainName name) :
    (∃ c rest, name = c :: rest ∧ isUnsupported c = true) ∨
      ∃ good bracket rest, name = good ++ bracket :: rest ∧ good ≠ [] ∧ PlainName good ∧
        (bracket = '[' ∨ bracket = ']') := by
  cases name with
  | nil => exact absurd ⟨by simp, by simp⟩ notPlain
  | cons c name =>
      cases unsupported : isUnsupported c with
      | true => exact .inl ⟨c, name, rfl, unsupported⟩
      | false =>
          simp only [isUnsupported, Bool.or_eq_false_iff, beq_eq_false_iff_ne] at unsupported
          obtain ⟨⟨⟨⟨⟨notOpen, notClose⟩, hash⟩, backquote⟩, comma⟩, question⟩ := unsupported
          have begins : ∀ d ∈ (c :: name).head?, d ≠ '#' ∧ d ≠ '\x60' ∧ d ≠ ',' ∧ d ≠ '?' := by
            intro d same
            cases same
            exact ⟨hash, backquote, comma, question⟩
          let inside (d : Char) : Bool := d != '[' && d != ']'
          have cut := List.takeWhile_append_dropWhile (p := inside) (l := c :: name)
          cases left : (c :: name).dropWhile inside with
          | nil =>
              have all := List.dropWhile_eq_nil_iff.mp left
              refine absurd ⟨fun d member => ?_, begins⟩ notPlain
              simpa [inside] using all d member
          | cons bracket rest =>
              rw [left] at cut
              refine .inr ⟨_, bracket, rest, cut.symm, ?_, ⟨fun d member => ?_, ?_⟩, ?_⟩
              · simp [inside, notOpen, notClose]
              · simpa [inside] using List.mem_takeWhile_imp member
              · simpa [inside, notOpen, notClose] using begins
              · have stops := List.head_dropWhile_not inside (l := c :: name) (by simp [left])
                simp only [left, List.head_cons, inside] at stops
                simpa [or_iff_not_imp_left] using stops

theorem stuck_printSymbol {name : Text} (notPlain : ¬ PlainName name) (after : Text) :
    Stuck (printSymbol name ++ after) := by
  rcases not_plainName notPlain with ⟨c, rest, rfl, unsupported⟩ |
    ⟨good, bracket, rest, rfl, nonempty, plain, isBracket⟩
  · have bare : isEscapedInSymbol c = false := by
      simp only [isUnsupported, Bool.or_eq_true, beq_iff_eq] at unsupported
      rcases unsupported with ((((rfl | rfl) | rfl) | rfl) | rfl) | rfl <;> decide
    rw [printSymbol, escape_cons, bare]
    exact stuck_of_failed (front_unsupported _ unsupported)
  · have unsupported : isUnsupported bracket = true := by
      rcases isBracket with rfl | rfl <;> decide
    have bare : isEscapedInSymbol bracket = false := by
      rcases isBracket with rfl | rfl <;> decide
    have delimited : Delimited (bracket :: (printSymbol rest ++ after)) := by
      intro c begins
      cases begins
      rcases isBracket with rfl | rfl <;> decide
    have printed : printSymbol (good ++ bracket :: rest) ++ after =
        printSymbol good ++ bracket :: (printSymbol rest ++ after) := by
      simp [printSymbol, escape_append, escape_cons, bare]
    have found := front_printSymbol nonempty plain delimited
    rw [printed]
    split at found
    · exact stuck_of_failed found
    · exact (Tokenized.single found).stuck (stuck_of_failed (front_unsupported _ unsupported))

/-- A sequence of printed items fails at the first that is not plain. -/
theorem stuck_sequence {item : Expr} {items : List Expr} {after : Text} (lexical : Lexical item)
    (here : ¬ Plain item → Stuck (item.print ++ (printRest items ++ after)))
    (later : (∃ other ∈ items, ¬ Plain other) → Stuck (printRest items ++ after))
    (bad : ∃ other ∈ item :: items, ¬ Plain other) :
    Stuck (item.print ++ (printRest items ++ after)) := by
  by_cases plain : Plain item
  · have first := tokenized_print item lexical plain (delimited_printRest items after)
    obtain ⟨other, member, bad⟩ := bad
    rcases List.mem_cons.mp member with rfl | member
    · contradiction
    · exact first.stuck (later ⟨other, member, bad⟩)
  · exact here plain

mutual

theorem stuck_print : (expr : Expr) → Lexical expr → ¬ Plain expr → (after : Text) →
    Stuck (expr.print ++ after)
  | .symbol name, _, notPlain, after => by
      refine stuck_printSymbol (fun plain => notPlain ?_) after
      intro other inside
      cases inside
      exact plain
  | .string contents, _, notPlain, _ => absurd (fun _ inside => nomatch inside) notPlain
  | .number literal, _, notPlain, _ => absurd (fun _ inside => nomatch inside) notPlain
  | .list [], _, notPlain, _ => by
      obtain ⟨item, member, -⟩ := exists_not_plain notPlain
      contradiction
  | .list (item :: items), lexical, notPlain, after => by
      have opened := tokenized_openParen (item.print ++ (printRest items ++ after))
      have lexicalItem := lexical.item List.mem_cons_self
      have stuck := stuck_sequence lexicalItem
        (fun bad => stuck_print item lexicalItem bad (printRest items ++ after))
        (fun bad => stuck_printRest items
          (fun other member => lexical.item (List.mem_cons_of_mem item member)) bad after)
        (exists_not_plain notPlain)
      simpa [print] using opened.stuck stuck

theorem stuck_printRest : (items : List Expr) → (∀ item ∈ items, Lexical item) →
    (∃ item ∈ items, ¬ Plain item) → (after : Text) → Stuck (printRest items ++ after)
  | [], _, bad, _ => by simp at bad
  | item :: items, lexical, bad, after => by
      have lexicalItem := lexical item List.mem_cons_self
      have stuck := stuck_sequence lexicalItem
        (fun bad => stuck_print item lexicalItem bad (printRest items ++ after))
        (fun bad => stuck_printRest items
          (fun other member => lexical other (List.mem_cons_of_mem item member)) bad after)
        bad
      simpa [printRest] using stuck.behind_blank (c := ' ') rfl

end

theorem Tokenized.lexical {text rest : Text} {tokens : List Token}
    (tokenized : Tokenized text tokens rest) : ∀ token ∈ tokens, token.Lexical := by
  obtain ⟨lexemes, lexed, rfl⟩ := tokenized
  induction lexed with
  | nil => simp
  | cons found later ih =>
      intro token member
      rcases List.mem_cons.mp member with rfl | member
      · exact front_lexical found
      · exact ih token member

theorem Expr.lexical_list {items : List Expr} (lexical : ∀ item ∈ items, Lexical item) :
    Lexical (.list items) := by
  refine ⟨fun name inside => ?_, fun literal inside => ?_⟩
  · cases inside with
    | item member inside => exact (lexical _ member).1 name inside
  · cases inside with
    | item member inside => exact (lexical _ member).2 literal inside

theorem Expr.lexical_symbol {name : Text} (notNil : name ≠ "nil".toList)
    (lexical : (Token.symbol name).Lexical) : Expr.Lexical (.symbol name) := by
  refine ⟨fun other inside => ?_, fun literal inside => ?_⟩
  · cases inside
    exact ⟨lexical.1, notNil, lexical.2⟩
  · cases inside

mutual

/-- The value of a derivation from such tokens is lexical. -/
theorem Derivation.lexical_value : (derivation : Derivation) →
    (∀ token ∈ derivation.tokens, token.Lexical) → derivation.value.Lexical
  | .symbol name, lexical => by
      rw [value]
      split
      · exact Expr.lexical_list (by simp)
      · rename_i notNil
        exact Expr.lexical_symbol notNil (lexical _ (by simp [tokens]))
  | .string contents, _ => ⟨nofun, nofun⟩
  | .number literal, lexical => by
      refine ⟨nofun, fun other inside => ?_⟩
      cases inside
      exact lexical (.number literal) (by simp [tokens])
  | .quote quoted, lexical => by
      have inner := lexical_value quoted fun token member => lexical token (by simp [tokens, member])
      have quoteName : Expr.Lexical (.symbol "quote".toList) :=
        Expr.lexical_symbol (by decide) ⟨by decide, by decide, by decide⟩
      refine Expr.lexical_list fun item member => ?_
      simp only [List.mem_cons, List.not_mem_nil, or_false] at member
      rcases member with rfl | rfl
      · exact quoteName
      · exact inner
  | .list items, lexical =>
      Expr.lexical_list <| lexical_values items fun token member =>
        lexical token (by simp [tokens, member])

theorem Derivation.lexical_values : (items : List Derivation) →
    (∀ token ∈ tokensOf items, token.Lexical) → ∀ value ∈ valuesOf items, value.Lexical
  | [], _ => by simp [valuesOf]
  | item :: items, lexical => by
      intro value member
      rcases List.mem_cons.mp member with rfl | member
      · exact lexical_value item fun token inside => lexical token (by simp [tokensOf, inside])
      · exact lexical_values items
          (fun token inside => lexical token (by simp [tokensOf, inside])) value member

end

mutual

theorem Derivation.nesting_value_le : (derivation : Derivation) →
    derivation.value.nesting ≤ derivation.depth
  | .symbol name => by
      rw [value]
      split <;> simp [nesting, depth]
  | .string _ => Nat.le_refl 0
  | .number _ => Nat.le_refl 0
  | .quote quoted => by
      have := nesting_value_le quoted
      simp only [value, nesting, nestingOf, depth]
      omega
  | .list items => by
      have := nesting_values_le items
      cases items with
      | nil => simp [value, valuesOf, nesting]
      | cons item items =>
          simp only [value, valuesOf, nesting, nestingOf, depth] at this ⊢
          omega

theorem Derivation.nesting_values_le : (items : List Derivation) →
    nestingOf (valuesOf items) ≤ depthOf items
  | [] => Nat.le_refl 0
  | item :: items => by
      have := nesting_value_le item
      have := nesting_values_le items
      simp only [valuesOf, nestingOf, depthOf]
      omega

end

/-- What is known of every expression that was read. -/
theorem lexical_of_read {text rest : Text} {value : Expr} (finished : read text = .ok (value, rest)) :
    Lexical value ∧ value.nesting ≤ deepest := by
  obtain ⟨derivation, tokenized, rfl, within⟩ := read_eq_ok_iff.mp finished
  exact ⟨derivation.lexical_value tokenized.lexical,
    Nat.le_trans derivation.nesting_value_le within⟩

theorem read_print_iff {value : Expr} (lexical : Lexical value) (shallow : value.nesting ≤ deepest) :
    read value.print = .ok (value, []) ↔ Plain value := by
  constructor
  · intro readBack
    by_contra notPlain
    have stuck := stuck_print value lexical notPlain []
    rw [List.append_nil] at stuck
    exact stuck.not_read value readBack
  · intro plain
    have tokenized := @tokenized_print value lexical plain [] nofun
    rw [List.append_nil] at tokenized
    have within : value.derivation.depth ≤ deepest := by rwa [depth_derivation]
    exact read_eq_ok_iff.mpr ⟨value.derivation, tokenized, value_derivation value lexical, within⟩

/-- What was read is read back from its printed text, with nothing left, exactly
if no symbol of it has a bracket or begins with a character that begins no atom. -/
theorem read_back_iff_plain {text rest : Text} {value : Expr}
    (finished : read text = .ok (value, rest)) :
    read value.print = .ok (value, []) ↔
      ∀ name, Occurs (.symbol name) value →
        (∀ c ∈ name, c ≠ '[' ∧ c ≠ ']') ∧
          ∀ c ∈ name.head?, c ≠ '#' ∧ c ≠ '\x60' ∧ c ≠ ',' ∧ c ≠ '?' := by
  obtain ⟨lexical, shallow⟩ := lexical_of_read finished
  exact read_print_iff lexical shallow

theorem read_back_quoted_list :
    read "'(a\\ b \"c\\\"\") d".toList = .ok (.list [.symbol "quote".toList,
        .list [.symbol "a b".toList, .string "c\"".toList]], " d".toList) ∧
      read "(quote (a\\ b \"c\\\"\"))".toList = .ok (.list [.symbol "quote".toList,
        .list [.symbol "a b".toList, .string "c\"".toList]], []) := by
  have finished : read "'(a\\ b \"c\\\"\") d".toList = .ok (.list [.symbol "quote".toList,
      .list [.symbol "a b".toList, .string "c\"".toList]], " d".toList) :=
    read_eq_ok_iff.mpr ⟨.quote (.list [.symbol "a b".toList, .string "c\"".toList]),
      ⟨_, .cons rfl (.cons rfl (.cons rfl (.cons rfl (.cons rfl (.nil _))))), rfl⟩, rfl, by decide⟩
  refine ⟨finished, (read_back_iff_plain finished).mpr (plain_list fun item member => ?_)⟩
  simp only [List.mem_cons, List.not_mem_nil, or_false] at member
  rcases member with rfl | rfl
  · rintro name ⟨⟩
    simp [PlainName]
  · refine plain_list fun item member => ?_
    simp only [List.mem_cons, List.not_mem_nil, or_false] at member
    rcases member with rfl | rfl
    · rintro name ⟨⟩
      simp [PlainName]
    · rintro name ⟨⟩

/-- A bracket that was escaped is printed bare, and ends the symbol there. -/
theorem read_printed_bracket :
    read "a\\[b".toList = .ok (.symbol "a[b".toList, []) ∧
      read (print (.symbol "a[b".toList)) ≠ .ok (.symbol "a[b".toList, []) := by
  have finished : read "a\\[b".toList = .ok (.symbol "a[b".toList, []) :=
    read_eq_ok_iff.mpr ⟨.symbol "a[b".toList, ⟨_, .cons rfl (.nil _), rfl⟩, rfl, by decide⟩
  obtain ⟨lexical, shallow⟩ := lexical_of_read finished
  refine ⟨finished, fun readBack => ?_⟩
  have plain := (read_print_iff lexical shallow).mp readBack "a[b".toList .self
  exact (plain.1 '[' (by decide)).1 rfl

end PackageRequires.Lisp
