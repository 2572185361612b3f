import Mathlib.Data.Set.Subsingleton
import PackageRequires.Proofs.Lisp.Lexing
import PackageRequires.Lisp.Reader

namespace PackageRequires.Lisp

/-! # The grammar of the reader

    expr → Symbol | Str | Number | Quote expr | OpenParen expr* CloseParen

A `Derivation` is a tree of this grammar.  The stack of the reader stands for
the part of a tree that the tokens read so far determine (`Opened`), and each
token keeps this.  So what is read has a derivation, and since the tokens of a
derivation take the stack through the same tree, what has a derivation is read.
-/

/-- A derivation of one expression, by the rule at its root. -/
inductive Derivation where
  | symbol (name : Text)
  | string (contents : Text)
  | number (literal : Text)
  | quote (value : Derivation)
  | list (items : List Derivation)

namespace Derivation

mutual

/-- The tokens at the leaves, from left to right. -/
def tokens : Derivation → List Token
  | .symbol name => [.symbol name]
  | .string contents => [.string contents]
  | .number literal => [.number literal]
  | .quote value => .quote :: tokens value
  | .list items => .openParen :: tokensOf items ++ [.closeParen]

def tokensOf : List Derivation → List Token
  | [] => []
  | item :: items => tokens item ++ tokensOf items

end

mutual

/-- The expression that is derived. -/
def value : Derivation → Expr
  | .symbol name => if name = "nil".toList then .list [] else .symbol name
  | .string contents => .string contents
  | .number literal => .number literal
  | .quote quoted => .list [.symbol "quote".toList, value quoted]
  | .list items => .list (valuesOf items)

def valuesOf : List Derivation → List Expr
  | [] => []
  | item :: items => value item :: valuesOf items

end

mutual

/-- How many parentheses and quotes are open at once where the most are. -/
def depth : Derivation → Nat
  | .symbol _ => 0
  | .string _ => 0
  | .number _ => 0
  | .quote value => depth value + 1
  | .list items => depthOf items + 1

def depthOf : List Derivation → Nat
  | [] => 0
  | item :: items => max (depth item) (depthOf items)

end

theorem tokensOf_append (front back : List Derivation) :
    tokensOf (front ++ back) = tokensOf front ++ tokensOf back := by
  induction front with
  | nil => rfl
  | cons item front ih => simp [tokensOf, ih]

theorem valuesOf_append (front back : List Derivation) :
    valuesOf (front ++ back) = valuesOf front ++ valuesOf back := by
  induction front with
  | nil => rfl
  | cons item front ih => simp [valuesOf, ih]

theorem depthOf_append (front back : List Derivation) :
    depthOf (front ++ back) = max (depthOf front) (depthOf back) := by
  induction front with
  | nil => simp [depthOf]
  | cons item front ih => simp [depthOf, ih, Nat.max_assoc]

theorem tokens_ne_nil (derivation : Derivation) : derivation.tokens ≠ [] := by
  cases derivation <;> simp [tokens]

theorem tokens_ne_closeParen (derivation : Derivation) (rest rest' : List Token) :
    derivation.tokens ++ rest ≠ .closeParen :: rest' := by
  cases derivation <;> simp [tokens]

mutual

/-- No derivation derives the beginning of what another derives. -/
theorem tokens_append_inj : (left right : Derivation) → {after after' : List Token} →
    left.tokens ++ after = right.tokens ++ after' → left = right ∧ after = after'
  | .symbol _, right, _, _, same => by
      cases right <;> simp_all [tokens]
  | .string _, right, _, _, same => by
      cases right <;> simp_all [tokens]
  | .number _, right, _, _, same => by
      cases right <;> simp_all [tokens]
  | .quote left, right, after, after', same => by
      cases right with
      | quote right =>
          simp only [tokens, List.cons_append, List.cons.injEq, true_and] at same
          obtain ⟨rfl, rest⟩ := tokens_append_inj left right same
          exact ⟨rfl, rest⟩
      | _ => simp [tokens] at same
  | .list left, right, after, after', same => by
      cases right with
      | list right =>
          simp only [tokens, List.cons_append, List.append_assoc, List.nil_append,
            List.cons.injEq, true_and] at same
          obtain ⟨rfl, rest⟩ := tokensOf_append_inj left right same
          exact ⟨rfl, rest⟩
      | _ => simp [tokens] at same

theorem tokensOf_append_inj : (left right : List Derivation) → {after after' : List Token} →
    tokensOf left ++ .closeParen :: after = tokensOf right ++ .closeParen :: after' →
    left = right ∧ after = after'
  | [], [], _, _, same => by simpa [tokensOf] using same
  | [], item :: items, after, after', same => by
      simp only [tokensOf, List.nil_append, List.append_assoc] at same
      exact absurd same.symm (tokens_ne_closeParen item _ _)
  | item :: items, [], after, after', same => by
      simp only [tokensOf, List.nil_append, List.append_assoc] at same
      exact absurd same (tokens_ne_closeParen item _ _)
  | item :: items, item' :: items', after, after', same => by
      simp only [tokensOf, List.append_assoc] at same
      obtain ⟨rfl, later⟩ := tokens_append_inj item item' same
      obtain ⟨rfl, rest⟩ := tokensOf_append_inj items items' later
      exact ⟨rfl, rest⟩

end

end Derivation

/-- The tokens of one derivation at the front of a text determine it, and where they end. -/
theorem Tokenized.unique {text rest rest' : Text} {left right : Derivation}
    (begins : Tokenized text left.tokens rest)
    (begins' : Tokenized text right.tokens rest') : left = right ∧ rest = rest' := by
  obtain ⟨lexemes, lexed, same⟩ := begins
  obtain ⟨lexemes', lexed', same'⟩ := begins'
  -- both lists of lexemes begin the same scan, so the derivations begin the same tokens
  have scanned := lexed.scan.symm.trans lexed'.scan
  simp only [Scan.mk.injEq] at scanned
  have tokens := congrArg (List.map Lexeme.token) scanned.1
  rw [List.map_append, List.map_append, same, same'] at tokens
  obtain ⟨equal, after⟩ := Derivation.tokens_append_inj left right tokens
  have counts : lexemes.length = lexemes'.length := by
    have left := congrArg List.length same
    have right := congrArg List.length same'
    simp only [List.length_map] at left right
    rw [left, right, equal]
  obtain ⟨rfl, -⟩ := List.append_inj scanned.1 counts
  refine ⟨equal, ?_⟩
  have whole := lexed.text.trans lexed'.text.symm
  exact List.append_cancel_left whole

section Reading

variable {limit : Option Nat} {ending : Ending}

/-- Reads on with what a token led to. -/
def proceed (limit : Option Nat) (ending : Ending) (later : List Lexeme) :
    Progress → Except ReadFailure (Expr × Text)
  | .finished value => .ok (value, textOf later ending)
  | .reading stack => readLexemes limit ending stack later

theorem readLexemes_of_advance {stack : List Frame} {lexeme : Lexeme} {later : List Lexeme}
    {progress : Progress} (advanced : advance limit stack lexeme.token = .ok progress) :
    readLexemes limit ending stack (lexeme :: later) = proceed limit ending later progress := by
  cases progress <;> simp only [readLexemes, advanced, proceed]

theorem push_of_room {stack : List Frame} {frame : Frame}
    (room : ∀ bound ∈ limit, stack.length < bound) :
    push limit frame stack = .ok (.reading (frame :: stack)) := by
  cases limit with
  | none => rfl
  | some bound =>
      have fits : ¬ bound ≤ stack.length := Nat.not_le.mpr (room bound rfl)
      simp only [push, if_neg fits]

theorem push_eq_ok {stack : List Frame} {frame : Frame} {progress : Progress}
    (pushed : push limit frame stack = .ok progress) :
    progress = .reading (frame :: stack) ∧ ∀ bound ∈ limit, stack.length < bound := by
  cases limit with
  | none => cases pushed; simp
  | some bound =>
      simp only [push] at pushed
      split at pushed
      · contradiction
      · rename_i fits
        cases pushed
        refine ⟨rfl, fun other same => ?_⟩
        cases same
        exact Nat.not_le.mp fits

/-- The lexemes lead from one stack to another, and finish no value on the way. -/
inductive Walks (limit : Option Nat) : List Frame → List Lexeme → List Frame → Prop
  | nil (stack : List Frame) : Walks limit stack [] stack
  | cons {stack next top : List Frame} {lexeme : Lexeme} {lexemes : List Lexeme}
      (advanced : advance limit stack lexeme.token = .ok (.reading next))
      (later : Walks limit next lexemes top) : Walks limit stack (lexeme :: lexemes) top

/-- The lexemes lead from a stack to a progress; if that is a value, the last one finishes it. -/
def Leads (limit : Option Nat) (stack : List Frame) (lexemes : List Lexeme) : Progress → Prop
  | .reading top => Walks limit stack lexemes top
  | .finished value => ∃ front last middle, lexemes = front ++ [last] ∧
      Walks limit stack front middle ∧ advance limit middle last.token = .ok (.finished value)

section Walking

variable {stack middle top : List Frame} {lexemes later : List Lexeme} {progress : Progress}

theorem Walks.readLexemes (walks : Walks limit stack lexemes top) (later : List Lexeme) :
    readLexemes limit ending stack (lexemes ++ later) =
      Lisp.readLexemes limit ending top later := by
  induction walks with
  | nil stack => rfl
  | cons advanced _ ih => rw [List.cons_append, readLexemes_of_advance advanced, proceed, ih]

theorem Walks.append (first : Walks limit stack lexemes middle)
    (second : Walks limit middle later top) : Walks limit stack (lexemes ++ later) top := by
  induction first with
  | nil stack => exact second
  | cons advanced _ ih => exact .cons advanced (ih second)

theorem Walks.leads (first : Walks limit stack lexemes middle)
    (second : Leads limit middle later progress) : Leads limit stack (lexemes ++ later) progress := by
  cases progress with
  | reading top => exact first.append second
  | finished value =>
      obtain ⟨front, last, before, rfl, walks, ends⟩ := second
      exact ⟨lexemes ++ front, last, before, by simp, first.append walks, ends⟩

theorem Leads.single {lexeme : Lexeme} {token : Token} (same : lexeme.token = token)
    (advanced : advance limit stack token = .ok progress) : Leads limit stack [lexeme] progress := by
  rw [← same] at advanced
  cases progress with
  | reading top => exact .cons advanced (.nil top)
  | finished value => exact ⟨[], lexeme, stack, rfl, .nil stack, advanced⟩

theorem Leads.readLexemes (leads : Leads limit stack lexemes progress) (later : List Lexeme) :
    readLexemes limit ending stack (lexemes ++ later) = proceed limit ending later progress := by
  cases progress with
  | reading top => exact Walks.readLexemes leads later
  | finished value =>
      obtain ⟨front, last, middle, rfl, walks, ends⟩ := leads
      rw [List.append_assoc, walks.readLexemes, List.singleton_append, readLexemes_of_advance ends]

end Walking

mutual

/-- The tokens of a derivation add its value to the stack. -/
theorem leads_tokens : (derivation : Derivation) → (stack : List Frame) →
    (consumed : List Lexeme) → consumed.map Lexeme.token = derivation.tokens →
    (∀ bound ∈ limit, stack.length + derivation.depth ≤ bound) →
    Leads limit stack consumed (complete derivation.value stack)
  | .symbol name, stack, consumed, same, _ => by
      simp only [Derivation.tokens, List.map_eq_singleton_iff] at same
      obtain ⟨lexeme, rfl, token⟩ := same
      exact .single token rfl
  | .string contents, stack, consumed, same, _ => by
      simp only [Derivation.tokens, List.map_eq_singleton_iff] at same
      obtain ⟨lexeme, rfl, token⟩ := same
      exact .single token rfl
  | .number literal, stack, consumed, same, _ => by
      simp only [Derivation.tokens, List.map_eq_singleton_iff] at same
      obtain ⟨lexeme, rfl, token⟩ := same
      exact .single token rfl
  | .quote value, stack, consumed, same, within => by
      simp only [Derivation.tokens, List.map_eq_cons_iff] at same
      obtain ⟨lexeme, inner, rfl, token, same⟩ := same
      simp only [Derivation.depth] at within
      have opened : Leads limit stack [lexeme] (.reading (.quote :: stack)) :=
        .single token (push_of_room fun bound member => by have := within bound member; omega)
      refine Walks.leads opened (leads_tokens value (.quote :: stack) inner same ?_)
      intro bound member
      have := within bound member
      simp only [List.length_cons]
      omega
  | .list items, stack, consumed, same, within => by
      simp only [Derivation.tokens, List.cons_append, List.map_eq_cons_iff,
        List.map_eq_append_iff, List.map_eq_nil_iff] at same
      obtain ⟨lexeme, tail, rfl, token, inner, last, rfl, same, close, after, rfl, closed, rfl⟩ :=
        same
      simp only [Derivation.depth] at within
      have opened : Leads limit stack [lexeme] (.reading (.list [] :: stack)) :=
        .single token (push_of_room fun bound member => by have := within bound member; omega)
      have filled := walks_tokensOf items [] stack inner same within
      have ended : Leads limit (.list ((Derivation.valuesOf items).reverse ++ []) :: stack) [close]
          (complete (.list (Derivation.valuesOf items)) stack) :=
        .single closed (by simp [advance])
      exact Walks.leads opened (filled.leads ended)

/-- The tokens of a list's items add their values to the list that is open. -/
theorem walks_tokensOf : (items : List Derivation) → (done : List Expr) →
    (outer : List Frame) → (consumed : List Lexeme) →
    consumed.map Lexeme.token = Derivation.tokensOf items →
    (∀ bound ∈ limit, outer.length + (Derivation.depthOf items + 1) ≤ bound) →
    Walks limit (.list done :: outer) consumed
      (.list ((Derivation.valuesOf items).reverse ++ done) :: outer)
  | [], done, outer, consumed, same, _ => by
      simp only [Derivation.tokensOf, List.map_eq_nil_iff] at same
      subst same
      exact .nil _
  | item :: items, done, outer, consumed, same, within => by
      simp only [Derivation.tokensOf, List.map_eq_append_iff] at same
      obtain ⟨first, others, rfl, same, sameOthers⟩ := same
      simp only [Derivation.depthOf] at within
      have here : Walks limit (.list done :: outer) first (.list (item.value :: done) :: outer) :=
        leads_tokens item (.list done :: outer) first same fun bound member => by
          have := within bound member
          simp only [List.length_cons]
          omega
      have after := walks_tokensOf items (item.value :: done) outer others sameOthers
        fun bound member => by have := within bound member; omega
      simpa [Derivation.valuesOf] using here.append after

end

/-- The tokens whose reading leaves `stack` open: for each frame, from the
outermost on, the token that opened it and the items that are complete. -/
inductive Opened (limit : Option Nat) : List Frame → List Token → Prop
  | start : Opened limit [] []
  | list {outer : List Frame} {tokens : List Token} (items : List Derivation)
      (opened : Opened limit outer tokens)
      (within : ∀ bound ∈ limit, outer.length + (Derivation.depthOf items + 1) ≤ bound) :
      Opened limit (.list (Derivation.valuesOf items).reverse :: outer)
        (tokens ++ .openParen :: Derivation.tokensOf items)
  | quote {outer : List Frame} {tokens : List Token} (opened : Opened limit outer tokens)
      (within : ∀ bound ∈ limit, outer.length < bound) :
      Opened limit (.quote :: outer) (tokens ++ [.quote])

theorem Opened.length_le {stack : List Frame} {tokens : List Token}
    (opened : Opened limit stack tokens) : ∀ bound ∈ limit, stack.length ≤ bound := by
  intro bound member
  cases opened with
  | start => exact Nat.zero_le bound
  | list items opened within =>
      have := within bound member
      simp only [List.length_cons]
      omega
  | quote opened within => exact within bound member

/-- The tokens that lead to a progress: those of one derivation, or those of a stack. -/
def Reached (limit : Option Nat) (tokens : List Token) : Progress → Prop
  | .finished value => ∃ derivation : Derivation, derivation.tokens = tokens ∧
      derivation.value = value ∧ ∀ bound ∈ limit, derivation.depth ≤ bound
  | .reading stack => Opened limit stack tokens

theorem Opened.complete {stack : List Frame} {tokens : List Token}
    (opened : Opened limit stack tokens) (derivation : Derivation)
    (within : ∀ bound ∈ limit, stack.length + derivation.depth ≤ bound) :
    Reached limit (tokens ++ derivation.tokens) (complete derivation.value stack) := by
  induction opened generalizing derivation with
  | start => exact ⟨derivation, rfl, rfl, by simpa using within⟩
  | @list outer tokens items opened room ih =>
      have longer := Opened.list (items ++ [derivation]) opened (fun bound member => by
        have := room bound member
        have := within bound member
        simp only [Derivation.depthOf_append, Derivation.depthOf]
        simp only [List.length_cons] at this
        omega)
      simpa [Reached, Lisp.complete, Derivation.valuesOf_append, Derivation.valuesOf,
        Derivation.tokensOf_append, Derivation.tokensOf] using longer
  | @quote outer tokens opened room ih =>
      have outward := ih (.quote derivation) (fun bound member => by
        have := within bound member
        simp only [List.length_cons] at this
        simp only [Derivation.depth]
        omega)
      rw [Derivation.tokens] at outward
      rw [List.append_assoc]
      exact outward

/-- One token keeps what the stack stands for. -/
theorem Opened.advance {stack : List Frame} {tokens : List Token} {token : Token}
    {progress : Progress} (opened : Opened limit stack tokens)
    (advanced : advance limit stack token = .ok progress) :
    Reached limit (tokens ++ [token]) progress := by
  cases token with
  | openParen =>
      obtain ⟨rfl, room⟩ := push_eq_ok advanced
      exact .list [] opened room
  | quote =>
      obtain ⟨rfl, room⟩ := push_eq_ok advanced
      exact .quote opened room
  | closeParen =>
      cases opened with
      | start => simp [Lisp.advance] at advanced
      | quote opened within => simp [Lisp.advance] at advanced
      | @list outer tokens items opened within =>
          simp only [Lisp.advance, List.reverse_reverse, Except.ok.injEq] at advanced
          subst advanced
          simpa [Derivation.tokens, Derivation.value] using opened.complete (.list items) within
  | symbol name =>
      cases advanced
      exact opened.complete (.symbol name) (by simpa [Derivation.depth] using opened.length_le)
  | string contents =>
      cases advanced
      exact opened.complete (.string contents) (by simpa [Derivation.depth] using opened.length_le)
  | number literal =>
      cases advanced
      exact opened.complete (.number literal) (by simpa [Derivation.depth] using opened.length_le)

/-- What is read from a stack, the tokens of the stack included, has a derivation. -/
theorem Opened.readLexemes {stack : List Frame} {tokens : List Token} {lexemes : List Lexeme}
    {value : Expr} {rest : Text} (opened : Opened limit stack tokens)
    (finished : readLexemes limit ending stack lexemes = .ok (value, rest)) :
    ∃ consumed later, lexemes = consumed ++ later ∧ rest = textOf later ending ∧
      Reached limit (tokens ++ consumed.map Lexeme.token) (.finished value) := by
  induction lexemes generalizing stack tokens with
  | nil => simp [Lisp.readLexemes] at finished
  | cons lexeme lexemes ih =>
      cases advanced : Lisp.advance limit stack lexeme.token with
      | error reason => simp [Lisp.readLexemes, advanced] at finished
      | ok progress =>
          have reached := opened.advance advanced
          rw [readLexemes_of_advance advanced] at finished
          cases progress with
          | finished found =>
              simp only [proceed, Except.ok.injEq, Prod.mk.injEq] at finished
              obtain ⟨rfl, rfl⟩ := finished
              exact ⟨[lexeme], lexemes, rfl, rfl, reached⟩
          | reading stack =>
              obtain ⟨consumed, later, rfl, rest, derived⟩ := ih reached finished
              refine ⟨lexeme :: consumed, later, rfl, rest, ?_⟩
              simpa using derived

/-- The reader accepts exactly what the grammar derives. -/
theorem readWithin_eq_ok_iff {text rest : Text} {value : Expr} :
    readWithin limit text = .ok (value, rest) ↔
      ∃ derivation : Derivation, Tokenized text derivation.tokens rest ∧ derivation.value = value ∧
        ∀ bound ∈ limit, derivation.depth ≤ bound := by
  constructor
  · intro finished
    obtain ⟨consumed, later, scanned, rfl, derivation, tokens, rfl, within⟩ :=
      Opened.start.readLexemes finished
    exact ⟨derivation, ⟨consumed, lexed_of_scan scanned, tokens.symm⟩, rfl, within⟩
  · rintro ⟨derivation, ⟨lexemes, lexed, tokens⟩, rfl, within⟩
    simp only [readWithin, lexed.scan]
    rw [(leads_tokens derivation [] lexemes tokens (by simpa using within)).readLexemes]
    have left := text_scan rest
    rw [Scan.text] at left
    rw [complete, proceed, left]

end Reading

/-- A text begins with the tokens of an expression, with at most 512 parentheses
and quotes open at once, and `rest` stands behind them. -/
def Derived (text : Text) (value : Expr) (rest : Text) : Prop :=
  ∃ derivation : Derivation, Tokenized text derivation.tokens rest ∧ derivation.value = value ∧
    derivation.depth ≤ 512

theorem read_eq_ok_iff {text rest : Text} {value : Expr} :
    read text = .ok (value, rest) ↔ Derived text value rest := by
  simp [read, readWithin_eq_ok_iff, Derived, deepest]

/-- The tokens of a text through the one that ends at byte `offset` derive
`value`, with at most 512 parentheses and quotes open at once. -/
def DerivedThrough (text : Text) (value : Expr) (offset : Nat) : Prop :=
  ∃ (lexemes : List Lexeme) (rest : Text) (derivation : Derivation),
    Lexed text lexemes rest ∧ Text.utf8Size (lexemes.flatMap Lexeme.text) = offset ∧
    lexemes.map Lexeme.token = derivation.tokens ∧ derivation.value = value ∧
    derivation.depth ≤ 512

/-- The reader gives `value` and stops at byte `offset` exactly if the grammar
derives this from the tokens up to there.  No derivation derives the beginning
of what another derives, so a text has at most one such value and offset. -/
theorem read_iff_derivedThrough (text : Text) :
    (∀ value offset, (∃ consumed rest, text = consumed ++ rest ∧ consumed.utf8Size = offset ∧
        read text = .ok (value, rest)) ↔ DerivedThrough text value offset) ∧
      {result : Expr × Nat | DerivedThrough text result.1 result.2}.Subsingleton ∧
      ∀ (left right : Derivation) (after after' : List Token),
        left.tokens ++ after = right.tokens ++ after' ↔ left = right ∧ after = after' := by
  refine ⟨fun value offset => ⟨?_, ?_⟩, ?_, fun left right after after' => ⟨?_, ?_⟩⟩
  · rintro ⟨consumed, rest, rfl, size, finished⟩
    obtain ⟨derivation, ⟨lexemes, lexed, tokens⟩, derived, within⟩ := read_eq_ok_iff.mp finished
    have same : lexemes.flatMap Lexeme.text = consumed := List.append_cancel_right lexed.text
    exact ⟨lexemes, rest, derivation, lexed, by rw [same, size], tokens, derived, within⟩
  · rintro ⟨lexemes, rest, derivation, lexed, size, tokens, derived, within⟩
    exact ⟨lexemes.flatMap Lexeme.text, rest, lexed.text.symm, size,
      read_eq_ok_iff.mpr ⟨derivation, ⟨lexemes, lexed, tokens⟩, derived, within⟩⟩
  · rintro ⟨value, offset⟩ ⟨lexemes, rest, left, lexed, size, tokens, derived, -⟩
      ⟨value', offset'⟩ ⟨lexemes', rest', right, lexed', size', tokens', derived', -⟩
    have begins : Tokenized text left.tokens rest := ⟨lexemes, lexed, tokens⟩
    obtain ⟨rfl, rfl⟩ := begins.unique ⟨lexemes', lexed', tokens'⟩
    have same : lexemes.flatMap Lexeme.text = lexemes'.flatMap Lexeme.text :=
      List.append_cancel_right (lexed.text.trans lexed'.text.symm)
    rw [same] at size
    exact Prod.ext (derived.symm.trans derived') (size.symm.trans size')
  · exact Derivation.tokens_append_inj left right
  · rintro ⟨rfl, rfl⟩
    rfl

end PackageRequires.Lisp
