import PackageRequires.Proofs.Lisp.Atom
import PackageRequires.Proofs.Lisp.Lexing

namespace PackageRequires.Lisp

/-! # What follows a lexeme

A lexeme depends on the text behind it in one way only: an atom must end there.
So the text behind some lexemes can be replaced by any other in front of which
an atom ends too (`Lexed.replace`), and what follows a gap that was split off in
full is read as if it stood alone (`front_after_gap`).
-/

theorem splitGap_replace {inComment : Bool} {gap rest : Text} {c : Char}
    (split : splitGap inComment (gap ++ c :: rest) = (gap, c :: rest)) (other : Text) :
    splitGap inComment (gap ++ other) =
      (gap ++ (splitGap false other).1, (splitGap false other).2) := by
  induction gap generalizing inComment with
  | nil =>
      have stopped : inComment = false := by
        cases inComment with
        | false => rfl
        | true => simp [splitGap] at split
      rw [stopped]
      rfl
  | cons d gap ih =>
      simp only [List.cons_append, splitGap] at split ⊢
      split at split
      · rename_i skipped
        simp only [Prod.mk.injEq, List.cons.injEq, true_and] at split
        rw [if_pos skipped, ih (Prod.ext split.1 split.2)]
      · simp at split

theorem splitString_replace {escaped : Bool} {text body rest : Text}
    (closed : splitString escaped text = some (body, rest)) (other : Text) :
    splitString escaped (body ++ '\"' :: other) = some (body, other) := by
  induction text generalizing escaped body with
  | nil => simp [splitString] at closed
  | cons c text ih =>
      simp only [splitString] at closed
      split at closed
      · rename_i ends
        cases closed
        simp only [Bool.and_eq_true] at ends
        simp [splitString, ends.1]
      · rename_i inside
        obtain ⟨⟨inner, after⟩, found, pair⟩ := Option.map_eq_some_iff.mp closed
        cases pair
        simp only [List.cons_append, splitString]
        rw [if_neg inside, ih found]
        rfl

/-- The escape that is pending behind one more character of an atom. -/
theorem isSome_unescape?_cons (escaped : Bool) (c : Char) (slice : Text) :
    (unescape? escaped (c :: slice)).isSome = (unescape? (startsEscape escaped c) slice).isSome := by
  cases starts : startsEscape escaped c <;> simp [unescape?, starts]

theorem unescape?_ne_nil {slice text : Text} (nonempty : slice ≠ [])
    (denotes : unescape? false slice = some text) : text ≠ [] := by
  rintro rfl
  cases slice with
  | nil => contradiction
  | cons c slice =>
      simp only [unescape?] at denotes
      split at denotes
      · cases slice with
        | nil => simp [unescape?] at denotes
        | cons d slice => simp [unescape?, startsEscape] at denotes
      · simp at denotes

/-- The two ways to write an atom that denotes a dot. -/
theorem eq_dot_of_unescape? {slice : Text} (denotes : unescape? false slice = some ['.']) :
    slice = ['.'] ∨ slice = ['\\', '.'] := by
  have ends {rest : Text} (empty : unescape? false rest = some []) : rest = [] := by
    by_contra nonempty
    exact unescape?_ne_nil nonempty empty rfl
  cases slice with
  | nil => simp [unescape?] at denotes
  | cons c slice =>
      simp only [unescape?] at denotes
      split at denotes
      · rename_i starts
        obtain rfl : c = '\\' := by simpa [startsEscape] using starts
        cases slice with
        | nil => simp [unescape?] at denotes
        | cons d slice =>
            simp only [unescape?, startsEscape, Bool.not_true, Bool.false_and, Bool.false_eq_true,
              if_false, Option.map_eq_some_iff, List.cons.injEq] at denotes
            obtain ⟨rest, empty, rfl, rfl⟩ := denotes
            rw [ends empty]
            exact .inr rfl
      · simp only [Option.map_eq_some_iff, List.cons.injEq] at denotes
        obtain ⟨rest, empty, rfl, rfl⟩ := denotes
        rw [ends empty]
        exact .inl rfl

theorem splitAtom_replace {escaped : Bool} {text slice rest other : Text}
    (split : splitAtom escaped text = (slice, rest))
    (finished : (unescape? escaped slice).isSome = true) (delimited : Delimited other) :
    splitAtom escaped (slice ++ other) = (slice, other) := by
  induction text generalizing escaped slice with
  | nil =>
      cases split
      cases escaped with
      | true => simp [unescape?] at finished
      | false => exact splitAtom_of_delimited delimited
  | cons c text ih =>
      simp only [splitAtom] at split
      split at split
      · rename_i ends
        cases split
        simp only [Bool.and_eq_true, Bool.not_eq_true'] at ends
        rw [ends.1]
        exact splitAtom_of_delimited delimited
      · rename_i inside
        cases split
        rw [isSome_unescape?_cons] at finished
        simp only [List.cons_append, splitAtom]
        rw [if_neg inside, ih rfl finished]

theorem delimited_of_splitAtom {escaped : Bool} {text slice rest : Text}
    (split : splitAtom escaped text = (slice, rest))
    (finished : (unescape? escaped slice).isSome = true) : Delimited rest := by
  induction text generalizing escaped slice with
  | nil =>
      cases split
      intro c begins
      contradiction
  | cons c text ih =>
      simp only [splitAtom] at split
      split at split
      · rename_i ends
        cases split
        simp only [Bool.and_eq_true] at ends
        intro d begins
        cases begins
        exact ends.2
      · cases split
        rw [isSome_unescape?_cons] at finished
        exact ih rfl finished

theorem Delimited.append {front back other : Text} (whole : Delimited (front ++ back))
    (delimited : Delimited back → Delimited other) : Delimited (front ++ other) := by
  cases front with
  | nil => exact delimited whole
  | cons c front => exact whole

/-- The token at the beginning of a text, its characters, and the text behind it. -/
inductive TokenAt : (text slice : Text) → Token → (rest : Text) → Prop
  | openParen {rest : Text} : TokenAt ('(' :: rest) ['('] .openParen rest
  | closeParen {rest : Text} : TokenAt (')' :: rest) [')'] .closeParen rest
  | quote {rest : Text} : TokenAt ('\x27' :: rest) ['\x27'] .quote rest
  | string {tail body rest : Text} (closed : splitString false tail = some (body, rest)) :
      TokenAt ('\"' :: tail) ('\"' :: body ++ ['\"']) (.string (decodeString false body)) rest
  | atom {c : Char} {tail slice rest text : Text} (supported : isUnsupported c = false)
      (notOpen : c ≠ '(') (notClose : c ≠ ')') (notQuote : c ≠ '\x27') (notString : c ≠ '\"')
      (split : splitAtom false (c :: tail) = (slice, rest))
      (denotes : unescape? false slice = some text) (notDot : text ≠ ['.']) :
      TokenAt (c :: tail) slice (.ofAtom text) rest

theorem tokenAt_of_frontAfter {gap text rest : Text} {lexeme : Lexeme}
    (found : frontAfter gap text = .lexeme lexeme rest) :
    lexeme.gap = gap ∧ TokenAt text lexeme.slice lexeme.token rest := by
  unfold frontAfter at found
  split at found
  · cases found
  · cases found; exact ⟨rfl, .openParen⟩
  · cases found; exact ⟨rfl, .closeParen⟩
  · cases found; exact ⟨rfl, .quote⟩
  · split at found
    · rename_i body after closed
      cases found
      exact ⟨rfl, .string closed⟩
    · cases found
  · rename_i c tail notOpen notClose notQuote notString
    split at found
    · cases found
    · rename_i supported
      dsimp only at found
      split at found
      · cases found
      · cases found
      · rename_i text notDot denotes
        cases found
        exact ⟨rfl, .atom (by simpa using supported) notOpen notClose notQuote notString rfl
          denotes (by simpa using notDot)⟩

theorem TokenAt.frontAfter {text slice rest : Text} {token : Token}
    (here : TokenAt text slice token rest) (gap : Text) :
    frontAfter gap text = .lexeme ⟨gap, slice, token⟩ rest := by
  cases here with
  | openParen => rfl
  | closeParen => rfl
  | quote => rfl
  | string closed => simp [Lisp.frontAfter, closed]
  | atom supported notOpen notClose notQuote notString split denotes notDot =>
      rw [frontAfter_atom supported notOpen notClose notQuote notString split denotes,
        if_neg notDot]

/-- A token stays the same if the text behind it is replaced by one in front of
which an atom ends if it did before. -/
theorem TokenAt.replace {text slice rest other : Text} {token : Token}
    (here : TokenAt text slice token rest) (visible : slice ≠ [])
    (delimited : Delimited rest → Delimited other) : TokenAt (slice ++ other) slice token other := by
  cases here with
  | openParen => exact .openParen
  | closeParen => exact .closeParen
  | quote => exact .quote
  | @string tail body rest closed =>
      have again := splitString_replace closed other
      simpa using TokenAt.string again
  | @atom c tail slice rest text supported notOpen notClose notQuote notString split denotes notDot =>
      have finished : (unescape? false slice).isSome = true := by rw [denotes]; rfl
      have ended := delimited (delimited_of_splitAtom split finished)
      have again := splitAtom_replace split finished ended
      have whole := splitAtom_append false (c :: tail)
      obtain ⟨d, slice, rfl⟩ := List.exists_cons_of_ne_nil visible
      rw [split, List.cons_append, List.cons.injEq] at whole
      obtain ⟨rfl, -⟩ := whole
      exact .atom supported notOpen notClose notQuote notString again denotes notDot

theorem front_eq_lexeme_iff {text rest : Text} {lexeme : Lexeme} :
    front text = .lexeme lexeme rest ↔
      ∃ tail, splitGap false text = (lexeme.gap, tail) ∧
        TokenAt tail lexeme.slice lexeme.token rest := by
  constructor
  · intro found
    rw [front_eq] at found
    obtain ⟨gap, here⟩ := tokenAt_of_frontAfter found
    exact ⟨_, Prod.ext gap.symm rfl, here⟩
  · intro ⟨tail, split, here⟩
    rw [front_eq, split]
    exact here.frontAfter lexeme.gap

theorem splitGap_of_visible {c : Char} (rest : Text) (visible : Text.isBlank c = false)
    (noComment : c ≠ ';') : splitGap false (c :: rest) = ([], c :: rest) := by
  simp [splitGap, visible, noComment]

/-- Where a lexeme was found, its gap is complete: other text behind the gap is
split afresh. -/
theorem splitGap_of_front {text rest : Text} {lexeme : Lexeme}
    (found : front text = .lexeme lexeme rest) (other : Text) :
    splitGap false (lexeme.gap ++ other) =
      (lexeme.gap ++ (splitGap false other).1, (splitGap false other).2) := by
  obtain ⟨tail, split, here⟩ := front_eq_lexeme_iff.mp found
  have whole := splitGap_append false text
  rw [split] at whole
  cases tail with
  | nil => cases here
  | cons c tail =>
      rw [← whole] at split
      exact splitGap_replace split other

theorem front_after_gap {text rest : Text} {lexeme : Lexeme}
    (found : front text = .lexeme lexeme rest) (other : Text) :
    front (lexeme.gap ++ other) = (front other).behind lexeme.gap := by
  rw [front_eq, front_eq, splitGap_of_front found, frontAfter_behind]

/-- A token's characters are the token also where no gap stands before them. -/
theorem front_slice {text rest other : Text} {lexeme : Lexeme}
    (found : front text = .lexeme lexeme rest) (delimited : Delimited rest → Delimited other) :
    front (lexeme.slice ++ other) = .lexeme { lexeme with gap := [] } other := by
  have nonempty := front_slice_ne_nil found
  obtain ⟨tail, split, here⟩ := front_eq_lexeme_iff.mp found
  refine front_eq_lexeme_iff.mpr ⟨lexeme.slice ++ other, ?_, here.replace nonempty delimited⟩
  have spelled := frontAfter_lexeme (here.frontAfter [])
  obtain ⟨c, slice, same⟩ := List.exists_cons_of_ne_nil nonempty
  simp only [Lexeme.text, same, List.nil_append, List.cons_append] at spelled
  rw [← spelled] at split
  obtain ⟨visible, noComment⟩ := splitGap_head split
  rw [same, List.cons_append]
  exact splitGap_of_visible _ visible noComment

theorem front_replace {text rest other : Text} {lexeme : Lexeme}
    (found : front text = .lexeme lexeme rest) (delimited : Delimited rest → Delimited other) :
    front (lexeme.text ++ other) = .lexeme lexeme other := by
  rw [Lexeme.text, List.append_assoc, front_after_gap found, front_slice found delimited]
  simp [Front.behind]

/-- What the reader can take as a symbol or as a number. -/
def Token.Lexical : Token → Prop
  | .symbol name => name ≠ [] ∧ name ≠ ['.'] ∧ isNumeral name = false
  | .number literal => isNumeral literal = true
  | _ => True

theorem lexical_ofAtom {text : Text} (nonempty : text ≠ []) (notDot : text ≠ ['.']) :
    (Token.ofAtom text).Lexical := by
  cases numeral : isNumeral text with
  | true => simp [Token.ofAtom, numeral, Token.Lexical]
  | false => simpa [Token.ofAtom, numeral, Token.Lexical] using And.intro nonempty notDot

theorem front_lexical {text rest : Text} {lexeme : Lexeme}
    (found : front text = .lexeme lexeme rest) : lexeme.token.Lexical := by
  have visible := front_slice_ne_nil found
  obtain ⟨tail, -, here⟩ := front_eq_lexeme_iff.mp found
  generalize lexeme.slice = slice at here visible
  generalize lexeme.token = token at here
  cases here with
  | atom _ _ _ _ _ _ denotes notDot => exact lexical_ofAtom (unescape?_ne_nil visible denotes) notDot
  | _ => trivial

theorem Lexed.replace {text rest other : Text} {lexemes : List Lexeme}
    (lexed : Lexed text lexemes rest) (delimited : Delimited rest → Delimited other) :
    Lexed (lexemes.flatMap Lexeme.text ++ other) lexemes other := by
  induction lexed with
  | nil text => exact .nil other
  | cons found later ih =>
      have behind := later.text
      rw [List.flatMap_cons, List.append_assoc]
      refine .cons (front_replace found ?_) (ih delimited)
      intro ended
      rw [← behind] at ended
      exact ended.append delimited

theorem Lexed.split {text rest : Text} {first second : List Lexeme}
    (lexed : Lexed text (first ++ second) rest) :
    ∃ middle, Lexed text first middle ∧ Lexed middle second rest := by
  induction first generalizing text with
  | nil => exact ⟨text, .nil text, lexed⟩
  | cons lexeme first ih =>
      cases lexed with
      | cons found later =>
          obtain ⟨middle, before, after⟩ := ih later
          exact ⟨middle, .cons found before, after⟩

theorem Tokenized.after_gap {text rest other after : Text} {lexeme : Lexeme} {tokens : List Token}
    (found : front text = .lexeme lexeme rest) (nonempty : tokens ≠ [])
    (tokenized : Tokenized other tokens after) :
    Tokenized (lexeme.gap ++ other) tokens after := by
  obtain ⟨lexemes, lexed, same⟩ := tokenized
  cases lexed with
  | nil => exact absurd same.symm nonempty
  | @cons other middle after first lexemes begins later =>
      have moved : front (lexeme.gap ++ other) =
          .lexeme { first with gap := lexeme.gap ++ first.gap } middle := by
        rw [front_after_gap found, begins]
        rfl
      exact ⟨_, .cons moved later, same⟩

end PackageRequires.Lisp
