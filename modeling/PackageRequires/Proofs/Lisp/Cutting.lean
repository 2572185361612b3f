import PackageRequires.Proofs.Declaration

namespace PackageRequires.Lisp

/-! # Lists that are cut off or continued

A list ends at its closing parenthesis whatever follows, and nowhere before it.
A text that stops inside a list stops inside one of its lexemes (`front_cut`): what
is left of that lexeme is a gap, a shorter atom, or a failure at the end of the
text.  Before the closing parenthesis the reader has a list at the bottom of its
stack (`Rooted`), so none of these gives it a value.
-/

/-! ## Reading up to a token -/

section Walking

variable {limit : Option Nat} {ending : Ending} {stack top : List Frame} {lexemes : List Lexeme}
  {value : Expr} {text rest : Text}

theorem Walks.front {front back : List Lexeme} (walks : Walks limit stack (front ++ back) top) :
    ∃ middle, Walks limit stack front middle := by
  induction front generalizing stack with
  | nil => exact ⟨stack, .nil stack⟩
  | cons lexeme front ih =>
      cases walks with
      | cons advanced later =>
          obtain ⟨middle, walked⟩ := ih later
          exact ⟨middle, .cons advanced walked⟩

theorem exists_walks_of_readLexemes
    (finished : readLexemes limit ending stack lexemes = .ok (value, rest)) :
    ∃ front last later top, lexemes = front ++ last :: later ∧ rest = textOf later ending ∧
      Walks limit stack front top ∧ advance limit top last.token = .ok (.finished value) := by
  induction lexemes generalizing stack with
  | nil => simp [Lisp.readLexemes] at finished
  | cons lexeme lexemes ih =>
      cases advanced : advance limit stack lexeme.token with
      | error reason => simp [Lisp.readLexemes, advanced] at finished
      | ok progress =>
          rw [readLexemes_of_advance advanced] at finished
          cases progress with
          | finished found =>
              simp only [proceed, Except.ok.injEq, Prod.mk.injEq] at finished
              obtain ⟨rfl, rfl⟩ := finished
              exact ⟨[], lexeme, lexemes, stack, rfl, rfl, .nil stack, advanced⟩
          | reading next =>
              obtain ⟨front, last, later, top, rfl, same, walks, ends⟩ := ih finished
              exact ⟨lexeme :: front, last, later, top, rfl, same, .cons advanced walks, ends⟩

/-- Reading succeeds at the first lexeme that finishes a value. -/
theorem readWithin_eq_ok_iff_walks :
    readWithin limit text = .ok (value, rest) ↔
      ∃ front last top, Lexed text (front ++ [last]) rest ∧ Walks limit [] front top ∧
        advance limit top last.token = .ok (.finished value) := by
  constructor
  · intro finished
    obtain ⟨front, last, later, top, scanned, rfl, walks, ends⟩ :=
      exists_walks_of_readLexemes finished
    exact ⟨front, last, top, lexed_of_scan (by simpa using scanned), walks, ends⟩
  · intro walked
    obtain ⟨front, last, top, lexed, walks, ends⟩ := walked
    have unread := text_scan rest
    rw [Scan.text] at unread
    simp only [readWithin, lexed.scan, List.append_assoc]
    rw [walks.readLexemes, List.singleton_append, readLexemes_of_advance ends, proceed, unread]

/-- The outermost expression that is open is a list. -/
def Rooted (stack : List Frame) : Prop := ∃ items, stack.getLast? = some (.list items)

theorem Rooted.complete (rooted : Rooted stack) (value : Expr) :
    ∃ next, complete value stack = .reading next ∧ Rooted next := by
  induction stack generalizing value with
  | nil =>
      obtain ⟨items, bottom⟩ := rooted
      contradiction
  | cons frame outer ih =>
      cases frame with
      | list items =>
          refine ⟨_, rfl, ?_⟩
          cases outer with
          | nil => exact ⟨_, rfl⟩
          | cons next outer => exact rooted
      | quote =>
          cases outer with
          | nil =>
              obtain ⟨items, bottom⟩ := rooted
              cases bottom
          | cons next outer => exact ih rooted value.quoted

theorem Rooted.push {frame : Frame} (rooted : Rooted stack) : Rooted (frame :: stack) := by
  cases stack with
  | nil =>
      obtain ⟨items, bottom⟩ := rooted
      contradiction
  | cons next outer => exact rooted

/-- Only the parenthesis that closes the outermost list finishes a value. -/
theorem Rooted.advance {token : Token} {progress : Progress} (rooted : Rooted stack)
    (advanced : advance limit stack token = .ok progress) :
    (∃ next, progress = .reading next ∧ Rooted next) ∨
      token = .closeParen ∧ ∃ items, progress = .finished (.list items) := by
  cases token with
  | openParen =>
      obtain ⟨rfl, -⟩ := push_eq_ok advanced
      exact .inl ⟨_, rfl, rooted.push⟩
  | quote =>
      obtain ⟨rfl, -⟩ := push_eq_ok advanced
      exact .inl ⟨_, rfl, rooted.push⟩
  | closeParen =>
      match stack with
      | [] => simp [Lisp.advance] at advanced
      | .quote :: outer => simp [Lisp.advance] at advanced
      | [.list items] =>
          cases advanced
          exact .inr ⟨rfl, items.reverse, rfl⟩
      | .list items :: next :: outer =>
          cases advanced
          have outward : Rooted (next :: outer) := rooted
          exact .inl (outward.complete _)
  | symbol name =>
      cases advanced
      exact .inl (rooted.complete _)
  | string contents =>
      cases advanced
      exact .inl (rooted.complete _)
  | number literal =>
      cases advanced
      exact .inl (rooted.complete _)

theorem Walks.rooted (walks : Walks limit stack lexemes top) (rooted : Rooted stack) :
    Rooted top := by
  induction walks with
  | nil stack => exact rooted
  | cons advanced _ ih =>
      rcases rooted.advance advanced with ⟨next, same, rooted⟩ | ⟨-, items, same⟩
      · cases same
        exact ih rooted
      · cases same

theorem Walks.rooted_of_openParen {first : Lexeme} (opens : first.token = .openParen)
    (walks : Walks limit stack (first :: lexemes) top) (bottom : stack = []) : Rooted top := by
  cases walks with
  | cons advanced later =>
      rw [opens] at advanced
      obtain ⟨same, -⟩ := push_eq_ok advanced
      cases same
      subst bottom
      exact later.rooted ⟨[], rfl⟩

/-- How a list is read: all its lexemes but the last leave a list open, and the last
one is the closing parenthesis. -/
theorem exists_walks_of_list {first : Lexeme} {after : Text}
    (begins : front text = .lexeme first after) (opens : first.token = .openParen)
    (finished : readWithin limit text = .ok (value, rest)) :
    ∃ inner close top items, Lexed text (first :: inner ++ [close]) rest ∧
      Walks limit [] (first :: inner) top ∧
      advance limit top close.token = .ok (.finished value) ∧
      close.token = .closeParen ∧ value = .list items := by
  obtain ⟨front, last, top, lexed, walks, ends⟩ := readWithin_eq_ok_iff_walks.mp finished
  have scanned := lexed.scan.symm.trans (scan_of_lexeme begins)
  simp only [Scan.mk.injEq] at scanned
  cases front with
  | nil =>
      simp only [List.nil_append, List.cons_append, List.cons.injEq] at scanned
      obtain ⟨⟨rfl, -⟩, -⟩ := scanned
      rw [opens] at ends
      obtain ⟨same, -⟩ := push_eq_ok ends
      cases same
  | cons other inner =>
      simp only [List.cons_append, List.cons.injEq] at scanned
      obtain ⟨⟨rfl, -⟩, -⟩ := scanned
      have rooted := walks.rooted_of_openParen opens rfl
      rcases rooted.advance ends with ⟨next, same, -⟩ | ⟨closes, items, same⟩
      · cases same
      · cases same
        exact ⟨inner, last, top, items, lexed, walks, ends, closes, rfl⟩

end Walking

/-! ## A list with other text behind it -/

theorem front_closeParen {text rest : Text} {close : Lexeme}
    (found : front text = .lexeme close rest) (closes : close.token = .closeParen) (other : Text) :
    front (close.text ++ other) = .lexeme close other ∧ close.text = close.gap ++ [')'] := by
  obtain ⟨tail, split, here⟩ := front_eq_lexeme_iff.mp found
  rw [closes] at here
  obtain ⟨slice, rfl⟩ := here.closeParen_eq
  have spelled : close.text = close.gap ++ [')'] := by rw [Lexeme.text, slice]
  refine ⟨?_, spelled⟩
  have visible : splitGap false (')' :: other) = ([], ')' :: other) :=
    splitGap_of_visible other (by decide) (by decide)
  rw [spelled, List.append_assoc, List.singleton_append]
  refine front_eq_lexeme_iff.mpr ⟨')' :: other, ?_, ?_⟩
  · rw [splitGap_of_front found, visible, List.append_nil]
  · rw [slice, closes]
    exact .closeParen

/-- Behind a closing parenthesis any text may stand. -/
theorem Lexed.replace_of_closeParen {text rest : Text} {lexemes : List Lexeme} {close : Lexeme}
    (lexed : Lexed text (lexemes ++ [close]) rest) (closes : close.token = .closeParen)
    (other : Text) :
    Lexed ((lexemes ++ [close]).flatMap Lexeme.text ++ other) (lexemes ++ [close]) other := by
  obtain ⟨middle, before, ended⟩ := lexed.split
  cases ended with
  | cons found after =>
      cases after
      obtain ⟨again, spelled⟩ := front_closeParen found closes other
      have delimited : Delimited middle → Delimited (close.text ++ other) := by
        rw [← front_lexeme found, spelled, List.append_assoc, List.append_assoc]
        intro whole
        refine whole.append fun _ c begins => ?_
        cases begins
        decide
      have whole := (before.replace delimited).append (.cons again (.nil other))
      simpa using whole

/-! ## A lexeme that is cut off -/

theorem splitGap_cut {inComment : Bool} {cut more tail : Text}
    (split : splitGap inComment (cut ++ more ++ tail) = (cut ++ more, tail)) :
    splitGap inComment cut = (cut, []) := by
  induction cut generalizing inComment with
  | nil => rfl
  | cons c cut ih =>
      simp only [List.cons_append, splitGap] at split ⊢
      split at split
      · rename_i skipped
        simp only [Prod.mk.injEq, List.cons.injEq, true_and] at split
        rw [if_pos skipped, ih (Prod.ext split.1 split.2)]
      · simp at split

theorem splitString_cut {escaped : Bool} {text cut more rest : Text}
    (closed : splitString escaped text = some (cut ++ more, rest)) :
    splitString escaped cut = none := by
  induction cut generalizing escaped text with
  | nil => rfl
  | cons c cut ih =>
      cases text with
      | nil => simp [splitString] at closed
      | cons d text =>
          simp only [splitString] at closed
          split at closed
          · cases closed
          · rename_i inside
            obtain ⟨⟨body, after⟩, found, pair⟩ := Option.map_eq_some_iff.mp closed
            cases pair
            simp only [splitString]
            rw [if_neg inside, ih found]
            rfl

theorem splitAtom_cut {escaped : Bool} {text cut more rest : Text}
    (split : splitAtom escaped text = (cut ++ more, rest)) :
    splitAtom escaped cut = (cut, []) := by
  induction cut generalizing escaped text with
  | nil => rfl
  | cons c cut ih =>
      cases text with
      | nil => simp [splitAtom] at split
      | cons d text =>
          simp only [splitAtom] at split
          split at split
          · cases split
          · rename_i inside
            simp only [List.cons_append, Prod.mk.injEq, List.cons.injEq] at split
            obtain ⟨⟨rfl, slice⟩, after⟩ := split
            simp only [splitAtom]
            rw [if_neg inside, ih (Prod.ext slice after)]

/-- An atom that ends in a lone backslash is not finished. -/
theorem frontAfter_unfinished {c : Char} {gap rest slice after : Text}
    (supported : isUnsupported c = false)
    (notOpen : c ≠ '(') (notClose : c ≠ ')') (notQuote : c ≠ '\x27') (notString : c ≠ '\"')
    (split : splitAtom false (c :: rest) = (slice, after))
    (unfinished : unescape? false slice = none) :
    frontAfter gap (c :: rest) = .failed (gap ++ slice) .endOfInput after := by
  unfold frontAfter
  split
  · contradiction
  · simp_all
  · simp_all
  · simp_all
  · simp_all
  · rename_i same
    cases same
    simp only [supported, Bool.false_eq_true, if_false, split, unfinished]

/-- What is found at the front of a lexeme that is cut off: its gap or a part of it, a
shorter atom, or a string or atom that goes on behind the end. -/
inductive Leftover (lexeme : Lexeme) (cut : Text) : Front → Prop
  | gap : Leftover lexeme cut (.finished cut)
  | unfinished : Leftover lexeme cut (.failed cut .endOfInput [])
  | atom {whole name : Text} {shorter : Lexeme} (was : lexeme.token = .ofAtom whole)
      (token : shorter.token = .ofAtom name) : Leftover lexeme cut (.lexeme shorter [])
  | dot {gap dot : Text} (split : splitGap false cut = (gap, dot))
      (isDot : dot = ['.'] ∨ dot = ['\\', '.']) :
      Leftover lexeme cut (.failed cut (.invalidSyntax ['.']) [])

/-- What is found at the front of a token that is cut off behind its first character. -/
theorem TokenAt.cut {text rest piece more gap : Text} {c : Char} {lexeme : Lexeme}
    (here : TokenAt text lexeme.slice lexeme.token rest)
    (whole : lexeme.slice = c :: piece ++ more) (proper : more ≠ [])
    (behind : splitGap false (gap ++ c :: piece) = (gap, c :: piece)) :
    Leftover lexeme (gap ++ c :: piece) (Lisp.frontAfter gap (c :: piece)) := by
  generalize spelled : lexeme.slice = slice at here whole
  generalize same : lexeme.token = token at here
  cases here with
  | openParen => simp_all
  | closeParen => simp_all
  | quote => simp_all
  | @string tail body rest closed =>
      simp only [List.cons_append, List.cons.injEq] at whole
      obtain ⟨rfl, whole⟩ := whole
      obtain ⟨more, last, rfl⟩ := List.eq_nil_or_concat more |>.resolve_left proper
      rw [List.concat_eq_append, ← List.append_assoc] at whole
      obtain ⟨rfl, -⟩ := List.append_inj' whole rfl
      rw [Lisp.frontAfter, splitString_cut closed]
      exact .unfinished
  | @atom d tail slice rest text supported notOpen notClose notQuote notString split denotes notDot =>
      have begins := splitAtom_append false (d :: tail)
      rw [split, whole] at begins
      simp only [List.cons_append, List.cons.injEq] at begins
      obtain ⟨rfl, -⟩ := begins
      rw [whole] at split
      have alone := splitAtom_cut split
      cases read : unescape? false (c :: piece) with
      | none =>
          rw [frontAfter_unfinished supported notOpen notClose notQuote notString alone read]
          exact .unfinished
      | some name =>
          rw [frontAfter_atom supported notOpen notClose notQuote notString alone read]
          split
          · rename_i isDot
            rw [isDot] at read
            exact .dot behind (eq_dot_of_unescape? read)
          · exact .atom same rfl

theorem front_cut {text rest cut more : Text} {lexeme : Lexeme}
    (found : front text = .lexeme lexeme rest) (whole : lexeme.text = cut ++ more)
    (proper : more ≠ []) : Leftover lexeme cut (front cut) := by
  obtain ⟨tail, split, here⟩ := front_eq_lexeme_iff.mp found
  have inGap (others : Text) (short : lexeme.gap = cut ++ others) :
      Leftover lexeme cut (front cut) := by
    have spelled := splitGap_append false text
    rw [split, short] at spelled
    rw [short, ← spelled] at split
    rw [front_eq, splitGap_cut split]
    exact .gap
  rcases List.append_eq_append_iff.mp whole with ⟨piece, rfl, slice⟩ | ⟨others, short, -⟩
  · cases piece with
    | nil => exact inGap [] (by simp)
    | cons c piece =>
        have begins := frontAfter_lexeme (here.frontAfter [])
        simp only [Lexeme.text, slice, List.nil_append, List.cons_append] at begins
        rw [← begins] at split
        obtain ⟨visible, noComment⟩ := splitGap_head split
        have behind : splitGap false (lexeme.gap ++ c :: piece) = (lexeme.gap, c :: piece) := by
          rw [splitGap_of_front found, splitGap_of_visible piece visible noComment, List.append_nil]
        rw [front_eq, behind]
        exact here.cut slice proper behind
  · exact inGap others short

/-! ## A list that is cut off -/

/-- The text ends in an atom that is a lone dot, behind lexemes and a gap. -/
def EndsInDot (text : Text) : Prop :=
  ∃ lexemes rest gap dot, Lexed text lexemes rest ∧ splitGap false rest = (gap, dot) ∧
    (dot = ['.'] ∨ dot = ['\\', '.'])

theorem EndsInDot.ending {text : Text} (endsInDot : EndsInDot text) :
    (scan text).ending.error = .invalidSyntax ['.'] := by
  obtain ⟨lexemes, rest, gap, dot, lexed, split, isDot⟩ := endsInDot
  have failed : front rest = .failed (gap ++ dot) (.invalidSyntax ['.']) [] := by
    rw [front_eq, split]
    rcases isDot with rfl | rfl <;> rfl
  rw [lexed.scan, scan_of_failed failed]
  rfl

/-- A text that stops before the end of its lexemes stops inside one of them. -/
theorem exists_cut_lexeme {lexemes : List Lexeme} {cut missing : Text}
    (whole : lexemes.flatMap Lexeme.text = cut ++ missing) (proper : missing ≠ []) :
    ∃ front last later piece more, lexemes = front ++ last :: later ∧
      cut = front.flatMap Lexeme.text ++ piece ∧ last.text = piece ++ more ∧ more ≠ [] := by
  induction lexemes generalizing cut with
  | nil =>
      have empty : cut ++ missing = [] := whole.symm
      exact absurd (List.append_eq_nil_iff.mp empty).2 proper
  | cons lexeme lexemes ih =>
      rw [List.flatMap_cons] at whole
      rcases List.append_eq_append_iff.mp whole with ⟨later, rfl, rest⟩ | ⟨more, here, rest⟩
      · obtain ⟨front, last, others, piece, more, rfl, rfl, spelled, left⟩ := ih rest
        exact ⟨lexeme :: front, last, others, piece, more, rfl, by simp, spelled, left⟩
      · by_cases left : more = []
        · rw [left, List.append_nil] at here
          rw [left] at rest
          obtain ⟨front, last, others, piece, more, rfl, nothing, spelled, left⟩ :=
            @ih [] rest.symm
          refine ⟨lexeme :: front, last, others, piece, more, rfl, ?_, spelled, left⟩
          rw [List.flatMap_cons, List.append_assoc, ← nothing, here, List.append_nil]
        · exact ⟨[], lexeme, lexemes, cut, more, rfl, rfl, here, left⟩

theorem Lexed.cut {text rest piece more : Text} {front later : List Lexeme} {last : Lexeme}
    (lexed : Lexed text (front ++ last :: later) rest) (whole : last.text = piece ++ more)
    (proper : more ≠ []) :
    Lexed (front.flatMap Lexeme.text ++ piece) front piece ∧ Leftover last piece (Lisp.front piece) := by
  obtain ⟨middle, before, ended⟩ := lexed.split
  cases ended with
  | cons found after =>
      refine ⟨before.replace ?_, front_cut found whole proper⟩
      rw [← front_lexeme found, whole, List.append_assoc]
      intro delimited
      have ended : Delimited [] := nofun
      simpa using delimited.append fun _ => ended

theorem Rooted.advance_ofAtom {stack : List Frame} (rooted : Rooted stack) (limit : Option Nat)
    (name : Text) : ∃ next, Lisp.advance limit stack (.ofAtom name) = .ok (.reading next) := by
  cases numeral : isNumeral name with
  | true =>
      obtain ⟨next, same, -⟩ := rooted.complete (.number name)
      exact ⟨next, by simp [Token.ofAtom, numeral, Lisp.advance, same]⟩
  | false =>
      obtain ⟨next, same, -⟩ := rooted.complete (.ofSymbol name)
      exact ⟨next, by simp [Token.ofAtom, numeral, Lisp.advance, same]⟩

/-- What is left of a lexeme inside a list does not finish the list. -/
theorem Leftover.readLexemes {stack : List Frame} {last : Lexeme} {piece : Text}
    (leftover : Leftover last piece (front piece)) (limit : Option Nat)
    (inside : last.token = .openParen ∨ Rooted stack) :
    readLexemes limit (scan piece).ending stack (scan piece).lexemes =
        .error ⟨(scan piece).ending.error, []⟩ ∧
      ((scan piece).ending.error = .endOfInput ∨ EndsInDot piece) := by
  generalize found : front piece = shape at leftover
  cases leftover with
  | gap =>
      rw [scan_of_finished found]
      exact ⟨rfl, .inl rfl⟩
  | unfinished =>
      rw [scan_of_failed found]
      exact ⟨rfl, .inl rfl⟩
  | @atom whole name shorter was token =>
      have rooted : Rooted stack := by
        rcases inside with opens | rooted
        · rw [opens] at was
          cases numeral : isNumeral whole <;> simp [Token.ofAtom, numeral] at was
        · exact rooted
      obtain ⟨next, advanced⟩ := rooted.advance_ofAtom limit name
      rw [← token] at advanced
      have nothing : scan [] = ⟨[], .finished []⟩ := scan_of_finished rfl
      rw [scan_of_lexeme found, nothing, readLexemes_of_advance advanced]
      exact ⟨rfl, .inl rfl⟩
  | dot split isDot =>
      rw [scan_of_failed found]
      exact ⟨rfl, .inr ⟨[], piece, _, _, .nil piece, split, isDot⟩⟩

/-- A text that stops inside a list cannot be read, and all of it is used up. -/
theorem readWithin_cut {limit : Option Nat} {text rest cut missing : Text} {first close : Lexeme}
    {inner : List Lexeme} {top : List Frame} (opens : first.token = .openParen)
    (lexed : Lexed text (first :: inner ++ [close]) rest)
    (walks : Walks limit [] (first :: inner) top)
    (whole : (first :: inner ++ [close]).flatMap Lexeme.text = cut ++ missing)
    (proper : missing ≠ []) :
    readWithin limit cut = .error ⟨(scan cut).ending.error, []⟩ ∧
      ((scan cut).ending.error = .endOfInput ∨ EndsInDot cut) := by
  obtain ⟨front, last, later, piece, more, same, rfl, spelled, left⟩ := exists_cut_lexeme whole proper
  rw [same] at lexed
  obtain ⟨before, leftover⟩ := lexed.cut spelled left
  have starts : ∃ back, first :: inner = front ++ back := by
    rcases List.eq_nil_or_concat later with rfl | ⟨later, other, rfl⟩
    · exact ⟨[], by simpa using List.append_inj_left' same rfl⟩
    · refine ⟨last :: later, ?_⟩
      have moved : first :: inner ++ [close] = (front ++ last :: later) ++ [other] := by
        simpa using same
      exact List.append_inj_left' moved rfl
  obtain ⟨back, starts⟩ := starts
  rw [starts] at walks
  obtain ⟨stack, walked⟩ := walks.front
  have inside : last.token = .openParen ∨ Rooted stack := by
    cases front with
    | nil =>
        simp only [List.nil_append, List.cons_append, List.cons.injEq] at same
        exact .inl (same.1 ▸ opens)
    | cons other front =>
        simp only [List.cons_append, List.cons.injEq] at starts
        obtain ⟨rfl, -⟩ := starts
        exact .inr (walked.rooted_of_openParen opens rfl)
  obtain ⟨fails, error⟩ := leftover.readLexemes limit inside
  simp only [readWithin, before.scan]
  refine ⟨by rw [walked.readLexemes, fails], error.imp_right ?_⟩
  intro endsInDot
  obtain ⟨lexemes, rest, gap, dot, lexed, split, isDot⟩ := endsInDot
  exact ⟨_, rest, gap, dot, before.append lexed, split, isDot⟩

/-- A list is read from its own text, whatever follows it and from nothing less. -/
theorem list_self_delimiting {text rest after : Text} {first : Lexeme} {value : Expr}
    (begins : front text = .lexeme first after) (opens : first.token = .openParen)
    (finished : read text = .ok (value, rest)) :
    ∃ consumed items, text = consumed ++ rest ∧ value = .list items ∧
      (∀ other, read (consumed ++ other) = .ok (value, other) ∧
        ∃ trailing, Declarations.read (consumed ++ other) = .ok ⟨items, trailing⟩ ∧
          (trailing = true ↔ ∃ c ∈ other, Text.isBlank c = false)) ∧
      ∀ cut missing, consumed = cut ++ missing → missing ≠ [] →
        (EndsInDot cut → read cut = .error ⟨.invalidSyntax ['.'], []⟩) ∧
          (¬ EndsInDot cut → read cut = .error ⟨.endOfInput, []⟩) := by
  obtain ⟨inner, close, top, items, lexed, walks, ends, closes, rfl⟩ :=
    exists_walks_of_list begins opens finished
  have continued (other : Text) : read ((first :: inner ++ [close]).flatMap Lexeme.text ++ other) =
      .ok (.list items, other) :=
    readWithin_eq_ok_iff_walks.mpr
      ⟨first :: inner, close, top, lexed.replace_of_closeParen closes other, walks, ends⟩
  refine ⟨_, items, lexed.text.symm, rfl, ?_, ?_⟩
  · intro other
    refine ⟨continued other, !other.allBlank, ?_, ?_⟩
    · simp only [Declarations.read, continued]
    · simp [Text.allBlank]
  · intro cut missing whole proper
    obtain ⟨fails, error⟩ := readWithin_cut opens lexed walks whole proper
    rw [read, fails]
    refine ⟨fun endsInDot => by rw [endsInDot.ending], fun otherwise => ?_⟩
    rw [error.resolve_right otherwise]

/-- A parenthesis in a string does not close the list, and a number may be cut to a dot. -/
theorem list_self_delimiting_number :
    let value : Expr := .list [.number ".5".toList, .string "a)".toList]
    front "(.5 \"a)\") b".toList = .lexeme ⟨[], ['('], .openParen⟩ ".5 \"a)\") b".toList ∧
      read "(.5 \"a)\") b".toList = .ok (value, " b".toList) ∧
      read "(.5 \"a)\")c".toList = .ok (value, "c".toList) ∧
      read "(.".toList = .error ⟨.invalidSyntax ['.'], []⟩ := by
  intro value
  have begins : front "(.5 \"a)\") b".toList =
      .lexeme ⟨[], ['('], .openParen⟩ ".5 \"a)\") b".toList := rfl
  have finished : read "(.5 \"a)\") b".toList = .ok (value, " b".toList) :=
    read_eq_ok_iff.mpr ⟨.list [.number ".5".toList, .string "a)".toList],
      ⟨_, .cons rfl (.cons rfl (.cons rfl (.cons rfl (.nil _)))), rfl⟩, rfl, by decide⟩
  obtain ⟨consumed, items, whole, -, continued, cut⟩ := list_self_delimiting begins rfl finished
  obtain rfl : consumed = "(.5 \"a)\")".toList := List.append_cancel_right (whole.symm.trans rfl)
  have opened : front "(.".toList = .lexeme ⟨[], ['('], .openParen⟩ ".".toList := rfl
  have dot : EndsInDot "(.".toList := ⟨_, _, [], _, .cons opened (.nil _), rfl, .inl rfl⟩
  exact ⟨begins, finished, (continued "c".toList).1,
    (cut "(.".toList "5 \"a)\")".toList rfl (by decide)).1 dot⟩

end PackageRequires.Lisp
