import PackageRequires.Proofs.Lisp.Gap

namespace PackageRequires.Lisp

/-! # Where tokens stand

The tokens of a text and the gaps between them take up the text from its
beginning to where the lexer stops, and each token takes at least one byte.  A
position is the size of what stands before it, so the characters at a place are
given by cutting the text there (`Between`).
-/

/-- `part` is what stands in a text from byte `start` up to byte `stop`. -/
def Between (text : Text) (start stop : Nat) (part : Text) : Prop :=
  ∃ before after, text = before ++ part ++ after ∧ before.utf8Size = start ∧
    start + part.utf8Size = stop

/-- The byte behind the last of some tokens, or the beginning if there is none. -/
def endOf (tokens : List Placed) : Nat := (tokens.getLast?.map Placed.stop).getD 0

theorem length_le_utf8Size (text : Text) : text.length ≤ text.utf8Size := by
  induction text with
  | nil => exact Nat.le_refl 0
  | cons c text ih =>
      have positive := c.utf8Size_pos
      simp only [List.length_cons, Text.utf8Size_cons]
      omega

theorem utf8Size_pos {text : Text} (nonempty : text ≠ []) : 0 < text.utf8Size :=
  Nat.lt_of_lt_of_le (List.length_pos_iff.mpr nonempty) (length_le_utf8Size text)

/-- The characters up to a byte are determined by the byte. -/
theorem append_inj_of_utf8Size {front front' back back' : Text}
    (same : front ++ back = front' ++ back') (size : front.utf8Size = front'.utf8Size) :
    front = front' ∧ back = back' := by
  rcases List.append_eq_append_iff.mp same with ⟨more, rfl, rfl⟩ | ⟨more, rfl, rfl⟩
  all_goals
    obtain rfl : more = [] := by
      by_contra nonempty
      have positive := utf8Size_pos nonempty
      simp only [Text.utf8Size_append] at size
      omega
    simp

namespace Between

variable {text part other : Text} {start stop : Nat}

theorem unique (here : Between text start stop part) (here' : Between text start stop other) :
    part = other := by
  obtain ⟨before, after, rfl, begins, ends⟩ := here
  obtain ⟨before', after', same, begins', ends'⟩ := here'
  rw [List.append_assoc, List.append_assoc] at same
  obtain ⟨-, same⟩ := append_inj_of_utf8Size same (begins.trans begins'.symm)
  exact (append_inj_of_utf8Size same (by omega)).1

theorem stop_le (here : Between text start stop part) : stop ≤ text.utf8Size := by
  obtain ⟨before, after, rfl, begins, ends⟩ := here
  simp only [Text.utf8Size_append]
  omega

end Between

/-! ## Tokens and their lexemes -/

theorem place_append (offset : Nat) (front back : List Lexeme) :
    place offset (front ++ back) =
      place offset front ++ place (offset + Text.utf8Size (front.flatMap Lexeme.text)) back := by
  induction front generalizing offset with
  | nil => rfl
  | cons lexeme front ih =>
      simp only [List.cons_append, place, ih, List.flatMap_cons, Lexeme.text, Text.utf8Size_append,
        Nat.add_assoc]

theorem endOf_place (lexemes : List Lexeme) :
    endOf (place 0 lexemes) = Text.utf8Size (lexemes.flatMap Lexeme.text) := by
  rcases List.eq_nil_or_concat lexemes with rfl | ⟨front, last, rfl⟩
  · rfl
  · rw [List.concat_eq_append, place_append]
    simp [endOf, place, Lexeme.text, Nat.add_assoc]

/-- Each token comes from a lexeme, and the tokens before it from the lexemes before that. -/
theorem exists_lexeme_of_place {offset : Nat} {lexemes : List Lexeme} {before after : List Placed}
    {token : Placed} (placed : place offset lexemes = before ++ token :: after) :
    ∃ front lexeme back, lexemes = front ++ lexeme :: back ∧ before = place offset front ∧
      token.token = lexeme.token ∧
      token.start = offset + Text.utf8Size (front.flatMap Lexeme.text ++ lexeme.gap) ∧
      token.stop = token.start + lexeme.slice.utf8Size := by
  induction before generalizing offset lexemes with
  | nil =>
      cases lexemes with
      | nil => simp [place] at placed
      | cons lexeme back =>
          simp only [place, List.nil_append, List.cons.injEq] at placed
          obtain ⟨rfl, -⟩ := placed
          exact ⟨[], lexeme, back, rfl, rfl, rfl, by simp, rfl⟩
  | cons first before ih =>
      cases lexemes with
      | nil => simp [place] at placed
      | cons other lexemes =>
          simp only [place, List.cons_append, List.cons.injEq] at placed
          obtain ⟨rfl, placed⟩ := placed
          obtain ⟨front, lexeme, back, rfl, rfl, kind, starts, stops⟩ := ih placed
          refine ⟨other :: front, lexeme, back, rfl, rfl, kind, ?_, stops⟩
          rw [starts]
          simp [Lexeme.text, Nat.add_assoc]

theorem length_place (offset : Nat) (lexemes : List Lexeme) :
    (place offset lexemes).length = lexemes.length := by
  induction lexemes generalizing offset with
  | nil => rfl
  | cons lexeme lexemes ih => simp [place, ih]

theorem length_le_utf8Size_of_visible {lexemes : List Lexeme}
    (visible : ∀ lexeme ∈ lexemes, lexeme.slice ≠ []) :
    lexemes.length ≤ Text.utf8Size (lexemes.flatMap Lexeme.text) := by
  induction lexemes with
  | nil => exact Nat.le_refl 0
  | cons lexeme lexemes ih =>
      rw [List.forall_mem_cons] at visible
      have positive := utf8Size_pos visible.1
      have later := ih visible.2
      simp only [List.length_cons, List.flatMap_cons, Lexeme.text, Text.utf8Size_append] at later ⊢
      omega

/-- A text is cut at each of its lexemes. -/
theorem text_of_scan {text : Text} {front back : List Lexeme} {lexeme : Lexeme}
    (scanned : (scan text).lexemes = front ++ lexeme :: back) :
    text = front.flatMap Lexeme.text ++ lexeme.gap ++ lexeme.slice ++
      textOf back (scan text).ending := by
  have whole := text_scan text
  rw [Scan.text, scanned] at whole
  exact whole.symm.trans (by simp [textOf, Lexeme.text])

theorem exists_front_of_mem_scan {text : Text} {lexeme : Lexeme}
    (member : lexeme ∈ (scan text).lexemes) :
    ∃ source rest, front source = .lexeme lexeme rest := by
  fun_induction scan text with
  | case1 => simp at member
  | case2 => simp at member
  | case3 text first rest found after ih =>
      rcases List.mem_cons.mp member with rfl | later
      · exact ⟨text, rest, found⟩
      · exact ih later

/-! ## What a token denotes -/

theorem unescape?_of_plain {slice : Text} (plain : '\\' ∉ slice) :
    unescape? false slice = some slice := by
  induction slice with
  | nil => rfl
  | cons c slice ih =>
      simp only [List.mem_cons, not_or] at plain
      simp [unescape?, startsEscape_of_ne (Ne.symm plain.1), ih plain.2]

/-- The name of a symbol or a number is its own characters, if none is escaped. -/
theorem name_of_front {text rest name : Text} {lexeme : Lexeme}
    (found : front text = .lexeme lexeme rest)
    (named : lexeme.token = .symbol name ∨ lexeme.token = .number name) :
    name ≠ [] ∧ ('\\' ∉ lexeme.slice → name = lexeme.slice) := by
  have visible := front_slice_ne_nil found
  obtain ⟨tail, -, here⟩ := front_eq_lexeme_iff.mp found
  generalize lexeme.slice = slice at here visible
  generalize lexeme.token = token at here named
  cases here with
  | @atom c tail slice rest text _ _ _ _ _ _ denotes _ =>
      obtain rfl : text = name := by
        cases numeral : isNumeral text <;> simpa [Token.ofAtom, numeral] using named
      refine ⟨unescape?_ne_nil visible denotes, fun plain => ?_⟩
      rw [unescape?_of_plain plain] at denotes
      exact (Option.some.inj denotes).symm
  | _ => simp at named

/-! ## Where the lexer stops -/

/-- Why no token stands at the beginning of a text, what the lexer takes of the
text, and what it leaves. -/
inductive NoToken : (text consumed : Text) → ReadError → (rest : Text) → Prop
  | unsupported {c : Char} {tail : Text} (unsupported : isUnsupported c = true) :
      NoToken (c :: tail) [] (.invalidSyntax [c]) (c :: tail)
  | unfinished {text : Text} : NoToken text text .endOfInput []
  | dot {text slice rest : Text} (whole : slice ++ rest = text)
      (isDot : slice = ['.'] ∨ slice = ['\\', '.']) :
      NoToken text slice (.invalidSyntax ['.']) rest

theorem splitAtom_unfinished {escaped : Bool} {text slice rest : Text}
    (split : splitAtom escaped text = (slice, rest)) (unfinished : unescape? escaped slice = none) :
    rest = [] := by
  induction text generalizing escaped slice with
  | nil => cases split; rfl
  | cons c text ih =>
      simp only [splitAtom] at split
      split at split
      · rename_i ends
        cases split
        simp only [Bool.and_eq_true, Bool.not_eq_true'] at ends
        simp [unescape?, ends.1] at unfinished
      · cases split
        rw [← Option.isNone_iff_eq_none, ← Option.not_isSome, isSome_unescape?_cons,
          Option.not_isSome, Option.isNone_iff_eq_none] at unfinished
        exact ih rfl unfinished

theorem noToken_of_frontAfter {gap text consumed rest : Text} {error : ReadError}
    (failed : frontAfter gap text = .failed consumed error rest) :
    ∃ read, consumed = gap ++ read ∧ NoToken text read error rest := by
  unfold frontAfter at failed
  split at failed
  · cases failed
  · cases failed
  · cases failed
  · cases failed
  · split at failed
    · cases failed
    · cases failed
      exact ⟨_, rfl, .unfinished⟩
  · rename_i c tail _ _ _ _
    split at failed
    · rename_i unsupported
      cases failed
      exact ⟨[], by simp, .unsupported unsupported⟩
    · have whole := splitAtom_append false (c :: tail)
      dsimp only at failed
      split at failed
      · rename_i unfinished
        cases failed
        have nothing := splitAtom_unfinished rfl unfinished
        rw [nothing, List.append_nil] at whole
        rw [nothing, whole]
        exact ⟨_, rfl, .unfinished⟩
      · rename_i denotes
        cases failed
        exact ⟨_, rfl, .dot whole (eq_dot_of_unescape? denotes)⟩
      · cases failed

theorem noToken_of_front {text consumed rest : Text} {error : ReadError}
    (failed : front text = .failed consumed error rest) :
    ∃ gap read tail, splitGap false text = (gap, tail) ∧ consumed = gap ++ read ∧
      NoToken tail read error rest := by
  rw [front_eq] at failed
  obtain ⟨read, same, noToken⟩ := noToken_of_frontAfter failed
  exact ⟨_, read, _, rfl, same, noToken⟩

theorem front_of_finished {text gap : Text} (finished : (scan text).ending = .finished gap) :
    front gap = .finished gap := by
  fun_induction scan text with
  | case1 text gap found =>
      cases finished
      obtain rfl := front_finished found
      exact found
  | case2 => cases finished
  | case3 text lexeme rest found after ih => exact ih finished

theorem front_of_failed {text consumed rest : Text} {error : ReadError}
    (failed : (scan text).ending = .failed consumed error rest) :
    front (consumed ++ rest) = .failed consumed error rest := by
  fun_induction scan text with
  | case1 => cases failed
  | case2 text consumed error rest found =>
      cases failed
      rw [front_failed found]
      exact found
  | case3 text lexeme rest found after ih => exact ih failed

/-- Why the lexer stops at byte `offset`, if its last token ends at byte `start`. -/
inductive StopsAt (text : Text) (start offset : Nat) : ReadError → Prop
  | unsupported {c : Char} {gap : Text} (skipped : Between text start offset gap)
      (isGap : IsGap false gap) (here : Between text offset (offset + c.utf8Size) [c])
      (listed : c ∈ "[]#`,?".toList) : StopsAt text start offset (.invalidSyntax [c])
  | unfinished (atEnd : offset = text.utf8Size) : StopsAt text start offset .endOfInput
  | dot {gap slice : Text} {middle : Nat} (skipped : Between text start middle gap)
      (isGap : IsGap false gap) (here : Between text middle offset slice)
      (isDot : slice = ['.'] ∨ slice = ['\\', '.']) :
      StopsAt text start offset (.invalidSyntax ['.'])

theorem offset_scan {text consumed rest : Text} (whole : consumed ++ rest = text)
    (left : (scan text).ending.rest = rest) : (scan text).offset = consumed.utf8Size := by
  rw [Scan.offset, text_scan, left, ← whole, Text.utf8Size_append, Nat.add_sub_cancel]

theorem stopsAt_of_failed {text consumed rest : Text} {error : ReadError}
    (failed : (scan text).ending = .failed consumed error rest) :
    StopsAt text (endOf (scan text).tokens) (scan text).offset error := by
  have whole := text_scan text
  rw [Scan.text, textOf, failed, Ending.text, ← List.append_assoc] at whole
  have starts : endOf (scan text).tokens = _ := endOf_place _
  have stops := offset_scan whole (by rw [failed]; rfl)
  obtain ⟨gap, read, tail, split, rfl, noToken⟩ := noToken_of_front (front_of_failed failed)
  rw [starts, stops]
  generalize (scan text).lexemes.flatMap Lexeme.text = before at whole ⊢
  change Text at before
  cases noToken with
  | @unsupported c tail unsupported =>
      have skipped : Between text before.utf8Size (Text.utf8Size (before ++ (gap ++ []))) gap :=
        ⟨before, c :: tail, by simp [← whole], rfl, by simp⟩
      have here : Between text (Text.utf8Size (before ++ (gap ++ [])))
          (Text.utf8Size (before ++ (gap ++ [])) + c.utf8Size) [c] :=
        ⟨before ++ gap, tail, by simp [← whole], by simp, by simp⟩
      exact .unsupported skipped (isGap_of_splitGap split (by simp)) here
        (by simpa [isUnsupported, or_assoc] using unsupported)
  | unfinished =>
      exact .unfinished (by simp [← whole])
  | dot cut isDot =>
      have skipped : Between text before.utf8Size (Text.utf8Size (before ++ gap)) gap :=
        ⟨before, read ++ rest, by simp [← whole], rfl, by simp⟩
      have here : Between text (Text.utf8Size (before ++ gap))
          (Text.utf8Size (before ++ (gap ++ read))) read :=
        ⟨before ++ gap, rest, by simp [← whole], rfl, by simp [Nat.add_assoc]⟩
      refine .dot skipped (isGap_of_splitGap split ?_) here isDot
      rintro rfl
      rcases isDot with rfl | rfl <;> simp at cut

end PackageRequires.Lisp
