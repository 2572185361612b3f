import PackageRequires.Lisp.Token

namespace PackageRequires.Lisp

/-! # Tokens one after another

`Lexed` follows the lexemes at the front of a text as far as one wants, where
`scan` follows them to the end.
-/

/-- The first lexemes of a text, one after another, and the text behind them. -/
inductive Lexed : Text → List Lexeme → Text → Prop
  | nil (text : Text) : Lexed text [] text
  | cons {text rest after : Text} {lexeme : Lexeme} {lexemes : List Lexeme}
      (found : front text = .lexeme lexeme rest) (later : Lexed rest lexemes after) :
      Lexed text (lexeme :: lexemes) after

theorem Lexed.uncons {text after : Text} {lexeme : Lexeme} {lexemes : List Lexeme}
    (lexed : Lexed text (lexeme :: lexemes) after) :
    ∃ rest, front text = .lexeme lexeme rest ∧ Lexed rest lexemes after := by
  cases lexed with
  | cons found later => exact ⟨_, found, later⟩

theorem scan_of_lexeme {text rest : Text} {lexeme : Lexeme}
    (found : front text = .lexeme lexeme rest) :
    scan text = ⟨lexeme :: (scan rest).lexemes, (scan rest).ending⟩ := by
  rw [scan]
  split <;> simp_all

theorem scan_of_finished {text gap : Text} (found : front text = .finished gap) :
    scan text = ⟨[], .finished gap⟩ := by
  rw [scan]
  split <;> simp_all

theorem scan_of_failed {text consumed rest : Text} {error : ReadError}
    (failed : front text = .failed consumed error rest) :
    scan text = ⟨[], .failed consumed error rest⟩ := by
  rw [scan]
  split <;> simp_all

theorem Lexed.scan {text rest : Text} {lexemes : List Lexeme} (lexed : Lexed text lexemes rest) :
    Lisp.scan text = ⟨lexemes ++ (Lisp.scan rest).lexemes, (Lisp.scan rest).ending⟩ := by
  induction lexed with
  | nil text => rfl
  | cons found later ih => rw [scan_of_lexeme found, ih]; rfl

theorem Lexed.scan_of_all {text : Text} {lexemes : List Lexeme} (lexed : Lexed text lexemes []) :
    Lisp.scan text = ⟨lexemes, .finished []⟩ := by
  have nothing : Lisp.scan [] = ⟨[], .finished []⟩ := scan_of_finished rfl
  rw [lexed.scan, nothing, List.append_nil]

/-- The lexemes of a scan are those that stand at the front, one after another. -/
theorem lexed_of_scan {text : Text} {lexemes later : List Lexeme}
    (scanned : (scan text).lexemes = lexemes ++ later) :
    Lexed text lexemes (textOf later (scan text).ending) := by
  induction lexemes generalizing text with
  | nil =>
      have whole := text_scan text
      rw [Scan.text, scanned] at whole
      rw [List.nil_append] at whole
      rw [whole]
      exact .nil text
  | cons lexeme lexemes ih =>
      cases found : front text with
      | finished gap =>
          rw [scan] at scanned
          split at scanned <;> simp_all
      | failed consumed error rest =>
          rw [scan] at scanned
          split at scanned <;> simp_all
      | lexeme first rest =>
          rw [scan_of_lexeme found] at scanned ⊢
          simp only [List.cons_append, List.cons.injEq] at scanned
          obtain ⟨rfl, scanned⟩ := scanned
          exact .cons found (ih scanned)

theorem Lexed.text {text rest : Text} {lexemes : List Lexeme} (lexed : Lexed text lexemes rest) :
    lexemes.flatMap Lexeme.text ++ rest = text := by
  induction lexed with
  | nil text => rfl
  | cons found later ih => rw [List.flatMap_cons, List.append_assoc, ih, front_lexeme found]

theorem Lexed.append {text middle rest : Text} {lexemes others : List Lexeme}
    (first : Lexed text lexemes middle) (second : Lexed middle others rest) :
    Lexed text (lexemes ++ others) rest := by
  induction first with
  | nil text => exact second
  | cons found _ ih => exact .cons found (ih second)

/-- What stands at the front of a text, behind more of a gap. -/
def Front.behind (more : Text) : Front → Front
  | .finished gap => .finished (more ++ gap)
  | .lexeme found rest => .lexeme { found with gap := more ++ found.gap } rest
  | .failed consumed error rest => .failed (more ++ consumed) error rest

theorem frontAfter_behind (more gap text : Text) :
    frontAfter (more ++ gap) text = (frontAfter gap text).behind more := by
  unfold frontAfter
  split
  · rfl
  · rfl
  · rfl
  · rfl
  · split <;> simp [Front.behind]
  · dsimp only
    split
    · rfl
    · split <;> simp [Front.behind]

theorem front_blank {c : Char} (text : Text) (blank : Text.isBlank c = true) :
    front (c :: text) = (front text).behind [c] := by
  have noComment : (c == ';') = false := by
    rw [beq_eq_false_iff_ne]
    rintro rfl
    contradiction
  rw [front_eq, front_eq, ← frontAfter_behind]
  simp [splitGap, blank, noComment]

/-- The first tokens of a text, and the text behind them. -/
def Tokenized (text : Text) (tokens : List Token) (rest : Text) : Prop :=
  ∃ lexemes, Lexed text lexemes rest ∧ lexemes.map Lexeme.token = tokens

namespace Tokenized

variable {text middle rest : Text} {tokens later : List Token}

theorem single {lexeme : Lexeme} (found : front text = .lexeme lexeme rest) :
    Tokenized text [lexeme.token] rest :=
  ⟨[lexeme], .cons found (.nil rest), rfl⟩

theorem append (first : Tokenized text tokens middle) (second : Tokenized middle later rest) :
    Tokenized text (tokens ++ later) rest := by
  obtain ⟨lexemes, lexed, rfl⟩ := first
  obtain ⟨others, lexed', rfl⟩ := second
  exact ⟨lexemes ++ others, lexed.append lexed', List.map_append⟩

theorem behind_blank {c : Char} (blank : Text.isBlank c = true) (nonempty : tokens ≠ [])
    (tokenized : Tokenized text tokens rest) : Tokenized (c :: text) tokens rest := by
  obtain ⟨lexemes, lexed, same⟩ := tokenized
  cases lexed with
  | nil => exact absurd same.symm nonempty
  | @cons text rest after lexeme lexemes found later =>
      have moved : front (c :: text) = .lexeme { lexeme with gap := [c] ++ lexeme.gap } rest := by
        rw [front_blank text blank, found]
        rfl
      exact ⟨_, .cons moved later, same⟩

end Tokenized

end PackageRequires.Lisp
