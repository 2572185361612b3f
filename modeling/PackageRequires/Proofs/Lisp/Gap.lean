import PackageRequires.Proofs.Lisp.Locality

namespace PackageRequires.Lisp

/-! # Gaps

A gap is made of blanks and of comments, and each comment of it runs through its
newline.  Only at the end of a text may the newline of the last comment be
missing.  What the lexer skips is such a gap (`isGap_of_splitGap`), and any gap
put in front of a text is skipped in full (`IsGap.front`).
-/

/-- A sequence of blanks and comments.  `atEnd` says that it ends a text. -/
inductive IsGap (atEnd : Bool) : Text → Prop
  | nil : IsGap atEnd []
  | blank {c : Char} {gap : Text} (blank : Text.isBlank c = true) (later : IsGap atEnd gap) :
      IsGap atEnd (c :: gap)
  | comment {body gap : Text} (oneLine : '\n' ∉ body) (later : IsGap atEnd gap) :
      IsGap atEnd (';' :: body ++ '\n' :: gap)
  | unfinished {body : Text} (last : atEnd = true) (oneLine : '\n' ∉ body) :
      IsGap atEnd (';' :: body)

/-- What the lexer skips is a gap; inside a comment, a part of one. -/
theorem isGap_of_splitGap {inComment atEnd : Bool} {text gap rest : Text}
    (split : splitGap inComment text = (gap, rest)) (last : rest = [] → atEnd = true) :
    if inComment then ∀ seen, '\n' ∉ seen → IsGap atEnd (';' :: seen ++ gap) else IsGap atEnd gap := by
  induction text generalizing inComment gap with
  | nil =>
      cases split
      cases inComment with
      | false => exact .nil
      | true =>
          intro seen oneLine
          rw [List.append_nil]
          exact .unfinished (last rfl) oneLine
  | cons c text ih =>
      cases inComment with
      | true =>
          simp only [splitGap, Bool.true_or, if_true, Prod.mk.injEq] at split
          obtain ⟨rfl, rfl⟩ := split
          have later := @ih (c != '\n') _ rfl
          intro seen oneLine
          by_cases newline : c = '\n'
          · subst newline
            exact .comment oneLine later
          · simp only [bne_iff_ne.mpr newline, if_true] at later
            have longer := later (seen ++ [c]) (by simp [oneLine, Ne.symm newline])
            simpa [bne_iff_ne.mpr newline] using longer
      | false =>
          simp only [splitGap, Bool.false_or, Bool.false_eq_true, if_false] at split ⊢
          split at split
          · rename_i skipped
            cases split
            have later := @ih (c == ';') _ rfl
            by_cases semicolon : c = ';'
            · subst semicolon
              exact later [] (by simp)
            · rw [beq_eq_false_iff_ne.mpr semicolon] at later ⊢
              exact .blank (by simpa [semicolon] using skipped) later
          · cases split
            exact .nil

theorem splitGap_comment {body : Text} (oneLine : '\n' ∉ body) (text : Text) :
    splitGap true (body ++ '\n' :: text) =
      (body ++ '\n' :: (splitGap false text).1, (splitGap false text).2) := by
  induction body with
  | nil => simp [splitGap]
  | cons c body ih =>
      simp only [List.mem_cons, not_or] at oneLine
      simp [splitGap, bne_iff_ne.mpr (Ne.symm oneLine.1), ih oneLine.2]

theorem splitGap_unfinished {body : Text} (oneLine : '\n' ∉ body) :
    splitGap true body = (body, []) := by
  induction body with
  | nil => rfl
  | cons c body ih =>
      simp only [List.mem_cons, not_or] at oneLine
      simp [splitGap, bne_iff_ne.mpr (Ne.symm oneLine.1), ih oneLine.2]

namespace IsGap

variable {atEnd : Bool} {gap text : Text}

theorem splitGap (isGap : IsGap atEnd gap) (last : atEnd = true → text = []) :
    splitGap false (gap ++ text) =
      (gap ++ (Lisp.splitGap false text).1, (Lisp.splitGap false text).2) := by
  induction isGap with
  | nil => rfl
  | @blank c gap blank later ih =>
      have noComment : (c == ';') = false := by
        rw [beq_eq_false_iff_ne]
        rintro rfl
        contradiction
      simp [Lisp.splitGap, blank, noComment, ih]
  | @comment body gap oneLine later ih =>
      have inside := splitGap_comment oneLine (gap ++ text)
      rw [ih] at inside
      simp [Lisp.splitGap, inside]
  | @unfinished body atEnd oneLine =>
      obtain rfl := last atEnd
      simp [Lisp.splitGap, splitGap_unfinished oneLine]

theorem front (isGap : IsGap atEnd gap) (last : atEnd = true → text = []) :
    front (gap ++ text) = (Lisp.front text).behind gap := by
  rw [front_eq, front_eq, isGap.splitGap last, frontAfter_behind]

/-- An atom ends in front of a gap. -/
theorem delimited (isGap : IsGap atEnd gap) : Delimited gap := by
  intro c begins
  cases isGap with
  | nil => contradiction
  | blank blank _ =>
      cases begins
      simp [endsAtom, blank]
  | comment _ _ =>
      cases begins
      decide
  | unfinished _ _ =>
      cases begins
      decide

end IsGap

/-- The gap in front of a lexeme. -/
theorem isGap_of_front {text rest : Text} {lexeme : Lexeme}
    (found : front text = .lexeme lexeme rest) : IsGap false lexeme.gap := by
  obtain ⟨tail, split, here⟩ := front_eq_lexeme_iff.mp found
  refine isGap_of_splitGap split ?_
  rintro rfl
  cases here

end PackageRequires.Lisp
