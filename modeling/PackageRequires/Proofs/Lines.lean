import PackageRequires.Text

namespace PackageRequires.Text

/-! # The lines of a text

A newline separates the lines before it from those behind it, whatever they are
(`lines_newline`), so a line that stands between newlines is one of the lines.
`HasLines` tells the lines of a text by how each of them ends.
-/

/-- All pieces between newlines. -/
def allPieces (text : Text) : List Text := (pieces text).1 :: (pieces text).2

theorem allPieces_cons (c : Char) (text : Text) :
    allPieces (c :: text) =
      if c = '\n' then [] :: allPieces text
      else (c :: (pieces text).1) :: (pieces text).2 := by
  by_cases newline : c = '\n' <;> simp [allPieces, pieces, newline]

theorem allPieces_newline (front rest : Text) :
    allPieces (front ++ '\n' :: rest) = allPieces front ++ allPieces rest := by
  induction front with
  | nil => simp [allPieces, pieces]
  | cons c front ih =>
      rw [List.cons_append, allPieces_cons, allPieces_cons]
      by_cases newline : c = '\n'
      · rw [if_pos newline, if_pos newline, ih, List.cons_append]
      · rw [if_neg newline, if_neg newline]
        simp only [allPieces, List.cons_append, List.cons.injEq] at ih ⊢
        exact ⟨⟨trivial, ih.1⟩, ih.2⟩

theorem allPieces_of_not_mem {line : Text} (noNewline : '\n' ∉ line) : allPieces line = [line] := by
  induction line with
  | nil => rfl
  | cons c line ih =>
      simp only [List.mem_cons, not_or] at noNewline
      have later := ih noNewline.2
      simp only [allPieces, List.cons.injEq] at later
      rw [allPieces_cons, if_neg (Ne.symm noNewline.1), later.1, later.2]

theorem lines_eq (text : Text) :
    lines text = (allPieces text).dropLast.map dropReturn ++
      if ((allPieces text).getLast (by simp [allPieces])).isEmpty then []
      else [(allPieces text).getLast (by simp [allPieces])] := rfl

theorem lines_newline (front rest : Text) :
    lines (front ++ '\n' :: rest) = (allPieces front).map dropReturn ++ lines rest := by
  have nonempty : allPieces rest ≠ [] := by simp [allPieces]
  simp only [lines_eq, allPieces_newline, List.dropLast_append_of_ne_nil nonempty,
    List.getLast_append_of_ne_nil _ nonempty, List.map_append, List.append_assoc]

/-- The lines in front of a newline do not depend on what follows it. -/
theorem lines_append_newline (front rest : Text) :
    lines (front ++ '\n' :: rest) = lines (front ++ ['\n']) ++ lines rest := by
  rw [lines_newline, lines_newline]
  simp [lines, pieces]

theorem lines_of_not_mem {line : Text} (noNewline : '\n' ∉ line) (nonempty : line ≠ []) :
    lines line = [line] := by
  simp [lines_eq, allPieces_of_not_mem noNewline, nonempty]

theorem dropReturn_append_return (line : Text) : dropReturn (line ++ ['\r']) = line := by
  have dropped : dropBack? ['\r'] (line ++ ['\r']) = some line := dropBack?_eq_some_iff.mpr rfl
  rw [dropReturn, dropped, Option.getD_some]

theorem dropReturn_of_getLast? {line : Text} (noReturn : line.getLast? ≠ some '\r') :
    dropReturn line = line := by
  have kept : dropBack? ['\r'] line = none := by
    rw [Option.eq_none_iff_forall_ne_some]
    intro rest dropped
    apply noReturn
    rw [dropBack?_eq_some_iff.mp dropped, List.getLast?_concat]
  rw [dropReturn, kept, Option.getD_none]

/-- A text behind which a new line begins. -/
def EndsLine (text : Text) : Prop := text = [] ∨ ∃ before, text = before ++ ['\n']

theorem EndsLine.lines_append {front : Text} (ends : EndsLine front) (rest : Text) :
    lines (front ++ rest) = lines front ++ lines rest := by
  rcases ends with rfl | ⟨before, rfl⟩
  · rfl
  · rw [List.append_assoc, List.singleton_append, lines_append_newline]

/-- `rest` is what follows the end of a line: the end of the text, or a newline
with or without a carriage return in front of it. -/
def LineEnd (text rest : Text) : Prop :=
  (text = [] ∧ rest = []) ∨ text = '\n' :: rest ∨ text = '\r' :: '\n' :: rest

theorem lines_oneLine_newline {line : Text} (oneLine : '\n' ∉ line) (rest : Text) :
    lines (line ++ '\n' :: rest) = dropReturn line :: lines rest := by
  rw [lines_newline, allPieces_of_not_mem oneLine, List.map_singleton, List.singleton_append]

theorem lines_oneLine_return {line : Text} (oneLine : '\n' ∉ line) (rest : Text) :
    lines (line ++ '\r' :: '\n' :: rest) = line :: lines rest := by
  have oneLine' : '\n' ∉ line ++ ['\r'] := by simpa using oneLine
  have moved : line ++ '\r' :: '\n' :: rest = (line ++ ['\r']) ++ '\n' :: rest := by simp
  rw [moved, lines_oneLine_newline oneLine', dropReturn_append_return]

theorem LineEnd.lines_append {line back rest : Text} (ends : LineEnd back rest)
    (noNewline : '\n' ∉ line) (nonempty : line ≠ []) (noReturn : line.getLast? ≠ some '\r') :
    lines (line ++ back) = line :: lines rest := by
  rcases ends with ⟨rfl, rfl⟩ | rfl | rfl
  · rw [List.append_nil, lines_of_not_mem noNewline nonempty]
    rfl
  · rw [lines_oneLine_newline noNewline, dropReturn_of_getLast? noReturn]
  · exact lines_oneLine_return noNewline rest

/-- The lines of a text.  Each ends at its newline, and a carriage return
directly before that is no part of it.  Behind the last newline there is a
further line only if some text is left, and that one keeps a carriage return. -/
inductive HasLines : (text : Text) → (lines : List Text) → Prop
  | nil : HasLines [] []
  | last {line : Text} (oneLine : '\n' ∉ line) (nonempty : line ≠ []) : HasLines line [line]
  | newline {line rest : Text} {later : List Text} (oneLine : '\n' ∉ line)
      (noReturn : line.getLast? ≠ some '\r') (behind : HasLines rest later) :
      HasLines (line ++ '\n' :: rest) (line :: later)
  | returned {line rest : Text} {later : List Text} (oneLine : '\n' ∉ line)
      (behind : HasLines rest later) : HasLines (line ++ '\r' :: '\n' :: rest) (line :: later)

theorem HasLines.lines_eq {text : Text} {all : List Text} (hasLines : HasLines text all) :
    lines text = all := by
  induction hasLines with
  | nil => rfl
  | last oneLine nonempty => exact lines_of_not_mem oneLine nonempty
  | newline oneLine noReturn _ ih =>
      rw [lines_oneLine_newline oneLine, dropReturn_of_getLast? noReturn, ih]
  | returned oneLine _ ih => rw [lines_oneLine_return oneLine, ih]

theorem hasLines_lines (text : Text) : HasLines text (lines text) := by
  induction size : text.length using Nat.strongRecOn generalizing text with
  | ind bound ih =>
      by_cases broken : '\n' ∈ text
      · obtain ⟨line, rest, rfl, oneLine⟩ := List.eq_append_cons_of_mem broken
        have behind := ih rest.length
          (by simp only [List.length_append, List.length_cons] at size; omega) rest rfl
        rw [lines_oneLine_newline oneLine]
        by_cases returned : line.getLast? = some '\r'
        · obtain ⟨front, rfl⟩ := List.getLast?_eq_some_iff.mp returned
          rw [dropReturn_append_return, List.append_assoc, List.singleton_append]
          exact .returned (fun member => oneLine (List.mem_append_left _ member)) behind
        · rw [dropReturn_of_getLast? returned]
          exact .newline oneLine returned behind
      · by_cases empty : text = []
        · subst empty
          exact .nil
        · rw [lines_of_not_mem broken empty]
          exact .last broken empty

theorem HasLines.oneLine {text line : Text} {all : List Text} (hasLines : HasLines text all)
    (member : line ∈ all) : '\n' ∉ line := by
  induction hasLines with
  | nil => contradiction
  | last oneLine _ => exact List.mem_singleton.mp member ▸ oneLine
  | newline oneLine _ _ ih =>
      rcases List.mem_cons.mp member with same | later
      · exact same ▸ oneLine
      · exact ih later
  | returned oneLine _ ih =>
      rcases List.mem_cons.mp member with same | later
      · exact same ▸ oneLine
      · exact ih later

/-- Lines that are written one after another, each with its newline, are the lines. -/
theorem lines_flatMap_newline {all : List Text}
    (separate : ∀ line ∈ all, '\n' ∉ line ∧ line.getLast? ≠ some '\r') :
    lines (all.flatMap (· ++ ['\n'])) = all := by
  apply HasLines.lines_eq
  induction all with
  | nil => exact .nil
  | cons line all ih =>
      rw [List.forall_mem_cons] at separate
      rw [List.flatMap_cons, List.append_assoc, List.singleton_append]
      exact .newline separate.1.1 separate.1.2 (ih separate.2)

theorem line?_of_lines {text line : Text} {before after : List Text}
    (split : lines text = before ++ line :: after) :
    line? text (before.length + 1) = some line := by
  rw [line?, if_neg (Nat.succ_ne_zero _), split, Nat.add_sub_cancel,
    List.getElem?_append_right (Nat.le_refl _), Nat.sub_self, List.getElem?_cons_zero]

end PackageRequires.Text
