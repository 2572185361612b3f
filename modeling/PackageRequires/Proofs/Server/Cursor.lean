import Mathlib.Order.Bounds.Basic
import PackageRequires.Proofs.Text
import PackageRequires.Server.Cursor

namespace PackageRequires.Server

/-! # The symbol under a cursor

A column between the two ends of a word gives a cursor between them, also where
the column is inside a character that takes two units.  From there both scans
stop at the ends of the word, if no symbol goes on beside it.  So the symbol under
a cursor is the only maximal run of symbol characters that reaches the cursor
(`cursors_exact`).
-/

/-! ## Columns -/

variable {front word back : Text} {units cursor : Nat}

theorem unitsOf_pos (c : Char) : 0 < Text.unitsOf c := by
  rw [Text.unitsOf]
  split <;> decide

/-- A character stands before the cursor if it begins before the column. -/
theorem length_lt_cursorAt_iff {c : Char} (back : Text) :
    front.length < cursorAt (front ++ c :: back) units ↔ front.utf16Size < units := by
  induction front generalizing units with
  | nil =>
      rw [List.nil_append, cursorAt, List.length_nil, Text.utf16Size_nil]
      split <;> omega
  | cons d front ih =>
      have later := @ih (units - Text.unitsOf d)
      rw [List.cons_append, cursorAt, List.length_cons, Text.utf16Size_cons]
      split <;> omega

theorem cursorAt_le_line (line : Text) (units : Nat) : cursorAt line units ≤ line.length := by
  induction line generalizing units with
  | nil => exact Nat.le_refl 0
  | cons c rest ih =>
      have later := ih (units - Text.unitsOf c)
      rw [cursorAt, List.length_cons]
      split <;> omega

theorem cursorAt_le_length (within : units ≤ front.utf16Size) (back : Text) :
    cursorAt (front ++ back) units ≤ front.length := by
  cases back with
  | nil =>
      rw [List.append_nil]
      exact cursorAt_le_line front units
  | cons c back =>
      rw [← Nat.not_lt, length_lt_cursorAt_iff]
      exact Nat.not_lt.mpr within

theorem length_le_cursorAt (reached : front.utf16Size ≤ units) (back : Text) :
    front.length ≤ cursorAt (front ++ back) units := by
  rcases List.eq_nil_or_concat' front with rfl | ⟨front, c, rfl⟩
  · exact Nat.zero_le _
  · have positive := unitsOf_pos c
    rw [Text.utf16Size_append, Text.utf16Size_cons, Text.utf16Size_nil] at reached
    rw [List.append_assoc, List.singleton_append, List.length_append, List.length_singleton,
      Nat.add_one_le_iff, length_lt_cursorAt_iff]
    omega

section Columns

variable {line : Text} {count : Nat}

theorem lt_cursorAt_iff (within : count < line.length) :
    count < cursorAt line units ↔ Text.utf16Size (line.take count) < units := by
  obtain ⟨front, c, back, rfl, rfl⟩ : ∃ front c back, line = front ++ c :: back ∧
      front.length = count :=
    ⟨line.take count, line.get ⟨count, within⟩, line.drop (count + 1), by simp,
      List.length_take_of_le within.le⟩
  rw [List.take_left]
  exact length_lt_cursorAt_iff back

theorem utf16Size_take_le (line : Text) (count : Nat) :
    Text.utf16Size (line.take count) ≤ line.utf16Size := by
  have whole := Text.utf16Size_append (line.take count) (line.drop count)
  rw [List.take_append_drop] at whole
  omega

theorem reached_of_inside (inside : cursorAt line units < line.length) :
    units ≤ Text.utf16Size (line.take (cursorAt line units)) :=
  Nat.le_of_not_lt fun short => Nat.lt_irrefl _ ((lt_cursorAt_iff inside).mpr short)

theorem cursorAt_le_of_reached (reached : units ≤ Text.utf16Size (line.take count)) :
    cursorAt line units ≤ count := by
  rcases Nat.lt_or_ge count line.length with inside | atEnd
  · exact Nat.le_of_not_lt fun before => Nat.not_lt.mpr reached ((lt_cursorAt_iff inside).mp before)
  · exact (cursorAt_le_line line units).trans atEnd

theorem cursorAt_isLeast (reached : ∃ count, units ≤ Text.utf16Size (line.take count)) :
    IsLeast {count | units ≤ Text.utf16Size (line.take count)} (cursorAt line units) := by
  obtain ⟨count, reached⟩ := reached
  refine ⟨?_, fun other => cursorAt_le_of_reached⟩
  rcases Nat.lt_or_eq_of_le (cursorAt_le_line line units) with inside | atEnd
  · exact reached_of_inside inside
  · change units ≤ Text.utf16Size (line.take (cursorAt line units))
    rw [atEnd, List.take_length]
    exact reached.trans (utf16Size_take_le line count)

theorem cursorAt_of_unreached (unreached : ¬ ∃ count, units ≤ Text.utf16Size (line.take count)) :
    cursorAt line units = line.length := by
  rcases Nat.lt_or_eq_of_le (cursorAt_le_line line units) with inside | atEnd
  · exact absurd ⟨_, reached_of_inside inside⟩ unreached
  · exact atEnd

theorem cursorAt_utf16Size_take (within : count ≤ line.length) :
    cursorAt line (Text.utf16Size (line.take count)) = count := by
  have upper := cursorAt_le_length (Nat.le_refl (Text.utf16Size (line.take count))) (line.drop count)
  have lower := length_le_cursorAt (Nat.le_refl (Text.utf16Size (line.take count))) (line.drop count)
  rw [List.take_append_drop, List.length_take_of_le within] at upper lower
  exact Nat.le_antisymm upper lower

theorem cursorAt_monotone (line : Text) : Monotone (cursorAt line) := by
  intro units further wider
  by_contra before
  rw [Nat.not_le] at before
  have inside := before.trans_le (cursorAt_le_line line units)
  have short := (lt_cursorAt_iff inside).mp before
  exact Nat.lt_irrefl _ ((lt_cursorAt_iff inside).mpr (short.trans_le wider))

end Columns

/-! ## Words -/

section Word

variable (symbol : ∀ c ∈ word, isSymbolCharacter c = true)
include symbol

theorem symbolBefore_of_word (before : ∀ c ∈ front.getLast?, isSymbolCharacter c = false)
    (inside : cursor ≤ word.length) :
    symbolBefore (front ++ word ++ back) (front.length + cursor) = word.take cursor := by
  have cut : (front ++ word ++ back).take (front.length + cursor) = front ++ word.take cursor := by
    rw [List.append_assoc, List.take_length_add_append, List.take_append_of_le_length inside]
  have taken : ∀ c ∈ (word.take cursor).reverse, isSymbolCharacter c = true := by
    intro c member
    exact symbol c (List.mem_of_mem_take (List.mem_reverse.mp member))
  have stops : ∀ c ∈ front.reverse.head?, isSymbolCharacter c = false := by
    rwa [List.head?_reverse]
  rw [symbolBefore, cut, List.reverse_append, takeWhile_append_of_stop taken stops,
    List.reverse_reverse]

theorem symbolBehind_of_word (behind : ∀ c ∈ back.head?, isSymbolCharacter c = false)
    (inside : cursor ≤ word.length) :
    symbolBehind (front ++ word ++ back) (front.length + cursor) = word.drop cursor := by
  have cut : (front ++ word ++ back).drop (front.length + cursor) = word.drop cursor ++ back := by
    rw [List.append_assoc, List.drop_length_add_append, List.drop_append_of_le_length inside]
  have kept : ∀ c ∈ word.drop cursor, isSymbolCharacter c = true := by
    intro c member
    exact symbol c (List.mem_of_mem_drop member)
  rw [symbolBehind, cut, takeWhile_append_of_stop kept behind]

/-- A cursor at either end of a word or inside it stands on the whole word. -/
theorem symbolAt?_of_word (nonempty : word ≠ [])
    (before : ∀ c ∈ front.getLast?, isSymbolCharacter c = false)
    (behind : ∀ c ∈ back.head?, isSymbolCharacter c = false)
    (starts : front.length ≤ cursor) (ends : cursor ≤ (front ++ word).length) :
    symbolAt? (front ++ word ++ back) cursor = some word := by
  obtain ⟨inside, rfl⟩ := Nat.exists_eq_add_of_le starts
  rw [List.length_append] at ends
  have within : inside ≤ word.length := Nat.le_of_add_le_add_left ends
  rw [symbolAt?, symbolBefore_of_word symbol before within,
    symbolBehind_of_word symbol behind within, List.take_append_drop]
  simp [nonempty]

/-- A column between the ends of a word is on the whole word. -/
theorem symbolAt?_cursorAt_of_word (nonempty : word ≠ [])
    (before : ∀ c ∈ front.getLast?, isSymbolCharacter c = false)
    (behind : ∀ c ∈ back.head?, isSymbolCharacter c = false)
    (starts : front.utf16Size ≤ units) (ends : units ≤ (front ++ word).utf16Size) :
    symbolAt? (front ++ word ++ back) (cursorAt (front ++ word ++ back) units) = some word := by
  refine symbolAt?_of_word symbol nonempty before behind ?_ (cursorAt_le_length ends back)
  rw [List.append_assoc]
  exact length_le_cursorAt starts (word ++ back)

end Word

/-! ## Runs -/

/-- The character at an index belongs to a symbol. -/
def SymbolAt (text : Text) (index : Nat) : Prop :=
  ∃ c, text[index]? = some c ∧ isSymbolCharacter c = true

/-- From `start` up to `stop` there are characters of symbols only, and at least one. -/
structure IsRun (line : Text) (start stop : Nat) : Prop where
  nonempty : start < stop
  symbol : ∀ index, start ≤ index → index < stop → SymbolAt line index

/-- A run that lies in no other run. -/
structure MaximalRun (line : Text) (start stop : Nat) : Prop extends IsRun line start stop where
  maximal : ∀ start' stop', IsRun line start' stop' → start' ≤ start → stop ≤ stop' →
    start' = start ∧ stop' = stop

/-- A cursor, which is at most at the end of the line, stands at either end of a maximal
run or inside it. -/
def RunAt (line : Text) (cursor start stop : Nat) : Prop :=
  MaximalRun line start stop ∧ start ≤ min cursor line.length ∧ min cursor line.length ≤ stop

section Runs

variable {line front word back : Text} {start stop cursor : Nat}

theorem maximalRun_iff :
    MaximalRun line start stop ↔ IsRun line start stop ∧
      (∀ before, before + 1 = start → ¬ SymbolAt line before) ∧ ¬ SymbolAt line stop := by
  constructor
  · intro ⟨run, maximal⟩
    have nonempty := run.nonempty
    refine ⟨run, ?_, ?_⟩
    · intro before next symbol
      have longer : IsRun line before stop := by
        refine ⟨by omega, fun index lower upper => ?_⟩
        rcases Nat.eq_or_lt_of_le lower with rfl | later
        · exact symbol
        · exact run.symbol index (by omega) upper
      have same := (maximal before stop longer (by omega) (Nat.le_refl stop)).1
      omega
    · intro symbol
      have longer : IsRun line start (stop + 1) := by
        refine ⟨by omega, fun index lower upper => ?_⟩
        rcases Nat.lt_or_eq_of_le (Nat.le_of_lt_succ upper) with earlier | rfl
        · exact run.symbol index lower earlier
        · exact symbol
      have same := (maximal start (stop + 1) longer (Nat.le_refl start) (Nat.le_succ stop)).2
      omega
  · intro ⟨run, before, behind⟩
    have nonempty := run.nonempty
    refine ⟨run, fun start' stop' longer lower upper => ⟨?_, ?_⟩⟩
    · by_contra different
      exact before (start - 1) (by omega) (longer.symbol (start - 1) (by omega) (by omega))
    · by_contra different
      exact behind (longer.symbol stop (by omega) (by omega))

/-- Two runs that reach one cursor are parts of a third. -/
theorem IsRun.union {start' stop' : Nat} (first : IsRun line start stop)
    (second : IsRun line start' stop') (starts : start ≤ cursor ∧ start' ≤ cursor)
    (stops : cursor ≤ stop ∧ cursor ≤ stop') :
    IsRun line (min start start') (max stop stop') := by
  have nonempty := first.nonempty
  refine ⟨by omega, fun index lower upper => ?_⟩
  by_cases inFirst : start ≤ index ∧ index < stop
  · exact first.symbol index inFirst.1 inFirst.2
  · exact second.symbol index (by omega) (by omega)

theorem RunAt.unique {start' stop' : Nat} (run : RunAt line cursor start stop)
    (other : RunAt line cursor start' stop') : start' = start ∧ stop' = stop := by
  obtain ⟨first, starts, stops⟩ := run
  obtain ⟨second, starts', stops'⟩ := other
  have union := first.union second.toIsRun ⟨starts, starts'⟩ ⟨stops, stops'⟩
  have same := first.maximal _ _ union (Nat.min_le_left _ _) (Nat.le_max_left _ _)
  have same' := second.maximal _ _ union (Nat.min_le_right _ _) (Nat.le_max_right _ _)
  omega

/-! ### The word of a run -/

theorem symbolAt_iff_head? {index : Nat} :
    SymbolAt line index ↔ ∃ c ∈ (line.drop index).head?, isSymbolCharacter c = true := by
  simp only [SymbolAt, List.head?_drop, Option.mem_def]

theorem symbolAt_iff_getLast? {before : Nat} (within : before < line.length) :
    SymbolAt line before ↔ ∃ c ∈ (line.take (before + 1)).getLast?, isSymbolCharacter c = true := by
  simp [SymbolAt, List.getLast?_take, within]

theorem maximalRun_of_word (nonempty : word ≠ [])
    (symbol : ∀ c ∈ word, isSymbolCharacter c = true)
    (before : ∀ c ∈ front.getLast?, isSymbolCharacter c = false)
    (behind : ∀ c ∈ back.head?, isSymbolCharacter c = false) :
    MaximalRun (front ++ word ++ back) front.length (front ++ word).length := by
  have positive := List.length_pos_of_ne_nil nonempty
  refine maximalRun_iff.mpr ⟨⟨?_, ?_⟩, ?_, ?_⟩
  · rw [List.length_append]
    omega
  · intro index lower upper
    rw [List.length_append] at upper
    have inside : index - front.length < word.length := by omega
    refine ⟨word[index - front.length], ?_, symbol _ (List.getElem_mem inside)⟩
    rw [List.append_assoc, List.getElem?_append_right lower, List.getElem?_append_left inside,
      List.getElem?_eq_getElem inside]
  · intro last next symbolic
    have within : last < (front ++ word ++ back).length := by
      simp only [List.length_append]
      omega
    rw [symbolAt_iff_getLast? within, next, List.append_assoc, List.take_left] at symbolic
    obtain ⟨c, ends, symbolic⟩ := symbolic
    rw [before c ends] at symbolic
    contradiction
  · rw [symbolAt_iff_head?, List.drop_left]
    intro ⟨c, first, symbolic⟩
    rw [behind c first] at symbolic
    contradiction

theorem extract_word (front word back : Text) :
    (front ++ word ++ back).extract front.length (front ++ word).length = word := by
  rw [List.extract_eq_take_drop, List.append_assoc, List.drop_left, List.length_append,
    Nat.add_sub_cancel_left, List.take_left]

theorem symbol_of_mem_symbolBefore {c : Char} (member : c ∈ symbolBefore line cursor) :
    isSymbolCharacter c = true :=
  List.mem_takeWhile_imp (List.mem_reverse.mp member)

theorem exists_lead (line : Text) (cursor : Nat) :
    ∃ lead, line.take cursor = lead ++ symbolBefore line cursor ∧
      ∀ c ∈ lead.getLast?, isSymbolCharacter c = false := by
  refine ⟨((line.take cursor).reverse.dropWhile isSymbolCharacter).reverse, ?_, ?_⟩
  · rw [symbolBefore, ← List.reverse_append, List.takeWhile_append_dropWhile, List.reverse_reverse]
  · rw [List.getLast?_reverse]
    exact dropWhile_stops isSymbolCharacter _

theorem exists_runAt (nonempty : symbolBefore line cursor ++ symbolBehind line cursor ≠ []) :
    ∃ start stop, RunAt line cursor start stop ∧
      line.extract start stop = symbolBefore line cursor ++ symbolBehind line cursor ∧
      min cursor line.length = start + (symbolBefore line cursor).length := by
  obtain ⟨lead, left, before⟩ := exists_lead line cursor
  let tail := (line.drop cursor).dropWhile isSymbolCharacter
  have right : line.drop cursor = symbolBehind line cursor ++ tail :=
    List.takeWhile_append_dropWhile.symm
  have behind : ∀ c ∈ tail.head?, isSymbolCharacter c = false := dropWhile_stops _ _
  have whole : line = lead ++ (symbolBefore line cursor ++ symbolBehind line cursor) ++ tail := by
    rw [← List.append_assoc lead, ← left, List.append_assoc, ← right, List.take_append_drop]
  have here : min cursor line.length = lead.length + (symbolBefore line cursor).length := by
    rw [← List.length_append, ← left, List.length_take]
  have symbol : ∀ c ∈ symbolBefore line cursor ++ symbolBehind line cursor,
      isSymbolCharacter c = true := by
    intro c member
    rcases List.mem_append.mp member with inFront | inBack
    · exact symbol_of_mem_symbolBefore inFront
    · exact List.mem_takeWhile_imp inBack
  have run := maximalRun_of_word nonempty symbol before behind
  -- the two parts are texts of their own from here on, so that the line can be put for its split
  generalize symbolBefore line cursor = typed at *
  generalize symbolBehind line cursor = more at *
  rw [← whole] at run
  refine ⟨_, _, ⟨run, ?_, ?_⟩, ?_, here⟩
  · omega
  · simp only [List.length_append]
    omega
  · rw [whole, extract_word]

theorem symbolBehind_ne_nil (symbolic : SymbolAt line cursor) : symbolBehind line cursor ≠ [] := by
  obtain ⟨c, first, symbolic⟩ := symbolAt_iff_head?.mp symbolic
  obtain ⟨rest, split⟩ := List.head?_eq_some_iff.mp first
  simp [symbolBehind, split, symbolic]

theorem symbolBefore_ne_nil {last : Nat} (next : last + 1 = min cursor line.length)
    (symbolic : SymbolAt line last) : symbolBefore line cursor ≠ [] := by
  obtain ⟨c, ends, symbolic⟩ := (symbolAt_iff_getLast? (by omega)).mp symbolic
  rw [next, ← List.take_eq_take_min] at ends
  obtain ⟨rest, split⟩ := List.getLast?_eq_some_iff.mp ends
  simp [symbolBefore, split, symbolic]

theorem RunAt.ne_nil (run : RunAt line cursor start stop) :
    symbolBefore line cursor ++ symbolBehind line cursor ≠ [] := by
  obtain ⟨run, starts, stops⟩ := run
  have nonempty := run.nonempty
  rcases Nat.lt_or_eq_of_le stops with inside | atEnd
  · have symbolic := run.symbol _ starts inside
    have within : cursor < line.length := by
      obtain ⟨c, found, -⟩ := symbolic
      have := (List.getElem?_eq_some_iff.mp found).1
      omega
    rw [Nat.min_eq_left within.le] at symbolic
    exact List.append_ne_nil_of_right_ne_nil _ (symbolBehind_ne_nil symbolic)
  · have symbolic := run.symbol (stop - 1) (by omega) (by omega)
    exact List.append_ne_nil_of_left_ne_nil (symbolBefore_ne_nil (by omega) symbolic) _

theorem symbolAt?_eq_some_iff {symbol : Text} :
    symbolAt? line cursor = some symbol ↔
      ∃ start stop, RunAt line cursor start stop ∧ line.extract start stop = symbol := by
  by_cases empty : symbolBefore line cursor ++ symbolBehind line cursor = []
  · have absent : symbolAt? line cursor = none := by simp [symbolAt?, empty]
    rw [absent]
    constructor
    · intro impossible
      cases impossible
    · intro ⟨start, stop, run, _⟩
      exact absurd empty run.ne_nil
  · have found : symbolAt? line cursor =
        some (symbolBefore line cursor ++ symbolBehind line cursor) := by
      simp only [symbolAt?, List.isEmpty_iff, if_neg empty]
    obtain ⟨start, stop, run, cut, -⟩ := exists_runAt empty
    rw [found, ← cut, Option.some.injEq]
    constructor
    · intro same
      exact ⟨start, stop, run, same⟩
    · intro ⟨start', stop', other, same⟩
      obtain ⟨rfl, rfl⟩ := run.unique other
      exact same

theorem symbolBefore_of_runAt (run : RunAt line cursor start stop) :
    symbolBefore line cursor =
      (line.extract start stop).take (min cursor line.length - start) := by
  by_cases empty : symbolBefore line cursor ++ symbolBehind line cursor = []
  · exact absurd empty run.ne_nil
  · obtain ⟨start', stop', other, cut, here⟩ := exists_runAt empty
    obtain ⟨rfl, rfl⟩ := run.unique other
    rw [cut, here, Nat.add_sub_cancel_left, List.take_left]

theorem symbolBefore_of_none (absent : symbolAt? line cursor = none) :
    symbolBefore line cursor = [] := by
  simp only [symbolAt?, List.isEmpty_iff] at absent
  split at absent
  · next empty => exact (List.append_eq_nil_iff.mp empty).1
  · cases absent

end Runs

/-- A column gives the least cursor with so many units before it, or else the end of the
line, and the symbol at a cursor is the one maximal run that reaches the cursor. -/
theorem cursors_exact (line : Text) :
    (∀ units,
      ((∃ count, units ≤ Text.utf16Size (line.take count)) →
        IsLeast {count | units ≤ Text.utf16Size (line.take count)} (cursorAt line units)) ∧
      ((¬ ∃ count, units ≤ Text.utf16Size (line.take count)) →
        cursorAt line units = line.length)) ∧
    (∀ count ≤ line.length, cursorAt line (Text.utf16Size (line.take count)) = count) ∧
    Monotone (cursorAt line) ∧
    (∀ units, cursorAt line units ≤ line.length) ∧
    ∀ cursor,
      (∀ symbol, symbolAt? line cursor = some symbol ↔
        ∃ start stop, RunAt line cursor start stop ∧ line.extract start stop = symbol) ∧
      (∀ start stop start' stop', RunAt line cursor start stop → RunAt line cursor start' stop' →
        start' = start ∧ stop' = stop) ∧
      (∀ start stop, RunAt line cursor start stop →
        symbolBefore line cursor =
          (line.extract start stop).take (min cursor line.length - start)) ∧
      (symbolAt? line cursor = none → symbolBefore line cursor = []) := by
  refine ⟨?_, ?_, cursorAt_monotone line, cursorAt_le_line line, ?_⟩
  · intro units
    exact ⟨cursorAt_isLeast, cursorAt_of_unreached⟩
  · intro count within
    exact cursorAt_utf16Size_take within
  · intro cursor
    refine ⟨fun symbol => symbolAt?_eq_some_iff, ?_, ?_, symbolBefore_of_none⟩
    · intro start stop start' stop' run other
      exact run.unique other
    · intro start stop run
      exact symbolBefore_of_runAt run

/-- A column inside a character gives the cursor behind it, which a run reaches. -/
theorem cursors_exact_inside_character :
    (∃ count, 2 ≤ Text.utf16Size ("(😀x y".toList.take count)) ∧
      IsLeast {count | 2 ≤ Text.utf16Size ("(😀x y".toList.take count)} 2 ∧
      ∃ start stop, RunAt "(😀x y".toList 2 start stop ∧
        "(😀x y".toList.extract start stop = "😀x".toList ∧
        symbolBefore "(😀x y".toList 2 =
          ("(😀x y".toList.extract start stop).take (min 2 "(😀x y".toList.length - start) := by
  obtain ⟨columns, -, -, -, symbols⟩ := cursors_exact "(😀x y".toList
  have reached : ∃ count, 2 ≤ Text.utf16Size ("(😀x y".toList.take count) := ⟨2, by decide⟩
  obtain ⟨found, -, typed, -⟩ := symbols 2
  obtain ⟨start, stop, run, cut⟩ := (found "😀x".toList).mp (by decide)
  exact ⟨reached, (columns 2).1 reached, start, stop, run, cut, typed start stop run⟩

end PackageRequires.Server
