import PackageRequires.Proofs.Catalogue.History
import PackageRequires.Proofs.Server.Hover

namespace PackageRequires.Server

/-! # What is offered at a cursor

A completion begins with what is typed of a symbol.  The host comes first and the
packages of the catalogue follow, whatever they are called.
-/

/-! ## What is typed -/

/-- Before a column of a line stand the characters that begin before it.  The last
ones of them, as far back as they belong to a symbol, are what is typed of it. -/
structure Typed (line : Text) (units : Nat) (lead start : Text) : Prop where
  onLine : lead ++ start <+: line
  column : ∀ (front : Text) (c : Char), front ++ [c] <+: line →
    (front ++ [c] <+: lead ++ start ↔ front.utf16Size < units)
  symbol : ∀ c ∈ start, isSymbolCharacter c = true
  bounded : ∀ c ∈ lead.getLast?, isSymbolCharacter c = false

theorem prefix_take_cursorAt_iff {line front : Text} {c : Char} {units : Nat}
    (onLine : front ++ [c] <+: line) :
    front ++ [c] <+: line.take (cursorAt line units) ↔ front.utf16Size < units := by
  rw [List.prefix_take_iff, and_iff_right onLine, List.length_append, List.length_singleton,
    Nat.add_one_le_iff]
  obtain ⟨back, rfl⟩ := onLine
  rw [List.append_assoc, List.singleton_append]
  exact length_lt_cursorAt_iff back

theorem exists_typed (line : Text) (units : Nat) :
    ∃ lead, Typed line units lead (symbolBefore line (cursorAt line units)) := by
  obtain ⟨lead, joined, bounded⟩ := exists_lead line (cursorAt line units)
  refine ⟨lead, ?_, ?_, fun c => symbol_of_mem_symbolBefore, bounded⟩
  · rw [← joined]
    exact List.take_prefix _ _
  · intro front c onLine
    rw [← joined]
    exact prefix_take_cursorAt_iff onLine

theorem Typed.length_eq_cursorAt {line lead start : Text} {units : Nat}
    (typed : Typed line units lead start) : (lead ++ start).length = cursorAt line units := by
  obtain ⟨back, joined⟩ := typed.onLine
  have column := typed.column
  generalize lead ++ start = before at joined column
  apply Nat.le_antisymm
  · -- The last character before the cursor begins before the column.
    rcases List.eq_nil_or_concat' before with rfl | ⟨front, c, rfl⟩
    · exact Nat.zero_le _
    · have onLine : front ++ [c] <+: line := ⟨back, joined⟩
      have reached := (column front c onLine).mp (List.prefix_refl _)
      rw [← joined, List.append_assoc, List.singleton_append, List.length_append]
      exact (length_lt_cursorAt_iff back).mpr reached
  · cases back with
    | nil =>
        rw [← joined, List.append_nil]
        exact cursorAt_le_line before units
    | cons c back =>
        -- The one behind it does not.
        have onLine : before ++ [c] <+: line := ⟨back, by rw [← joined]; simp⟩
        have behind : ¬ before.utf16Size < units := by
          rw [← column before c onLine]
          intro inside
          simpa using inside.length_le
        rw [← joined, ← Nat.not_lt, length_lt_cursorAt_iff]
        exact behind

theorem exists_typed_iff {line start : Text} {units : Nat} :
    (∃ lead, Typed line units lead start) ↔ start = symbolBefore line (cursorAt line units) := by
  constructor
  · intro found
    obtain ⟨lead, typed⟩ := found
    obtain ⟨back, joined⟩ := typed.onLine
    have word : symbolBefore (lead ++ start ++ back) (lead.length + start.length) =
        start.take start.length := symbolBefore_of_word typed.symbol typed.bounded (Nat.le_refl _)
    rw [← List.length_append, typed.length_eq_cursorAt, joined, List.take_length] at word
    exact word.symm
  · intro same
    rw [same]
    exact exists_typed line units

/-! ## What is offered -/

section Labels

variable {catalogue : Catalogue} {start : Text}

/-- The names of a catalogue that begin with what is typed. -/
def begunNames (catalogue : Catalogue) (start : Text) : List Text :=
  catalogue.names.filter fun name => start.isPrefixOf name

theorem mem_begunNames_iff {name : Text} :
    name ∈ begunNames catalogue start ↔ start <+: name ∧ catalogue.contains name = true := by
  rw [begunNames, List.mem_filter, Catalogue.mem_names_iff, List.isPrefixOf_iff_prefix, and_comm]

theorem begunNames_ascending (catalogue : Catalogue) (start : Text) :
    (begunNames catalogue start).Pairwise fun left right => left.bytes < right.bytes :=
  catalogue.names_ascending.filter _

theorem begunNames_nodup (catalogue : Catalogue) (start : Text) :
    (begunNames catalogue start).Nodup :=
  catalogue.names_nodup.filter _

theorem labels_completionsOf (catalogue : Catalogue) (start : Text) :
    (completionsOf catalogue start).map Completion.label =
      (if start <+: "emacs".toList then ["emacs".toList] else []) ++ begunNames catalogue start := by
  have label : Completion.label ∘ completionOf catalogue = id := rfl
  rw [completionsOf, List.map_map, label, List.map_id, List.filter_cons, hostPackage]
  simp only [List.isPrefixOf_iff_prefix]
  split <;> rfl

/-- A name is offered once as the host and once as a package of the catalogue. -/
theorem count_labels (catalogue : Catalogue) (start label : Text) :
    ((completionsOf catalogue start).map Completion.label).count label =
      if start <+: label then
        (if label = "emacs".toList then 1 else 0) + if catalogue.contains label then 1 else 0
      else 0 := by
  rw [labels_completionsOf, List.count_append, (begunNames_nodup catalogue start).count]
  simp only [mem_begunNames_iff]
  generalize "emacs".toList = host
  by_cases same : label = host
  · rw [← same]
    by_cases begun : start <+: label
    · simp [begun]
    · simp [begun]
  · have other : (if start <+: host then [host] else []).count label = 0 := by
      split <;> simp [Ne.symm same]
    by_cases begun : start <+: label
    · simp [begun, other, same]
    · simp [begun, other]

theorem mem_labels_iff {label : Text} :
    label ∈ (completionsOf catalogue start).map Completion.label ↔
      start <+: label ∧ isAvailable catalogue label = true := by
  rw [← List.count_pos_iff, count_labels, isAvailable, hostPackage, Bool.or_eq_true, beq_iff_eq]
  generalize "emacs".toList = host
  by_cases begun : start <+: label
  · rw [if_pos begun, and_iff_right begun]
    by_cases same : label = host
    · simp [same]
    · cases known : catalogue.contains label <;> simp [same]
  · simp [begun]

theorem labels_nodup_iff :
    ((completionsOf catalogue start).map Completion.label).Nodup ↔
      ¬ (start <+: "emacs".toList ∧ catalogue.contains "emacs".toList = true) := by
  rw [List.nodup_iff_count_le_one]
  constructor
  · intro once both
    have twice := once "emacs".toList
    rw [count_labels, if_pos both.1, if_pos rfl, if_pos both.2] at twice
    contradiction
  · intro apart label
    rw [count_labels]
    by_cases both : start <+: label ∧ catalogue.contains label = true
    · have other : label ≠ "emacs".toList := fun same => apart (same ▸ both)
      rw [if_pos both.1, if_neg other, if_pos both.2]
    · split
      · next begun =>
          rw [if_neg fun known => both ⟨begun, known⟩]
          split <;> decide
      · decide

end Labels

/-- On the header line, the host and every package of the catalogue are offered if they
begin with what is typed.  Nothing is offered twice but the host, and it is if an archive
has a package of its name. -/
theorem offers_host_then_packages {document text : Text} {position : Position}
    (catalogue : Catalogue) (first : Header.First document (position.line + 1) text) :
    ∃ line start, document.line? (position.line + 1) = some line ∧
      (∀ typed, (∃ lead, Typed line position.character lead typed) ↔ typed = start) ∧
      (∃ others, (completions catalogue document position).map Completion.label =
          (if start <+: "emacs".toList then ["emacs".toList] else []) ++ others ∧
        (others.Pairwise fun left right => left.bytes < right.bytes) ∧
        ∀ label, label ∈ others ↔ start <+: label ∧ catalogue.contains label = true) ∧
      (∀ label, label ∈ (completions catalogue document position).map Completion.label ↔
        start <+: label ∧ isAvailable catalogue label = true) ∧
      (∀ label, ((completions catalogue document position).map Completion.label).count label =
        if start <+: label then
          (if label = "emacs".toList then 1 else 0) + if catalogue.contains label then 1 else 0
        else 0) ∧
      (((completions catalogue document position).map Completion.label).Nodup ↔
        ¬ (start <+: "emacs".toList ∧ catalogue.contains "emacs".toList = true)) := by
  have located := Header.locate?_eq_some_iff.mpr first
  obtain ⟨line, -, here, -⟩ := Header.exists_line_of_locate? located
  have offered : completions catalogue document position =
      completionsOf catalogue (symbolBefore line (cursorAt line position.character)) := by
    simp only [completions, headerLine?_of_locate? located here rfl]
  rw [offered]
  exact ⟨line, _, here, fun typed => exists_typed_iff,
    ⟨_, labels_completionsOf _ _, begunNames_ascending _ _, fun label => mem_begunNames_iff⟩,
    fun label => mem_labels_iff, count_labels _ _, labels_nodup_iff⟩

/-! A package that is called like the host. -/

def namesake : Catalogue := Catalogue.empty.insert ⟨"emacs".toList, none, none, "extra".toList⟩

/-- A character that takes two units stands before the column. -/
theorem offers_host_then_packages_wide_symbol :
    let document : Text := ";; Package-Requires: ((😀 em".toList
    Header.First document 1 "((😀 em".toList ∧
      ∃ line start, document.line? 1 = some line ∧
        (∀ typed, (∃ lead, Typed line 27 lead typed) ↔ typed = start) ∧
        (∀ label, label ∈ (completions namesake document ⟨0, 27⟩).map Completion.label ↔
          start <+: label ∧ isAvailable namesake label = true) ∧
        (((completions namesake document ⟨0, 27⟩).map Completion.label).Nodup ↔
          ¬ (start <+: "emacs".toList ∧ namesake.contains "emacs".toList = true)) := by
  intro document
  have first : Header.First document 1 "((😀 em".toList :=
    Header.locate?_eq_some_iff.mp (by decide +kernel)
  obtain ⟨line, start, here, typed, -, available, -, distinct⟩ :=
    @offers_host_then_packages document _ ⟨0, 27⟩ namesake first
  exact ⟨first, line, start, here, typed, available, distinct⟩

/-- The host and its namesake are both offered. -/
theorem offered_twice_namesake :
    let document : Text := ";; Package-Requires: ((em".toList
    Header.First document 1 "((em".toList ∧
      symbolBefore document (cursorAt document 25) = "em".toList ∧
      (completions namesake document ⟨0, 25⟩).map Completion.label =
        ["emacs".toList, "emacs".toList] := by
  intro document
  have first : Header.First document 1 "((em".toList :=
    Header.locate?_eq_some_iff.mp (by decide +kernel)
  exact ⟨first, by decide +kernel, by decide +kernel⟩

end PackageRequires.Server
