import Mathlib.Data.List.Perm.Lattice
import PackageRequires.Keyed

namespace PackageRequires.Keyed

/-! # Lookup in lists in order

The keys of a list in order differ, so an item is found under its key, and what is
found under each key fixes the list.
-/

variable {α : Type} {key : α → Text} {items others : List α}

theorem find?_eq_some_iff (ascending : Ascending key items) {item : α} {wanted : Text} :
    find? key wanted items = some item ↔ item ∈ items ∧ key item = wanted := by
  induction items with
  | nil => simp [find?]
  | cons head tail ih =>
      obtain ⟨below, later⟩ := List.pairwise_cons.mp ascending
      have apart : item ∈ tail → key head ≠ key item := by
        intro member same
        have before := below item member
        rw [same, Text.isBefore_irrefl] at before
        cases before
      by_cases hit : key head = wanted
      · simp only [find?, List.find?_cons, hit, beq_self_eq_true, Option.some.injEq, List.mem_cons]
        grind
      · have miss : (key head == wanted) = false := by simpa using hit
        rw [find?, List.find?_cons, miss]
        rw [find?] at ih
        simp only [ih later, List.mem_cons]
        grind

/-- A list in order is fixed by what is found under each key. -/
theorem eq_of_find? (left : Ascending key items) (right : Ascending key others)
    (same : ∀ wanted, find? key wanted items = find? key wanted others) : items = others := by
  have distinct {list : List α} (ascending : Ascending key list) : list.Nodup := by
    apply List.Pairwise.imp _ ascending
    intro first second before equal
    rw [equal, Text.isBefore_irrefl] at before
    cases before
  have members (item : α) : item ∈ items ↔ item ∈ others := by
    have found : find? key (key item) items = some item ↔ item ∈ items ∧ key item = key item :=
      find?_eq_some_iff left
    rw [same, find?_eq_some_iff right] at found
    simpa using found.symm
  apply List.Perm.eq_of_pairwise _ left right
    ((List.perm_ext_iff_of_nodup (distinct left) (distinct right)).mpr members)
  intro first second _ _ before after
  have cycle := Text.isBefore_trans before after
  rw [Text.isBefore_irrefl] at cycle
  cases cycle

end PackageRequires.Keyed
