import PackageRequires.Text

namespace PackageRequires.Keyed

/-! # Lists in the order of a key

A list kept in strictly ascending order of a text key is a map from keys to
items: an item replaces an earlier one of the same key.
-/

variable {α : Type} (key : α → Text)

/-- Each key is greater than those before it. -/
def Ascending (items : List α) : Prop :=
  items.Pairwise fun a b => Text.isBefore (key a) (key b) = true

/-- Puts an item in its place, instead of the one with the same key. -/
def insert (item : α) : List α → List α
  | [] => [item]
  | head :: tail =>
    if Text.isBefore (key item) (key head) then item :: head :: tail
    else if key item = key head then item :: tail
    else head :: insert item tail

/-- The item of a key. -/
def find? (wanted : Text) (items : List α) : Option α :=
  items.find? fun item => key item == wanted

/-- The list without the item of a key. -/
def erase (wanted : Text) (items : List α) : List α :=
  items.filter fun item => key item != wanted

theorem mem_insert {item other : α} {items : List α} (member : other ∈ insert key item items) :
    other = item ∨ other ∈ items := by
  induction items with
  | nil => simpa [insert] using member
  | cons head tail ih =>
      simp only [insert] at member
      split at member
      · simpa using member
      · split at member
        · rcases List.mem_cons.mp member with same | later
          · exact .inl same
          · exact .inr (by simp [later])
        · rcases List.mem_cons.mp member with same | later
          · exact .inr (by simp [same])
          · exact (ih later).imp id (by simp +contextual)

theorem ascending_insert {items : List α} (ascending : Ascending key items) (item : α) :
    Ascending key (insert key item items) := by
  induction items with
  | nil => simp [Ascending, insert]
  | cons head tail ih =>
      obtain ⟨below, later⟩ := List.pairwise_cons.mp ascending
      simp only [insert]
      split
      · rename_i before
        refine List.pairwise_cons.mpr ⟨fun other member => ?_, ascending⟩
        rcases List.mem_cons.mp member with rfl | member
        · exact before
        · exact Text.isBefore_trans before (below other member)
      · rename_i notBefore
        split
        · rename_i same
          refine List.pairwise_cons.mpr ⟨fun other member => ?_, later⟩
          rw [same]
          exact below other member
        · rename_i different
          have after : Text.isBefore (key head) (key item) = true :=
            Text.isBefore_of_not_isBefore different (by simpa using notBefore)
          refine List.pairwise_cons.mpr ⟨fun other member => ?_, ih later⟩
          rcases mem_insert key member with rfl | member
          · exact after
          · exact below other member

theorem ascending_erase {items : List α} (ascending : Ascending key items) (wanted : Text) :
    Ascending key (erase key wanted items) :=
  List.Pairwise.filter _ ascending

/-- An inserted item is the one found under its key, and no other key changes. -/
theorem find?_insert (item : α) (items : List α) (wanted : Text) :
    find? key wanted (insert key item items) =
      if key item = wanted then some item else find? key wanted items := by
  induction items with
  | nil => by_cases hit : key item = wanted <;> simp [find?, insert, hit]
  | cons head tail ih =>
      simp only [insert]
      split
      · by_cases hit : key item = wanted <;> simp [find?, hit]
      · split
        · rename_i same
          by_cases hit : key item = wanted
          · simp [find?, hit]
          · simp [find?, hit, ← same]
        · rename_i different
          by_cases here : key head = wanted
          · have miss : key item ≠ wanted := fun hit => different (hit.trans here.symm)
            simp [find?, here, miss]
          · simpa [find?, here] using ih

theorem find?_erase (items : List α) (gone wanted : Text) :
    find? key wanted (erase key gone items) =
      if wanted = gone then none else find? key wanted items := by
  induction items with
  | nil => simp [find?, erase]
  | cons head tail ih =>
      simp only [find?, erase] at ih ⊢
      by_cases dropped : key head = gone
      · by_cases hit : wanted = gone
        · simp [hit]
        · have miss : ¬ gone = wanted := fun same => hit same.symm
          simpa [dropped, hit, miss] using ih
      · by_cases here : key head = wanted
        · have miss : wanted ≠ gone := fun same => dropped (here.trans same)
          simp [here, miss]
        · simpa [dropped, here] using ih

end PackageRequires.Keyed
