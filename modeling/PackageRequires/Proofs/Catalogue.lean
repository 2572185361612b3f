import PackageRequires.Archive

namespace PackageRequires

/-! # What a catalogue holds

A package is replaced by a later one of its name, so a catalogue filled from
lists of packages holds the last one of each name.
-/

section LastWith

variable {α β : Type} {wanted : β → Prop}

/-- `item` is the last of the items that are wanted. -/
def LastWith (wanted : α → Prop) (items : List α) (item : α) : Prop :=
  ∃ before after, items = before ++ item :: after ∧ wanted item ∧
    ∀ other ∈ after, ¬ wanted other

theorem lastWith_nil {item : β} : ¬ LastWith wanted [] item := by
  intro last
  obtain ⟨before, after, split, _⟩ := last
  simp at split

theorem LastWith.mem {items : List β} {item : β} (last : LastWith wanted items item) :
    item ∈ items ∧ wanted item := by
  obtain ⟨before, after, rfl, hit, _⟩ := last
  exact ⟨by simp, hit⟩

theorem lastWith_cons_iff {head item : β} {tail : List β} :
    LastWith wanted (head :: tail) item ↔
      LastWith wanted tail item ∨
        (∀ other ∈ tail, ¬ wanted other) ∧ wanted head ∧ item = head := by
  constructor
  · intro last
    obtain ⟨before, after, split, hit, misses⟩ := last
    cases before with
    | nil =>
        obtain ⟨rfl, rfl⟩ := List.cons.inj split
        exact .inr ⟨misses, hit, rfl⟩
    | cons first before =>
        obtain ⟨_, rfl⟩ := List.cons.inj split
        exact .inl ⟨before, after, rfl, hit, misses⟩
  · intro last
    rcases last with ⟨before, after, rfl, hit, misses⟩ | ⟨misses, hit, rfl⟩
    · exact ⟨head :: before, after, rfl, hit, misses⟩
    · exact ⟨[], tail, rfl, hit, misses⟩

theorem exists_lastWith_iff {items : List β} :
    (∃ item, LastWith wanted items item) ↔ ∃ item ∈ items, wanted item := by
  constructor
  · intro found
    obtain ⟨item, last⟩ := found
    exact ⟨item, last.mem⟩
  · intro found
    induction items with
    | nil => simp at found
    | cons head tail ih =>
        by_cases later : ∃ item ∈ tail, wanted item
        · obtain ⟨item, last⟩ := ih later
          exact ⟨item, lastWith_cons_iff.mpr (.inl last)⟩
        · have misses : ∀ other ∈ tail, ¬ wanted other := by
            simpa using later
          have hit : wanted head := by simpa [later] using found
          exact ⟨head, lastWith_cons_iff.mpr (.inr ⟨misses, hit, rfl⟩)⟩

theorem lastWith_append_iff {front back : List β} {item : β} :
    LastWith wanted (front ++ back) item ↔
      LastWith wanted back item ∨
        (∀ other ∈ back, ¬ wanted other) ∧ LastWith wanted front item := by
  induction front with
  | nil => simp [lastWith_nil]
  | cons head front ih =>
      simp only [List.cons_append, lastWith_cons_iff, ih, List.mem_append]
      grind

theorem lastWith_map_iff {f : α → β} {items : List α} {item : β} :
    LastWith wanted (items.map f) item ↔
      ∃ origin, LastWith (fun other => wanted (f other)) items origin ∧ f origin = item := by
  induction items with
  | nil => simp [lastWith_nil]
  | cons head tail ih =>
      simp only [List.map_cons, lastWith_cons_iff, ih]
      grind

/-- The last wanted item of all groups is the last one of the last group that
has one. -/
theorem lastWith_flatMap_iff {group : α → List β} {origins : List α} {item : β} :
    LastWith wanted (origins.flatMap group) item ↔
      ∃ origin, LastWith (fun other => ∃ member ∈ group other, wanted member) origins origin ∧
        LastWith wanted (group origin) item := by
  induction origins with
  | nil => simp [lastWith_nil]
  | cons head tail ih =>
      rw [List.flatMap_cons, lastWith_append_iff, ih]
      constructor
      · intro last
        rcases last with ⟨origin, inTail, inGroup⟩ | ⟨misses, inGroup⟩
        · exact ⟨origin, lastWith_cons_iff.mpr (.inl inTail), inGroup⟩
        · refine ⟨head, lastWith_cons_iff.mpr (.inr ⟨?_, ⟨item, inGroup.mem⟩, rfl⟩), inGroup⟩
          intro other later found
          obtain ⟨member, listed, hit⟩ := found
          exact misses member (List.mem_flatMap.mpr ⟨other, later, listed⟩) hit
      · intro last
        obtain ⟨origin, inAll, inGroup⟩ := last
        rcases lastWith_cons_iff.mp inAll with inTail | ⟨misses, _, rfl⟩
        · exact .inl ⟨origin, inTail, inGroup⟩
        · refine .inr ⟨?_, inGroup⟩
          intro member listed hit
          obtain ⟨other, later, inOther⟩ := List.mem_flatMap.mp listed
          exact misses other later ⟨member, inOther, hit⟩

end LastWith

namespace Catalogue

theorem contains_iff {catalogue : Catalogue} {name : Text} :
    catalogue.contains name = true ↔ ∃ package, (name, package) ∈ catalogue.entries := by
  simp [contains, Keyed.find?, List.find?_isSome]

theorem mem_names_iff {catalogue : Catalogue} {name : Text} :
    name ∈ catalogue.names ↔ catalogue.contains name = true := by
  simp [contains_iff, names]

theorem get?_insertAll_iff {catalogue : Catalogue} {packages : List Package} {name : Text}
    {package : Package} :
    (catalogue.insertAll packages).get? name = some package ↔
      LastWith (fun other => other.name = name) packages package ∨
        (∀ other ∈ packages, other.name ≠ name) ∧ catalogue.get? name = some package := by
  induction packages generalizing catalogue with
  | nil => simp [insertAll, lastWith_nil]
  | cons head tail ih =>
      have step : catalogue.insertAll (head :: tail) = (catalogue.insert head).insertAll tail := rfl
      rw [step, ih, lastWith_cons_iff, get?_insert]
      by_cases hit : head.name = name <;> grind

theorem get?_insertAll_empty_iff {packages : List Package} {name : Text} {package : Package} :
    (empty.insertAll packages).get? name = some package ↔
      LastWith (fun other => other.name = name) packages package := by
  simp [get?_insertAll_iff]

theorem contains_insertAll_empty_iff {packages : List Package} {name : Text} :
    (empty.insertAll packages).contains name = true ↔
      ∃ package ∈ packages, package.name = name := by
  rw [contains_eq, Option.isSome_iff_exists]
  simp only [get?_insertAll_empty_iff]
  exact exists_lastWith_iff

end Catalogue

end PackageRequires
