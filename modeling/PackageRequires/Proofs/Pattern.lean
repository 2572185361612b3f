import PackageRequires.Proofs.Text

namespace PackageRequires

/-! # Patterns

Patterns that a line is matched against from its first column.  `outcomes` lists
the ways to match in the order in which a matcher that backtracks comes upon
them, and the first one decides the groups.  So a run that takes as much as it
can gives characters back only if what follows cannot be matched otherwise.
-/

inductive Pattern where
  | word (text : Text)
  /-- Characters of a class: as many as possible if `greedy`, or else as few. -/
  | run (greedy : Bool) (keep : Char → Bool)
  | group (inner : Pattern)
  /-- What `inner` matches, or else nothing. -/
  | optional (inner : Pattern)
  | finish
  | andThen (first second : Pattern)

namespace Pattern

/-- One way to match: what is taken of the line, the groups in it, and what is left. -/
structure Outcome where
  taken : Text
  groups : List Text
  rest : Text

def Outcome.followedBy (first second : Outcome) : Outcome :=
  ⟨first.taken ++ second.taken, first.groups ++ second.groups, second.rest⟩

/-- The beginnings of a text that are made of a class of characters, each with what
follows it, the longest first or the shortest first. -/
def runs (greedy : Bool) (keep : Char → Bool) : Text → List (Text × Text)
  | [] => [([], [])]
  | c :: text =>
    let longer := (runs greedy keep text).map fun (taken, rest) => (c :: taken, rest)
    let more := if keep c then longer else []
    if greedy then more ++ [([], c :: text)] else ([], c :: text) :: more

def outcomes : Pattern → (line : Text) → List Outcome
  | word text, line => (Text.dropFront? text line).toList.map fun rest => ⟨text, [], rest⟩
  | run greedy keep, line => (runs greedy keep line).map fun (taken, rest) => ⟨taken, [], rest⟩
  | group inner, line =>
    (inner.outcomes line).map fun outcome =>
      { outcome with groups := outcome.taken :: outcome.groups }
  | optional inner, line => inner.outcomes line ++ [⟨[], [], line⟩]
  | finish, line => if line.isEmpty then [⟨[], [], []⟩] else []
  | andThen first second, line =>
    (first.outcomes line).flatMap fun outcome =>
      (second.outcomes outcome.rest).map outcome.followedBy

/-- The groups of the match, if the line has one. -/
def groups? (pattern : Pattern) (line : Text) : Option (List Text) :=
  (pattern.outcomes line).head?.map Outcome.groups

variable {first second : Pattern} {keep : Char → Bool} {line : Text}

theorem groups?_andThen (first second : Pattern) (line : Text) :
    groups? (.andThen first second) line =
      (first.outcomes line).findSome? fun outcome =>
        (second.groups? outcome.rest).map (outcome.groups ++ ·) := by
  rw [groups?, outcomes, List.head?_flatMap, List.map_findSome?]
  congr 1
  funext outcome
  simp only [groups?, Function.comp, List.head?_map, Option.map_map]
  rfl

theorem groups?_word_andThen (text : Text) (second : Pattern) (line : Text) :
    groups? (.andThen (.word text) second) line =
      (Text.dropFront? text line).bind second.groups? := by
  rw [groups?_andThen, outcomes]
  cases Text.dropFront? text line with
  | none => rfl
  | some rest => simp

theorem findSome?_runs_greedy {α : Type} {next : Text → Option α}
    (decided : (∀ c text, keep c = true → next (c :: text) = none) ∨
      (next (line.dropWhile keep)).isSome = true) :
    ((runs true keep line).findSome? fun (_, rest) => next rest) = next (line.dropWhile keep) := by
  induction line with
  | nil => simp [runs]
  | cons c line ih =>
      by_cases kept : keep c = true
      · rw [List.dropWhile_cons_of_pos kept] at decided ⊢
        have longer := ih decided
        simp only [runs, kept, if_true, List.findSome?_append, List.findSome?_map,
          Function.comp_def]
        rw [longer, List.findSome?_singleton]
        rcases decided with fails | succeeds
        · rw [fails c line kept, Option.or_none]
        · obtain ⟨found, next⟩ := Option.isSome_iff_exists.mp succeeds
          rw [next, Option.some_or]
      · rw [List.dropWhile_cons_of_neg kept]
        simp [runs, kept]

/-- A greedy run takes all it can, if what follows can be matched behind that or
cannot begin with a character of the run. -/
theorem groups?_greedy_andThen
    (decided : (∀ c text, keep c = true → second.groups? (c :: text) = none) ∨
      (second.groups? (line.dropWhile keep)).isSome = true) :
    groups? (.andThen (.run true keep) second) line = second.groups? (line.dropWhile keep) := by
  have taken := findSome?_runs_greedy decided
  rw [groups?_andThen, outcomes, List.findSome?_map, ← taken]
  congr 1
  funext run
  simp

/-! ## Whether a line can be matched -/

def Fits (pattern : Pattern) (line : Text) : Prop := ∃ outcome, outcome ∈ pattern.outcomes line

theorem isSome_groups?_iff {pattern : Pattern} :
    (pattern.groups? line).isSome = true ↔ pattern.Fits line := by
  rw [groups?, Option.isSome_map, List.isSome_head?]
  exact ⟨List.exists_mem_of_ne_nil _, fun ⟨outcome, found⟩ => List.ne_nil_of_mem found⟩

theorem fits_andThen_iff :
    Fits (.andThen first second) line ↔ ∃ outcome ∈ first.outcomes line, second.Fits outcome.rest := by
  simp only [Fits, outcomes, List.mem_flatMap, List.mem_map]
  constructor
  · intro ⟨both, outcome, found, later, fits, _⟩
    exact ⟨outcome, found, later, fits⟩
  · intro ⟨outcome, found, later, fits⟩
    exact ⟨_, outcome, found, later, fits, rfl⟩

theorem fits_finish_iff : Fits .finish line ↔ line = [] := by
  simp only [Fits, outcomes]
  cases line <;> simp

theorem fits_word_andThen_iff {text : Text} :
    Fits (.andThen (.word text) second) line ↔ ∃ rest, line = text ++ rest ∧ second.Fits rest := by
  simp [fits_andThen_iff, outcomes, Text.dropFront?_eq_some_iff]

theorem mem_runs_cons_iff {greedy : Bool} {c : Char} {taken rest : Text} :
    (taken, rest) ∈ runs greedy keep (c :: line) ↔ (taken = [] ∧ rest = c :: line) ∨
      keep c = true ∧ ∃ later, (later, rest) ∈ runs greedy keep line ∧ taken = c :: later := by
  by_cases kept : keep c = true
  · cases greedy <;> simp [runs, kept, or_comm, eq_comm]
  · cases greedy <;> simp [runs, kept]

theorem mem_runs_iff {greedy : Bool} {taken rest : Text} :
    (taken, rest) ∈ runs greedy keep line ↔ line = taken ++ rest ∧ ∀ c ∈ taken, keep c = true := by
  induction line generalizing taken with
  | nil =>
      rw [runs, List.mem_singleton, Prod.mk.injEq, eq_comm (a := []), List.append_eq_nil_iff]
      constructor
      · intro ⟨nothing, atEnd⟩
        exact ⟨⟨nothing, atEnd⟩, by simp [nothing]⟩
      · exact And.left
  | cons d line ih =>
      rw [mem_runs_cons_iff]
      cases taken with
      | nil => simpa using eq_comm
      | cons c taken =>
          simp only [reduceCtorEq, false_and, false_or, List.cons_append, List.cons.injEq,
            List.forall_mem_cons]
          constructor
          · intro ⟨kept, later, found, first, same⟩
            subst first same
            obtain ⟨whole, all⟩ := ih.mp found
            exact ⟨⟨rfl, whole⟩, kept, all⟩
          · intro ⟨⟨first, whole⟩, kept, all⟩
            subst first
            exact ⟨kept, taken, ih.mpr ⟨whole, all⟩, rfl, rfl⟩

theorem fits_run_andThen_iff {greedy : Bool} :
    Fits (.andThen (.run greedy keep) second) line ↔
      ∃ taken rest, line = taken ++ rest ∧ (∀ c ∈ taken, keep c = true) ∧ second.Fits rest := by
  simp only [fits_andThen_iff, outcomes, List.mem_map, Prod.exists, mem_runs_iff]
  constructor
  · intro ⟨outcome, ⟨taken, rest, ⟨whole, all⟩, same⟩, fits⟩
    exact ⟨taken, rest, whole, all, by rwa [← same] at fits⟩
  · intro ⟨taken, rest, whole, all, fits⟩
    exact ⟨_, ⟨taken, rest, ⟨whole, all⟩, rfl⟩, fits⟩

theorem fits_optional_andThen_iff :
    Fits (.andThen (.optional first) second) line ↔
      Fits (.andThen first second) line ∨ second.Fits line := by
  simp only [fits_andThen_iff, outcomes, List.mem_append, List.mem_singleton, or_and_right,
    exists_or, exists_eq_left]

theorem fits_assoc_iff {third : Pattern} :
    Fits (.andThen (.andThen first second) third) line ↔
      Fits (.andThen first (.andThen second third)) line := by
  simp only [fits_andThen_iff, outcomes, List.mem_flatMap, List.mem_map]
  constructor
  · intro ⟨both, ⟨outcome, found, later, found', same⟩, fits⟩
    exact ⟨outcome, found, later, found', by rwa [← same] at fits⟩
  · intro ⟨outcome, found, later, found', fits⟩
    exact ⟨_, ⟨outcome, found, later, found', rfl⟩, fits⟩

theorem fits_group_andThen_iff :
    Fits (.andThen (.group first) second) line ↔ Fits (.andThen first second) line := by
  simp [fits_andThen_iff, outcomes]

/-- A group takes a beginning of the line if what follows can be matched behind no other one. -/
theorem groups?_group_andThen {greedy : Bool} {taken rest : Text} (whole : line = taken ++ rest)
    (all : ∀ c ∈ taken, keep c = true)
    (unique : ∀ other behind, line = other ++ behind → (∀ c ∈ other, keep c = true) →
      second.Fits behind → other = taken) :
    groups? (.andThen (.group (.run greedy keep)) second) line =
      (second.groups? rest).map (taken :: ·) := by
  rw [groups?_andThen, outcomes, outcomes, List.map_map, List.findSome?_map]
  let capture : Text × Text → Option (List Text) := fun (taken, rest) =>
    (second.groups? rest).map (taken :: ·)
  change (runs greedy keep line).findSome? capture = capture (taken, rest)
  cases found : (runs greedy keep line).findSome? capture with
  | none =>
      exact (List.findSome?_eq_none_iff.mp found _ (mem_runs_iff.mpr ⟨whole, all⟩)).symm
  | some groups =>
      obtain ⟨⟨other, behind⟩, member, captured⟩ := List.exists_of_findSome?_eq_some found
      obtain ⟨split, kept⟩ := mem_runs_iff.mp member
      have fits : second.Fits behind := by
        rw [← isSome_groups?_iff, ← Option.isSome_map (f := (other :: ·))]
        exact Option.isSome_of_eq_some captured
      obtain rfl := unique other behind split kept fits
      obtain rfl := List.append_cancel_left (whole.symm.trans split)
      exact captured.symm

/-! ## Patterns without groups -/

def groupless : Pattern → Bool
  | group _ => false
  | optional inner => inner.groupless
  | andThen first second => first.groupless && second.groupless
  | _ => true

theorem groups_of_groupless {pattern : Pattern} (plain : pattern.groupless = true) :
    ∀ line, ∀ outcome ∈ pattern.outcomes line, outcome.groups = [] := by
  induction pattern with
  | word text =>
      intro line outcome found
      simp only [outcomes, List.mem_map] at found
      obtain ⟨rest, -, rfl⟩ := found
      rfl
  | run greedy keep =>
      intro line outcome found
      simp only [outcomes, List.mem_map] at found
      obtain ⟨rest, -, rfl⟩ := found
      rfl
  | group inner ih => cases plain
  | optional inner ih =>
      intro line outcome found
      rcases List.mem_append.mp found with matched | last
      · exact ih plain line outcome matched
      · rw [List.mem_singleton.mp last]
  | finish =>
      intro line outcome found
      rw [outcomes] at found
      split at found
      · rw [List.mem_singleton.mp found]
      · cases found
  | andThen first second ihFirst ihSecond =>
      intro line outcome found
      simp only [outcomes, List.mem_flatMap, List.mem_map] at found
      obtain ⟨front, inFront, back, inBack, rfl⟩ := found
      rw [groupless, Bool.and_eq_true] at plain
      change front.groups ++ back.groups = []
      rw [ihFirst plain.1 line front inFront, ihSecond plain.2 front.rest back inBack]
      rfl

theorem groups?_of_groupless {pattern : Pattern} (plain : pattern.groupless = true) (line : Text) :
    pattern.groups? line = if (pattern.groups? line).isSome then some [] else none := by
  rw [groups?]
  cases found : (pattern.outcomes line).head? with
  | none => rfl
  | some outcome =>
      have none := groups_of_groupless plain line outcome (List.mem_of_mem_head? found)
      simp [none]

/-! ## Lazy groups -/

theorem bne_newline_of_not_mem (oneLine : '\n' ∉ line) : ∀ c ∈ line, (c != '\n') = true := by
  intro c member
  rw [bne_iff_ne]
  intro newline
  exact oneLine (newline ▸ member)

theorem findSome?_runs_lazy (next : Text → Bool) {taken rest : Text}
    (whole : line = taken ++ rest) (all : ∀ c ∈ line, keep c = true) (fits : next rest = true)
    (shortest : ∀ other behind, line = other ++ behind → next behind = true →
      taken.length ≤ other.length) :
    ((runs false keep line).findSome? fun (taken, rest) =>
      if next rest then some taken else none) = some taken := by
  induction taken generalizing line with
  | nil =>
      obtain rfl : line = rest := whole
      cases line <;> simp [runs, fits]
  | cons c taken ih =>
      subst whole
      have kept := all c List.mem_cons_self
      have early : next (c :: (taken ++ rest)) = false := by
        rw [Bool.eq_false_iff]
        intro fits
        simpa using shortest [] _ rfl fits
      have longer := ih rfl (fun d member => all d (List.mem_cons_of_mem c member)) (by
        intro other behind split fits
        have shorter := shortest (c :: other) behind (congrArg (c :: ·) split) fits
        exact Nat.le_of_succ_le_succ shorter)
      have moved := congrArg (Option.map (c :: ·)) longer
      rw [List.map_findSome?] at moved
      simp only [List.cons_append, runs, kept, early, if_true, Bool.false_eq_true, if_false,
        List.findSome?_cons, List.findSome?_map]
      rw [← Option.map_some, ← moved]
      congr 1
      funext run
      exact (apply_ite (Option.map (c :: ·)) _ (some run.1) none).symm

/-- A lazy group in front of a pattern without groups is the shortest beginning of the
line behind which that pattern can be matched. -/
theorem groups?_lazy_andThen {taken rest : Text} (plain : second.groupless = true)
    (whole : line = taken ++ rest) (all : ∀ c ∈ line, keep c = true) (fits : second.Fits rest)
    (shortest : ∀ other behind, line = other ++ behind → second.Fits behind →
      taken.length ≤ other.length) :
    groups? (.andThen (.group (.run false keep)) second) line = some [taken] := by
  have first := findSome?_runs_lazy (fun rest => (second.groups? rest).isSome) whole all
    (isSome_groups?_iff.mpr fits)
    (fun other behind split fits => shortest other behind split (isSome_groups?_iff.mp fits))
  have captured := congrArg (Option.map ([·])) first
  rw [List.map_findSome?, Option.map_some] at captured
  rw [groups?_andThen, outcomes, outcomes, List.map_map, List.findSome?_map, ← captured]
  congr 1
  funext run
  simp only [Function.comp_apply]
  rw [groups?_of_groupless plain]
  split <;> rfl

/-- A lazy group in front of a greedy run that ends the line is the line without
the characters of that run at its end. -/
theorem groups?_lazy_greedy_finish (all : ∀ c ∈ line, keep c = true) (drop : Char → Bool) :
    groups? (.andThen (.group (.run false keep)) (.andThen (.run true drop) .finish)) line =
      some [line.dropEndWhile drop] := by
  have fits {rest : Text} :
      Fits (.andThen (.run true drop) .finish) rest ↔ ∀ c ∈ rest, drop c = true := by
    simp [fits_run_andThen_iff, fits_finish_iff]
  obtain ⟨ends, right, whole, dropped⟩ :=
    Text.dropEndWhile_eq_iff.mp (rfl : line.dropEndWhile drop = _)
  refine groups?_lazy_andThen rfl whole all (fits.mpr dropped) ?_
  intro other behind split blank
  exact Text.length_le_of_prefix ⟨right, by rw [← whole, split]⟩ ends (fits.mp blank)

end Pattern

end PackageRequires
