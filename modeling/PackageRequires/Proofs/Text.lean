import Mathlib.Data.List.SplitBy
import Mathlib.Data.List.TakeWhile
import PackageRequires.Text

namespace PackageRequires

/-! # Margins and words

Where a list is cut between the items that satisfy a condition and the first
that does not, what a text is without its margins, and which words it holds.
-/

section Cutting

variable {α : Type} {keep : α → Bool} {items front rest : List α}

theorem dropWhile_append_of_stop (all : ∀ item ∈ front, keep item = true)
    (stops : ∀ item ∈ rest.head?, keep item = false) : (front ++ rest).dropWhile keep = rest := by
  rw [List.dropWhile_append_of_pos all]
  cases rest with
  | nil => rfl
  | cons item rest => simp [stops item rfl]

theorem takeWhile_append_of_stop (all : ∀ item ∈ front, keep item = true)
    (stops : ∀ item ∈ rest.head?, keep item = false) : (front ++ rest).takeWhile keep = front := by
  have whole := List.takeWhile_append_dropWhile (p := keep) (l := front ++ rest)
  rw [dropWhile_append_of_stop all stops] at whole
  exact List.append_cancel_right whole

theorem dropWhile_stops (keep : α → Bool) (items : List α) :
    ∀ item ∈ (items.dropWhile keep).head?, keep item = false := by
  intro item begins
  have stops := List.head?_dropWhile_not keep items
  rwa [Option.mem_def.mp begins] at stops

theorem dropWhile_eq_iff :
    items.dropWhile keep = rest ↔ (∀ item ∈ rest.head?, keep item = false) ∧
      ∃ front, items = front ++ rest ∧ ∀ item ∈ front, keep item = true := by
  constructor
  · rintro rfl
    exact ⟨dropWhile_stops keep items, _, List.takeWhile_append_dropWhile.symm,
      fun item => List.mem_takeWhile_imp⟩
  · rintro ⟨stops, front, rfl, all⟩
    exact dropWhile_append_of_stop all stops

theorem takeWhile_eq_iff :
    items.takeWhile keep = front ↔ (∀ item ∈ front, keep item = true) ∧
      ∃ rest, items = front ++ rest ∧ ∀ item ∈ rest.head?, keep item = false := by
  constructor
  · rintro rfl
    exact ⟨fun item => List.mem_takeWhile_imp, _, List.takeWhile_append_dropWhile.symm,
      dropWhile_stops keep items⟩
  · rintro ⟨all, rest, rfl, stops⟩
    exact takeWhile_append_of_stop all stops

end Cutting

namespace Text

/-! ## Margins -/

/-- `inner` is what stands between the margins of a text: the characters at either
end that satisfy `drop`. -/
structure Trimmed (drop : Char → Bool) (text inner : Text) : Prop where
  margins : ∃ left right, text = left ++ inner ++ right ∧ (∀ c ∈ left, drop c = true) ∧
    ∀ c ∈ right, drop c = true
  begins : ∀ c ∈ inner.head?, drop c = false
  ends : ∀ c ∈ inner.getLast?, drop c = false

variable {drop : Char → Bool} {text inner : Text}

theorem dropEndWhile_eq_iff :
    text.dropEndWhile drop = inner ↔ (∀ c ∈ inner.getLast?, drop c = false) ∧
      ∃ right, text = inner ++ right ∧ ∀ c ∈ right, drop c = true := by
  rw [dropEndWhile, ← List.reverse_inj, List.reverse_reverse, dropWhile_eq_iff, List.head?_reverse]
  refine and_congr_right fun _ => ⟨?_, ?_⟩
  · rintro ⟨front, same, all⟩
    refine ⟨front.reverse, ?_, by simpa using all⟩
    rw [← List.reverse_inj, same]
    simp
  · rintro ⟨right, rfl, all⟩
    exact ⟨right.reverse, by simp, by simpa using all⟩

/-- A text that does not end in the margin of another one does not reach into it. -/
theorem length_le_of_prefix {front right : Text} (starts : inner <+: front ++ right)
    (ends : ∀ c ∈ inner.getLast?, drop c = false) (all : ∀ c ∈ right, drop c = true) :
    inner.length ≤ front.length := by
  rcases List.prefix_or_prefix_of_prefix starts (List.prefix_append front right) with
    within | ⟨extra, rfl⟩
  · exact within.length_le
  · rw [List.prefix_append_right_inj] at starts
    rcases List.eq_nil_or_concat' extra with rfl | ⟨extra, c, rfl⟩
    · rw [List.append_nil]
    · have dropped := all c (starts.subset (List.mem_append_right extra List.mem_cons_self))
      rw [ends c (by simp)] at dropped
      contradiction

theorem trimWhile_eq_iff : text.trimWhile drop = inner ↔ Trimmed drop text inner := by
  rw [trimWhile, dropEndWhile_eq_iff]
  constructor
  · intro ⟨ends, right, same, allRight⟩
    obtain ⟨begins, left, whole, allLeft⟩ := dropWhile_eq_iff.mp (rfl : text.dropWhile drop = _)
    rw [same] at begins whole
    refine ⟨⟨left, right, by rw [whole, List.append_assoc], allLeft, allRight⟩, ?_, ends⟩
    intro c first
    exact begins c (by rw [List.head?_append, Option.mem_def.mp first]; rfl)
  · intro ⟨⟨left, right, whole, allLeft, allRight⟩, begins, ends⟩
    refine ⟨ends, ?_⟩
    cases inner with
    | nil =>
        refine ⟨[], dropWhile_eq_iff.mpr ⟨nofun, text, by simp, ?_⟩, nofun⟩
        intro c member
        rw [whole, List.append_nil, List.mem_append] at member
        exact member.elim (allLeft c) (allRight c)
    | cons first inner =>
        exact ⟨right, dropWhile_eq_iff.mpr ⟨begins, left, by rw [whole, List.append_assoc], allLeft⟩,
          allRight⟩

theorem Trimmed.again {wider : Char → Bool} {middle : Text}
    (weaker : ∀ c, drop c = true → wider c = true) (once : Trimmed drop text middle)
    (twice : Trimmed wider middle inner) : Trimmed wider text inner := by
  obtain ⟨left, right, rfl, allLeft, allRight⟩ := once.margins
  obtain ⟨left', right', rfl, allLeft', allRight'⟩ := twice.margins
  refine ⟨⟨left ++ left', right' ++ right, by simp only [List.append_assoc], ?_, ?_⟩, twice.begins,
    twice.ends⟩
  · intro c member
    rcases List.mem_append.mp member with outside | inside
    · exact weaker c (allLeft c outside)
    · exact allLeft' c inside
  · intro c member
    rcases List.mem_append.mp member with inside | outside
    · exact allRight' c inside
    · exact weaker c (allRight c outside)

/-! ## Words -/

variable {divides : Char → Bool} {word rest : Text}

theorem words_append_of_apart {front : Text}
    (apart : ∀ c ∈ front.getLast?, ∀ d ∈ rest.head?, (divides c == divides d) = false) :
    words divides (front ++ rest) = words divides front ++ words divides rest := by
  rw [words, List.splitBy_append apart, List.filter_append]
  rfl

theorem splitBy_of_same {same : Bool} (nonempty : text ≠ []) (all : ∀ c ∈ text, divides c = same) :
    text.splitBy (fun c d => divides c == divides d) = [text] := by
  apply List.splitBy_of_isChain nonempty
  apply List.Pairwise.isChain
  apply List.pairwise_of_forall_mem_list
  intro c left d right
  rw [all c left, all d right, beq_self_eq_true]

theorem words_of_plain (nonempty : word ≠ []) (plain : ∀ c ∈ word, divides c = false) :
    words divides word = [word] := by
  rw [words, splitBy_of_same nonempty plain, List.filter_eq_self]
  simpa using plain

theorem words_of_dividing (all : ∀ c ∈ text, divides c = true) : words divides text = [] := by
  cases text with
  | nil => rfl
  | cons c text =>
      rw [words, splitBy_of_same (List.cons_ne_nil c text) all, List.filter_eq_nil_iff]
      simp [all c List.mem_cons_self]

theorem words_cons_dividing {c : Char} (mark : divides c = true) (text : Text) :
    words divides (c :: text) = words divides text := by
  -- the characters that divide at the front of either text, and the same rest
  have front (more : Text) (all : ∀ d ∈ more, divides d = true) :
      words divides (more ++ text.dropWhile divides) = words divides (text.dropWhile divides) := by
    rw [words_append_of_apart, words_of_dividing all, List.nil_append]
    intro d last e first
    rw [all d (List.mem_of_mem_getLast? last), dropWhile_stops divides text e first]
    rfl
  have inside : ∀ d ∈ text.takeWhile divides, divides d = true := fun d => List.mem_takeWhile_imp
  have long := front (c :: text.takeWhile divides) (by simpa [mark] using inside)
  have short := front (text.takeWhile divides) inside
  rw [List.cons_append] at long
  rw [List.takeWhile_append_dropWhile] at long short
  rw [long, short]

theorem words_plain_append {c : Char} (mark : divides c = true)
    (plain : ∀ d ∈ word, divides d = false) (text : Text) :
    words divides (word ++ c :: text) = words divides word ++ words divides text := by
  rw [words_append_of_apart, words_cons_dividing mark]
  intro d last e first
  cases first
  rw [plain d (List.mem_of_mem_getLast? last), mark]
  rfl

/-- The words are the parts between the characters that divide, less the empty ones. -/
theorem words_eq_splitOnP (divides : Char → Bool) (text : Text) :
    words divides text = (text.splitOnP divides).filter (· ≠ []) := by
  have single {word : Text} (plain : ∀ c ∈ word, divides c = false) :
      words divides word = (word.splitOnP divides).filter (· ≠ []) := by
    rw [List.splitOnP_eq_singleton plain]
    by_cases empty : word = []
    · simp [empty, words_of_dividing]
    · simp [empty, words_of_plain empty plain]
  induction size : text.length using Nat.strongRecOn generalizing text with
  | ind bound ih =>
      have whole := List.takeWhile_append_dropWhile (p := fun c => !divides c) (l := text)
      have plain : ∀ c ∈ text.takeWhile fun c => !divides c, divides c = false :=
        fun c member => by simpa using List.mem_takeWhile_imp member
      cases left : text.dropWhile fun c => !divides c with
      | nil =>
          rw [left, List.append_nil] at whole
          rw [whole] at plain
          exact single plain
      | cons c later =>
          have mark : divides c = true := by
            simpa using dropWhile_stops (fun c => !divides c) text c (by rw [left]; rfl)
          rw [left] at whole
          generalize (text.takeWhile fun c => !divides c) = word at whole plain
          subst whole
          have shorter : later.length < bound := by
            simp only [List.length_append, List.length_cons] at size
            omega
          rw [words_plain_append mark plain, List.splitOnP_append_cons word later mark,
            List.filter_append, single plain, ih _ shorter later rfl]

theorem words_append_dividing {c : Char} (mark : divides c = true) (front rest : Text) :
    words divides (front ++ c :: rest) = words divides front ++ words divides rest := by
  simp only [words_eq_splitOnP, List.splitOnP_append_cons front rest mark, List.filter_append]

end Text

end PackageRequires
