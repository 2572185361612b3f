import Mathlib.Data.List.SplitBy
import Mathlib.Tactic.Ring
import PackageRequires.Version

namespace PackageRequires.Version

/-! # The grammar of versions

A text is cut in exactly one way into runs of digits and of other characters in
turn (`cutInto_iff`).  `Denotes` says what a single run stands for; the runs of a
version all stand for something, and of any other text the leftmost run that
does not decides why it is refused.
-/

/-- Runs of digits and of other characters in turn; `digits` tells the first of them. -/
inductive Alternating : (digits : Bool) → List Text → Prop
  | nil {digits : Bool} : Alternating digits []
  | cons {digits : Bool} {run : Text} {runs : List Text} (nonempty : run ≠ [])
      (uniform : ∀ c ∈ run, c.isDigit = digits) (later : Alternating (!digits) runs) :
      Alternating digits (run :: runs)

/-- The maximal runs of digits and of other characters that a text consists of. -/
def CutInto (text : Text) (runs : List Text) : Prop :=
  runs.flatten = text ∧ ∃ digits, Alternating digits runs

theorem isChain_iff_uniform {run : Text} :
    (run.IsChain fun c d => (c.isDigit == d.isDigit) = true) ↔
      ∃ digits, ∀ c ∈ run, c.isDigit = digits := by
  induction run with
  | nil => simp
  | cons c run ih =>
      rw [List.isChain_cons, ih]
      constructor
      · rintro ⟨next, digits, uniform⟩
        cases run with
        | nil => exact ⟨c.isDigit, by simp⟩
        | cons d run =>
            have same : c.isDigit = d.isDigit := by simpa using next d rfl
            have first : d.isDigit = digits := uniform d List.mem_cons_self
            refine ⟨digits, fun e member => ?_⟩
            rcases List.mem_cons.mp member with rfl | member
            · rw [same, first]
            · exact uniform e member
      · rintro ⟨digits, uniform⟩
        refine ⟨fun d begins => ?_, digits, fun d member => uniform d (List.mem_cons_of_mem c member)⟩
        have member : d ∈ c :: run := List.mem_cons_of_mem c (List.mem_of_mem_head? begins)
        rw [uniform c List.mem_cons_self, uniform d member, beq_self_eq_true]

/-- The conditions under which runs are those that `runs` cuts. -/
def Separated (runs : List Text) : Prop :=
  [] ∉ runs ∧ (∀ run ∈ runs, run.IsChain fun c d => (c.isDigit == d.isDigit) = true) ∧
    runs.IsChain fun run next => ∃ (nonempty : run ≠ []) (nonempty' : next ≠ []),
      ((run.getLast nonempty).isDigit == (next.head nonempty').isDigit) = false

theorem Alternating.separated {digits : Bool} {runs : List Text}
    (alternating : Alternating digits runs) : Separated runs := by
  induction alternating with
  | nil => simp [Separated]
  | @cons digits run runs nonempty uniform later ih =>
      obtain ⟨nonemptyLater, chains, separate⟩ := ih
      refine ⟨?_, ?_, ?_⟩
      · simp [nonempty.symm, nonemptyLater]
      · intro other member
        rcases List.mem_cons.mp member with rfl | member
        · exact isChain_iff_uniform.mpr ⟨digits, uniform⟩
        · exact chains other member
      · refine List.isChain_cons.mpr ⟨fun next begins => ?_, separate⟩
        cases later with
        | nil => simp at begins
        | @cons _ first others nonempty' uniform' later =>
            cases begins
            refine ⟨nonempty, nonempty', ?_⟩
            rw [uniform _ (List.getLast_mem nonempty), uniform' _ (List.head_mem nonempty')]
            cases digits <;> rfl

theorem Separated.alternating {runs : List Text} (separated : Separated runs) :
    ∃ digits, Alternating digits runs := by
  induction runs with
  | nil => exact ⟨true, .nil⟩
  | cons run runs ih =>
      obtain ⟨nonempty, chains, separate⟩ := separated
      rw [List.isChain_cons] at separate
      simp only [List.mem_cons, not_or] at nonempty
      obtain ⟨digits, uniform⟩ := isChain_iff_uniform.mp (chains run List.mem_cons_self)
      obtain ⟨digits', later⟩ := ih ⟨nonempty.2,
        fun other member => chains other (List.mem_cons_of_mem run member), separate.2⟩
      refine ⟨digits, .cons (Ne.symm nonempty.1) uniform ?_⟩
      cases later with
      | nil => exact .nil
      | @cons _ next others nonempty' uniform' later =>
          obtain ⟨notNil, notNil', different⟩ := separate.1 next rfl
          rw [uniform _ (List.getLast_mem notNil), uniform' _ (List.head_mem notNil')] at different
          have turned : digits' = !digits := by
            cases digits <;> cases digits' <;> simp_all
          rw [← turned]
          exact .cons nonempty' uniform' later

/-- A text has one cut into runs. -/
theorem cutInto_iff {text : Text} {others : List Text} : CutInto text others ↔ others = runs text := by
  rw [eq_comm, runs, List.splitBy_eq_iff]
  constructor
  · rintro ⟨whole, digits, alternating⟩
    exact ⟨whole.symm, alternating.separated⟩
  · rintro ⟨whole, separated⟩
    exact ⟨whole.symm, Separated.alternating separated⟩

/-- The number that decimal digits denote, each by its place. -/
def placeValue : Text → Nat
  | [] => 0
  | c :: digits => (c.toNat - '0'.toNat) * 10 ^ digits.length + placeValue digits

theorem foldl_digits {digits : Text} (decimal : ∀ c ∈ digits, c.isDigit = true) (start : Nat) :
    digits.foldl (fun value c => 10 * value + digitValue c) start =
      start * 10 ^ digits.length + placeValue digits := by
  induction digits generalizing start with
  | nil => simp [placeValue]
  | cons c digits ih =>
      have isDigit := decimal c List.mem_cons_self
      rw [List.foldl_cons, ih fun d member => decimal d (List.mem_cons_of_mem c member)]
      simp only [digitValue, isDigit, if_true, placeValue, List.length_cons, pow_succ]
      ring

theorem numberValue_eq_placeValue {digits : Text} (decimal : ∀ c ∈ digits, c.isDigit = true) :
    numberValue digits = placeValue digits := by
  rw [numberValue, foldl_digits decimal, Nat.zero_mul, Nat.zero_add]

/-- The words for each marker. -/
def wordsFor : Marker → List Text
  | .snapshot => ["snapshot".toList, "cvs".toList, "git".toList, "bzr".toList, "svn".toList,
      "hg".toList, "darcs".toList, "unknown".toList]
  | .alpha => ["alpha".toList]
  | .beta => ["beta".toList]
  | .pre => ["pre".toList, "rc".toList]

/-- What a run stands for; `last` says that no run follows it. -/
inductive Denotes : (run : Text) → (last : Bool) → List Component → Prop
  | number {run : Text} {last : Bool} (digits : ∀ c ∈ run, c.isDigit = true)
      (fits : placeValue run ≤ 2 ^ 63 - 1) : Denotes run last [.number (placeValue run)]
  | point : Denotes ['.'] false []
  | sign {c : Char} {last : Bool} (sign : c = '-' ∨ c = '_' ∨ c = '+') :
      Denotes [c] last [.marker .snapshot]
  | word {separator word : Text} {last : Bool} {kind : Marker}
      (separates : separator = [] ∨
        ∃ c, separator = [c] ∧ (c = '-' ∨ c = '.' ∨ c = '_' ∨ c = '+' ∨ c = ' '))
      (listed : word.map Char.toLower ∈ wordsFor kind) :
      Denotes (separator ++ word) last [.marker kind]

theorem lookup_vocabulary_iff {word : Text} {kind : Marker} :
    Marker.vocabulary.lookup word = some kind ↔ word ∈ wordsFor kind := by
  constructor
  · intro found
    have entries : ∀ entry ∈ Marker.vocabulary, entry.1 ∈ wordsFor entry.2 := by decide
    obtain ⟨before, after, same, -⟩ := List.lookup_eq_some_iff.mp found
    exact entries (word, kind) (by simp [same])
  · intro listed
    have entries : ∀ kind, ∀ word ∈ wordsFor kind, Marker.vocabulary.lookup word = some kind := by
      intro kind
      cases kind <;> decide
    exact entries kind word listed

theorem ofWord?_eq_some_iff {word : Text} {kind : Marker} :
    Marker.ofWord? word = some kind ↔ word.map Char.toLower ∈ wordsFor kind :=
  lookup_vocabulary_iff

theorem toLower_of_isDigit {c : Char} (digit : c.isDigit = true) : c.toLower = c := by
  obtain ⟨-, upper⟩ := Char.isDigit_iff_toNat.mp digit
  unfold Char.toLower
  split
  · rename_i capital
    have lower : 'A'.toNat ≤ c.toNat := UInt32.le_iff_toNat_le.mp capital.1
    have codes : '9'.toNat < 'A'.toNat := by decide
    omega
  · rfl

/-- A listed word begins with neither a separator nor a digit. -/
theorem word_eq_cons {word : Text} {kind : Marker} (listed : word.map Char.toLower ∈ wordsFor kind) :
    ∃ c rest, word = c :: rest ∧ Marker.isSeparator c = false ∧ c.isDigit = false := by
  have words : ∀ kind, ∀ word ∈ wordsFor kind,
      (word.head?.any fun c => !Marker.isSeparator c && !c.isDigit) = true := by
    intro kind
    cases kind <;> decide
  have begins := words kind _ listed
  cases word with
  | nil => simp at begins
  | cons c rest =>
      simp only [List.map_cons, List.head?_cons, Option.any_some, Bool.and_eq_true,
        Bool.not_eq_true'] at begins
      refine ⟨c, rest, rfl, ?_, ?_⟩
      · cases separates : Marker.isSeparator c with
        | false => rfl
        | true =>
            simp only [Marker.isSeparator, Bool.or_eq_true, beq_iff_eq] at separates
            rcases separates with (((rfl | rfl) | rfl) | rfl) | rfl <;> exact absurd begins.1 (by decide)
      · cases digit : c.isDigit with
        | false => rfl
        | true =>
            rw [toLower_of_isDigit digit, digit] at begins
            exact begins.2

theorem denotes_of_ofRun? {run : Text} {last : Bool} {kind : Marker}
    (found : Marker.ofRun? run = some kind) : Denotes run last [.marker kind] := by
  unfold Marker.ofRun? at found
  split at found
  · cases found; exact .sign (by simp)
  · cases found; exact .sign (by simp)
  · cases found; exact .sign (by simp)
  · rename_i c word _ _ _
    have listed := ofWord?_eq_some_iff.mp found
    cases separates : Marker.isSeparator c with
    | false =>
        simp only [separates, Bool.false_eq_true, if_false] at listed
        exact .word (.inl rfl) listed
    | true =>
        simp only [separates, if_true] at listed
        simp only [Marker.isSeparator, Bool.or_eq_true, beq_iff_eq, or_assoc] at separates
        exact .word (.inr ⟨c, rfl, separates⟩) listed
  · contradiction

theorem ofRun?_word {separator word : Text} {kind : Marker}
    (separates : separator = [] ∨
      ∃ c, separator = [c] ∧ (c = '-' ∨ c = '.' ∨ c = '_' ∨ c = '+' ∨ c = ' '))
    (listed : word.map Char.toLower ∈ wordsFor kind) :
    Marker.ofRun? (separator ++ word) = some kind := by
  obtain ⟨d, rest, rfl, noSeparator, -⟩ := word_eq_cons listed
  rw [← ofWord?_eq_some_iff] at listed
  rcases separates with rfl | ⟨c, rfl, isSeparator⟩
  · unfold Marker.ofRun?
    split <;> simp_all [Marker.isSeparator]
  · rcases isSeparator with rfl | rfl | rfl | rfl | rfl <;> exact listed

/-- What a run stands for, if anything. -/
def meaning? (run : Text) (last : Bool) : Option (List Component) :=
  if run.all Char.isDigit then
    if numberValue run ≤ largestNumber then some [.number (numberValue run)] else none
  else if run = ['.'] then if last then none else some []
  else (Marker.ofRun? run).map fun kind => [.marker kind]

theorem meaning?_eq_some_iff {run : Text} {last : Bool} {components : List Component} :
    meaning? run last = some components ↔ Denotes run last components := by
  constructor
  · intro found
    unfold meaning? at found
    split at found
    · rename_i digits
      have decimal := List.all_eq_true.mp digits
      split at found
      · rename_i fits
        cases found
        rw [numberValue_eq_placeValue decimal] at fits ⊢
        exact .number decimal fits
      · contradiction
    · split at found
      · rename_i point
        subst point
        split at found
        · contradiction
        · rename_i more
          cases found
          rw [Bool.not_eq_true] at more
          subst more
          exact .point
      · obtain ⟨kind, named, rfl⟩ := Option.map_eq_some_iff.mp found
        exact denotes_of_ofRun? named
  · intro denotes
    cases denotes with
    | number digits fits =>
        have all := List.all_eq_true.mpr digits
        rw [← numberValue_eq_placeValue digits] at fits ⊢
        have fits : numberValue run ≤ largestNumber := fits
        simp only [meaning?, all, if_true, fits]
    | point => rfl
    | sign sign => rcases sign with rfl | rfl | rfl <;> rfl
    | @word separator word _ kind separates listed =>
        have found := ofRun?_word separates listed
        have notDigits : (separator ++ word).all Char.isDigit = false := by
          obtain ⟨c, rest, rfl, -, notDigit⟩ := word_eq_cons listed
          simp [notDigit]
        have notPoint : separator ++ word ≠ ['.'] := by
          intro point
          have unnamed : Marker.ofRun? ['.'] = none := by decide
          rw [point, unnamed] at found
          contradiction
        simp [meaning?, notDigits, found, notPoint]

theorem componentsOf_cons (text run : Text) (rest : List Text) :
    componentsOf text (run :: rest) =
      match meaning? run rest.isEmpty with
      | some components => (componentsOf text rest).map (components ++ ·)
      | none => .error
          (if run.all Char.isDigit then .componentTooLarge text else .invalidSyntax text) := by
  simp only [componentsOf, meaning?]
  split
  · split <;> rfl
  · split
    · split
      · rfl
      · cases componentsOf text rest <;> rfl
    · cases Marker.ofRun? run <;> rfl

/-- The components of runs that all stand for something. -/
inductive DenoteAll : List Text → List Component → Prop
  | nil : DenoteAll [] []
  | cons {run : Text} {rest : List Text} {first later : List Component}
      (here : Denotes run rest.isEmpty first) (there : DenoteAll rest later) :
      DenoteAll (run :: rest) (first ++ later)

/-- `run` is the leftmost of the runs that stands for nothing where it is. -/
def Offends (runs : List Text) (run : Text) : Prop :=
  ∃ before after, runs = before ++ run :: after ∧
    (∀ earlier ∈ before, ∃ components, Denotes earlier false components) ∧
    ∀ components, ¬ Denotes run after.isEmpty components

theorem componentsOf_eq_ok_iff {text : Text} {runs : List Text} {components : List Component} :
    componentsOf text runs = .ok components ↔ DenoteAll runs components := by
  induction runs generalizing components with
  | nil =>
      constructor
      · intro finished
        cases finished
        exact .nil
      · rintro ⟨⟩
        rfl
  | cons run rest ih =>
      rw [componentsOf_cons]
      constructor
      · intro finished
        cases found : meaning? run rest.isEmpty with
        | none => simp [found] at finished
        | some first =>
            cases rests : componentsOf text rest with
            | error reason => simp [found, rests, Except.map] at finished
            | ok later =>
                simp only [found, rests, Except.map, Except.ok.injEq] at finished
                subst finished
                exact .cons (meaning?_eq_some_iff.mp found) (ih.mp rests)
      · intro denoted
        cases denoted with
        | cons here there =>
            rw [meaning?_eq_some_iff.mpr here, ih.mpr there]
            rfl

theorem offends_cons_iff {run bad : Text} {rest : List Text} :
    Offends (run :: rest) bad ↔
      (bad = run ∧ ∀ components, ¬ Denotes run rest.isEmpty components) ∨
        (∃ components, Denotes run rest.isEmpty components) ∧ Offends rest bad := by
  constructor
  · rintro ⟨before, after, same, meaningful, offends⟩
    cases before with
    | nil =>
        cases same
        exact .inl ⟨rfl, offends⟩
    | cons first before =>
        rw [List.cons_append, List.cons.injEq] at same
        obtain ⟨rfl, rfl⟩ := same
        have more : (before ++ bad :: after).isEmpty = false := by cases before <;> rfl
        rw [more]
        exact .inr ⟨meaningful _ List.mem_cons_self, before, after, rfl,
          fun earlier member => meaningful earlier (List.mem_cons_of_mem _ member), offends⟩
  · rintro (⟨rfl, offends⟩ | ⟨meaningful, before, after, rfl, earlierOnes, offends⟩)
    · exact ⟨[], rest, rfl, by simp, offends⟩
    · have more : (before ++ bad :: after).isEmpty = false := by cases before <;> rfl
      rw [more] at meaningful
      refine ⟨run :: before, after, rfl, fun earlier member => ?_, offends⟩
      rcases List.mem_cons.mp member with rfl | member
      · exact meaningful
      · exact earlierOnes earlier member

theorem componentsOf_eq_error_iff {text : Text} {runs : List Text} {error : VersionError} :
    componentsOf text runs = .error error ↔ ∃ bad, Offends runs bad ∧
      error = if bad.all Char.isDigit then .componentTooLarge text else .invalidSyntax text := by
  induction runs with
  | nil => simp [componentsOf, Offends]
  | cons run rest ih =>
      simp only [componentsOf_cons, offends_cons_iff]
      cases found : meaning? run rest.isEmpty with
      | none =>
          have nothing (components : List Component) : ¬ Denotes run rest.isEmpty components := by
            rw [← meaning?_eq_some_iff, found]
            simp
          constructor
          · intro same
            cases same
            exact ⟨run, .inl ⟨rfl, nothing⟩, rfl⟩
          · rintro ⟨bad, ⟨rfl, -⟩ | ⟨⟨components, denotes⟩, -⟩, rfl⟩
            · rfl
            · exact absurd denotes (nothing components)
      | some components =>
          have denotes := meaning?_eq_some_iff.mp found
          have something : ¬ ∀ components, ¬ Denotes run rest.isEmpty components :=
            fun nothing => nothing components denotes
          have denoted : ∃ components, Denotes run rest.isEmpty components := ⟨components, denotes⟩
          simp only [something, denoted, and_false, false_or, true_and, ← ih]
          cases componentsOf text rest <;> simp [Except.map]

theorem Alternating.of_mem {digits : Bool} {runs : List Text} {run : Text}
    (alternating : Alternating digits runs) (member : run ∈ runs) :
    run ≠ [] ∧ ∃ digits, ∀ c ∈ run, c.isDigit = digits := by
  induction alternating with
  | nil => contradiction
  | @cons digits first others nonempty uniform later ih =>
      rcases List.mem_cons.mp member with rfl | member
      · exact ⟨nonempty, digits, uniform⟩
      · exact ih member

theorem uniform_of_offends {text bad : Text} (offends : Offends (runs text) bad) :
    bad ≠ [] ∧ ∃ digits, ∀ c ∈ bad, c.isDigit = digits := by
  obtain ⟨-, digits, alternating⟩ := cutInto_iff.mpr (rfl : runs text = runs text)
  obtain ⟨before, after, same, -⟩ := offends
  exact alternating.of_mem (by simp [same])

theorem componentsOf_runs_eq_componentTooLarge_iff {text subject : Text} :
    componentsOf text (runs text) = .error (.componentTooLarge subject) ↔
      subject = text ∧ ∃ run, Offends (runs text) run ∧ ∀ c ∈ run, c.isDigit = true := by
  rw [componentsOf_eq_error_iff]
  constructor
  · rintro ⟨bad, offends, same⟩
    split at same
    · rename_i digits
      cases same
      exact ⟨rfl, bad, offends, List.all_eq_true.mp digits⟩
    · contradiction
  · rintro ⟨rfl, bad, offends, digits⟩
    exact ⟨bad, offends, by rw [if_pos (List.all_eq_true.mpr digits)]⟩

theorem componentsOf_runs_eq_invalidSyntax_iff {text subject : Text} :
    componentsOf text (runs text) = .error (.invalidSyntax subject) ↔
      subject = text ∧ ∃ run, Offends (runs text) run ∧ ∀ c ∈ run, c.isDigit = false := by
  rw [componentsOf_eq_error_iff]
  constructor
  · rintro ⟨bad, offends, same⟩
    split at same
    · contradiction
    · rename_i notDigits
      cases same
      obtain ⟨-, digits, uniform⟩ := uniform_of_offends offends
      cases digits with
      | true => exact absurd (List.all_eq_true.mpr uniform) notDigits
      | false => exact ⟨rfl, bad, offends, uniform⟩
  · rintro ⟨rfl, bad, offends, others⟩
    obtain ⟨nonempty, -⟩ := uniform_of_offends offends
    obtain ⟨c, member⟩ := List.exists_mem_of_ne_nil bad nonempty
    have notDigits : ¬ bad.all Char.isDigit = true := by
      intro all
      have digit := List.all_eq_true.mp all c member
      rw [others c member] at digit
      contradiction
    exact ⟨bad, offends, by rw [if_neg notDigits]⟩

theorem parse_of_digit {c : Char} {rest : Text} (digit : c.isDigit = true) :
    parse (c :: rest) = (componentsOf (c :: rest) (runs (c :: rest))).map Version.mk := by
  rw [parse, if_pos digit]

theorem parse_of_not_digit {c : Char} {rest : Text} (notDigit : c.isDigit = false) :
    parse (c :: rest) = .error (.mustStartWithNumber (c :: rest)) := by
  simp [parse, notDigit]

def BeginsWithDigit (text : Text) : Prop := ∃ c rest, text = c :: rest ∧ c.isDigit = true

theorem beginsWithDigit_cons {c : Char} {rest : Text} :
    BeginsWithDigit (c :: rest) ↔ c.isDigit = true := by
  constructor
  · rintro ⟨d, later, same, digit⟩
    cases same
    exact digit
  · exact fun digit => ⟨c, rest, rfl, digit⟩

theorem parse_eq_ok_iff {text : Text} {components : List Component} :
    parse text = .ok ⟨components⟩ ↔ BeginsWithDigit text ∧ DenoteAll (runs text) components := by
  cases text with
  | nil => simp [parse, BeginsWithDigit]
  | cons c rest =>
      rw [beginsWithDigit_cons]
      cases digit : c.isDigit with
      | false => simp [parse_of_not_digit digit]
      | true =>
          rw [parse_of_digit digit, ← @componentsOf_eq_ok_iff (c :: rest)]
          cases componentsOf (c :: rest) (runs (c :: rest)) <;> simp [Except.map]

theorem parse_eq_error_iff {text : Text} {error : VersionError} :
    parse text = .error error ↔
      (text = [] ∧ .empty = error) ∨
      ((∃ c rest, text = c :: rest ∧ c.isDigit = false) ∧ .mustStartWithNumber text = error) ∨
      (BeginsWithDigit text ∧ componentsOf text (runs text) = .error error) := by
  cases text with
  | nil => simp [parse, BeginsWithDigit]
  | cons c rest =>
      have first : (∃ d later, c :: rest = d :: later ∧ d.isDigit = false) ↔ c.isDigit = false := by
        constructor
        · rintro ⟨d, later, same, notDigit⟩
          cases same
          exact notDigit
        · exact fun notDigit => ⟨c, rest, rfl, notDigit⟩
      rw [beginsWithDigit_cons, first]
      cases digit : c.isDigit with
      | false => simp [parse_of_not_digit digit]
      | true =>
          rw [parse_of_digit digit]
          cases componentsOf (c :: rest) (runs (c :: rest)) <;> simp [Except.map]

theorem componentsOf_error {text : Text} {runs : List Text} {error : VersionError}
    (failed : componentsOf text runs = .error error) :
    error = .componentTooLarge text ∨ error = .invalidSyntax text := by
  obtain ⟨bad, -, rfl⟩ := componentsOf_eq_error_iff.mp failed
  split
  · exact .inl rfl
  · exact .inr rfl

/-- Only a run can cause the remaining refusals. -/
theorem parse_eq_error_iff_componentsOf {text : Text} {error : VersionError}
    (nonempty : error ≠ .empty) (begun : ∀ subject, error ≠ .mustStartWithNumber subject) :
    parse text = .error error ↔
      BeginsWithDigit text ∧ componentsOf text (runs text) = .error error := by
  rw [parse_eq_error_iff]
  constructor
  · rintro (⟨-, same⟩ | ⟨-, same⟩ | failed)
    · exact absurd same.symm nonempty
    · exact absurd same.symm (begun text)
    · exact failed
  · exact fun failed => .inr (.inr failed)

/-- A text begins with a digit, and all its runs stand for something. -/
def Grammatical (text : Text) : Prop :=
  BeginsWithDigit text ∧ ∃ runs components, CutInto text runs ∧ DenoteAll runs components

theorem isValid_iff {text : Text} : isValid text = true ↔ Grammatical text := by
  have accepted : isValid text = true ↔ ∃ components, parse text = .ok ⟨components⟩ := by
    cases parsed : parse text with
    | error reason => simp [isValid, parsed]
    | ok version => simpa [isValid, parsed] using ⟨version.components, rfl⟩
  simp only [accepted, parse_eq_ok_iff, Grammatical, cutInto_iff, exists_and_left, exists_eq_left]

/-- Every text has exactly one cut into maximal runs of digits and of other
characters, and this decides what its version is.  It is refused if it is empty,
or begins with no digit.  Otherwise it denotes a version if every run stands for
something, and if not, the leftmost that does not decides why it is refused. -/
theorem parse_classified (text : Text) :
    ∃ runs, (∀ others, CutInto text others ↔ others = runs) ∧
      (parse text = .error .empty ↔ text = []) ∧
      (∀ subject, parse text = .error (.mustStartWithNumber subject) ↔
        subject = text ∧ ∃ c rest, text = c :: rest ∧ c.isDigit = false) ∧
      (∀ components, parse text = .ok ⟨components⟩ ↔
        BeginsWithDigit text ∧ DenoteAll runs components) ∧
      (∀ subject, parse text = .error (.componentTooLarge subject) ↔
        subject = text ∧ BeginsWithDigit text ∧
          ∃ run, Offends runs run ∧ ∀ c ∈ run, c.isDigit = true) ∧
      ∀ subject, parse text = .error (.invalidSyntax subject) ↔
        subject = text ∧ BeginsWithDigit text ∧
          ∃ run, Offends runs run ∧ ∀ c ∈ run, c.isDigit = false := by
  refine ⟨runs text, fun others => cutInto_iff, ?_, ?_, ?_, ?_, ?_⟩
  · rw [parse_eq_error_iff]
    constructor
    · rintro (⟨empty, -⟩ | ⟨-, same⟩ | ⟨-, failed⟩)
      · exact empty
      · contradiction
      · rcases componentsOf_error failed with same | same <;> contradiction
    · exact fun empty => .inl ⟨empty, rfl⟩
  · intro subject
    rw [parse_eq_error_iff]
    constructor
    · rintro (⟨-, same⟩ | ⟨begins, same⟩ | ⟨-, failed⟩)
      · contradiction
      · cases same
        exact ⟨rfl, begins⟩
      · rcases componentsOf_error failed with same | same <;> contradiction
    · rintro ⟨rfl, begins⟩
      exact .inr (.inl ⟨begins, rfl⟩)
  · intro components
    exact parse_eq_ok_iff
  · intro subject
    rw [parse_eq_error_iff_componentsOf (by simp) (by simp),
      componentsOf_runs_eq_componentTooLarge_iff]
    exact and_left_comm
  · intro subject
    rw [parse_eq_error_iff_componentsOf (by simp) (by simp),
      componentsOf_runs_eq_invalidSyntax_iff]
    exact and_left_comm

end PackageRequires.Version
