import Mathlib.Data.List.Chain
import PackageRequires.Proofs.Version

namespace PackageRequires

/-! # Canonical text

Canonical text is cut into exactly the numerals, labels and dots that it was put
together from (`runs_render`), so that parsing it gives the components back.
This works for the component lists that some text denotes, and for no others.
-/

def Component.isMarker : Component → Bool
  | number _ => false
  | marker _ => true

/-- Neighbours of which not both are markers. -/
def Component.Apart (left right : Component) : Prop :=
  ¬ (left.isMarker = true ∧ right.isMarker = true)

namespace Version

/-- What the components of a version are like: a number comes first, no marker
follows another, and no number exceeds the largest one. -/
structure Possible (components : List Component) : Prop where
  begins : ∃ value rest, components = .number value :: rest
  apart : components.IsChain Component.Apart
  fits : ∀ value, .number value ∈ components → value ≤ 2 ^ 63 - 1

theorem ofNat_eq_toDigits (value : Nat) : Text.ofNat value = Nat.toDigits 10 value := by
  rw [Text.ofNat, Nat.toString_eq_repr, Nat.repr_eq_ofList_toDigits, String.toList_ofList]

theorem isDigit_of_mem_ofNat {value : Nat} {c : Char} (member : c ∈ Text.ofNat value) :
    c.isDigit = true := by
  rw [ofNat_eq_toDigits] at member
  exact Nat.isDigit_of_mem_toDigits (by decide) (by decide) member

theorem ofNat_ne_nil (value : Nat) : Text.ofNat value ≠ [] := by
  rw [ofNat_eq_toDigits]
  exact Nat.toDigits_ne_nil

theorem placeValue_ofNat (value : Nat) : placeValue (Text.ofNat value) = value := by
  have decimal : ∀ c ∈ Text.ofNat value, c.isDigit = true := fun c => isDigit_of_mem_ofNat
  calc placeValue (Text.ofNat value)
    _ = numberValue (Text.ofNat value) := (numberValue_eq_placeValue decimal).symm
    _ = Nat.ofDigitChars 10 (Text.ofNat value) 0 := by
        apply List.foldl_ext
        intro total c member
        rw [digitValue, if_pos (decimal c member)]
    _ = value := by rw [ofNat_eq_toDigits, Nat.ofDigitChars_ten_toDigits]

theorem label_listed (kind : Marker) : kind.label.map Char.toLower ∈ wordsFor kind := by
  cases kind <;> decide

theorem label_not_digits (kind : Marker) :
    kind.label ≠ [] ∧ ∀ c ∈ kind.label, c.isDigit = false := by
  have clean : (kind.label.all fun c => !c.isDigit) = true := by cases kind <;> rfl
  refine ⟨by cases kind <;> decide, ?_⟩
  simpa using clean

/-- The runs that rendering writes one after another. -/
def renderedRuns (afterNumber : Bool) : List Component → List Text
  | [] => []
  | .number value :: rest =>
    (if afterNumber then [['.']] else []) ++ Text.ofNat value :: renderedRuns true rest
  | .marker kind :: rest => kind.label :: renderedRuns false rest

theorem flatten_renderedRuns (afterNumber : Bool) (components : List Component) :
    (renderedRuns afterNumber components).flatten = render afterNumber components := by
  induction components generalizing afterNumber with
  | nil => rfl
  | cons component rest ih =>
      cases component with
      | number value => cases afterNumber <;> simp [renderedRuns, render, ih]
      | marker kind => simp [renderedRuns, render, ih]

/-- The dot that rendering puts between numbers is what keeps their digits apart. -/
theorem alternating_renderedRuns {components : List Component} (afterNumber : Bool)
    (apart : components.IsChain Component.Apart)
    (begins : afterNumber = false → ∀ first ∈ components.head?, first.isMarker = false) :
    Alternating (!afterNumber) (renderedRuns afterNumber components) := by
  induction components generalizing afterNumber with
  | nil => exact .nil
  | cons component rest ih =>
      obtain ⟨next, later⟩ := List.isChain_cons.mp apart
      cases component with
      | number value =>
          have inner : Alternating false (renderedRuns true rest) := ih true later (by simp)
          have numeral : Alternating true (Text.ofNat value :: renderedRuns true rest) :=
            .cons (ofNat_ne_nil value) (fun c => isDigit_of_mem_ofNat) inner
          cases afterNumber with
          | false => exact numeral
          | true => exact .cons (by simp) (by simp) numeral
      | marker kind =>
          cases afterNumber with
          | false => exact absurd (begins rfl (.marker kind) rfl) (by simp [Component.isMarker])
          | true =>
              have inner : Alternating true (renderedRuns false rest) := by
                apply ih false later
                intro _ first member
                have notBoth := next first member
                simpa [Component.Apart, Component.isMarker] using notBoth
              obtain ⟨nonempty, others⟩ := label_not_digits kind
              exact .cons nonempty others inner

theorem denoteAll_renderedRuns {components : List Component}
    (fits : ∀ value, .number value ∈ components → value ≤ 2 ^ 63 - 1) (afterNumber : Bool) :
    DenoteAll (renderedRuns afterNumber components) components := by
  induction components generalizing afterNumber with
  | nil => exact .nil
  | cons component rest ih =>
      have later := ih fun value member => fits value (List.mem_cons_of_mem component member)
      cases component with
      | number value =>
          have numeral : Denotes (Text.ofNat value) (renderedRuns true rest).isEmpty
              [.number value] := by
            have small := fits value List.mem_cons_self
            have denotes := @Denotes.number (Text.ofNat value) (renderedRuns true rest).isEmpty
              (fun c => isDigit_of_mem_ofNat) (by rwa [placeValue_ofNat])
            rwa [placeValue_ofNat] at denotes
          have counted := DenoteAll.cons numeral (later true)
          cases afterNumber with
          | false => exact counted
          | true => exact .cons .point counted
      | marker kind => exact .cons (.word (.inl rfl) (label_listed kind)) (later false)

theorem runs_render {components : List Component} (possible : Possible components) :
    runs (render false components) = renderedRuns false components := by
  have first : ∀ component ∈ components.head?, component.isMarker = false := by
    obtain ⟨value, rest, rfl⟩ := possible.begins
    intro component member
    cases member
    rfl
  have alternating := alternating_renderedRuns false possible.apart fun _ => first
  exact (cutInto_iff.mp ⟨flatten_renderedRuns false components, _, alternating⟩).symm

theorem parse_render {components : List Component} (possible : Possible components) :
    parse (render false components) = .ok ⟨components⟩ := by
  rw [parse_eq_ok_iff, runs_render possible]
  refine ⟨?_, denoteAll_renderedRuns possible.fits false⟩
  obtain ⟨value, rest, rfl⟩ := possible.begins
  obtain ⟨c, digits, numeral⟩ := List.exists_cons_of_ne_nil (ofNat_ne_nil value)
  have digit : c.isDigit = true := isDigit_of_mem_ofNat (by rw [numeral]; exact List.mem_cons_self)
  exact ⟨c, digits ++ render true rest, by simp [render, numeral], digit⟩

theorem Denotes.of_digits {run : Text} {last : Bool} {components : List Component}
    (denotes : Denotes run last components) (digits : ∀ c ∈ run, c.isDigit = true) :
    components = [.number (placeValue run)] ∧ placeValue run ≤ 2 ^ 63 - 1 := by
  cases denotes with
  | number _ fits => exact ⟨rfl, fits⟩
  | point => exact absurd (digits '.' List.mem_cons_self) (by decide)
  | @sign c _ sign =>
      have digit := digits c List.mem_cons_self
      rcases sign with rfl | rfl | rfl <;> simp at digit
  | word _ listed =>
      obtain ⟨c, rest, rfl, -, notDigit⟩ := word_eq_cons listed
      have digit := digits c (by simp)
      rw [notDigit] at digit
      contradiction

theorem Denotes.of_others {run : Text} {last : Bool} {components : List Component}
    (denotes : Denotes run last components) (nonempty : run ≠ [])
    (others : ∀ c ∈ run, c.isDigit = false) :
    components = [] ∨ ∃ kind, components = [.marker kind] := by
  cases denotes with
  | number digits _ =>
      obtain ⟨c, member⟩ := List.exists_mem_of_ne_nil run nonempty
      have digit := digits c member
      rw [others c member] at digit
      contradiction
  | point => exact .inl rfl
  | sign _ => exact .inr ⟨.snapshot, rfl⟩
  | @word _ _ _ kind _ _ => exact .inr ⟨kind, rfl⟩

/-- What one run adds keeps markers apart: a number stands between any two of
them, because runs of digits stand between the runs that denote them. -/
theorem DenoteAll.apart {digits : Bool} {runs : List Text} {components : List Component}
    (alternating : Alternating digits runs) (denoted : DenoteAll runs components) :
    components.IsChain Component.Apart ∧
      (digits = true → ∀ first ∈ components.head?, first.isMarker = false) ∧
      ∀ value, .number value ∈ components → value ≤ 2 ^ 63 - 1 := by
  induction denoted generalizing digits with
  | nil => simp
  | @cons run rest first later here there ih =>
      cases alternating with
      | @cons _ _ _ nonempty uniform alternating =>
          obtain ⟨apart, begins, fits⟩ := ih alternating
          cases digits with
          | true =>
              obtain ⟨rfl, small⟩ := here.of_digits uniform
              refine ⟨?_, ?_, ?_⟩
              · exact List.isChain_cons.mpr ⟨by simp [Component.Apart, Component.isMarker], apart⟩
              · simp [Component.isMarker]
              · intro value member
                rcases List.mem_cons.mp member with same | member
                · cases same
                  exact small
                · exact fits value member
          | false =>
              rcases here.of_others nonempty uniform with rfl | ⟨kind, rfl⟩
              · exact ⟨apart, by simp, fits⟩
              · refine ⟨?_, by simp, ?_⟩
                · refine List.isChain_cons.mpr ⟨fun next member => ?_, apart⟩
                  simp [Component.Apart, begins rfl next member]
                · intro value member
                  exact fits value (by simpa using member)

theorem possible_of_parse {text : Text} {components : List Component}
    (accepted : parse text = .ok ⟨components⟩) : Possible components := by
  obtain ⟨⟨c, rest, rfl, digit⟩, denoted⟩ := parse_eq_ok_iff.mp accepted
  obtain ⟨whole, digits, alternating⟩ := cutInto_iff.mpr (rfl : runs (c :: rest) = _)
  obtain ⟨apart, -, fits⟩ := denoted.apart alternating
  refine ⟨?_, apart, fits⟩
  generalize runs (c :: rest) = cut at whole alternating denoted
  cases alternating with
  | nil => simp at whole
  | @cons _ run others nonempty uniform _ =>
      -- the first run holds the first character, so it is one of digits
      obtain ⟨d, run, rfl⟩ := List.exists_cons_of_ne_nil nonempty
      simp only [List.flatten_cons, List.cons_append, List.cons.injEq] at whole
      obtain ⟨rfl, -⟩ := whole
      have first : digits = true := by rw [← uniform d List.mem_cons_self, digit]
      subst first
      cases denoted with
      | cons here there =>
          obtain ⟨rfl, -⟩ := here.of_digits uniform
          exact ⟨_, _, rfl⟩

theorem rank_injective : Function.Injective Component.rank := by
  intro left right same
  have negative (kind : Marker) : kind.rank < 0 := by cases kind <;> decide
  have different (kind other : Marker) : kind.rank = other.rank → kind = other := by
    cases kind <;> cases other <;> decide
  cases left with
  | number value =>
      cases right with
      | number other =>
          have equal : (value : Int) = other := same
          rw [Int.ofNat_inj.mp equal]
      | marker kind =>
          have equal : (value : Int) = kind.rank := same
          have := negative kind
          omega
  | marker kind =>
      cases right with
      | number value =>
          have equal : kind.rank = (value : Int) := same
          have := negative kind
          omega
      | marker other => rw [different kind other same]

theorem ranks_inj {version other : Version} :
    version.ranks = other.ranks ↔ version.components = other.components :=
  (List.map_injective_iff.mpr rank_injective).eq_iff

theorem canonical_inj {version other : Version} (possible : Possible version.components)
    (possible' : Possible other.components) :
    version.canonical = other.canonical ↔ version.components = other.components := by
  constructor
  · intro same
    have read := parse_render possible
    have read' := parse_render possible'
    rw [canonical, canonical] at same
    rw [same, read', Except.ok.injEq, Version.mk.injEq] at read
    exact read.symm
  · intro same
    rw [canonical, canonical, same]

/-- The canonical text of a version denotes that version.  The components of
versions are the possible ones, all of them come back from their text, and two
accepted texts have the same components, the same canonical text and the same
sort keys all at once. -/
theorem canonical_round_trip :
    (∀ text version, parse text = .ok version → parse version.canonical = .ok version) ∧
      (∀ components, (∃ text, parse text = .ok ⟨components⟩) ↔ Possible components) ∧
      (∀ components, Possible components → parse (canonical ⟨components⟩) = .ok ⟨components⟩) ∧
      ∀ text other version version', parse text = .ok version → parse other = .ok version' →
        (version.canonical = version'.canonical ↔ version.components = version'.components) ∧
          (version.ranks = version'.ranks ↔ version.components = version'.components) := by
  refine ⟨?_, ?_, ?_, ?_⟩
  · intro text version accepted
    exact parse_render (possible_of_parse accepted)
  · intro components
    constructor
    · intro ⟨text, accepted⟩
      exact possible_of_parse accepted
    · intro possible
      exact ⟨render false components, parse_render possible⟩
  · intro components possible
    exact parse_render possible
  · intro text other version version' accepted accepted'
    exact ⟨canonical_inj (possible_of_parse accepted) (possible_of_parse accepted'), ranks_inj⟩

theorem canonical_round_trip_candidate :
    parse "1.0-RC2_".toList = .ok ⟨[.number 1, .number 0, .marker .pre, .number 2,
        .marker .snapshot]⟩ ∧
      parse "1.0pre2snapshot".toList = .ok ⟨[.number 1, .number 0, .marker .pre, .number 2,
        .marker .snapshot]⟩ := by
  have accepted : parse "1.0-RC2_".toList = .ok ⟨[.number 1, .number 0, .marker .pre, .number 2,
      .marker .snapshot]⟩ := by rfl
  exact ⟨accepted, canonical_round_trip.1 _ _ accepted⟩

end Version

end PackageRequires
