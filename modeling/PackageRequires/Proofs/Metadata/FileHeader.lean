import PackageRequires.Proofs.Metadata.Line
import PackageRequires.Proofs.Pattern

namespace PackageRequires.FileHeader

/-! # The pattern of the file header

The summary is captured by a lazy group.  Behind it stand a run of blanks and the
settings of the editor, and either may be missing.  A matcher that backtracks
comes upon the shortest summary first.  So the settings begin at the first mark
that does not overlap the one at the end of the line, however many marks there
are between the two.
-/

/-! ## The summary -/

/-- A text ends in settings, between two marks and with blanks behind them, and
`front` is what stands before them. -/
def SettingsBehind (text front : Text) : Prop :=
  ∃ settings blanks, text = front ++ settingsMark ++ settings ++ settingsMark ++ blanks ∧
    ∀ c ∈ blanks, Text.isSpaceOrTab c = true

/-- The summary in what stands behind the dashes. -/
inductive IsSummary (text : Text) : Text → Prop
  | settings {front : Text} (behind : SettingsBehind text front)
      (shortest : ∀ other, SettingsBehind text other → front.length ≤ other.length) :
      IsSummary text (front.dropEndWhile Text.isSpaceOrTab)
  | plain (none : ∀ front, ¬ SettingsBehind text front) :
      IsSummary text (text.dropEndWhile Text.isSpaceOrTab)

variable {text front summary rest : Text}

theorem settingsBehind_iff :
    SettingsBehind text front ↔
      ∃ settings, text.dropEndWhile Text.isSpaceOrTab =
        front ++ settingsMark ++ settings ++ settingsMark := by
  simp only [Text.dropEndWhile_eq_iff]
  constructor
  · intro ⟨settings, blanks, split, all⟩
    refine ⟨settings, ?_, blanks, split, all⟩
    intro c last
    rw [List.getLast?_append_of_ne_nil _ (by decide)] at last
    cases last
    rfl
  · intro ⟨settings, _, blanks, split, all⟩
    exact ⟨settings, blanks, split, all⟩

theorem SettingsBehind.isPrefix (behind : SettingsBehind text front) : front <+: text := by
  obtain ⟨settings, blanks, split, -⟩ := behind
  exact ⟨settingsMark ++ settings ++ settingsMark ++ blanks, by simp [split]⟩

theorem SettingsBehind.append {tail : Text} (behind : SettingsBehind tail []) (front : Text) :
    SettingsBehind (front ++ tail) front := by
  obtain ⟨settings, blanks, split, all⟩ := behind
  exact ⟨settings, blanks, by simp [split], all⟩

theorem isSummary_summaryOf (text : Text) : IsSummary text (summaryOf text) := by
  rw [summaryOf]
  cases last : Text.dropBack? settingsMark (text.dropEndWhile Text.isSpaceOrTab) with
  | none =>
      refine .plain fun front behind => ?_
      obtain ⟨settings, split⟩ := settingsBehind_iff.mp behind
      rw [Text.dropBack?_eq_some_iff.mpr split] at last
      cases last
  | some body =>
      -- the last mark is taken off, so that a mark in what is left cannot overlap it
      have behind_iff (front : Text) :
          SettingsBehind text front ↔ ∃ settings, body = front ++ settingsMark ++ settings := by
        simp only [settingsBehind_iff, Text.dropBack?_eq_some_iff.mp last, List.append_left_inj]
      cases first : Text.cutAt? settingsMark body with
      | none =>
          simp only [Option.bind_some, first]
          refine .plain fun front behind => ?_
          obtain ⟨settings, split⟩ := (behind_iff front).mp behind
          have occurs := Text.contains_iff.mpr ⟨front, settings, split⟩
          rw [Text.contains, first] at occurs
          cases occurs
      | some parts =>
          obtain ⟨before, after⟩ := parts
          simp only [Option.bind_some, first]
          refine .settings ((behind_iff before).mpr ⟨after, Text.cutAt?_spec first⟩) ?_
          intro other behind
          obtain ⟨settings, split⟩ := (behind_iff other).mp behind
          exact Text.cutAt?_shortest first split

theorem IsSummary.unique {other : Text} (isSummary : IsSummary text summary)
    (isOther : IsSummary text other) : summary = other := by
  cases isSummary with
  | @settings front behind shortest =>
      cases isOther with
      | @settings front' behind' shortest' =>
          have within := List.prefix_of_prefix_length_le behind.isPrefix behind'.isPrefix
            (shortest front' behind')
          rw [within.eq_of_length_le (shortest' front behind)]
      | plain none => exact absurd behind (none front)
  | plain none =>
      cases isOther with
      | @settings front behind shortest => exact absurd behind (none front)
      | plain none' => rfl

theorem isSummary_iff : IsSummary text summary ↔ summary = summaryOf text := by
  constructor
  · intro isSummary
    exact isSummary.unique (isSummary_summaryOf text)
  · intro same
    rw [same]
    exact isSummary_summaryOf text

/-! ## The margin behind it -/

/-- Blanks, and behind them settings or nothing. -/
def IsMargin (rest : Text) : Prop :=
  ∃ blanks tail, rest = blanks ++ tail ∧ (∀ c ∈ blanks, Text.isSpaceOrTab c = true) ∧
    (tail = [] ∨ SettingsBehind tail [])

theorem IsSummary.ends (isSummary : IsSummary text summary) :
    ∀ c ∈ summary.getLast?, Text.isSpaceOrTab c = false := by
  cases isSummary with
  | settings => exact (Text.dropEndWhile_eq_iff.mp rfl).1
  | plain => exact (Text.dropEndWhile_eq_iff.mp rfl).1

theorem IsSummary.exists_margin (isSummary : IsSummary text summary) :
    ∃ rest, text = summary ++ rest ∧ IsMargin rest := by
  cases isSummary with
  | @settings front behind shortest =>
      obtain ⟨-, blanks, whole, all⟩ :=
        Text.dropEndWhile_eq_iff.mp (rfl : front.dropEndWhile Text.isSpaceOrTab = _)
      obtain ⟨settings, right, split, allRight⟩ := behind
      refine ⟨blanks ++ (settingsMark ++ settings ++ settingsMark ++ right), ?_, blanks, _, rfl, all,
        .inr ⟨settings, right, by simp, allRight⟩⟩
      rw [← List.append_assoc, ← whole, split]
      simp
  | plain none =>
      obtain ⟨-, blanks, whole, all⟩ :=
        Text.dropEndWhile_eq_iff.mp (rfl : text.dropEndWhile Text.isSpaceOrTab = _)
      exact ⟨blanks, whole, blanks, [], by simp, all, .inl rfl⟩

theorem IsSummary.isPrefix (isSummary : IsSummary text summary) : summary <+: text := by
  obtain ⟨rest, whole, -⟩ := isSummary.exists_margin
  exact ⟨rest, whole.symm⟩

theorem IsSummary.isPrefix_of_settings (isSummary : IsSummary text summary)
    (behind : SettingsBehind text front) : summary <+: front := by
  cases isSummary with
  | @settings first behind' shortest =>
      obtain ⟨-, blanks, whole, -⟩ :=
        Text.dropEndWhile_eq_iff.mp (rfl : first.dropEndWhile Text.isSpaceOrTab = _)
      have within : first <+: front :=
        List.prefix_of_prefix_length_le behind'.isPrefix behind.isPrefix (shortest front behind)
      exact List.IsPrefix.trans ⟨blanks, whole.symm⟩ within
  | plain none => exact absurd behind (none front)

theorem IsSummary.length_le {other : Text} (isSummary : IsSummary text summary)
    (split : text = other ++ rest) (margin : IsMargin rest) : summary.length ≤ other.length := by
  obtain ⟨blanks, tail, same, all, closed⟩ := margin
  have starts : summary <+: other ++ blanks := by
    rcases closed with nothing | behind
    · have whole : text = other ++ blanks := by rw [split, same, nothing, List.append_nil]
      rw [← whole]
      exact isSummary.isPrefix
    · have whole : text = (other ++ blanks) ++ tail := by rw [split, same, List.append_assoc]
      rw [whole] at isSummary
      exact isSummary.isPrefix_of_settings (behind.append (other ++ blanks))
  exact Text.length_le_of_prefix starts isSummary.ends all

/-! ## The pattern -/

def settingsPattern : Pattern :=
  .andThen (.word settingsMark) <| .andThen (.run true (· != '\n')) <|
    .andThen (.word settingsMark) (.run true Text.isSpaceOrTab)

def marginPattern : Pattern :=
  .andThen (.run true Text.isSpaceOrTab) <| .andThen (.optional settingsPattern) .finish

def dashesPattern : Pattern :=
  .andThen (.word ".el ---".toList) <| .andThen (.run true Text.isSpaceOrTab) <|
    .andThen (.group (.run false (· != '\n'))) marginPattern

/-- The pattern `^;;; ([^ ]*)\.el ---[ \t]*(.*?)[ \t]*(-\*-.*-\*-[ \t]*)?$` of a file header,
without the group around the settings, which is not read. -/
def pattern : Pattern :=
  .andThen (.word ";;; ".toList) <|
    .andThen (.group (.run true fun c => !Text.isSpace c)) dashesPattern

theorem fits_settingsPattern_iff (oneLine : '\n' ∉ text) :
    Pattern.Fits (.andThen settingsPattern .finish) text ↔ SettingsBehind text [] := by
  simp only [settingsPattern, Pattern.fits_assoc_iff, Pattern.fits_word_andThen_iff,
    Pattern.fits_run_andThen_iff, Pattern.fits_finish_iff]
  constructor
  · intro ⟨_, marked, settings, _, middle, _, _, closed, blanks, _, right, all, atEnd⟩
    refine ⟨settings, blanks, ?_, all⟩
    rw [marked, middle, closed, right, atEnd]
    simp
  · intro ⟨settings, blanks, split, all⟩
    refine ⟨settings ++ settingsMark ++ blanks, by simp [split], settings, settingsMark ++ blanks,
      by simp, ?_, blanks, rfl, blanks, [], by simp, all, rfl⟩
    exact Pattern.bne_newline_of_not_mem fun member => oneLine (by simp [split, member])

theorem fits_marginPattern_iff (oneLine : '\n' ∉ text) :
    marginPattern.Fits text ↔ IsMargin text := by
  simp only [marginPattern, Pattern.fits_run_andThen_iff, Pattern.fits_optional_andThen_iff,
    Pattern.fits_finish_iff, IsMargin]
  refine exists_congr fun blanks => exists_congr fun tail => and_congr_right fun split =>
    and_congr_right fun all => ?_
  rw [fits_settingsPattern_iff fun member => oneLine (by simp [split, member]), or_comm]

theorem groups?_summary (oneLine : '\n' ∉ text) :
    Pattern.groups? (.andThen (.group (.run false (· != '\n'))) marginPattern) text =
      some [summaryOf text] := by
  have isSummary := isSummary_summaryOf text
  obtain ⟨rest, whole, margin⟩ := isSummary.exists_margin
  have fits_iff {other behind : Text} (split : text = other ++ behind) :
      marginPattern.Fits behind ↔ IsMargin behind :=
    fits_marginPattern_iff fun member => oneLine (by simp [split, member])
  refine Pattern.groups?_lazy_andThen rfl whole (Pattern.bne_newline_of_not_mem oneLine)
    ((fits_iff whole).mpr margin) ?_
  intro other behind split fits
  exact isSummary.length_le split ((fits_iff split).mp fits)

theorem groups?_dashesPattern (oneLine : '\n' ∉ rest) :
    dashesPattern.groups? (".el ---".toList ++ rest) =
      some [summaryOf (rest.dropWhile Text.isSpaceOrTab)] := by
  have captured := groups?_summary fun member =>
    oneLine ((List.dropWhile_suffix Text.isSpaceOrTab).subset member)
  rw [dashesPattern, Pattern.groups?_word_andThen, Text.dropFront?_eq_some_iff.mpr rfl,
    Option.bind_some, Pattern.groups?_greedy_andThen (.inr (by rw [captured]; rfl)), captured]

theorem exists_of_fits_dashesPattern (fits : dashesPattern.Fits text) :
    ∃ rest, text = ".el ---".toList ++ rest := by
  obtain ⟨rest, split, -⟩ := Pattern.fits_word_andThen_iff.mp fits
  exact ⟨rest, split⟩

theorem exists_matches_of_fits_pattern {line : Text} (fits : pattern.Fits line) :
    ∃ name, Matches line name := by
  simp only [pattern, Pattern.fits_word_andThen_iff, Pattern.fits_group_andThen_iff,
    Pattern.fits_run_andThen_iff] at fits
  obtain ⟨_, marked, name, _, split, all, behind⟩ := fits
  obtain ⟨rest, dashes⟩ := exists_of_fits_dashesPattern behind
  exact ⟨name, not_space_iff_not_mem.mp all, rest, by simp [marked, split, dashes]⟩

theorem groups?_pattern {line : Text} (oneLine : '\n' ∉ line) :
    pattern.groups? line = (ofLine? line).map fun header => [header.name, header.summary] := by
  cases found : ofLine? line with
  | none =>
      rw [Option.map_none, ← Option.not_isSome_iff_eq_none, Pattern.isSome_groups?_iff]
      intro fits
      obtain ⟨name, isHeader⟩ := exists_matches_of_fits_pattern fits
      exact ofLine?_eq_none_iff.mp found name isHeader
  | some header =>
      obtain ⟨absent, rest, split, summary⟩ := ofLine?_eq_some_iff_summaryOf.mp found
      -- any other way to take a name would be another header of the same line
      have unique (other behind : Text) (same : header.name ++ (".el ---".toList ++ rest) =
          other ++ behind) (all : ∀ c ∈ other, (!Text.isSpace c) = true)
          (fits : dashesPattern.Fits behind) : other = header.name := by
        obtain ⟨rest', dashes⟩ := exists_of_fits_dashesPattern fits
        have again : ofLine? line = some ⟨other, summaryOf (rest'.dropWhile Text.isSpaceOrTab)⟩ := by
          refine ofLine?_eq_some_iff_summaryOf.mpr ⟨not_space_iff_not_mem.mp all, rest', ?_, rfl⟩
          rw [split, List.append_assoc, List.append_assoc, same, dashes]
          simp
        rw [found] at again
        exact congrArg FileHeader.name (Option.some.inj again).symm
      have front : Text.dropFront? ";;; ".toList line =
          some (header.name ++ (".el ---".toList ++ rest)) :=
        Text.dropFront?_eq_some_iff.mpr (by simp [split])
      rw [pattern, Pattern.groups?_word_andThen, front, Option.bind_some,
        Pattern.groups?_group_andThen rfl (not_space_iff_not_mem.mpr absent) unique,
        groups?_dashesPattern fun member => oneLine (by simp [split, member]), ← summary]
      rfl

/-- A line without a line break is matched just if it is a file header, and its name and
summary are the groups.  The summary ends where settings begin, if the line ends in
settings, and has no blanks around it. -/
theorem file_header_exact (line : Text) (oneLine : '\n' ∉ line) :
    pattern.groups? line = (ofLine? line).map (fun header => [header.name, header.summary]) ∧
      (∀ name, (∃ summary, ofLine? line = some ⟨name, summary⟩) ↔ Matches line name) ∧
      (∀ name summary, ofLine? line = some ⟨name, summary⟩ ↔ ' ' ∉ name ∧
        ∃ rest, line = ";;; ".toList ++ name ++ ".el ---".toList ++ rest ∧
          IsSummary (rest.dropWhile Text.isSpaceOrTab) summary) ∧
      ∀ header, ofLine? line = some header →
        (∀ c ∈ header.summary.head?, Text.isSpaceOrTab c = false) ∧
          ∀ c ∈ header.summary.getLast?, Text.isSpaceOrTab c = false := by
  refine ⟨groups?_pattern oneLine, ?_, ?_, ?_⟩
  · intro name
    rw [← exists_ofLine?_iff]
    constructor
    · intro ⟨summary, found⟩
      exact ⟨⟨name, summary⟩, found, rfl⟩
    · intro ⟨header, found, same⟩
      subst same
      exact ⟨header.summary, found⟩
  · intro name summary
    simp only [ofLine?_eq_some_iff_summaryOf, isSummary_iff]
  · intro header found
    obtain ⟨-, rest, -, summary⟩ := ofLine?_eq_some_iff_summaryOf.mp found
    have isSummary := isSummary_iff.mpr summary
    refine ⟨?_, isSummary.ends⟩
    intro c begins
    obtain ⟨behind, whole⟩ := isSummary.isPrefix
    apply dropWhile_stops Text.isSpaceOrTab rest
    rw [← whole, List.head?_append, Option.mem_def.mp begins]
    rfl

/-- Settings begin at the first of three marks, and two marks that overlap are no settings. -/
theorem file_header_exact_marks :
    ('\n' ∉ ";;; demo.el ---\t Show -*- all -*- lisp -*- \t".toList ∧
      pattern.groups? ";;; demo.el ---\t Show -*- all -*- lisp -*- \t".toList =
        some ["demo".toList, "Show".toList]) ∧
    '\n' ∉ ";;; demo.el --- Show -*-*-".toList ∧
      pattern.groups? ";;; demo.el --- Show -*-*-".toList =
        some ["demo".toList, "Show -*-*-".toList] := by
  have three := file_header_exact ";;; demo.el ---\t Show -*- all -*- lisp -*- \t".toList (by decide)
  have overlapping := file_header_exact ";;; demo.el --- Show -*-*-".toList (by decide)
  exact ⟨⟨by decide, three.1.trans (by decide)⟩, by decide, overlapping.1.trans (by decide)⟩

end PackageRequires.FileHeader
