import PackageRequires.Proofs.Check
import PackageRequires.Proofs.Header.Locating
import PackageRequires.Proofs.Lisp.Strings
import PackageRequires.Proofs.Metadata
import PackageRequires.Proofs.Report

namespace PackageRequires

open Lisp

/-! # The lines of the text format

A finding takes one line and one more for each newline in its message.  Messages get
newlines from the strings that they quote, and from nowhere else.
-/

theorem count_behind {front : Text} (oneLine : '\n' ∉ front) (text : Text) :
    (front ++ text).count '\n' = text.count '\n' := by
  rw [List.count_append, List.count_eq_zero.mpr oneLine, Nat.zero_add]

theorem newline_not_mem_ofNat (number : Nat) : '\n' ∉ Text.ofNat number := by
  intro member
  exact absurd (Version.isDigit_of_mem_ofNat member) (by decide +kernel)

/-! ## Why a header cannot be read -/

namespace Lisp

theorem ReadError.newline_not_mem_invalidSyntax {text : Text} (oneLine : '\n' ∉ text) :
    '\n' ∉ (ReadError.invalidSyntax text).message := by
  have front : '\n' ∉ "Invalid read syntax: \"".toList := by decide +kernel
  have back : '\n' ∉ "\"".toList := by decide +kernel
  unfold message
  exact List.not_mem_append (List.not_mem_append front oneLine) back

theorem ReadError.newline_not_mem_tooDeep (limit : Nat) :
    '\n' ∉ (ReadError.tooDeep limit).message := by
  have front : '\n' ∉ "Nesting deeper than ".toList := by decide +kernel
  have back : '\n' ∉ " levels".toList := by decide +kernel
  unfold message
  exact List.not_mem_append (List.not_mem_append front (newline_not_mem_ofNat limit)) back

theorem newline_not_mem_noToken {text consumed rest : Text} {error : ReadError}
    (noToken : NoToken text consumed error rest) : '\n' ∉ error.message := by
  cases noToken with
  | @unsupported c tail unsupported =>
      apply ReadError.newline_not_mem_invalidSyntax
      intro member
      obtain rfl := List.mem_singleton.mp member
      contradiction
  | unfinished => decide +kernel
  | dot => decide +kernel

theorem newline_not_mem_ending (text : Text) : '\n' ∉ (scan text).ending.error.message := by
  cases ending : (scan text).ending with
  | finished gap =>
      change '\n' ∉ ReadError.endOfInput.message
      decide +kernel
  | failed consumed error rest =>
      obtain ⟨gap, taken, tail, -, -, noToken⟩ := noToken_of_front (front_of_failed ending)
      exact newline_not_mem_noToken noToken

theorem newline_not_mem_push {limit : Option Nat} {frame : Frame} {stack : List Frame}
    {error : ReadError} (failed : push limit frame stack = .error error) : '\n' ∉ error.message := by
  cases limit with
  | none => cases failed
  | some depth =>
      simp only [push] at failed
      split at failed
      · cases failed
        exact ReadError.newline_not_mem_tooDeep depth
      · cases failed

theorem newline_not_mem_advance {limit : Option Nat} {stack : List Frame} {token : Token}
    {error : ReadError} (failed : advance limit stack token = .error error) :
    '\n' ∉ error.message := by
  cases token with
  | openParen => exact newline_not_mem_push failed
  | quote => exact newline_not_mem_push failed
  | closeParen =>
      simp only [advance] at failed
      split at failed
      · cases failed
      · cases failed
        decide +kernel
  | symbol name => cases failed
  | string contents => cases failed
  | number literal => cases failed

theorem newline_not_mem_readLexemes {limit : Option Nat} {ending : Ending} {stack : List Frame}
    {lexemes : List Lexeme} {failure : ReadFailure} (oneLine : '\n' ∉ ending.error.message)
    (failed : readLexemes limit ending stack lexemes = .error failure) :
    '\n' ∉ failure.error.message := by
  induction lexemes generalizing stack with
  | nil =>
      cases failed
      exact oneLine
  | cons lexeme later ih =>
      simp only [readLexemes] at failed
      split at failed
      · rename_i error stopped
        cases failed
        exact newline_not_mem_advance stopped
      · cases failed
      · exact ih failed

theorem newline_not_mem_read {text : Text} {failure : ReadFailure}
    (failed : read text = .error failure) : '\n' ∉ failure.error.message :=
  newline_not_mem_readLexemes (newline_not_mem_ending text) failed

end Lisp

/-! ## What messages quote -/

/-- The value that a message quotes from the text of a header: what the text holds if
that is no list, an item of its list, or the version in an item. -/
inductive Quotes (text : Text) : (message : Text) → (value : Expr) → Prop
  | notAList {value : Expr} {rest : Text} (derived : Derived text value rest)
      (other : ∀ items, value ≠ .list items) :
      Quotes text ("Couldn't parse dependency header: ".toList ++
        ("Expected a list of dependencies, but found ".toList ++ value.print)) value
  | misshapen {items : List Expr} {rest : Text} {item : Expr}
      (derived : Derived text (.list items) rest) (member : item ∈ items) :
      Quotes text ("Expected (package-name \"version-num\"), but found ".toList ++ item.print) item
  | version {items : List Expr} {rest name version : Text}
      (derived : Derived text (.list items) rest)
      (member : .list [.symbol name, .string version] ∈ items) :
      Quotes text (Expr.printString version ++ " is not a valid version string".toList)
        (.string version)

namespace Quotes

variable {text message : Text} {value : Expr} (quotes : Quotes text message value)
include quotes

theorem exists_derived : ∃ whole rest, Derived text whole rest ∧
    ∀ part, Expr.Occurs part value → Expr.Occurs part whole := by
  cases quotes with
  | notAList derived other => exact ⟨_, _, derived, fun part inside => inside⟩
  | misshapen derived member => exact ⟨_, _, derived, fun part inside => .item member inside⟩
  | version derived member =>
      refine ⟨_, _, derived, fun part inside => .item member (.item ?_ inside)⟩
      exact List.mem_cons_of_mem _ (List.mem_singleton_self _)

theorem count_message (oneLine : '\n' ∉ text) :
    message.count '\n' = value.strings.flatten.count '\n' := by
  cases quotes with
  | notAList derived other =>
      rw [count_behind (by decide +kernel), count_behind (by decide +kernel)]
      exact Expr.count_print value (oneLine_of_derived oneLine derived)
  | misshapen derived member =>
      rw [count_behind (by decide +kernel)]
      exact Expr.count_print value ((oneLine_of_derived oneLine derived).item member)
  | @version items rest name version derived member =>
      have back : '\n' ∉ " is not a valid version string".toList := by decide +kernel
      rw [List.count_append, Expr.count_printString, List.count_eq_zero.mpr back, Expr.strings,
        List.flatten_singleton, Nat.add_zero]

theorem exists_string (oneLine : '\n' ∉ text) (newline : '\n' ∈ message) :
    ∃ contents ∈ value.strings, '\n' ∈ contents := by
  have positive : 0 < value.strings.flatten.count '\n' := by
    rw [← quotes.count_message oneLine]
    exact List.count_pos_iff.mpr newline
  exact List.mem_flatten.mp (List.count_pos_iff.mp positive)

/-- A newline in a quoted string is an escape in the literal of that string. -/
theorem exists_escape (oneLine : '\n' ∉ text) {contents : Text} (member : contents ∈ value.strings)
    (inside : '\n' ∈ contents) :
    ∃ lexeme ∈ (scan text).lexemes, lexeme.token = .string contents ∧
      "\\n".toList <:+: lexeme.slice := by
  obtain ⟨whole, rest, derived, part⟩ := quotes.exists_derived
  have occurs := part _ (Expr.occurs_of_mem_strings value member)
  exact exists_escape_of_newline oneLine derived occurs inside

end Quotes

section Messages

variable {catalogue : Catalogue} {text message : Text} {messages : List Text}

theorem Unless.eq_of_mem {condition : Prop} {other : Text}
    (reported : Unless condition other messages) (member : message ∈ messages) :
    message = other := by
  cases reported with
  | met => contradiction
  | broken => exact List.mem_singleton.mp member

theorem ItemReport.oneLine_or_quotes {items : List Expr} {item : Expr} {rest : Text}
    (report : ItemReport catalogue item messages) (oneLine : '\n' ∉ text)
    (derived : Derived text (.list items) rest) (listed : item ∈ items)
    (member : message ∈ messages) : '\n' ∉ message ∨ ∃ value, Quotes text message value := by
  cases report with
  | misshapen other =>
      rw [List.mem_singleton.mp member]
      exact .inr ⟨item, .misshapen derived listed⟩
  | @declaration name version ofVersion ofName versionReport nameReport =>
      rcases List.mem_append.mp member with ofVersion | ofName
      · rw [versionReport.eq_of_mem ofVersion]
        exact .inr ⟨_, .version derived listed⟩
      · have symbol : '\n' ∉ name :=
          (oneLine_of_derived oneLine derived).1 name (.item listed (.item List.mem_cons_self .self))
        have front : '\n' ∉ "Package ".toList := by decide +kernel
        have back : '\n' ∉ " is unknown in the current package list.".toList := by decide +kernel
        have printed : '\n' ∉ Expr.printSymbol name := by
          rw [← List.count_eq_zero, Expr.printSymbol, Expr.count_escape, List.count_eq_zero]
          exact symbol
        rw [nameReport.eq_of_mem ofName]
        exact .inl (List.not_mem_append (List.not_mem_append front printed) back)

theorem HeaderReport.oneLine_or_quotes (report : HeaderReport catalogue text messages)
    (oneLine : '\n' ∉ text) (member : message ∈ messages) :
    '\n' ∉ message ∨ ∃ value, Quotes text message value := by
  cases report with
  | unreadable failed =>
      rw [List.mem_singleton.mp member]
      exact .inl (List.not_mem_append (by decide +kernel) (newline_not_mem_read failed))
  | notAList derived other =>
      rw [List.mem_singleton.mp member]
      exact .inr ⟨_, .notAList derived other⟩
  | list derived restReport itemReports =>
      rcases List.mem_append.mp member with ofRest | ofItems
      · rw [restReport.eq_of_mem ofRest]
        exact .inl (by decide +kernel)
      · rw [← itemReports_iff_problems.mp itemReports, ← List.flatMap_def, List.mem_flatMap]
          at ofItems
        obtain ⟨item, listed, inside⟩ := ofItems
        exact (itemReport_iff_problems.mpr rfl).oneLine_or_quotes oneLine derived listed inside

end Messages

theorem newline_not_mem_extract {document : Text} {error : MetadataError}
    (failed : Metadata.extract document = .error error) : '\n' ∉ error.message := by
  have extracts := Metadata.extracts_extract document
  rw [failed] at extracts
  cases extracts with
  | missingFileHeader => decide +kernel
  | missingTerminator =>
      change '\n' ∉ "Package lacks a terminating comment".toList
      decide +kernel
  | missingVersion => decide +kernel

/-- A message of a check has no newline, or it quotes a value of the header line. -/
theorem oneLine_or_quotes {catalogue : Catalogue} {document : Text} {diagnostic : Diagnostic}
    (member : diagnostic ∈ checkDocument Metadata.extract catalogue document) :
    '\n' ∉ diagnostic.message ∨ ∃ number text value, Header.First document number text ∧
      '\n' ∉ text ∧ Quotes text diagnostic.message value := by
  rcases mem_checkDocument member with
    ⟨number, text, messages, message, first, report, listed, rfl⟩ | ⟨error, failed, rfl⟩
  · have oneLine := Header.oneLine_of_locate? (Header.locate?_eq_some_iff.mpr first)
    refine (report.oneLine_or_quotes oneLine listed).imp id fun quotes => ?_
    obtain ⟨value, quotes⟩ := quotes
    exact ⟨number, text, value, first, oneLine, quotes⟩
  · exact .inl (List.not_mem_append (by decide +kernel) (newline_not_mem_extract failed))

/-! ## The output -/

theorem Severity.newline_not_mem_label (severity : Severity) : '\n' ∉ severity.label := by
  cases severity <;> decide +kernel

theorem Finding.count_toText {finding : Finding} (oneLine : '\n' ∉ finding.path) :
    finding.toText.count '\n' = finding.diagnostic.message.count '\n' := by
  have path := List.count_eq_zero.mpr oneLine
  have line := List.count_eq_zero.mpr (newline_not_mem_ofNat finding.diagnostic.line)
  have column := List.count_eq_zero.mpr (newline_not_mem_ofNat finding.diagnostic.column)
  have label := List.count_eq_zero.mpr finding.diagnostic.severity.newline_not_mem_label
  rw [toText]
  simp [path, line, column, label]

theorem Format.count_render_text {findings : List Finding}
    (oneLine : ∀ finding ∈ findings, '\n' ∉ finding.path) :
    (Format.text.render findings).count '\n' =
      findings.length +
        (findings.map fun finding => finding.diagnostic.message.count '\n').sum := by
  rw [render]
  induction findings with
  | nil => rfl
  | cons finding findings ih =>
      rw [List.forall_mem_cons] at oneLine
      have first := Finding.count_toText oneLine.1
      have later := ih oneLine.2
      rw [List.flatMap_cons, List.count_append, List.count_append, first, later,
        List.count_singleton_self, List.length_cons, List.map_cons, List.sum_cons]
      omega

theorem Reported.of_mem {files : FileSystem} {catalogue : Catalogue} {paths : List Text}
    {findings : List Finding} {finding : Finding}
    (reported : Reported files catalogue paths findings) (member : finding ∈ findings) :
    finding.path ∈ paths ∧ ∃ content, files.Holds finding.path content ∧
      finding.diagnostic ∈ checkDocument Metadata.extract catalogue content := by
  induction reported with
  | nil => contradiction
  | @cons path content paths findings holds later ih =>
      rcases List.mem_append.mp member with here | member
      · obtain ⟨diagnostic, listed, rfl⟩ := List.mem_map.mp here
        exact ⟨List.mem_cons_self, content, holds, listed⟩
      · obtain ⟨inside, found⟩ := ih member
        exact ⟨List.mem_cons_of_mem path inside, found⟩

theorem readFiles_of_readable {files : FileSystem} {paths : List Text}
    (readable : ∀ path ∈ paths, ∃ content, files.Holds path content) :
    ∃ contents, readFiles files paths = .ok contents := by
  cases finished : readFiles files paths with
  | ok contents => exact ⟨contents, rfl⟩
  | error path =>
      obtain ⟨before, after, split, -, unreadable⟩ := readFiles_error finished
      obtain ⟨content, holds⟩ := readable path (by simp [split])
      exact absurd holds (unreadable content)

/-- The message quotes a value of the header of its file, as many newlines as the
message has are in the strings of the value, and the header writes each string with a
newline as a literal with an escape. -/
def Finding.QuotesNewlines (files : FileSystem) (finding : Finding) : Prop :=
  ∃ content number text value, files.Holds finding.path content ∧
    Header.First content number text ∧ Quotes text finding.diagnostic.message value ∧
    finding.diagnostic.message.count '\n' = value.strings.flatten.count '\n' ∧
    (∃ contents ∈ value.strings, '\n' ∈ contents) ∧
    ∀ contents ∈ value.strings, '\n' ∈ contents →
      ∃ lexeme ∈ (scan text).lexemes, lexeme.token = .string contents ∧
        "\\n".toList <:+: lexeme.slice

theorem Reported.quotesNewlines {files : FileSystem} {catalogue : Catalogue} {paths : List Text}
    {findings : List Finding} {finding : Finding}
    (reported : Reported files catalogue paths findings) (member : finding ∈ findings)
    (newline : '\n' ∈ finding.diagnostic.message) : finding.QuotesNewlines files := by
  obtain ⟨-, content, holds, listed⟩ := reported.of_mem member
  obtain ⟨number, text, value, first, oneLine, quotes⟩ :=
    (oneLine_or_quotes listed).resolve_left (not_not_intro newline)
  exact ⟨content, number, text, value, holds, first, quotes, quotes.count_message oneLine,
    quotes.exists_string oneLine newline, fun contents => quotes.exists_escape oneLine⟩

theorem Finding.QuotesNewlines.exists_header {files : FileSystem} {finding : Finding}
    (quotes : finding.QuotesNewlines files) :
    ∃ content number text, files.Holds finding.path content ∧ Header.First content number text ∧
      "\\n".toList <:+: text := by
  obtain ⟨content, number, text, value, holds, first, -, -, ⟨contents, member, newline⟩, escaped⟩ :=
    quotes
  obtain ⟨lexeme, scanned, -, escape⟩ := escaped contents member newline
  exact ⟨content, number, text, holds, first, escape.trans (slice_infix_of_mem_scan scanned)⟩

namespace CheckRequest

/-- Each finding takes one line and one more for each newline in a string that its
message quotes, which the header line writes as an escape. -/
theorem lines_of_text_output {paths : List Text} (files : FileSystem) (sources : Sources)
    (readable : ∀ path ∈ paths, ∃ content, files.Holds path content)
    (oneLine : ∀ path ∈ paths, '\n' ∉ path) :
    ∃ findings, Reported files (Shelf.load files sources).catalogue paths findings ∧
      (runWith files sources paths .text).output.count '\n' =
        findings.length +
          (findings.map fun finding => finding.diagnostic.message.count '\n').sum ∧
      (∀ finding ∈ findings, '\n' ∈ finding.diagnostic.message → finding.QuotesNewlines files) ∧
      ((∀ path ∈ paths, ∀ content number text, files.Holds path content →
          Header.First content number text → ¬ "\\n".toList <:+: text) →
        (runWith files sources paths .text).output.count '\n' = findings.length) := by
  obtain ⟨contents, finished⟩ := readFiles_of_readable readable
  have reported := reported_findingsOf (Shelf.load files sources).catalogue finished
  rw [runWith_of_ok sources finished]
  generalize findingsOf (Shelf.load files sources).catalogue contents = findings at reported
  have counted := @Format.count_render_text findings fun finding member =>
    oneLine finding.path (reported.of_mem member).1
  have quoted : ∀ finding ∈ findings, '\n' ∈ finding.diagnostic.message →
      finding.QuotesNewlines files := fun finding member => reported.quotesNewlines member
  refine ⟨findings, reported, counted, quoted, ?_⟩
  intro plain
  have none : ∀ size ∈ findings.map fun finding => finding.diagnostic.message.count '\n',
      size = 0 := by
    intro size listed
    obtain ⟨finding, member, rfl⟩ := List.mem_map.mp listed
    rw [List.count_eq_zero]
    intro newline
    obtain ⟨content, number, text, holds, first, escape⟩ :=
      (quoted finding member newline).exists_header
    exact plain finding.path (reported.of_mem member).1 content number text holds first escape
  rw [counted, List.sum_eq_zero_iff_forall_eq_nat.mpr none, Nat.add_zero]

/-! A version of two lines. -/

def brokenVersion : String := ";; Package-Requires: ((emacs \"1\\nx\"))\n"

def brokenPackage : FileSystem := ⟨[(["a.el".toList], .file brokenVersion.toUTF8)], []⟩

theorem holds_brokenPackage : brokenPackage.Holds "a.el".toList brokenVersion.toList :=
  FileSystem.read_eq_ok_iff.mp (by decide +kernel)

theorem lines_of_text_output_brokenPackage :
    (∀ path ∈ ["a.el".toList], ∃ content, brokenPackage.Holds path content) ∧
      (∀ path ∈ ["a.el".toList], '\n' ∉ path) ∧
      ∃ findings,
        Reported brokenPackage (Shelf.load brokenPackage ⟨[], []⟩).catalogue ["a.el".toList]
          findings ∧
        (runWith brokenPackage ⟨[], []⟩ ["a.el".toList] .text).output.count '\n' =
          findings.length +
            (findings.map fun finding => finding.diagnostic.message.count '\n').sum ∧
        ∀ finding ∈ findings, '\n' ∈ finding.diagnostic.message →
          finding.QuotesNewlines brokenPackage := by
  have readable : ∀ path ∈ ["a.el".toList], ∃ content, brokenPackage.Holds path content :=
    List.forall_mem_singleton.mpr ⟨brokenVersion.toList, holds_brokenPackage⟩
  have oneLine : ∀ path ∈ ["a.el".toList], '\n' ∉ path := by decide +kernel
  obtain ⟨findings, reported, counted, quoted, -⟩ :=
    lines_of_text_output brokenPackage ⟨[], []⟩ readable oneLine
  exact ⟨readable, oneLine, findings, reported, counted, quoted⟩

def brokenDiagnostics : List Diagnostic :=
  [⟨1, 0, .error, Expr.printString "1\nx".toList ++ " is not a valid version string".toList⟩,
    ⟨0, 0, .warning,
      "package metadata cannot be parsed: ".toList ++ MetadataError.missingFileHeader.message⟩]

theorem checkDocument_brokenVersion (catalogue : Catalogue) :
    checkDocument Metadata.extract catalogue brokenVersion.toList = brokenDiagnostics := by
  have first : Header.First brokenVersion.toList 1 "((emacs \"1\\nx\"))".toList :=
    Header.locate?_eq_some_iff.mp (by decide +kernel)
  have lexed : Lexed "((emacs \"1\\nx\"))".toList
      [⟨[], ['('], .openParen⟩, ⟨[], ['('], .openParen⟩,
        ⟨[], "emacs".toList, .symbol "emacs".toList⟩,
        ⟨[' '], "\"1\\nx\"".toList, .string "1\nx".toList⟩,
        ⟨[], [')'], .closeParen⟩, ⟨[], [')'], .closeParen⟩] [] :=
    .cons rfl (.cons rfl (.cons rfl (.cons rfl (.cons rfl (.cons rfl (.nil _))))))
  have derived : Derived "((emacs \"1\\nx\"))".toList
      (.list [.list [.symbol "emacs".toList, .string "1\nx".toList]]) [] :=
    ⟨.list [.list [.symbol "emacs".toList, .string "1\nx".toList]], ⟨_, lexed, rfl⟩, rfl,
      by decide⟩
  have invalid : ¬ Version.Grammatical "1\nx".toList := by
    rw [← Version.isValid_iff]
    decide +kernel
  have item : ItemReport catalogue (.list [.symbol "emacs".toList, .string "1\nx".toList])
      [Expr.printString "1\nx".toList ++ " is not a valid version string".toList] :=
    .declaration (.broken invalid) (.met (.inl rfl))
  have header : HeaderDiagnosed catalogue brokenVersion.toList
      [⟨1, 0, .error, Expr.printString "1\nx".toList ++ " is not a valid version string".toList⟩] :=
    .present first (.list derived (.met nofun) (.cons item .nil))
  have noFileHeader : Metadata.extract brokenVersion.toList = .error .missingFileHeader := by
    decide +kernel
  have metadata : MetadataDiagnosed Metadata.extract brokenVersion.toList
      [⟨0, 0, .warning,
        "package metadata cannot be parsed: ".toList ++ MetadataError.missingFileHeader.message⟩] :=
    .refused noFileHeader
  rw [checkDocument, headerDiagnosed_iff_check.mp header, metadataDiagnosed_iff_check.mp metadata]
  rfl

/-- Two findings can take three lines. -/
theorem three_lines_brokenPackage :
    brokenPackage.Holds "a.el".toList brokenVersion.toList ∧ '\n' ∉ "a.el".toList ∧
      ∃ findings,
        Reported brokenPackage (Shelf.load brokenPackage ⟨[], []⟩).catalogue ["a.el".toList]
          findings ∧
        findings.length = 2 ∧
        (runWith brokenPackage ⟨[], []⟩ ["a.el".toList] .text).output.count '\n' = 3 := by
  have finished := readFiles_singleton holds_brokenPackage
  have found : findingsOf (Shelf.load brokenPackage ⟨[], []⟩).catalogue
      [("a.el".toList, brokenVersion.toList)] =
      brokenDiagnostics.map (Finding.mk "a.el".toList) := by
    simp only [findingsOf, CheckerRegistry.run_standard, checkDocument_brokenVersion,
      List.flatMap_singleton]
  have reported := reported_findingsOf (Shelf.load brokenPackage ⟨[], []⟩).catalogue finished
  have output : (runWith brokenPackage ⟨[], []⟩ ["a.el".toList] .text).output =
      Format.text.render (findingsOf (Shelf.load brokenPackage ⟨[], []⟩).catalogue
        [("a.el".toList, brokenVersion.toList)]) := by
    rw [runWith_of_ok _ finished]
  rw [found] at reported output
  refine ⟨holds_brokenPackage, by decide, _, reported, rfl, ?_⟩
  rw [output]
  decide +kernel

end CheckRequest

end PackageRequires
