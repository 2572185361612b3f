import Mathlib.Data.List.Forall2
import Mathlib.Tactic.MkIffOfInductiveProp
import PackageRequires.Check
import PackageRequires.Proofs.Catalogue
import PackageRequires.Proofs.Header
import PackageRequires.Proofs.Lisp.Grammar
import PackageRequires.Proofs.Version

namespace PackageRequires

open Lisp

/-! # What a check reports

The rules below say which messages belong to an item, to a header's text and to a
document.  They name no function of the checker, and the checker gives exactly
the list that they derive.
-/

/-- The packages that a declaration may name: the host and those of the catalogue. -/
def Catalogue.Offers (catalogue : Catalogue) (name : Text) : Prop :=
  name = "emacs".toList ∨ ∃ package, (name, package) ∈ catalogue.entries

theorem isAvailable_iff {catalogue : Catalogue} {name : Text} :
    isAvailable catalogue name = true ↔ catalogue.Offers name := by
  simp [isAvailable, hostPackage, Catalogue.Offers, Catalogue.contains_iff]

/-- No message if a condition is met, and this one if it is not. -/
@[mk_iff]
inductive Unless (condition : Prop) (message : Text) : List Text → Prop
  | met (holds : condition) : Unless condition message []
  | broken (fails : ¬ condition) : Unless condition message [message]

theorem unless_iff_ite {condition : Prop} {decided : Bool} {message : Text} {messages : List Text}
    (decides : decided = true ↔ condition) :
    Unless condition message messages ↔ (if decided then [] else [message]) = messages := by
  cases decided with
  | true => simp [unless_iff, ← decides, eq_comm]
  | false => simp [unless_iff, ← decides, eq_comm]

/-- An item should be `(name "version")`.  One of another shape is reported as a
whole, and otherwise its version is looked at first and then its name. -/
@[mk_iff]
inductive ItemReport (catalogue : Catalogue) : Expr → List Text → Prop
  | misshapen {item : Expr}
      (other : ∀ name version, item ≠ .list [.symbol name, .string version]) :
      ItemReport catalogue item
        ["Expected (package-name \"version-num\"), but found ".toList ++ item.print]
  | declaration {name version : Text} {ofVersion ofName : List Text}
      (versionReport : Unless (Version.Grammatical version)
        (Expr.printString version ++ " is not a valid version string".toList) ofVersion)
      (nameReport : Unless (catalogue.Offers name)
        ("Package ".toList ++ Expr.printSymbol name ++
          " is unknown in the current package list.".toList) ofName) :
      ItemReport catalogue (.list [.symbol name, .string version]) (ofVersion ++ ofName)

/-- A header's text should be one list.  If it is not, that is all there is to
report; otherwise text behind the list comes first and then the items in order. -/
@[mk_iff]
inductive HeaderReport (catalogue : Catalogue) (text : Text) : List Text → Prop
  | unreadable {failure : ReadFailure} (failed : read text = .error failure) :
      HeaderReport catalogue text
        ["Couldn't parse dependency header: ".toList ++ failure.error.message]
  | notAList {value : Expr} {rest : Text} (derived : Derived text value rest)
      (other : ∀ items, value ≠ .list items) :
      HeaderReport catalogue text
        ["Couldn't parse dependency header: ".toList ++
          ("Expected a list of dependencies, but found ".toList ++ value.print)]
  | list {items : List Expr} {rest : Text} {ofRest : List Text} {ofItems : List (List Text)}
      (derived : Derived text (.list items) rest)
      (restReport : Unless (∀ c ∈ rest, Text.isBlank c = true)
        "more than one expression provided".toList ofRest)
      (itemReports : List.Forall₂ (ItemReport catalogue) items ofItems) :
      HeaderReport catalogue text (ofRest ++ ofItems.flatten)

/-- Every message about the header is an error at the beginning of its line. -/
@[mk_iff]
inductive HeaderDiagnosed (catalogue : Catalogue) (document : Text) : List Diagnostic → Prop
  | absent (none : ∀ line ∈ document.lines, ∀ text, ¬ Header.Matches line text) :
      HeaderDiagnosed catalogue document []
  | present {number : Nat} {text : Text} {messages : List Text}
      (first : Header.First document number text)
      (report : HeaderReport catalogue text messages) :
      HeaderDiagnosed catalogue document
        (messages.map fun message => ⟨number, 0, .error, message⟩)

/-- Metadata that cannot be extracted are worth one warning for the whole document. -/
inductive MetadataDiagnosed (extract : Extractor) (document : Text) : List Diagnostic → Prop
  | extracted {metadata : Metadata} (found : extract document = .ok metadata) :
      MetadataDiagnosed extract document []
  | refused {error : MetadataError} (failed : extract document = .error error) :
      MetadataDiagnosed extract document
        [⟨0, 0, .warning, "package metadata cannot be parsed: ".toList ++ error.message⟩]

/-! Each rule agrees with the checker where it applies, and some rule always does. -/

theorem itemProblems_of_misshapen {catalogue : Catalogue} {item : Expr}
    (other : ∀ name version, item ≠ .list [.symbol name, .string version]) :
    itemProblems catalogue item = [.misshapen item] := by
  have shapeless : Declaration.ofExpr? item = none := by
    rw [Option.eq_none_iff_forall_ne_some]
    intro declaration shaped
    exact other _ _ (Declaration.ofExpr?_eq_some_iff.mp shaped)
  simp only [itemProblems, shapeless]

theorem message_itemProblems {catalogue : Catalogue} {name version : Text} :
    (itemProblems catalogue (.list [.symbol name, .string version])).map Problem.message =
      (if Version.isValid version then [] else [(Problem.invalidVersion version).message]) ++
        if isAvailable catalogue name then [] else [(Problem.unknownPackage name).message] := by
  simp only [itemProblems, Declaration.ofExpr?, Declaration.problems, List.map_append]
  rw [apply_ite (List.map Problem.message), apply_ite (List.map Problem.message)]
  rfl

theorem itemReport_iff_problems {catalogue : Catalogue} {item : Expr} {messages : List Text} :
    ItemReport catalogue item messages ↔
      (itemProblems catalogue item).map Problem.message = messages := by
  constructor
  · intro report
    cases report with
    | misshapen other =>
        rw [itemProblems_of_misshapen other]
        rfl
    | declaration versionReport nameReport =>
        rw [message_itemProblems, ← (unless_iff_ite Version.isValid_iff).mp versionReport,
          ← (unless_iff_ite isAvailable_iff).mp nameReport]
        rfl
  · rintro rfl
    cases shaped : Declaration.ofExpr? item with
    | none =>
        have other : ∀ name version, item ≠ .list [.symbol name, .string version] := by
          rintro name version rfl
          cases shaped
        rw [itemProblems_of_misshapen other]
        exact .misshapen other
    | some declaration =>
        rw [Declaration.ofExpr?_eq_some_iff.mp shaped, Declaration.toExpr, message_itemProblems]
        exact .declaration ((unless_iff_ite Version.isValid_iff).mpr rfl)
          ((unless_iff_ite isAvailable_iff).mpr rfl)

theorem itemReports_iff_problems {catalogue : Catalogue} {items : List Expr}
    {messages : List (List Text)} :
    List.Forall₂ (ItemReport catalogue) items messages ↔
      items.map (fun item => (itemProblems catalogue item).map Problem.message) = messages := by
  have reported : ItemReport catalogue =
      fun item messages => (itemProblems catalogue item).map Problem.message = messages :=
    funext₂ fun item messages => propext itemReport_iff_problems
  rw [reported, ← List.forall₂_map_left_iff, List.forall₂_eq_eq_eq]

theorem Header.problems_of_error {catalogue : Catalogue} {text : Text} {failure : ReadFailure}
    (failed : read text = .error failure) :
    problems catalogue text = [.unreadable (.unreadable failure.error)] := by
  simp only [problems, Declarations.read, failed]

theorem Header.problems_of_not_list {catalogue : Catalogue} {text rest : Text} {value : Expr}
    (finished : read text = .ok (value, rest)) (other : ∀ items, value ≠ .list items) :
    problems catalogue text = [.unreadable (.notAList value)] := by
  cases value with
  | list items => exact absurd rfl (other items)
  | symbol name => simp only [problems, Declarations.read, finished]
  | string content => simp only [problems, Declarations.read, finished]
  | number literal => simp only [problems, Declarations.read, finished]

theorem Header.message_problems {catalogue : Catalogue} {text rest : Text} {items : List Expr}
    (finished : read text = .ok (.list items, rest)) :
    (problems catalogue text).map Problem.message =
      (if rest.allBlank then [] else [Problem.moreThanOneExpression.message]) ++
        (items.map fun item => (itemProblems catalogue item).map Problem.message).flatten := by
  simp only [problems, Declarations.read, finished, Declarations.problems, List.map_append,
    List.map_flatMap, ← List.flatMap_def]
  cases rest.allBlank <;> rfl

theorem allBlank_iff {text : Text} : text.allBlank = true ↔ ∀ c ∈ text, Text.isBlank c = true :=
  List.all_eq_true

theorem headerReport_iff_problems {catalogue : Catalogue} {text : Text} {messages : List Text} :
    HeaderReport catalogue text messages ↔
      (Header.problems catalogue text).map Problem.message = messages := by
  constructor
  · intro report
    cases report with
    | unreadable failed =>
        rw [Header.problems_of_error failed]
        rfl
    | notAList derived other =>
        rw [Header.problems_of_not_list (read_eq_ok_iff.mpr derived) other]
        rfl
    | list derived restReport itemReports =>
        rw [Header.message_problems (read_eq_ok_iff.mpr derived),
          ← (unless_iff_ite allBlank_iff).mp restReport, itemReports_iff_problems.mp itemReports]
        rfl
  · rintro rfl
    cases finished : read text with
    | error failure =>
        rw [Header.problems_of_error finished]
        exact .unreadable finished
    | ok result =>
        obtain ⟨value, rest⟩ := result
        have derived := read_eq_ok_iff.mp finished
        rcases exists_or_forall_not (fun items => value = .list items) with ⟨items, rfl⟩ | other
        · rw [Header.message_problems finished]
          exact .list derived ((unless_iff_ite allBlank_iff).mpr rfl)
            (itemReports_iff_problems.mpr rfl)
        · rw [Header.problems_of_not_list finished other]
          exact .notAList derived other

theorem headerDiagnosed_iff_check {catalogue : Catalogue} {document : Text}
    {diagnostics : List Diagnostic} :
    HeaderDiagnosed catalogue document diagnostics ↔
      checkHeader catalogue document = diagnostics := by
  constructor
  · intro diagnosed
    cases diagnosed with
    | absent none => simp only [checkHeader, Header.locate?_eq_none_iff.mpr none]
    | present first report =>
        rw [← headerReport_iff_problems.mp report, List.map_map]
        simp only [checkHeader, Header.locate?_eq_some_iff.mpr first, Header.check]
        rfl
  · rintro rfl
    cases located : Header.locate? document with
    | none =>
        simp only [checkHeader, located]
        exact .absent (Header.locate?_eq_none_iff.mp located)
    | some header =>
        have split : checkHeader catalogue document =
            ((Header.problems catalogue header.text).map Problem.message).map
              fun message => ⟨header.line, 0, .error, message⟩ := by
          simp only [checkHeader, located, Header.check, List.map_map]
          rfl
        rw [split]
        exact .present (Header.locate?_eq_some_iff.mp located) (headerReport_iff_problems.mpr rfl)

theorem metadataDiagnosed_iff_check {extract : Extractor} {document : Text}
    {diagnostics : List Diagnostic} :
    MetadataDiagnosed extract document diagnostics ↔
      checkMetadata extract document = diagnostics := by
  constructor
  · intro diagnosed
    cases diagnosed with
    | extracted found => simp only [checkMetadata, found]
    | refused failed =>
        simp only [checkMetadata, failed]
        rfl
  · rintro rfl
    cases extracted : extract document with
    | ok metadata =>
        simp only [checkMetadata, extracted]
        exact .extracted extracted
    | error error =>
        simp only [checkMetadata, extracted]
        exact .refused extracted

/-- Every diagnostic is an error at the header or a warning about the document. -/
theorem mem_checkDocument {extract : Extractor} {catalogue : Catalogue} {document : Text}
    {diagnostic : Diagnostic} (member : diagnostic ∈ checkDocument extract catalogue document) :
    (∃ number text messages message, Header.First document number text ∧
      HeaderReport catalogue text messages ∧ message ∈ messages ∧
      diagnostic = ⟨number, 0, .error, message⟩) ∨
    ∃ error, extract document = .error error ∧
      diagnostic = ⟨0, 0, .warning, "package metadata cannot be parsed: ".toList ++ error.message⟩ := by
  rcases List.mem_append.mp member with ofHeader | ofMetadata
  · have diagnosed : HeaderDiagnosed catalogue document (checkHeader catalogue document) :=
      headerDiagnosed_iff_check.mpr rfl
    generalize checkHeader catalogue document = diagnostics at diagnosed ofHeader
    cases diagnosed with
    | absent => contradiction
    | @present number text messages first report =>
        obtain ⟨message, listed, same⟩ := List.mem_map.mp ofHeader
        exact .inl ⟨number, text, messages, message, first, report, listed, same.symm⟩
  · have diagnosed : MetadataDiagnosed extract document (checkMetadata extract document) :=
      metadataDiagnosed_iff_check.mpr rfl
    generalize checkMetadata extract document = diagnostics at diagnosed ofMetadata
    cases diagnosed with
    | extracted => contradiction
    | @refused error failed => exact .inr ⟨error, failed, List.mem_singleton.mp ofMetadata⟩

theorem unless_nil_iff {condition : Prop} {message : Text} :
    Unless condition message [] ↔ condition := by
  simp [unless_iff]

theorem itemReport_nil_iff {catalogue : Catalogue} {item : Expr} :
    ItemReport catalogue item [] ↔
      ∃ name version, item = .list [.symbol name, .string version] ∧
        Version.Grammatical version ∧ catalogue.Offers name := by
  constructor
  · intro report
    rcases (itemReport_iff _ _ _).mp report with ⟨-, impossible⟩ |
      ⟨name, version, ofVersion, ofName, versionReport, nameReport, shape, empty⟩
    · cases impossible
    · obtain ⟨rfl, rfl⟩ := List.append_eq_nil_iff.mp empty.symm
      exact ⟨name, version, shape, unless_nil_iff.mp versionReport, unless_nil_iff.mp nameReport⟩
  · rintro ⟨name, version, rfl, grammatical, offered⟩
    exact .declaration (.met grammatical) (.met offered)

theorem headerReport_nil_iff {catalogue : Catalogue} {text : Text} :
    HeaderReport catalogue text [] ↔
      ∃ items rest, Derived text (.list items) rest ∧ (∀ c ∈ rest, Text.isBlank c = true) ∧
        ∀ item ∈ items, ItemReport catalogue item [] := by
  constructor
  · intro report
    rcases (headerReport_iff _ _ _).mp report with ⟨_, -, impossible⟩ | ⟨_, _, -, -, impossible⟩ |
      ⟨items, rest, ofRest, ofItems, derived, restReport, itemReports, empty⟩
    · cases impossible
    · cases impossible
    · obtain ⟨rfl, silent⟩ := List.append_eq_nil_iff.mp empty.symm
      refine ⟨items, rest, derived, unless_nil_iff.mp restReport, fun item member => ?_⟩
      rw [← itemReports_iff_problems.mp itemReports, List.flatten_eq_nil_iff] at silent
      exact itemReport_iff_problems.mpr (silent _ (List.mem_map_of_mem member))
  · rintro ⟨items, rest, derived, blank, silent⟩
    have quiet : List.Forall₂ (ItemReport catalogue) items (items.map fun _ => []) :=
      List.forall₂_map_right_iff.mpr (List.forall₂_same.mpr silent)
    have report := HeaderReport.list derived (.met blank) quiet
    simpa using report

theorem headerDiagnosed_nil_iff {catalogue : Catalogue} {document : Text} :
    HeaderDiagnosed catalogue document [] ↔
      (∀ line ∈ document.lines, ∀ text, ¬ Header.Matches line text) ∨
        ∃ number text, Header.First document number text ∧ HeaderReport catalogue text [] := by
  rw [headerDiagnosed_iff]
  constructor
  · rintro (⟨none, -⟩ | ⟨number, text, messages, first, report, empty⟩)
    · exact .inl none
    · obtain rfl := List.map_eq_nil_iff.mp empty.symm
      exact .inr ⟨number, text, first, report⟩
  · rintro (none | ⟨number, text, first, report⟩)
    · exact .inl ⟨none, rfl⟩
    · exact .inr ⟨number, text, [], first, report, rfl⟩

theorem HeaderDiagnosed.hasErrors_eq_false_iff {catalogue : Catalogue} {document : Text}
    {diagnostics : List Diagnostic} (diagnosed : HeaderDiagnosed catalogue document diagnostics) :
    Diagnostic.hasErrors diagnostics = false ↔ diagnostics = [] := by
  cases diagnosed with
  | absent none => simp [Diagnostic.hasErrors]
  | present first report =>
      rw [Diagnostic.hasErrors, List.any_eq_false, List.map_eq_nil_iff,
        List.eq_nil_iff_forall_not_mem]
      simp [Diagnostic.isError]

theorem MetadataDiagnosed.hasErrors_eq_false {extract : Extractor} {document : Text}
    {diagnostics : List Diagnostic} (diagnosed : MetadataDiagnosed extract document diagnostics) :
    Diagnostic.hasErrors diagnostics = false := by
  cases diagnosed <;> rfl

theorem hasErrors_checkDocument {extract : Extractor} {catalogue : Catalogue} {document : Text} :
    Diagnostic.hasErrors (checkDocument extract catalogue document) = false ↔
      HeaderDiagnosed catalogue document [] := by
  have ofHeader : HeaderDiagnosed catalogue document (checkHeader catalogue document) :=
    headerDiagnosed_iff_check.mpr rfl
  have ofMetadata : MetadataDiagnosed extract document (checkMetadata extract document) :=
    metadataDiagnosed_iff_check.mpr rfl
  have both : Diagnostic.hasErrors (checkDocument extract catalogue document) =
      (Diagnostic.hasErrors (checkHeader catalogue document) ||
        Diagnostic.hasErrors (checkMetadata extract document)) := List.any_append
  rw [both, ofMetadata.hasErrors_eq_false, Bool.or_false, ofHeader.hasErrors_eq_false_iff,
    headerDiagnosed_iff_check]

/-- A document is free of errors exactly if it has no header, or its header is one
list of declarations with versions of the grammar and names on offer.  All its
diagnostics are those of the rules. -/
theorem checkDocument_exact (extract : Extractor) (catalogue : Catalogue) (document : Text) :
    (Diagnostic.hasErrors (checkDocument extract catalogue document) = false ↔
      (∀ line ∈ document.lines, ∀ text, ¬ Header.Matches line text) ∨
        ∃ number text items rest, Header.First document number text ∧
          Derived text (.list items) rest ∧ (∀ c ∈ rest, Text.isBlank c = true) ∧
          ∀ item ∈ items, ∃ name version, item = .list [.symbol name, .string version] ∧
            Version.Grammatical version ∧ catalogue.Offers name) ∧
      ∀ diagnostics, checkDocument extract catalogue document = diagnostics ↔
        ∃ ofHeader ofMetadata, HeaderDiagnosed catalogue document ofHeader ∧
          MetadataDiagnosed extract document ofMetadata ∧
          ofHeader ++ ofMetadata = diagnostics := by
  refine ⟨?_, fun diagnostics => ⟨?_, ?_⟩⟩
  · rw [hasErrors_checkDocument, headerDiagnosed_nil_iff]
    simp only [headerReport_nil_iff, itemReport_nil_iff, exists_and_left]
  · intro checked
    exact ⟨checkHeader catalogue document, checkMetadata extract document,
      headerDiagnosed_iff_check.mpr rfl, metadataDiagnosed_iff_check.mpr rfl, checked⟩
  · rintro ⟨ofHeader, ofMetadata, headerDiagnosed, metadataDiagnosed, rfl⟩
    rw [checkDocument, headerDiagnosed_iff_check.mp headerDiagnosed,
      metadataDiagnosed_iff_check.mp metadataDiagnosed]

end PackageRequires
