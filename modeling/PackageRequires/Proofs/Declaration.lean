import PackageRequires.Proofs.Check
import PackageRequires.Proofs.Lines
import PackageRequires.Proofs.Lisp.Locality
import PackageRequires.Proofs.Lisp.Printing

namespace PackageRequires

open Lisp

/-! # Lists of declarations

Two ways to write a header: to print a list of declarations, and to put the items
of two lists into one.  Either way the items are read as they were meant, and
each of them is checked for itself.
-/

theorem Declarations.read_eq_ok_iff {text : Text} {items : List Expr} {trailing : Bool} :
    Declarations.read text = .ok ⟨items, trailing⟩ ↔
      ∃ rest, Derived text (.list items) rest ∧ trailing = !rest.allBlank := by
  constructor
  · intro finished
    unfold Declarations.read at finished
    split at finished
    · contradiction
    · rename_i found rest readList
      cases finished
      exact ⟨rest, Lisp.read_eq_ok_iff.mp readList, rfl⟩
    · contradiction
  · intro ⟨rest, derived, same⟩
    simp only [Declarations.read, Lisp.read_eq_ok_iff.mpr derived, same]

namespace Lisp

theorem derived_openParen_iff {text rest : Text} {value : Expr} :
    Derived ('(' :: text) value rest ↔
      ∃ derivations, Tokenized text (Derivation.tokensOf derivations ++ [.closeParen]) rest ∧
        .list (Derivation.valuesOf derivations) = value ∧ Derivation.depthOf derivations < 512 := by
  constructor
  · intro ⟨derivation, ⟨lexemes, lexed, tokens⟩, derived, within⟩
    cases lexed with
    | nil => exact absurd tokens.symm derivation.tokens_ne_nil
    | cons found later =>
        cases found
        -- the first token is a parenthesis, so the root of the derivation is a list
        cases derivation with
        | list derivations =>
            simp only [Derivation.tokens, List.map_cons, List.cons_append, List.cons.injEq] at tokens
            exact ⟨derivations, ⟨_, later, tokens.2⟩, derived, within⟩
        | _ => simp [Derivation.tokens] at tokens
  · intro ⟨derivations, tokenized, derived, within⟩
    have whole := (tokenized_openParen text).append tokenized
    exact ⟨.list derivations, whole, derived, within⟩

theorem TokenAt.closeParen_eq {text slice rest : Text} (here : TokenAt text slice .closeParen rest) :
    slice = [')'] ∧ text = ')' :: rest := by
  generalize same : Token.closeParen = token at here
  cases here with
  | closeParen => exact ⟨rfl, rfl⟩
  | @atom _ _ _ _ text => cases numeral : isNumeral text <;> simp [Token.ofAtom, numeral] at same
  | _ => contradiction

end Lisp

theorem eq_of_closing_last {before text rest : Text} (whole : before ++ ')' :: rest = text ++ [')'])
    (blank : rest.allBlank = true) : before = text ∧ rest = [] := by
  rcases List.eq_nil_or_concat rest with rfl | ⟨front, last, rfl⟩
  · exact ⟨List.append_cancel_right whole, rfl⟩
  · have moved : (before ++ ')' :: front) ++ [last] = text ++ [')'] := by simpa using whole
    have final : last = ')' := by simpa using (List.append_inj_right' moved rfl)
    have visible := List.all_eq_true.mp blank last (by simp)
    rw [final] at visible
    contradiction

/-- The tokens between the parentheses of a list behind which nothing stands. -/
theorem exists_tokens_of_read {text : Text} {items : List Expr}
    (finished : Declarations.read ('(' :: text ++ [')']) = .ok ⟨items, false⟩) :
    ∃ derivations lexemes close, Lexed (text ++ [')']) lexemes (close.gap ++ [')']) ∧
      lexemes.map Lexeme.token = Derivation.tokensOf derivations ∧
      front (close.gap ++ [')']) = .lexeme close [] ∧
      Derivation.valuesOf derivations = items ∧ Derivation.depthOf derivations < 512 := by
  obtain ⟨rest, derived, blank⟩ := Declarations.read_eq_ok_iff.mp finished
  rw [List.cons_append, derived_openParen_iff] at derived
  obtain ⟨derivations, ⟨lexemes, lexed, tokens⟩, values, within⟩ := derived
  obtain ⟨inner, last, rfl, ofItems, ofClose⟩ := List.map_eq_append_iff.mp tokens
  obtain ⟨close, rfl, token⟩ := List.map_eq_singleton_iff.mp ofClose
  obtain ⟨middle, before, ended⟩ := lexed.split
  cases ended with
  | cons found after =>
      cases after
      obtain ⟨tail, split, here⟩ := front_eq_lexeme_iff.mp found
      rw [token] at here
      obtain ⟨-, rfl⟩ := here.closeParen_eq
      have gap : close.gap ++ ')' :: rest = middle := by
        simpa [split] using splitGap_append false middle
      have whole := before.text
      rw [← gap, ← List.append_assoc] at whole
      obtain ⟨-, rfl⟩ := eq_of_closing_last whole (by simpa using blank)
      rw [← gap] at before found
      exact ⟨derivations, inner, close, before, ofItems, found, Expr.list.inj values, within⟩

/-- The items of two lists can be written into one list, and are read there as before. -/
theorem Declarations.read_append {first second : Text} {items items' : List Expr}
    (readFirst : Declarations.read ('(' :: first ++ [')']) = .ok ⟨items, false⟩)
    (readSecond : Declarations.read ('(' :: second ++ [')']) = .ok ⟨items', false⟩) :
    Declarations.read ('(' :: first ++ ' ' :: second ++ [')']) = .ok ⟨items ++ items', false⟩ := by
  obtain ⟨derivations, lexemes, close, lexed, tokens, closed, rfl, within⟩ :=
    exists_tokens_of_read readFirst
  obtain ⟨rest, derived, blank⟩ := Declarations.read_eq_ok_iff.mp readSecond
  rw [List.cons_append, derived_openParen_iff] at derived
  obtain ⟨derivations', tokenized, values, within'⟩ := derived
  obtain rfl := Expr.list.inj values
  have spelled : lexemes.flatMap Lexeme.text ++ close.gap = first := by
    have whole := lexed.text
    rw [← List.append_assoc] at whole
    exact List.append_cancel_right whole
  -- what followed the first items was the closing parenthesis, and now is the space
  have before : Lexed (lexemes.flatMap Lexeme.text ++ (close.gap ++ ' ' :: (second ++ [')']))) lexemes
      (close.gap ++ ' ' :: (second ++ [')'])) :=
    lexed.replace fun ended => ended.append fun _ c begins => by cases begins; decide
  have after := (tokenized.behind_blank (c := ' ') rfl (by simp)).after_gap closed (by simp)
  have whole := Tokenized.append ⟨lexemes, before, tokens⟩ after
  refine Declarations.read_eq_ok_iff.mpr ⟨rest, ?_, blank⟩
  rw [← spelled]
  simp only [List.cons_append, List.append_assoc]
  refine derived_openParen_iff.mpr ⟨derivations ++ derivations', ?_, ?_, ?_⟩
  · rw [Derivation.tokensOf_append, List.append_assoc]
    exact whole
  · rw [Derivation.valuesOf_append]
  · rw [Derivation.depthOf_append]
    omega

theorem Header.check_of_read {catalogue : Catalogue} {text : Text} {items : List Expr} {line : Nat}
    (finished : Declarations.read text = .ok ⟨items, false⟩) :
    Header.check catalogue ⟨line, text⟩ =
      (items.flatMap (itemProblems catalogue)).map (Problem.toDiagnostic line) := by
  simp [Header.check, Header.problems, finished, Declarations.problems]

/-- If a text between parentheses reads as a list without more behind it, and
another one does too, then both in one pair of parentheses read as the items of
the two in turn, and are checked with the same diagnostics. -/
theorem read_and_check_joined {first second : Text} {items items' : List Expr}
    (readFirst : Declarations.read ('(' :: first ++ [')']) = .ok ⟨items, false⟩)
    (readSecond : Declarations.read ('(' :: second ++ [')']) = .ok ⟨items', false⟩)
    (line : Nat) (catalogue : Catalogue) :
    Declarations.read ('(' :: first ++ ' ' :: second ++ [')']) = .ok ⟨items ++ items', false⟩ ∧
      Header.check catalogue ⟨line, '(' :: first ++ ' ' :: second ++ [')']⟩ =
        Header.check catalogue ⟨line, '(' :: first ++ [')']⟩ ++
          Header.check catalogue ⟨line, '(' :: second ++ [')']⟩ := by
  have joined := Declarations.read_append readFirst readSecond
  refine ⟨joined, ?_⟩
  rw [Header.check_of_read joined, Header.check_of_read readFirst, Header.check_of_read readSecond,
    List.flatMap_append, List.map_append]

theorem read_and_check_joined_comment :
    Declarations.read "((a \"1\") ; b)\n)".toList =
        .ok ⟨[.list [.symbol "a".toList, .string "1".toList]], false⟩ ∧
      Declarations.read "(c\\))".toList = .ok ⟨[.symbol "c)".toList], false⟩ ∧
      Declarations.read "((a \"1\") ; b)\n c\\))".toList =
        .ok ⟨[.list [.symbol "a".toList, .string "1".toList], .symbol "c)".toList], false⟩ ∧
      Header.check .empty ⟨3, "((a \"1\") ; b)\n c\\))".toList⟩ =
        [Problem.unknownPackage "a".toList, .misshapen (.symbol "c)".toList)].map
          (Problem.toDiagnostic 3) := by
  have first : Declarations.read "((a \"1\") ; b)\n)".toList =
      .ok ⟨[.list [.symbol "a".toList, .string "1".toList]], false⟩ :=
    Declarations.read_eq_ok_iff.mpr ⟨[], ⟨.list [.list [.symbol "a".toList, .string "1".toList]],
      ⟨_, .cons rfl (.cons rfl (.cons rfl (.cons rfl (.cons rfl (.cons rfl (.nil _)))))), rfl⟩,
      rfl, by decide⟩, rfl⟩
  have second : Declarations.read "(c\\))".toList = .ok ⟨[.symbol "c)".toList], false⟩ :=
    Declarations.read_eq_ok_iff.mpr ⟨[], ⟨.list [.symbol "c)".toList],
      ⟨_, .cons rfl (.cons rfl (.cons rfl (.nil _))), rfl⟩, rfl, by decide⟩, rfl⟩
  have joined := @read_and_check_joined "(a \"1\") ; b)\n".toList "c\\)".toList _ _ first second 3 .empty
  refine ⟨first, second, joined.1, joined.2.trans ?_⟩
  have ofFirst : Header.check .empty ⟨3, "((a \"1\") ; b)\n)".toList⟩ = _ := Header.check_of_read first
  have ofSecond : Header.check .empty ⟨3, "(c\\))".toList⟩ = _ := Header.check_of_read second
  exact congrArg₂ (· ++ ·) ofFirst ofSecond

/-! Printed declarations -/

/-- A name that the reader takes for a symbol when it is printed. -/
structure SymbolName (name : Text) : Prop where
  nonempty : name ≠ []
  notNil : name ≠ "nil".toList
  notDot : name ≠ ['.']
  notNumeral : isNumeral name = false
  plain : PlainName name

namespace Declaration

/-- The header line with some declarations. -/
def headerLine (declarations : List Declaration) : Text :=
  ";; Package-Requires: ".toList ++ (Expr.list (declarations.map toExpr)).print

/-- What there is to say against a declaration: that its version does not parse,
and that its name is neither the host's nor in the catalogue. -/
def objections (catalogue : Catalogue) (declaration : Declaration) : List Text :=
  (match Version.parse declaration.version with
    | .ok _ => []
    | .error _ =>
      [Expr.printString declaration.version ++ " is not a valid version string".toList]) ++
  if declaration.name = "emacs".toList ∨ declaration.name ∈ catalogue.names then []
  else ["Package ".toList ++ Expr.printSymbol declaration.name ++
    " is unknown in the current package list.".toList]

theorem lexical_toExpr {declaration : Declaration} (named : SymbolName declaration.name) :
    declaration.toExpr.Lexical := by
  apply Expr.lexical_list
  intro item member
  simp only [List.mem_cons, List.not_mem_nil, or_false] at member
  rcases member with rfl | rfl
  · exact Expr.lexical_symbol named.notNil ⟨named.nonempty, named.notDot, named.notNumeral⟩
  · refine ⟨?_, ?_⟩
    · intro name inside
      cases inside
    · intro literal inside
      cases inside

theorem plain_toExpr {declaration : Declaration} (named : SymbolName declaration.name) :
    declaration.toExpr.Plain := by
  apply Expr.plain_list
  intro item member name inside
  simp only [List.mem_cons, List.not_mem_nil, or_false] at member
  rcases member with rfl | rfl
  · cases inside
    exact named.plain
  · cases inside

theorem nestingOf_toExpr (declarations : List Declaration) :
    Expr.nestingOf (declarations.map toExpr) ≤ 1 := by
  induction declarations with
  | nil => simp [Expr.nestingOf]
  | cons declaration declarations ih =>
      simp only [List.map_cons, Expr.nestingOf, toExpr, Expr.nesting]
      omega

theorem nesting_list_toExpr (declarations : List Declaration) :
    (Expr.list (declarations.map toExpr)).nesting ≤ deepest := by
  have flat := nestingOf_toExpr declarations
  cases declarations with
  | nil => simp [Expr.nesting]
  | cons declaration declarations =>
      simp only [List.map_cons, Expr.nestingOf] at flat
      simp only [List.map_cons, Expr.nesting, deepest]
      omega

/-- Printed declarations are read back, with nothing left behind them. -/
theorem read_print {declarations : List Declaration}
    (named : ∀ declaration ∈ declarations, SymbolName declaration.name) :
    Declarations.read (Expr.list (declarations.map toExpr)).print =
      .ok ⟨declarations.map toExpr, false⟩ := by
  have lexical : (Expr.list (declarations.map toExpr)).Lexical := by
    apply Expr.lexical_list
    intro item member
    obtain ⟨declaration, listed, rfl⟩ := List.mem_map.mp member
    exact lexical_toExpr (named declaration listed)
  have plain : (Expr.list (declarations.map toExpr)).Plain := by
    apply Expr.plain_list
    intro item member
    obtain ⟨declaration, listed, rfl⟩ := List.mem_map.mp member
    exact plain_toExpr (named declaration listed)
  have finished := (read_print_iff lexical (nesting_list_toExpr declarations)).mpr plain
  exact Declarations.read_eq_ok_iff.mpr ⟨[], Lisp.read_eq_ok_iff.mp finished, rfl⟩

theorem getLast?_printRest (items : List Expr) : (Expr.printRest items).getLast? = some ')' := by
  induction items with
  | nil => rfl
  | cons item items ih => rw [Expr.printRest, List.getLast?_append, ih, Option.some_or]

/-- A printed list begins and ends with a parenthesis, or is `nil`. -/
theorem ends_print_list (items : List Expr) :
    ((Expr.list items).print.head? = some '(' ∧ (Expr.list items).print.getLast? = some ')') ∨
      (Expr.list items).print = "nil".toList := by
  cases items with
  | nil => exact .inr rfl
  | cons item items =>
      refine .inl ⟨rfl, ?_⟩
      rw [Expr.print, List.getLast?_append, getLast?_printRest, Option.some_or]

theorem matches_headerLine (declarations : List Declaration) :
    Header.Matches (headerLine declarations) (Expr.list (declarations.map toExpr)).print := by
  refine ⟨⟨1, 0, 1, 0, ?_⟩, ?_⟩
  · unfold headerLine
    rw [List.replicate_zero, List.append_nil]
    rfl
  · rcases ends_print_list (declarations.map toExpr) with ⟨first, last⟩ | same
    · rw [first, last]
      decide
    · rw [same]
      decide

theorem mem_escape {escaped : Char → Bool} {text : Text} {c : Char}
    (member : c ∈ Expr.escape escaped text) : c = '\\' ∨ c ∈ text := by
  obtain ⟨d, inside, member⟩ := List.mem_flatMap.mp member
  split at member
  · simp only [List.mem_cons, List.not_mem_nil, or_false] at member
    rcases member with rfl | rfl
    · exact .inl rfl
    · exact .inr inside
  · rw [List.mem_singleton.mp member]
    exact .inr inside

theorem newline_not_mem_print {declaration : Declaration} (inName : '\n' ∉ declaration.name)
    (inVersion : '\n' ∉ declaration.version) : '\n' ∉ declaration.toExpr.print := by
  have ofName : '\n' ∉ Expr.printSymbol declaration.name := by
    intro member
    rcases mem_escape member with same | member
    · contradiction
    · exact inName member
  have ofVersion : '\n' ∉ Expr.escape Expr.isEscapedInString declaration.version := by
    intro member
    rcases mem_escape member with same | member
    · contradiction
    · exact inVersion member
  simp [toExpr, Expr.print, Expr.printRest, Expr.printString, ofName, ofVersion]

theorem newline_not_mem_printRest {declarations : List Declaration}
    (oneLine : ∀ declaration ∈ declarations,
      '\n' ∉ declaration.name ∧ '\n' ∉ declaration.version) :
    '\n' ∉ Expr.printRest (declarations.map toExpr) := by
  induction declarations with
  | nil => decide
  | cons declaration declarations ih =>
      obtain ⟨inName, inVersion⟩ := oneLine declaration List.mem_cons_self
      have first := newline_not_mem_print inName inVersion
      have later := ih fun other member => oneLine other (List.mem_cons_of_mem declaration member)
      simp [Expr.printRest, first, later]

theorem newline_not_mem_headerLine {declarations : List Declaration}
    (oneLine : ∀ declaration ∈ declarations,
      '\n' ∉ declaration.name ∧ '\n' ∉ declaration.version) :
    '\n' ∉ headerLine declarations := by
  have inFront : '\n' ∉ ";; Package-Requires: ".toList := by decide
  unfold headerLine
  rw [List.mem_append, not_or]
  refine ⟨inFront, ?_⟩
  cases declarations with
  | nil => decide
  | cons declaration declarations =>
      obtain ⟨inName, inVersion⟩ := oneLine declaration List.mem_cons_self
      have first := newline_not_mem_print inName inVersion
      have later := newline_not_mem_printRest fun other member =>
        oneLine other (List.mem_cons_of_mem declaration member)
      simp [Expr.print, first, later]

theorem lines_headerLine {declarations : List Declaration} {front back rest : Text}
    (oneLine : ∀ declaration ∈ declarations,
      '\n' ∉ declaration.name ∧ '\n' ∉ declaration.version)
    (starts : Text.EndsLine front) (ends : Text.LineEnd back rest) :
    (front ++ headerLine declarations ++ back).lines =
      front.lines ++ headerLine declarations :: rest.lines := by
  have nonempty : headerLine declarations ≠ [] :=
    List.append_ne_nil_of_left_ne_nil (by decide) _
  have noReturn : (headerLine declarations).getLast? ≠ some '\r' := by
    unfold headerLine
    rw [List.getLast?_append]
    rcases ends_print_list (declarations.map toExpr) with ⟨-, last⟩ | same
    · rw [last, Option.some_or]
      decide
    · rw [same]
      decide
  rw [List.append_assoc, starts.lines_append,
    ends.lines_append (newline_not_mem_headerLine oneLine) nonempty noReturn]

theorem message_problems (catalogue : Catalogue) (declaration : Declaration) :
    (declaration.problems catalogue).map Problem.message = declaration.objections catalogue := by
  have offered : isAvailable catalogue declaration.name = true ↔
      declaration.name = "emacs".toList ∨ declaration.name ∈ catalogue.names := by
    rw [isAvailable_iff, Catalogue.Offers, Catalogue.mem_names_iff, Catalogue.contains_iff]
  rw [problems, objections, List.map_append]
  congr 1
  · cases parsed : Version.parse declaration.version with
    | ok version => simp [Version.isValid, parsed]
    | error error =>
        simp only [Version.isValid, parsed]
        rfl
  · by_cases available : isAvailable catalogue declaration.name = true
    · rw [if_pos available, if_pos (offered.mp available)]
      rfl
    · rw [if_neg available, if_neg fun known => available (offered.mpr known)]
      rfl

theorem check_print {declarations : List Declaration}
    (named : ∀ declaration ∈ declarations, SymbolName declaration.name)
    (catalogue : Catalogue) (line : Nat) :
    Header.check catalogue ⟨line, (Expr.list (declarations.map toExpr)).print⟩ =
      (declarations.flatMap (objections catalogue)).map
        fun message => ⟨line, 0, .error, message⟩ := by
  have each : (fun declaration : Declaration => itemProblems catalogue declaration.toExpr) =
      problems catalogue := rfl
  have messages : declarations.flatMap (objections catalogue) =
      (declarations.flatMap (problems catalogue)).map Problem.message := by
    simp only [List.map_flatMap, message_problems]
  rw [Header.check_of_read (read_print named), List.flatMap_map, each, messages, List.map_map]
  rfl

/-- Declarations that are printed into the header are checked one by one.  Of each
the version is reported if it does not parse, and the name if it is not on offer,
and nothing else is reported of the header.  The header line is a line of its own
between any two lines, whichever way they end. -/
theorem checkDocument_headerLine {declarations : List Declaration}
    (named : ∀ declaration ∈ declarations, SymbolName declaration.name)
    (oneLine : ∀ declaration ∈ declarations,
      '\n' ∉ declaration.name ∧ '\n' ∉ declaration.version)
    (extract : Extractor) (catalogue : Catalogue) :
    (∀ document before after, document.lines = before ++ headerLine declarations :: after →
      (∀ earlier ∈ before, ∀ text, ¬ Header.Matches earlier text) →
      ∃ ofMetadata, MetadataDiagnosed extract document ofMetadata ∧
        checkDocument extract catalogue document =
          (declarations.flatMap (objections catalogue)).map
            (fun message => ⟨before.length + 1, 0, .error, message⟩) ++ ofMetadata) ∧
      ∀ front back rest, Text.EndsLine front → Text.LineEnd back rest →
        (front ++ headerLine declarations ++ back).lines =
          front.lines ++ headerLine declarations :: rest.lines := by
  constructor
  · intro document before after lines earlier
    have first : Header.First document (before.length + 1)
        (Expr.list (declarations.map toExpr)).print :=
      ⟨before, headerLine declarations, after, lines, rfl, matches_headerLine declarations, earlier⟩
    refine ⟨checkMetadata extract document, metadataDiagnosed_iff_check.mpr rfl, ?_⟩
    simp only [checkDocument, checkHeader, Header.locate?_eq_some_iff.mpr first]
    rw [check_print named]
  · intro front back rest starts ends
    exact lines_headerLine oneLine starts ends

theorem checkDocument_headerLine_escaped :
    SymbolName "a (b".toList ∧
      ∃ ofMetadata, checkDocument Metadata.extract .empty
          (";;; a\r\n".toList ++ headerLine [⟨"a (b".toList, "1\"".toList⟩] ++ "\r\n".toList) =
        [⟨2, 0, .error, "\"1\\\"\" is not a valid version string".toList⟩,
          ⟨2, 0, .error,
            "Package a\\ \\(b is unknown in the current package list.".toList⟩] ++ ofMetadata := by
  have name : SymbolName "a (b".toList :=
    ⟨by decide, by decide, by decide, by decide, by simp [PlainName]⟩
  have result := @checkDocument_headerLine [⟨"a (b".toList, "1\"".toList⟩] (by simpa using name)
    (by decide) Metadata.extract .empty
  have lines := result.2 ";;; a\r\n".toList "\r\n".toList []
    (.inr ⟨";;; a\r".toList, rfl⟩) (.inr (.inr rfl))
  obtain ⟨ofMetadata, -, checked⟩ := result.1 _ _ _ lines (by
    intro earlier member
    rw [List.mem_singleton.mp (show earlier ∈ [";;; a".toList] from member)]
    exact Header.text?_eq_none_iff.mp rfl)
  exact ⟨name, ofMetadata, checked⟩

end Declaration

end PackageRequires
