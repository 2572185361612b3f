import Mathlib.Data.List.Forall2
import PackageRequires.Lisp.Reader
import PackageRequires.Proofs.Lisp.Tiling

namespace PackageRequires.Lisp

/-! # Layout

How the tokens of a text are set apart does not matter.  A token ends at its last
character whatever gap follows (`front_slice`), so the same characters with other
gaps between them are the same tokens, and the reader looks at nothing else.
-/

/-- Slices with a gap in front of each, and `last` behind them. -/
def arrange (last : Text) : (gaps slices : List Text) → Text
  | gap :: gaps, slice :: slices => gap ++ (slice ++ arrange last gaps slices)
  | _, _ => last

/-- The gaps to set a number of tokens apart: one in front of each token and one
at the end.  Only the first and the last may be empty. -/
structure Layout (count : Nat) where
  gaps : List Text
  last : Text
  length_gaps : gaps.length = count
  isGap : ∀ gap ∈ gaps, IsGap false gap
  separates : ∀ gap ∈ gaps.tail, gap ≠ []
  isLast : IsGap true last

/-- The slices of tokens set apart by the gaps of a layout. -/
def Layout.text {count : Nat} (layout : Layout count) (slices : List Text) : Text :=
  arrange layout.last layout.gaps slices

/-- A lexeme with another gap. -/
def Lexeme.behind (gap : Text) (lexeme : Lexeme) : Lexeme := { lexeme with gap }

section Arranging

variable {lexemes : List Lexeme} {gaps : List Text} {last : Text}

theorem delimited_arrange (isGap : ∀ gap ∈ gaps, IsGap false gap) (visible : ∀ gap ∈ gaps, gap ≠ [])
    (isLast : IsGap true last) (slices : List Text) : Delimited (arrange last gaps slices) := by
  cases gaps with
  | nil => exact isLast.delimited
  | cons gap gaps =>
      cases slices with
      | nil => exact isLast.delimited
      | cons slice slices =>
          obtain ⟨c, gap, rfl⟩ := List.exists_cons_of_ne_nil (visible gap List.mem_cons_self)
          exact (isGap _ List.mem_cons_self).delimited

/-- Lexemes that occur anywhere are found again behind other gaps. -/
theorem scan_arrange (occurs : ∀ lexeme ∈ lexemes, ∃ text rest, front text = .lexeme lexeme rest)
    (count : gaps.length = lexemes.length) (isGap : ∀ gap ∈ gaps, IsGap false gap)
    (separates : ∀ gap ∈ gaps.tail, gap ≠ []) (isLast : IsGap true last) :
    scan (arrange last gaps (lexemes.map Lexeme.slice)) =
      ⟨List.zipWith Lexeme.behind gaps lexemes, .finished last⟩ := by
  induction gaps generalizing lexemes with
  | nil =>
      obtain rfl := List.eq_nil_of_length_eq_zero count.symm
      have found : front (last ++ []) = .finished (last ++ []) := isLast.front fun _ => rfl
      rw [List.append_nil] at found
      exact scan_of_finished found
  | cons gap gaps ih =>
      cases lexemes with
      | nil => simp at count
      | cons lexeme lexemes =>
          rw [List.forall_mem_cons] at occurs isGap
          obtain ⟨⟨text, rest, found⟩, occurs⟩ := occurs
          -- the next gap is not empty, so the token ends in front of it
          have delimited := delimited_arrange isGap.2 separates isLast (lexemes.map Lexeme.slice)
          have moved : front (gap ++ (lexeme.slice ++ arrange last gaps (lexemes.map Lexeme.slice))) =
              .lexeme (lexeme.behind gap) (arrange last gaps (lexemes.map Lexeme.slice)) := by
            rw [isGap.1.front nofun, front_slice found fun _ => delimited]
            simp [Front.behind, Lexeme.behind]
          have later := ih occurs (by simpa using count) isGap.2
            (fun gap member => separates gap (List.mem_of_mem_tail member))
          rw [List.map_cons, arrange, scan_of_lexeme moved, later]
          rfl

theorem place_arrange {offset i : Nat} {gap slice : Text} {token : Placed}
    (before : gaps[i]? = some gap) (spelled : (lexemes.map Lexeme.slice)[i]? = some slice)
    (placed : (place offset (List.zipWith Lexeme.behind gaps lexemes))[i]? = some token) :
    token.start =
        offset + (arrange gap (gaps.take i) ((lexemes.map Lexeme.slice).take i)).utf8Size ∧
      token.stop = token.start + slice.utf8Size := by
  induction gaps generalizing offset i lexemes with
  | nil => simp at before
  | cons other gaps ih =>
      cases lexemes with
      | nil => simp at spelled
      | cons lexeme lexemes =>
          simp only [List.map_cons, List.zipWith_cons_cons, place] at spelled placed ⊢
          cases i with
          | zero =>
              cases before
              cases spelled
              cases placed
              simp [Lexeme.behind, arrange]
          | succ i =>
              simp only [List.getElem?_cons_succ] at before spelled placed
              obtain ⟨starts, stops⟩ := ih before spelled placed
              refine ⟨?_, stops⟩
              rw [starts]
              simp [Lexeme.behind, arrange, Nat.add_assoc]

theorem map_token_behind (count : gaps.length = lexemes.length) :
    (List.zipWith Lexeme.behind gaps lexemes).map Lexeme.token = lexemes.map Lexeme.token := by
  induction gaps generalizing lexemes with
  | nil =>
      obtain rfl := List.eq_nil_of_length_eq_zero count.symm
      rfl
  | cons gap gaps ih =>
      cases lexemes with
      | nil => simp at count
      | cons lexeme lexemes =>
          have later := ih (Nat.succ.inj count)
          simp only [List.zipWith_cons_cons, List.map_cons, later]
          rfl

end Arranging

theorem map_token_place (offset : Nat) (lexemes : List Lexeme) :
    (place offset lexemes).map Placed.token = lexemes.map Lexeme.token := by
  induction lexemes generalizing offset with
  | nil => rfl
  | cons lexeme lexemes ih => simp [place, ih]

theorem forall₂_between {text before : Text} {lexemes : List Lexeme} {ending : Ending}
    (whole : text = before ++ textOf lexemes ending) :
    List.Forall₂ (fun token slice => Between text token.start token.stop slice)
      (place before.utf8Size lexemes) (lexemes.map Lexeme.slice) := by
  induction lexemes generalizing before with
  | nil => exact .nil
  | cons lexeme lexemes ih =>
      have cut : text = before ++ lexeme.gap ++ lexeme.slice ++ textOf lexemes ending := by
        simpa [textOf, Lexeme.text] using whole
      have later := ih cut
      simp only [Text.utf8Size_append] at later
      exact .cons ⟨_, _, cut, by simp, rfl⟩ later

/-- The characters at the places of the tokens are the slices of the lexemes. -/
theorem slices_of_between {text : Text} {slices : List Text}
    (spelled : List.Forall₂ (fun token slice => Between text token.start token.stop slice)
      (scan text).tokens slices) : slices = (scan text).lexemes.map Lexeme.slice := by
  have whole := (text_scan text).symm
  rw [Scan.text, ← List.nil_append (textOf _ _)] at whole
  exact List.right_unique_forall₂' (fun _ _ _ here here' => here.unique here') spelled
    (forall₂_between whole)

/-! ## Reading -/

/-- What reading gives, apart from where it stops. -/
def outcome : Except ReadFailure (Expr × Text) → Except ReadError Expr
  | .ok (value, _) => .ok value
  | .error failure => .error failure.error

/-- The reader looks at the tokens only. -/
theorem outcome_readLexemes {limit : Option Nat} {ending ending' : Ending} {stack : List Frame}
    {lexemes lexemes' : List Lexeme} (same : lexemes.map Lexeme.token = lexemes'.map Lexeme.token)
    (ended : ending.error = ending'.error) :
    outcome (readLexemes limit ending stack lexemes) =
      outcome (readLexemes limit ending' stack lexemes') := by
  induction lexemes generalizing stack lexemes' with
  | nil =>
      obtain rfl := List.map_eq_nil_iff.mp same.symm
      simp [readLexemes, outcome, ended]
  | cons lexeme lexemes ih =>
      cases lexemes' with
      | nil => simp at same
      | cons lexeme' lexemes' =>
          simp only [List.map_cons, List.cons.injEq] at same
          simp only [readLexemes, same.1]
          split
          · rfl
          · rfl
          · exact ih same.2

/-- Tokens keep their kinds and names in any layout, each stands where its
characters are put, and the same value or error is read. -/
theorem Layout.keeps_tokens {text trailing : Text} {slices : List Text}
    (succeeds : (scan text).ending = .finished trailing)
    (spelled : List.Forall₂ (fun token slice => Between text token.start token.stop slice)
      (scan text).tokens slices) (layout : Layout slices.length) :
    (scan (layout.text slices)).ending = .finished layout.last ∧
      (scan (layout.text slices)).tokens.map Placed.token = (scan text).tokens.map Placed.token ∧
      (∀ i gap slice token, layout.gaps[i]? = some gap → slices[i]? = some slice →
        (scan (layout.text slices)).tokens[i]? = some token →
        token.start = (arrange gap (layout.gaps.take i) (slices.take i)).utf8Size ∧
          token.stop = token.start + slice.utf8Size) ∧
      outcome (read (layout.text slices)) = outcome (read text) := by
  obtain rfl := slices_of_between spelled
  have count : layout.gaps.length = (scan text).lexemes.length := by simpa using layout.length_gaps
  have scanned : scan (layout.text _) = _ :=
    scan_arrange (fun _ => exists_front_of_mem_scan) count layout.isGap layout.separates layout.isLast
  have tokens := map_token_behind count
  refine ⟨by rw [scanned], ?_, ?_, ?_⟩
  · rw [scanned, Scan.tokens, Scan.tokens, map_token_place, map_token_place, tokens]
  · intro i gap slice token before slice' placed
    rw [scanned] at placed
    simpa using place_arrange before slice' placed
  · rw [read, read, readWithin, readWithin, scanned]
    exact outcome_readLexemes tokens (by rw [succeeds]; rfl)

/-- An escaped semicolon belongs to its name, and a comment may follow the name directly. -/
theorem Layout.keeps_tokens_escaped :
    (scan "(a\\;b\";\")".toList).ending = .finished [] ∧
      (scan ";x\n(\ta\\;b;y\n\";\"\n);z".toList).ending = .finished ";z".toList ∧
      (scan ";x\n(\ta\\;b;y\n\";\"\n);z".toList).tokens.map Placed.token =
        [.openParen, .symbol "a;b".toList, .string ";".toList, .closeParen] ∧
      outcome (read ";x\n(\ta\\;b;y\n\";\"\n);z".toList) =
        outcome (read "(a\\;b\";\")".toList) := by
  have lexed : Lexed "(a\\;b\";\")".toList
      [⟨[], "(".toList, .openParen⟩, ⟨[], "a\\;b".toList, .symbol "a;b".toList⟩,
        ⟨[], "\";\"".toList, .string ";".toList⟩, ⟨[], ")".toList, .closeParen⟩] [] :=
    @Lexed.cons _ "a\\;b\";\")".toList _ _ _ rfl
      (@Lexed.cons _ "\";\")".toList _ _ _ rfl (@Lexed.cons _ ")".toList _ _ _ rfl
        (.cons rfl (.nil []))))
  have scanned := lexed.scan_of_all
  let slices : List Text := ["(".toList, "a\\;b".toList, "\";\"".toList, ")".toList]
  have spelled : List.Forall₂ (fun token slice =>
      Between "(a\\;b\";\")".toList token.start token.stop slice)
      (scan "(a\\;b\";\")".toList).tokens slices := by
    rw [scanned]
    exact .cons ⟨[], _, rfl, rfl, rfl⟩ (.cons ⟨"(".toList, _, rfl, rfl, rfl⟩
      (.cons ⟨"(a\\;b".toList, _, rfl, rfl, rfl⟩
        (.cons ⟨"(a\\;b\";\"".toList, _, rfl, rfl, rfl⟩ .nil)))
  let layout : Layout slices.length := {
    gaps := [";x\n".toList, "\t".toList, ";y\n".toList, "\n".toList]
    last := ";z".toList
    length_gaps := rfl
    isGap := by
      have comment (c : Char) (oneLine : '\n' ∉ [c]) : IsGap false [';', c, '\n'] :=
        .comment oneLine .nil
      simp only [List.forall_mem_cons]
      exact ⟨comment 'x' (by decide), .blank rfl .nil, comment 'y' (by decide), .blank rfl .nil,
        nofun⟩
    separates := by decide
    isLast := .unfinished rfl (by decide) }
  obtain ⟨ended, tokens, -, value⟩ :=
    Layout.keeps_tokens (congrArg Scan.ending scanned) spelled layout
  refine ⟨congrArg Scan.ending scanned, ended, tokens.trans ?_, value⟩
  rw [scanned]
  rfl

end PackageRequires.Lisp
