import PackageRequires.Lisp.Numeral

namespace PackageRequires.Lisp

/-! # Tokens

`scan` cuts a text into lexemes.  A lexeme keeps the blanks and comments in
front of its token, so the lexemes and the ending tile the text: `text_scan`.
Each lexeme takes at least one character, which is why scanning ends.
-/

/-- Why no expression can be read. -/
inductive ReadError where
  | endOfInput
  | invalidSyntax (text : Text)
  | tooDeep (limit : Nat)
  deriving DecidableEq, Repr

def ReadError.message : ReadError → Text
  | endOfInput => "End of file during parsing".toList
  | invalidSyntax text => "Invalid read syntax: \"".toList ++ text ++ "\"".toList
  | tooDeep limit => "Nesting deeper than ".toList ++ Text.ofNat limit ++ " levels".toList

/-- A token, with the text that it denotes. -/
inductive Token where
  | openParen
  | closeParen
  | quote
  | symbol (name : Text)
  | string (contents : Text)
  | number (literal : Text)
  deriving DecidableEq, Repr

namespace Token

def text : Token → Text
  | openParen => ['(']
  | closeParen => [')']
  | quote => ['\x27']
  | symbol name => name
  | string contents => contents
  | number literal => literal

/-- The token of an atom. -/
def ofAtom (text : Text) : Token := if isNumeral text then .number text else .symbol text

end Token

/-- Characters that end an atom. -/
def endsAtom (c : Char) : Bool :=
  Text.isBlank c || c == '(' || c == ')' || c == '\"' || c == '\x27' || c == ';' ||
    c == '[' || c == ']'

/-- Characters that begin reader syntax which a dependency list cannot hold. -/
def isUnsupported (c : Char) : Bool :=
  c == '[' || c == ']' || c == '#' || c == '\x60' || c == ',' || c == '?'

/-- Splits off the blanks and comments at the front.  A comment runs from a
semicolon through the next newline; `inComment` says that one is running. -/
def splitGap (inComment : Bool) : Text → Text × Text
  | [] => ([], [])
  | c :: rest =>
    if inComment || Text.isBlank c || c == ';' then
      let (gap, after) := splitGap (if inComment then c != '\n' else c == ';') rest
      (c :: gap, after)
    else ([], c :: rest)

/-- Whether a character is a backslash that itself is not escaped. -/
def startsEscape (escaped : Bool) (c : Char) : Bool := !escaped && c == '\\'

/-- Splits off the atom at the front.  A backslash takes the next character
with it; `escaped` says that one stands directly before. -/
def splitAtom (escaped : Bool) : Text → Text × Text
  | [] => ([], [])
  | c :: rest =>
    if !escaped && endsAtom c then ([], c :: rest)
    else
      let (slice, after) := splitAtom (startsEscape escaped c) rest
      (c :: slice, after)

/-- The text of an atom, unless it ends in a lone backslash. -/
def unescape? (escaped : Bool) : (slice : Text) → Option Text
  | [] => if escaped then none else some []
  | c :: rest =>
    if startsEscape escaped c then unescape? true rest
    else (unescape? false rest).map (c :: ·)

/-- Splits a text behind an opening quote into the string's body and what
follows its closing quote. -/
def splitString (escaped : Bool) : Text → Option (Text × Text)
  | [] => none
  | c :: rest =>
    if !escaped && c == '\"' then some ([], rest)
    else (splitString (startsEscape escaped c) rest).map fun (body, after) => (c :: body, after)

/-- What a backslash and the character after it denote in a string.  An escaped
newline continues the line. -/
def escapeValue (c : Char) : Text :=
  if c = 'n' then ['\n'] else if c = 't' then ['\t'] else if c = '\n' then [] else [c]

/-- The contents that a string's body denotes. -/
def decodeString (escaped : Bool) : (body : Text) → Text
  | [] => []
  | c :: rest =>
    if escaped then escapeValue c ++ decodeString false rest
    else if c = '\\' then decodeString true rest
    else c :: decodeString false rest

/-- A token where it stands: the gap in front of it and its own characters. -/
structure Lexeme where
  gap : Text
  slice : Text
  token : Token
  deriving DecidableEq, Repr

def Lexeme.text (lexeme : Lexeme) : Text := lexeme.gap ++ lexeme.slice

/-- What stands at the front of a text. -/
inductive Front where
  /-- Only a gap is left. -/
  | finished (gap : Text)
  /-- A lexeme, and what follows it. -/
  | lexeme (lexeme : Lexeme) (rest : Text)
  /-- No token; scanning stops after `consumed`. -/
  | failed (consumed : Text) (error : ReadError) (rest : Text)
  deriving DecidableEq, Repr

/-- The front of a text whose gap has been split off. -/
def frontAfter (gap : Text) : Text → Front
  | [] => .finished gap
  | '(' :: rest => .lexeme ⟨gap, ['('], .openParen⟩ rest
  | ')' :: rest => .lexeme ⟨gap, [')'], .closeParen⟩ rest
  | '\x27' :: rest => .lexeme ⟨gap, ['\x27'], .quote⟩ rest
  | '\"' :: rest =>
    match splitString false rest with
    | some (body, after) =>
      .lexeme ⟨gap, '\"' :: body ++ ['\"'], .string (decodeString false body)⟩ after
    | none => .failed (gap ++ '\"' :: rest) .endOfInput []
  | c :: rest =>
    if isUnsupported c then .failed gap (.invalidSyntax [c]) (c :: rest)
    else
      let (slice, after) := splitAtom false (c :: rest)
      match unescape? false slice with
      | none => .failed (gap ++ slice) .endOfInput after
      | some ['.'] => .failed (gap ++ slice) (.invalidSyntax ['.']) after
      | some text => .lexeme ⟨gap, slice, .ofAtom text⟩ after

/-- The front of a text. -/
def front (text : Text) : Front :=
  let (gap, rest) := splitGap false text
  frontAfter gap rest

theorem splitGap_append (inComment : Bool) (text : Text) :
    (splitGap inComment text).1 ++ (splitGap inComment text).2 = text := by
  induction text generalizing inComment with
  | nil => rfl
  | cons c rest ih =>
      simp only [splitGap]
      split
      · simp [ih]
      · rfl

/-- What follows a gap begins with neither a blank nor a comment. -/
theorem splitGap_head {inComment : Bool} {text gap rest : Text} {c : Char}
    (split : splitGap inComment text = (gap, c :: rest)) :
    Text.isBlank c = false ∧ c ≠ ';' := by
  induction text generalizing inComment gap with
  | nil => simp [splitGap] at split
  | cons d text ih =>
      simp only [splitGap] at split
      split at split
      · simp only [Prod.mk.injEq] at split
        exact ih (Prod.ext rfl split.2)
      · rename_i stops
        simp only [Prod.mk.injEq, List.cons.injEq] at split
        obtain ⟨-, rfl, -⟩ := split
        simp only [Bool.or_eq_true, beq_iff_eq, not_or, Bool.not_eq_true] at stops
        exact ⟨stops.1.2, stops.2⟩

theorem splitAtom_append (escaped : Bool) (text : Text) :
    (splitAtom escaped text).1 ++ (splitAtom escaped text).2 = text := by
  induction text generalizing escaped with
  | nil => rfl
  | cons c rest ih =>
      simp only [splitAtom]
      split
      · rfl
      · simp [ih]

theorem splitString_append {escaped : Bool} {text body rest : Text}
    (closed : splitString escaped text = some (body, rest)) : body ++ '\"' :: rest = text := by
  induction text generalizing escaped body with
  | nil => simp [splitString] at closed
  | cons c text ih =>
      simp only [splitString] at closed
      split at closed
      · rename_i ends
        cases closed
        simp_all
      · obtain ⟨⟨inner, after⟩, found, pair⟩ := Option.map_eq_some_iff.mp closed
        cases pair
        simp [ih found]

theorem splitAtom_ne_nil {c : Char} {rest : Text} (inside : endsAtom c = false) :
    (splitAtom false (c :: rest)).1 ≠ [] := by
  simp [splitAtom, inside]

/-- A lexeme at the front of a text is followed by the rest of that text. -/
theorem frontAfter_lexeme {gap text rest : Text} {lexeme : Lexeme}
    (found : frontAfter gap text = .lexeme lexeme rest) : lexeme.text ++ rest = gap ++ text := by
  unfold frontAfter at found
  split at found
  · cases found
  · cases found; simp [Lexeme.text]
  · cases found; simp [Lexeme.text]
  · cases found; simp [Lexeme.text]
  · split at found
    · rename_i body after closed
      cases found
      simp [Lexeme.text, ← splitString_append closed]
    · cases found
  · split at found
    · cases found
    · dsimp only at found
      split at found
      · cases found
      · cases found
      · cases found
        simp [Lexeme.text, splitAtom_append]

theorem frontAfter_finished {gap text blank : Text}
    (found : frontAfter gap text = .finished blank) : blank = gap ∧ text = [] := by
  unfold frontAfter at found
  split at found
  · cases found; simp
  · cases found
  · cases found
  · cases found
  · split at found <;> cases found
  · split at found
    · cases found
    · dsimp only at found
      split at found <;> cases found

/-- Scanning that fails keeps the whole text in what it read and what it left. -/
theorem frontAfter_failed {gap text consumed rest : Text} {error : ReadError}
    (found : frontAfter gap text = .failed consumed error rest) : consumed ++ rest = gap ++ text := by
  unfold frontAfter at found
  split at found
  · cases found
  · cases found
  · cases found
  · cases found
  · split at found
    · cases found
    · cases found; simp
  · split at found
    · cases found; rfl
    · dsimp only at found
      split at found
      · cases found; simp [splitAtom_append]
      · cases found; simp [splitAtom_append]
      · cases found

theorem front_eq (text : Text) :
    front text = frontAfter (splitGap false text).1 (splitGap false text).2 := rfl

theorem front_finished {text gap : Text} (found : front text = .finished gap) : gap = text := by
  rw [front_eq] at found
  obtain ⟨rfl, empty⟩ := frontAfter_finished found
  simpa [empty] using splitGap_append false text

theorem front_failed {text consumed rest : Text} {error : ReadError}
    (found : front text = .failed consumed error rest) : consumed ++ rest = text := by
  rw [front_eq] at found
  rw [frontAfter_failed found, splitGap_append]

theorem front_lexeme {text rest : Text} {lexeme : Lexeme}
    (found : front text = .lexeme lexeme rest) : lexeme.text ++ rest = text := by
  rw [front_eq] at found
  rw [frontAfter_lexeme found, splitGap_append]

/-- Every token takes at least one character. -/
theorem frontAfter_slice_ne_nil {gap text rest : Text} {lexeme : Lexeme}
    (begins : ∀ c tail, text = c :: tail → Text.isBlank c = false ∧ c ≠ ';')
    (found : frontAfter gap text = .lexeme lexeme rest) : lexeme.slice ≠ [] := by
  unfold frontAfter at found
  split at found
  · cases found
  · cases found; simp
  · cases found; simp
  · cases found; simp
  · split at found
    · cases found; simp
    · cases found
  · rename_i c tail notOpen notClose notQuote notString
    split at found
    · cases found
    · rename_i supported
      dsimp only at found
      have inside : endsAtom c = false := by
        obtain ⟨visible, code⟩ := begins c tail rfl
        simp only [isUnsupported, Bool.or_eq_true, beq_iff_eq, not_or] at supported
        simp_all [endsAtom]
      split at found
      · cases found
      · cases found
      · cases found
        exact splitAtom_ne_nil inside

theorem front_slice_ne_nil {text rest : Text} {lexeme : Lexeme}
    (found : front text = .lexeme lexeme rest) : lexeme.slice ≠ [] := by
  rw [front_eq] at found
  refine frontAfter_slice_ne_nil ?_ found
  intro c tail same
  have split : splitGap false text = ((splitGap false text).1, c :: tail) := Prod.ext rfl same
  exact splitGap_head split

theorem front_shorter {text rest : Text} {lexeme : Lexeme}
    (found : front text = .lexeme lexeme rest) : rest.length < text.length := by
  have visible := List.length_pos_iff.mpr (front_slice_ne_nil found)
  rw [← front_lexeme found]
  simp only [Lexeme.text, List.length_append]
  omega

/-- What stands after the last lexeme of a text. -/
inductive Ending where
  | finished (gap : Text)
  | failed (consumed : Text) (error : ReadError) (rest : Text)
  deriving DecidableEq, Repr

namespace Ending

def text : Ending → Text
  | finished gap => gap
  | failed consumed _ rest => consumed ++ rest

/-- What a reader that wants one more token reports. -/
def error : Ending → ReadError
  | finished _ => .endOfInput
  | failed _ error _ => error

/-- What scanning left behind. -/
def rest : Ending → Text
  | finished _ => []
  | failed _ _ rest => rest

end Ending

/-- The lexemes of a text, and where they end. -/
structure Scan where
  lexemes : List Lexeme
  ending : Ending
  deriving DecidableEq, Repr

/-- The text of a list of lexemes and of what follows them. -/
def textOf (lexemes : List Lexeme) (ending : Ending) : Text :=
  lexemes.flatMap Lexeme.text ++ ending.text

def Scan.text (scan : Scan) : Text := textOf scan.lexemes scan.ending

/-- Cuts a text into lexemes, up to its end or the first character that cannot
belong to one. -/
def scan (text : Text) : Scan :=
  match _found : front text with
  | .finished gap => ⟨[], .finished gap⟩
  | .failed consumed error rest => ⟨[], .failed consumed error rest⟩
  | .lexeme lexeme rest =>
    let after := scan rest
    ⟨lexeme :: after.lexemes, after.ending⟩
termination_by text.length
decreasing_by exact front_shorter _found

/-- A token and the bytes of the text that it takes, from `start` up to `stop`. -/
structure Placed where
  token : Token
  start : Nat
  stop : Nat
  deriving DecidableEq, Repr

/-- The tokens of lexemes that follow one another from byte `offset` on. -/
def place (offset : Nat) : List Lexeme → List Placed
  | [] => []
  | lexeme :: later =>
    let start := offset + lexeme.gap.utf8Size
    let stop := start + lexeme.slice.utf8Size
    ⟨lexeme.token, start, stop⟩ :: place stop later

namespace Scan

/-- The tokens that were found, and where. -/
def tokens (scan : Scan) : List Placed := place 0 scan.lexemes

/-- The byte where scanning stopped. -/
def offset (scan : Scan) : Nat := scan.text.utf8Size - scan.ending.rest.utf8Size

end Scan

/-- Lexemes and ending tile the text. -/
theorem text_scan (text : Text) : (scan text).text = text := by
  fun_induction scan text with
  | case1 text gap found => simpa [Scan.text, textOf, Ending.text] using front_finished found
  | case2 text consumed error rest found =>
      simpa [Scan.text, textOf, Ending.text] using front_failed found
  | case3 text lexeme rest found after ih =>
      rw [← front_lexeme found, ← ih]
      simp [Scan.text, textOf, after]

theorem slice_ne_nil_of_mem_scan {text : Text} {lexeme : Lexeme}
    (member : lexeme ∈ (scan text).lexemes) : lexeme.slice ≠ [] := by
  fun_induction scan text with
  | case1 => simp at member
  | case2 => simp at member
  | case3 text first rest found after ih =>
      rcases List.mem_cons.mp member with rfl | later
      · exact front_slice_ne_nil found
      · exact ih later

end PackageRequires.Lisp
