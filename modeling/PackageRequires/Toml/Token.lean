import PackageRequires.Toml.Scalar

namespace PackageRequires.Toml

/-! # TOML tokens

`tokens?` cuts a file into tokens, strings being decoded on the way.  It gives
nothing if some character cannot stand where it does.
-/

inductive Token where
  | newline
  | blank (text : Text)
  | comment
  | dot
  | equals
  | comma
  | openBracket
  | closeBracket
  | openBrace
  | closeBrace
  /-- Characters outside of quotes: part of a key, a number, a date or a word. -/
  | bare (text : Text)
  | string (contents : Text) (multiline : Bool)
  deriving DecidableEq, Repr

/-- Characters that comments and strings may hold as they are. -/
def isPlain (c : Char) : Bool := c == '\t' || (0x20 ≤ c.toNat && c.toNat != 0x7F)

/-- Whether the characters of a string's body may stand there.  In a multi-line
string that includes newlines, and carriage returns directly before one. -/
def isBody (multiline : Bool) : Text → Bool
  | [] => true
  | '\r' :: '\n' :: rest => multiline && isBody multiline rest
  | c :: rest => (isPlain c || (multiline && c == '\n')) && isBody multiline rest

/-- Splits a text behind an opening quote at the closing one.  With `escapes`, a
backslash takes the next character with it. -/
def splitQuoted (quote : Char) (escapes escaped : Bool) : Text → Option (Text × Text)
  | [] => none
  | c :: rest =>
    if !escaped && c == quote then some ([], rest)
    else
      (splitQuoted quote escapes (escapes && !escaped && c == '\\') rest).map
        fun (body, after) => (c :: body, after)

/-- Splits a text behind three opening quotes at three closing ones.  Up to two
more quotes behind those belong to the string. -/
def splitTriple (quote : Char) (escapes escaped : Bool) : Text → Option (Text × Text)
  | [] => none
  | c :: rest =>
    if !escaped && [c] ++ rest.take 2 == [quote, quote, quote] then
      let more := ((rest.drop 2).takeWhile (· == quote)).take 2
      some (more, rest.drop (2 + more.length))
    else
      (splitTriple quote escapes (escapes && !escaped && c == '\\') rest).map
        fun (body, after) => (c :: body, after)

/-- The character of a code point, which must not be a surrogate. -/
def codePoint? (code : Nat) : Option Char :=
  if code.isValidChar then some (Char.ofNat code) else none

/-- Where decoding stands inside a string. -/
inductive Decoding where
  | plain
  /-- Behind a backslash. -/
  | escape
  /-- Inside a code point, with so many digits to come. -/
  | code (digits : Nat) (value : Nat)
  /-- Behind a backslash at the end of a line: blanks and newlines are dropped. -/
  | continuation (newline : Bool)

/-- What the escape of a single character stands for. -/
def escapeOf? (c : Char) : Option Char :=
  [('b', '\x08'), ('t', '\t'), ('n', '\n'), ('f', '\x0c'), ('r', '\r'), ('e', '\x1b'),
    ('\"', '\"'), ('\\', '\\')].lookup c

/-- How many hexadecimal digits follow an escape for a code point. -/
def codeDigits? (c : Char) : Option Nat := [('x', 2), ('u', 4), ('U', 8)].lookup c

/-- The contents of a string's body with escapes. -/
def decode (multiline : Bool) : Decoding → (body : Text) → Option Text
  | .plain, [] => some []
  | .continuation true, [] => some []
  | _, [] => none
  | .plain, c :: rest =>
    if c = '\\' then decode multiline .escape rest
    else (decode multiline .plain rest).map (c :: ·)
  | .escape, c :: rest =>
    match escapeOf? c, codeDigits? c with
    | some value, _ => (decode multiline .plain rest).map (value :: ·)
    | none, some digits => decode multiline (.code digits 0) rest
    | none, none =>
      if multiline && (c == ' ' || c == '\t' || c == '\r') then
        decode multiline (.continuation false) rest
      else if multiline && c == '\n' then decode multiline (.continuation true) rest
      else none
  | .code digits value, c :: rest =>
    if !isHexDigit c then none
    else
      let value := 16 * value + digitValue c
      if digits ≤ 1 then
        match codePoint? value, decode multiline .plain rest with
        | some character, some contents => some (character :: contents)
        | _, _ => none
      else decode multiline (.code (digits - 1) value) rest
  | .continuation newline, c :: rest =>
    if c == ' ' || c == '\t' || c == '\r' then decode multiline (.continuation newline) rest
    else if c == '\n' then decode multiline (.continuation true) rest
    else if !newline then none
    else if c = '\\' then decode multiline .escape rest
    else (decode multiline .plain rest).map (c :: ·)

/-- A multi-line string's body without the newline directly behind the quotes. -/
def dropFirstNewline : Text → Text
  | '\n' :: rest => rest
  | '\r' :: '\n' :: rest => rest
  | body => body

/-- The body of the string behind an opening quote, whether it is a multi-line
string, and what follows it. -/
def splitBody (quote : Char) (rest : Text) : Option (Text × Bool × Text) :=
  let escapes := quote == '\"'
  if rest.take 2 == [quote, quote] then
    (splitTriple quote escapes false (rest.drop 2)).map fun (body, after) => (body, true, after)
  else (splitQuoted quote escapes false rest).map fun (body, after) => (body, false, after)

/-- The contents of a string's body.  Only double quotes have escapes. -/
def contents? (quote : Char) (multiline : Bool) (body : Text) : Option Text :=
  let shown := if multiline then dropFirstNewline body else body
  if !isBody multiline body then none
  else if quote = '\"' then decode multiline .plain shown
  else some shown

/-- The string behind an opening quote, and what follows it. -/
def string? (quote : Char) (rest : Text) : Option (Token × Text) :=
  match splitBody quote rest with
  | some (body, multiline, after) =>
    (contents? quote multiline body).map fun contents => (.string contents multiline, after)
  | none => none

/-- The characters that are tokens by themselves. -/
def punctuation : List (Char × Token) := [
  ('\n', .newline), ('.', .dot), ('=', .equals), (',', .comma), ('[', .openBracket),
  (']', .closeBracket), ('\x7b', .openBrace), ('\x7d', .closeBrace)]

/-- Whether a character can stand outside of quotes without a meaning of its own. -/
def isBare (c : Char) : Bool :=
  !(" \t\r\n.=,[]\x7b\x7d#\"'".toList.contains c)

/-- Whether a character belongs to the line that it stands on. -/
def isInLine (c : Char) : Bool := c != '\n' && c != '\r'

/-- The token at the front of a text that begins with `c`, and what follows it. -/
def token? (c : Char) (rest : Text) : Option (Token × Text) :=
  match punctuation.lookup c with
  | some token => some (token, rest)
  | none =>
    if c = '\r' then (Text.dropFront? ['\n'] rest).map fun rest => (.newline, rest)
    else if c = '#' then
      if (rest.takeWhile isInLine).all isPlain then some (.comment, rest.dropWhile isInLine)
      else none
    else if c = '\"' ∨ c = '\x27' then string? c rest
    else if Text.isSpaceOrTab c then
      some (.blank (c :: rest.takeWhile Text.isSpaceOrTab), rest.dropWhile Text.isSpaceOrTab)
    else some (.bare (c :: rest.takeWhile isBare), rest.dropWhile isBare)

theorem splitQuoted_length {quote : Char} {escapes escaped : Bool} {text body rest : Text}
    (split : splitQuoted quote escapes escaped text = some (body, rest)) :
    rest.length ≤ text.length := by
  induction text generalizing escaped body with
  | nil => simp [splitQuoted] at split
  | cons c text ih =>
      simp only [splitQuoted] at split
      split at split
      · cases split
        simp
      · obtain ⟨⟨inner, after⟩, found, pair⟩ := Option.map_eq_some_iff.mp split
        cases pair
        exact Nat.le_trans (ih found) (by simp)

theorem splitTriple_length {quote : Char} {escapes escaped : Bool} {text body rest : Text}
    (split : splitTriple quote escapes escaped text = some (body, rest)) :
    rest.length ≤ text.length := by
  induction text generalizing escaped body with
  | nil => simp [splitTriple] at split
  | cons c text ih =>
      simp only [splitTriple] at split
      split at split
      · cases split
        simp only [List.length_drop, List.length_cons]
        omega
      · obtain ⟨⟨inner, after⟩, found, pair⟩ := Option.map_eq_some_iff.mp split
        cases pair
        exact Nat.le_trans (ih found) (by simp)

theorem splitBody_length {quote : Char} {text body rest : Text} {multiline : Bool}
    (split : splitBody quote text = some (body, multiline, rest)) : rest.length ≤ text.length := by
  simp only [splitBody] at split
  split at split
  · obtain ⟨⟨inner, after⟩, found, pair⟩ := Option.map_eq_some_iff.mp split
    cases pair
    exact Nat.le_trans (splitTriple_length found) (by simp)
  · obtain ⟨⟨inner, after⟩, found, pair⟩ := Option.map_eq_some_iff.mp split
    cases pair
    exact splitQuoted_length found

theorem string?_length {quote : Char} {text rest : Text} {token : Token}
    (read : string? quote text = some (token, rest)) : rest.length ≤ text.length := by
  simp only [string?] at read
  split at read
  · rename_i split
    obtain ⟨contents, decoded, pair⟩ := Option.map_eq_some_iff.mp read
    cases pair
    exact splitBody_length split
  · cases read

theorem length_dropWhile_le (drop : Char → Bool) (text : Text) :
    (text.dropWhile drop).length ≤ text.length :=
  (List.dropWhile_suffix drop).length_le

/-- Every token takes at least one character. -/
theorem token?_length {c : Char} {text rest : Text} {token : Token}
    (read : token? c text = some (token, rest)) : rest.length ≤ text.length := by
  unfold token? at read
  split at read
  · cases read
    exact Nat.le_refl _
  · split at read
    · obtain ⟨after, found, pair⟩ := Option.map_eq_some_iff.mp read
      cases pair
      simp [Text.dropFront?_eq_some_iff.mp found]
    · split at read
      · split at read
        · cases read
          exact length_dropWhile_le _ _
        · cases read
      · split at read
        · exact string?_length read
        · split at read
          · cases read
            exact length_dropWhile_le _ _
          · cases read
            exact length_dropWhile_le _ _

/-- The tokens of a text, behind those in `done`, of which the latest comes first. -/
def tokensAfter? (done : List Token) : Text → Option (List Token)
  | [] => some done.reverse
  | c :: text =>
    match _read : token? c text with
    | none => none
    | some (token, rest) => tokensAfter? (token :: done) rest
termination_by text => text.length
decreasing_by exact Nat.lt_succ_of_le (token?_length _read)

/-- The tokens of a file, without the byte order mark that it may begin with. -/
def tokens? (text : Text) : Option (List Token) :=
  tokensAfter? [] ((Text.dropFront? ['\uFEFF'] text).getD text)

end PackageRequires.Toml
