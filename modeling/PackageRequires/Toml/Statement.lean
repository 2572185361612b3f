import PackageRequires.Toml.Token

namespace PackageRequires.Toml

/-! # TOML statements

A file is a list of statements, one on a line: headers and assignments of values
to keys.  Arrays and inline tables may go on over several lines.
-/

inductive Statement where
  /-- Opens a table: `[path]`. -/
  | table (path : List Text)
  /-- Adds a table to an array: `[[path]]`. -/
  | element (path : List Text)
  /-- Gives a key its value: `path = value`. -/
  | assignment (path : List Text) (value : Value)

/-- Characters of a key without quotes. -/
def isKeyCharacter (c : Char) : Bool := c.isAlphanum || c == '-' || c == '_'

/-- The key that a token is. -/
def key? : Token → Option Text
  | .bare text => if text.all isKeyCharacter then some text else none
  | .string contents false => some contents
  | _ => none

/-- Tokens without a blank at the front. -/
def dropBlank : List Token → List Token
  | .blank _ :: rest => rest
  | tokens => tokens

/-- Tokens without the blanks, comments and newlines at the front. -/
def dropLayout : List Token → List Token
  | .blank _ :: rest => dropLayout rest
  | .comment :: rest => dropLayout rest
  | .newline :: rest => dropLayout rest
  | tokens => tokens

/-- The keys of a path divided by dots, and what follows it. -/
def path? : List Token → Option (List Text × List Token)
  | [] => none
  | token :: rest =>
    match key? token with
    | none => none
    | some key =>
      match rest with
      | .dot :: .blank _ :: more => (path? more).map fun (path, after) => (key :: path, after)
      | .dot :: more => (path? more).map fun (path, after) => (key :: path, after)
      | .blank _ :: .dot :: .blank _ :: more =>
        (path? more).map fun (path, after) => (key :: path, after)
      | .blank _ :: .dot :: more => (path? more).map fun (path, after) => (key :: path, after)
      | _ => some ([key], rest)

/-- How many keys a path can have, and how many brackets and braces can be open at once. -/
def deepest : Nat := 80

/-- A path that is not too long, and what follows it. -/
def shortPath? (tokens : List Token) : Option (List Text × List Token) :=
  (path? tokens).filter fun (path, _) => path.length ≤ deepest

/-- The characters of a value without quotes, which dots may divide, and what follows it. -/
def spelling : List Token → Text × List Token
  | .bare text :: .dot :: rest =>
    let (more, after) := spelling rest
    (text ++ '.' :: more, after)
  | .bare text :: rest => (text, rest)
  | rest => ([], rest)

/-- A value without quotes and brackets, and what follows it.  A single space
may divide a date from its time. -/
def scalarAt? (tokens : List Token) : Option (Value × List Token) :=
  let (text, rest) := spelling tokens
  match afterDate? text, rest with
  | some [], .blank [' '] :: .bare time :: more =>
    let (time, after) := spelling (.bare time :: more)
    (scalar? (text ++ ' ' :: time)).map fun value => (value, after)
  | _, _ => (scalar? text).map fun value => (value, rest)

mutual

/-- The value at the front, and what follows it.  At most `depth` brackets and
braces can be open inside of it, and `fuel` bounds the steps. -/
def value? : (fuel depth : Nat) → List Token → Option (Value × List Token)
  | 0, _, _ => none
  | fuel + 1, depth, tokens =>
    match tokens with
    | .string contents _ :: rest => some (.string contents, rest)
    | .openBracket :: rest =>
      if depth = 0 then none
      else (items? fuel (depth - 1) [] rest).map fun (items, after) => (.array items, after)
    | .openBrace :: rest =>
      if depth = 0 then none
      else
        (entries? fuel (depth - 1) [] rest).map fun (entries, after) =>
          (.table .inline entries, after)
    | _ => scalarAt? tokens

/-- The items up to a closing bracket, behind those in `done`, of which the
latest comes first. -/
def items? : (fuel depth : Nat) → List Value → List Token → Option (List Value × List Token)
  | 0, _, _, _ => none
  | fuel + 1, depth, done, tokens =>
    match dropLayout tokens with
    | .closeBracket :: rest => some (done.reverse, rest)
    | tokens =>
      match value? fuel depth tokens with
      | none => none
      | some (value, rest) =>
        match dropLayout rest with
        | .comma :: rest => items? fuel depth (value :: done) rest
        | .closeBracket :: rest => some ((value :: done).reverse, rest)
        | _ => none

/-- The entries up to a closing brace, added to those in `done`. -/
def entries? : (fuel depth : Nat) → Entries → List Token → Option (Entries × List Token)
  | 0, _, _, _ => none
  | fuel + 1, depth, done, tokens =>
    match dropLayout tokens with
    | .closeBrace :: rest => some (done, rest)
    | tokens =>
      match assignment? fuel depth dropLayout tokens with
      | none => none
      | some (path, value, rest) =>
        match Entries.assign value path done, dropLayout rest with
        | some done, .comma :: rest => entries? fuel depth done rest
        | some done, .closeBrace :: rest => some (done, rest)
        | _, _ => none

/-- A path, an equals sign and a value, and what follows them.  `skip` drops what
may stand on either side of the equals sign. -/
def assignment? : (fuel depth : Nat) → (skip : List Token → List Token) → List Token →
    Option (List Text × Value × List Token)
  | 0, _, _, _ => none
  | fuel + 1, depth, skip, tokens =>
    match shortPath? tokens with
    | none => none
    | some (path, rest) =>
      match skip rest with
      | .equals :: rest =>
        (value? fuel depth (skip rest)).map fun (value, after) => (path, value, after)
      | _ => none

end

/-- The path of a header, behind its opening brackets, and what follows it. -/
def headerPath? (tokens : List Token) : Option (List Text × List Token) :=
  (shortPath? (dropBlank tokens)).map fun (path, after) => (path, dropBlank after)

/-- The statement at the front, and what follows it. -/
def statement? (fuel : Nat) (tokens : List Token) : Option (Statement × List Token) :=
  match tokens with
  | .openBracket :: .openBracket :: rest =>
    match headerPath? rest with
    | some (path, .closeBracket :: .closeBracket :: after) => some (.element path, after)
    | _ => none
  | .openBracket :: rest =>
    match headerPath? rest with
    | some (path, .closeBracket :: after) => some (.table path, after)
    | _ => none
  | _ =>
    (assignment? fuel deepest dropBlank tokens).map fun (path, value, after) =>
      (.assignment path value, after)

/-- What follows the end of a line, on which a comment may stand. -/
def afterLine? (tokens : List Token) : Option (List Token) :=
  match dropBlank tokens with
  | [] => some []
  | .newline :: rest => some rest
  | .comment :: .newline :: rest => some rest
  | [.comment] => some []
  | _ => none

/-- The statements of a file, behind those in `done`, of which the latest comes first. -/
def statementsAfter? : (fuel : Nat) → List Statement → List Token → Option (List Statement)
  | 0, _, _ => none
  | fuel + 1, done, tokens =>
    match dropLayout tokens with
    | [] => some done.reverse
    | tokens =>
      match statement? fuel tokens with
      | none => none
      | some (statement, rest) =>
        match afterLine? rest with
        | some rest => statementsAfter? fuel (statement :: done) rest
        | none => none

/-- The statements that a file's tokens form.  No token takes more than three
steps. -/
def statements? (tokens : List Token) : Option (List Statement) :=
  statementsAfter? (3 * tokens.length + 3) [] tokens

end PackageRequires.Toml
