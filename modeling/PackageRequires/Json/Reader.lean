import PackageRequires.Json

namespace PackageRequires.Json

/-! # Reading JSON

Each reader takes a value from the front of a text and hands over the rest.
-/

/-- The blanks between the parts of a value. -/
def isGap (c : Char) : Bool := c == ' ' || c == '\t' || c == '\n' || c == '\r'

def skipGap (text : Text) : Text := text.dropWhile isGap

/-- A UTF-16 unit of four hexadecimal digits. -/
def readUnit? : Text → Option (Nat × Text)
  | a :: b :: c :: d :: rest => do
    let unit := ((← Text.hexValue? a) * 16 + (← Text.hexValue? b)) * 256 +
      (← Text.hexValue? c) * 16 + (← Text.hexValue? d)
    return (unit, rest)
  | _ => none

/-- The character behind `\u`, which may take two units. -/
def readUnicode? (text : Text) : Option (Char × Text) := do
  let (unit, rest) ← readUnit? text
  if unit < 0xD800 || 0xE000 ≤ unit then return (Char.ofNat unit, rest)
  else if 0xDC00 ≤ unit then none
  else
    let (low, rest) ← readUnit? (← Text.dropFront? "\\u".toList rest)
    if 0xDC00 ≤ low && low < 0xE000 then
      return (Char.ofNat (0x10000 + (unit - 0xD800) * 0x400 + (low - 0xDC00)), rest)
    else none

/-- The character that a backslash and what follows it stand for. -/
def readEscape? : Text → Option (Char × Text)
  | 'n' :: rest => some ('\n', rest)
  | 't' :: rest => some ('\t', rest)
  | 'r' :: rest => some ('\r', rest)
  | 'b' :: rest => some ('\x08', rest)
  | 'f' :: rest => some ('\x0c', rest)
  | '/' :: rest => some ('/', rest)
  | '\\' :: rest => some ('\\', rest)
  | '\"' :: rest => some ('\"', rest)
  | 'u' :: rest => readUnicode? rest
  | _ => none

/-- The rest of a string, behind its opening quote. -/
def readString? : (fuel : Nat) → Text → Option (Text × Text)
  | 0, _ => none
  | _ + 1, [] => none
  | fuel + 1, c :: rest =>
    if c = '\"' then some ([], rest)
    else if c = '\\' then do
      let (escaped, rest) ← readEscape? rest
      let (contents, rest) ← readString? fuel rest
      return (escaped :: contents, rest)
    else if c.toNat < 0x20 then none
    else do
      let (contents, rest) ← readString? fuel rest
      return (c :: contents, rest)

/-- The characters of numbers. -/
def isNumberCharacter (c : Char) : Bool :=
  c.isDigit || c == '-' || c == '+' || c == '.' || c == 'e' || c == 'E'

mutual

/-- A value. -/
def readValue? : (fuel : Nat) → Text → Option (Json × Text)
  | 0, _ => none
  | fuel + 1, text =>
    match skipGap text with
    | '[' :: rest =>
      match skipGap rest with
      | ']' :: rest => some (.array [], rest)
      | rest => (readItems? fuel rest).map fun (items, rest) => (.array items, rest)
    | '\x7b' :: rest =>
      match skipGap rest with
      | '\x7d' :: rest => some (.object [], rest)
      | rest => (readFields? fuel rest).map fun (fields, rest) => (.object fields, rest)
    | '\"' :: rest => (readString? fuel rest).map fun (contents, rest) => (.string contents, rest)
    | 'n' :: rest => (Text.dropFront? "ull".toList rest).map fun rest => (.null, rest)
    | 't' :: rest => (Text.dropFront? "rue".toList rest).map fun rest => (.boolean true, rest)
    | 'f' :: rest => (Text.dropFront? "alse".toList rest).map fun rest => (.boolean false, rest)
    | other =>
      let literal := other.takeWhile isNumberCharacter
      if literal.any Char.isDigit then some (.number literal, other.dropWhile isNumberCharacter)
      else none

/-- The items of an array up to its closing bracket. -/
def readItems? : (fuel : Nat) → Text → Option (List Json × Text)
  | 0, _ => none
  | fuel + 1, text =>
    match readValue? fuel text with
    | none => none
    | some (item, rest) =>
      match skipGap rest with
      | ',' :: rest => (readItems? fuel rest).map fun (items, rest) => (item :: items, rest)
      | ']' :: rest => some ([item], rest)
      | _ => none

/-- The fields of an object up to its closing brace. -/
def readFields? : (fuel : Nat) → Text → Option (List (Text × Json) × Text)
  | 0, _ => none
  | fuel + 1, text =>
    match skipGap text with
    | '\"' :: rest =>
      match readString? fuel rest with
      | none => none
      | some (key, rest) =>
        match skipGap rest with
        | ':' :: rest =>
          match readValue? fuel rest with
          | none => none
          | some (value, rest) =>
            match skipGap rest with
            | ',' :: rest =>
              (readFields? fuel rest).map fun (fields, rest) => ((key, value) :: fields, rest)
            | '\x7d' :: rest => some ([(key, value)], rest)
            | _ => none
        | _ => none
    | _ => none

end

/-- The value that a text is written for. -/
def parse? (text : Text) : Option Json :=
  match readValue? (2 * text.length + 2) text with
  | some (value, rest) => if (skipGap rest).isEmpty then some value else none
  | none => none

end PackageRequires.Json
