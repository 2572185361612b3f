import PackageRequires.Text

namespace PackageRequires

/-! # JSON

Values with their fields in order, written on one line or indented by two spaces.
-/

inductive Json where
  | null
  | boolean (value : Bool)
  | number (literal : Text)
  | string (contents : Text)
  | array (items : List Json)
  | object (fields : List (Text × Json))
  deriving Inhabited, Repr

namespace Json

def ofNat (n : Nat) : Json := .number (Text.ofNat n)

def ofInt (n : Int) : Json := .number (toString n).toList

def ofString (contents : String) : Json := .string contents.toList

/-- The value of a field of an object. -/
def field? (key : String) : Json → Option Json
  | object fields => fields.lookup key.toList
  | _ => none

def text? : Json → Option Text
  | string contents => some contents
  | _ => none

def items? : Json → Option (List Json)
  | array items => some items
  | _ => none

/-- The number that a literal of digits only denotes. -/
def nat? : Json → Option Nat
  | number literal => if literal.all Char.isDigit then (String.ofList literal).toNat? else none
  | _ => none

/-- The number that a literal of digits and perhaps a sign denotes. -/
def int? : Json → Option Int
  | number ('-' :: digits) => (nat? (.number digits)).map fun n => -(n : Int)
  | json => (nat? json).map Int.ofNat

/-- The members of a record: the fields of an object, where some may be missing, or
the items of an array, as many as there are names. -/
def members? (names : List String) : Json → Option (List Json)
  | object fields => some (names.map fun key => (fields.lookup key.toList).getD .null)
  | array items => if items.length = names.length then some items else none
  | _ => none

/-- A hexadecimal digit, in lower case. -/
def hexDigit (n : Nat) : Char := Nat.digitChar n

/-- A character inside of quotes.  Quotes, backslashes and control characters are escaped. -/
def quoteCharacter (c : Char) : Text :=
  if c = '\"' then "\\\"".toList
  else if c = '\\' then "\\\\".toList
  else if c = '\n' then "\\n".toList
  else if c = '\r' then "\\r".toList
  else if c = '\t' then "\\t".toList
  else if c = '\x08' then "\\b".toList
  else if c = '\x0c' then "\\f".toList
  else if c.toNat < 0x20 then
    "\\u00".toList ++ [hexDigit (c.toNat / 16), hexDigit (c.toNat % 16)]
  else [c]

def quoted (contents : Text) : Text := '\"' :: contents.flatMap quoteCharacter ++ ['\"']

mutual

/-- The value on one line. -/
def compact : Json → Text
  | null => "null".toList
  | boolean value => if value then "true".toList else "false".toList
  | number literal => literal
  | string contents => quoted contents
  | array items => '[' :: Text.joined [','] (compactItems items) ++ [']']
  | object fields => '\x7b' :: Text.joined [','] (compactFields fields) ++ ['\x7d']

def compactItems : List Json → List Text
  | [] => []
  | item :: items => compact item :: compactItems items

def compactFields : List (Text × Json) → List Text
  | [] => []
  | (key, value) :: fields => (quoted key ++ ':' :: compact value) :: compactFields fields

end

/-- Parts of an array or object, each on a line of its own at `depth`. -/
def indented (depth : Nat) (left right : Char) (parts : List Text) : Text :=
  if parts.isEmpty then [left, right]
  else
    let indent := '\n' :: List.replicate (2 * depth) ' '
    left :: indent ++ "  ".toList ++
      Text.joined (',' :: indent ++ "  ".toList) parts ++ indent ++ [right]

mutual

/-- The value over several lines, inside of `depth` arrays and objects. -/
def pretty (depth : Nat) : Json → Text
  | array items => indented depth '[' ']' (prettyItems (depth + 1) items)
  | object fields => indented depth '\x7b' '\x7d' (prettyFields (depth + 1) fields)
  | null => compact .null
  | boolean value => compact (.boolean value)
  | number literal => literal
  | string contents => quoted contents

def prettyItems (depth : Nat) : List Json → List Text
  | [] => []
  | item :: items => pretty depth item :: prettyItems depth items

def prettyFields (depth : Nat) : List (Text × Json) → List Text
  | [] => []
  | (key, value) :: fields =>
    (quoted key ++ ": ".toList ++ pretty depth value) :: prettyFields depth fields

end

end Json

end PackageRequires
