import PackageRequires.Text

namespace PackageRequires.Uri

/-! # Percent escapes

A character that may not stand in a part of a URI is written as the octets of
its UTF-8 form, each as `%` and two hexadecimal digits.  Escapes that are there
already are kept.
-/

/-- Characters that are escaped in every part: controls, and all beyond ASCII. -/
def isOutside (c : Char) : Bool := c.toNat < 0x20 || 0x7E < c.toNat

/-- A hexadecimal digit, in upper case. -/
def upperDigit (n : Nat) : Char := (Nat.digitChar n).toUpper

def escapedOctet (octet : UInt8) : Text :=
  ['%', upperDigit (octet.toNat / 16), upperDigit (octet.toNat % 16)]

def escapedCharacter (c : Char) : Text := (String.utf8EncodeChar c).flatMap escapedOctet

/-- The text with `marks` escaped, and what is escaped in every part. -/
def escaped (marks text : Text) : Text :=
  text.flatMap fun c => if isOutside c ∨ c ∈ marks then escapedCharacter c else [c]

/-- What is escaped in a fragment. -/
def fragmentMarks : Text := " \"<>\x60".toList

/-- What is escaped in a segment of a path. -/
def pathMarks : Text := fragmentMarks ++ "#?\x7b\x7d".toList

/-- What is escaped in the name and the password of a user. -/
def userMarks : Text := pathMarks ++ "/:;=@[\\]^|".toList

/-- What is escaped in a query, by whether the scheme is a special one. -/
def queryMarks (isSpecial : Bool) : Text :=
  " \"#<>".toList ++ if isSpecial then ['\x27'] else []

/-- The octets of a text, with its escapes replaced by what they stand for. -/
def octets : Text → List UInt8
  | [] => []
  | '%' :: high :: low :: rest =>
    match Text.hexValue? high, Text.hexValue? low with
    | some high, some low => UInt8.ofNat (high * 16 + low) :: octets rest
    | _, _ => 0x25 :: octets (high :: low :: rest)
  | c :: rest => String.utf8EncodeChar c ++ octets rest

/-- The text with its escapes replaced by what they stand for. -/
def unescaped? (text : Text) : Option Text := Text.ofUtf8? ⟨(octets text).toArray⟩

end PackageRequires.Uri
