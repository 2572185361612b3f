import PackageRequires.Uri.Address
import PackageRequires.Uri.Folding
import PackageRequires.Uri.Label
import PackageRequires.Uri.Percent
import PackageRequires.Uri.Punycode

namespace PackageRequires.Uri

/-! # Hosts

A host is the name of a domain or an address.  Only the special schemes look into
names; for the others a name is any text without marks that have a meaning.
-/

/-- What stands in front of an encoded part of a name. -/
def encodedMark : Text := "xn--".toList

/-- Characters that the name of a domain may not hold. -/
def isForbidden (c : Char) : Bool :=
  c.toNat ≤ 0x20 || c.toNat == 0x7F || "%#/:<>?@[\\]^|".toList.contains c ||
    isWithin excluded c

/-- The label that a part of a name stands for, which may be encoded. -/
def label? (part : Text) : Option Text :=
  match Text.dropFront? encodedMark part with
  | none => some part
  | some code => do
    let label ← Punycode.decode? code
    if label.all Punycode.isAscii || folded label ≠ label then none else return label

/-- A label in ASCII. -/
def asciiLabel (label : Text) : Text :=
  if label.all Punycode.isAscii then label else encodedMark ++ Punycode.encode label

/-- The name of a domain, in ASCII. -/
def domain? (text : Text) : Option Text := do
  let name := folded (← unescaped? text)
  let labels ← (Text.split (· == '.') name).mapM label?
  let isDirectional := labels.any hasLeftward
  if labels.all fun label =>
      isLabel label && !label.any isForbidden && (!isDirectional || isDirected label) then
    let ascii := Text.joined ['.'] (labels.map asciiLabel)
    if ascii.isEmpty then none else return ascii
  else none

/-- An address of version 6, behind its opening bracket. -/
def bracketed? (text : Text) : Option Text := do
  let groups ← address6? (← Text.dropBack? [']'] text)
  return '[' :: address6Text groups ++ [']']

/-- A host of a special scheme. -/
def specialHost? : Text → Option Text
  | '[' :: rest => bracketed? rest
  | text => do
    let name ← domain? text
    if isNumeric name then (address4? name).map address4Text else return name

/-- A host of another scheme. -/
def otherHost? : Text → Option Text
  | '[' :: rest => bracketed? rest
  | text =>
    if text.any " #/:<>?@[\\]^|\x00".toList.contains then none else some (escaped [] text)

/-- A host. -/
def host? (isSpecial : Bool) (text : Text) : Option Text :=
  if isSpecial then specialHost? text else otherHost? text

end PackageRequires.Uri
