import PackageRequires.Text

namespace PackageRequires.Uri

/-! # Network addresses

An address of version 4 is a number of 32 bits, and one of version 6 is a list of
eight groups of 16 bits.  Both are read in all their spellings and written in one.
-/

/-- A part of an address of version 4: hexadecimal behind `0x`, octal behind `0`,
otherwise decimal. -/
def addressPart? : Text → Option Nat
  | [] => none
  | '0' :: 'x' :: digits => Text.numeral? 16 digits
  | '0' :: c :: digits => Text.numeral? 8 (c :: digits)
  | digits => Text.numeral? 10 digits

/-- The parts of a host's name, without the empty one behind a final dot. -/
def nameParts (name : Text) : List Text :=
  let parts := Text.split (· == '.') name
  if parts.getLast? = some [] then parts.dropLast else parts

/-- Whether a host's name has to be an address of version 4: its last part is a number. -/
def isNumeric (name : Text) : Bool :=
  match (nameParts name).getLast? with
  | none => false
  | some last => (!last.isEmpty && last.all Char.isDigit) || (addressPart? last).isSome

/-- The address of at most four numbers, of which the last one fills what is left. -/
def address4? (name : Text) : Option Nat := do
  let numbers ← (nameParts name).mapM addressPart?
  let last ← numbers.getLast?
  let front := numbers.dropLast
  if 3 < front.length || front.any (255 < ·) || Nat.pow 256 (4 - front.length) ≤ last then none
  else
    let (sum, _) := front.foldl
      (fun (sum, weight) number => (sum + number * weight, weight / 256)) (last, 0x1000000)
    return sum

def address4Text (address : Nat) : Text :=
  Text.joined ['.'] ([0x1000000, 0x10000, 0x100, 1].map fun weight =>
    Text.ofNat (address / weight % 256))

/-- A group of an address of version 6: up to four hexadecimal digits. -/
def group? (digits : Text) : Option Nat :=
  if digits.isEmpty || 4 < digits.length then none else Text.numeral? 16 digits

/-- A decimal number of at most 255, without needless zeros. -/
def octet? (digits : Text) : Option Nat := do
  let number ← if digits.all Char.isDigit then Text.numeral? 10 digits else none
  if 255 < number || Text.ofNat number ≠ digits then none else return number

/-- The two groups of an address of version 4 at the end of one of version 6. -/
def embedded? (text : Text) : Option (List Nat) := do
  match ← (Text.split (· == '.') text).mapM octet? with
  | [a, b, c, d] => return [a * 256 + b, c * 256 + d]
  | _ => none

/-- Groups with colons between them; the last part may be an address of version 4. -/
def groups? : List Text → Option (List Nat)
  | [] => some []
  | [last] => if '.' ∈ last then embedded? last else (group? last).map ([·])
  | part :: parts => do return (← group? part) :: (← groups? parts)

/-- The groups of a text, which may be empty. -/
def groupsOf? (text : Text) : Option (List Nat) :=
  if text.isEmpty then some [] else groups? (Text.split (· == ':') text)

/-- The groups of an address of version 6.  Two colons stand for a run of zeros. -/
def address6? (text : Text) : Option (List Nat) := do
  match Text.cutAt? "::".toList text with
  | none =>
    let groups ← groups? (Text.split (· == ':') text)
    if groups.length = 8 then return groups else none
  | some (before, after) =>
    if '.' ∈ before then none
    else
      let front ← groupsOf? before
      let back ← groupsOf? after
      let size := front.length + back.length
      if 7 < size then none else return front ++ List.replicate (8 - size) 0 ++ back

/-- Start and size of the longest run of zeros, the first one if there are several. -/
def longestZeros (start : Nat) : List Nat → Nat × Nat
  | [] => (start, 0)
  | group :: groups =>
    let here := ((group :: groups).takeWhile (· == 0)).length
    let later := longestZeros (start + 1) groups
    if here < later.2 then later else (start, here)

/-- An address of version 6, with two colons for its longest run of zeros. -/
def address6Text (groups : List Nat) : Text :=
  let written := fun groups : List Nat => Text.joined [':'] (groups.map (Nat.toDigits 16))
  let (start, size) := longestZeros 0 groups
  if size < 2 then written groups
  else written (groups.take start) ++ "::".toList ++ written (groups.drop (start + size))

end PackageRequires.Uri
