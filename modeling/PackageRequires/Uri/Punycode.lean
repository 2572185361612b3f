import PackageRequires.Text

namespace PackageRequires.Uri.Punycode

/-! # Names beyond ASCII

A part of a host's name that is not ASCII is written with its ASCII characters
first, and then the places and codes of the others.  Those are numbers of digits
with a changing weight: a digit below its threshold ends the number, and the
thresholds adapt to the numbers that came before.
-/

/-- Digits are the letters, and then the decimal digits. -/
def digit (n : Nat) : Char := if n < 26 then Char.ofNat (0x61 + n) else Char.ofNat (0x16 + n)

def digitValue? (c : Char) : Option Nat :=
  if 'a' ≤ c ∧ c ≤ 'z' then some (c.toNat - 0x61)
  else if 'A' ≤ c ∧ c ≤ 'Z' then some (c.toNat - 0x41)
  else if '0' ≤ c ∧ c ≤ '9' then some (c.toNat - 0x16)
  else none

/-- The threshold of a digit; places are counted in steps of 36. -/
def threshold (bias place : Nat) : Nat := max 1 (min 26 (place - bias))

/-- The digits of a number. -/
def digits (bias place number : Nat) : Text :=
  let least := threshold bias place
  if number < least then [digit number]
  else
    digit (least + (number - least) % (36 - least)) ::
      digits bias (place + 36) ((number - least) / (36 - least))
termination_by number
decreasing_by
  have positive : 1 ≤ threshold bias place := Nat.le_max_left _ _
  exact Nat.lt_of_le_of_lt (Nat.div_le_self _ _) (by omega)

/-- The number in front of a text, and what follows it.  `weight` is that of the first digit. -/
def number? (bias place weight : Nat) : Text → Option (Nat × Text)
  | [] => none
  | c :: rest => do
    let value ← digitValue? c
    let least := threshold bias place
    if value < least then return (value * weight, rest)
    else
      let (higher, rest) ← number? bias (place + 36) (weight * (36 - least)) rest
      return (value * weight + higher, rest)

/-- The bias for numbers around `size`. -/
def biasOf (size : Nat) : Nat :=
  if 455 < size then 36 + biasOf (size / 35) else 36 * size / (size + 38)
termination_by size
decreasing_by exact Nat.div_lt_self (by omega) (by omega)

/-- The bias after a number, when `count` characters are placed. -/
def nextBias (number count : Nat) (isFirst : Bool) : Nat :=
  let size := if isFirst then number / 700 else number / 2
  biasOf (size + size / count)

/-- How far the encoding of a text is. -/
structure Progress where
  written : Text
  /-- Steps since the last number: over the places of a code, then to the next code. -/
  steps : Nat
  bias : Nat
  /-- Characters that are placed. -/
  count : Nat

/-- Passes one character of the text while those of a code are placed. -/
def Progress.pass (ascii code : Nat) (progress : Progress) (c : Char) : Progress :=
  if c.toNat < code then { progress with steps := progress.steps + 1 }
  else if c.toNat = code then
    { written := progress.written ++ digits progress.bias 36 progress.steps
      steps := 0
      bias := nextBias progress.steps (progress.count + 1) (progress.count == ascii)
      count := progress.count + 1 }
  else progress

/-- Places the characters of each code in turn. -/
def encodeCodes (text : Text) (ascii : Nat) : (next : Nat) → Progress → List Nat → Progress
  | _, progress, [] => progress
  | next, progress, code :: codes =>
    let start := { progress with steps := progress.steps + (code - next) * (progress.count + 1) }
    let done := text.foldl (Progress.pass ascii code) start
    encodeCodes text ascii (code + 1) { done with steps := done.steps + 1 } codes

def isAscii (c : Char) : Bool := c.toNat < 0x80

/-- A code put into its place, unless it is there. -/
def insertCode (code : Nat) : List Nat → List Nat
  | [] => [code]
  | first :: later =>
    if code < first then code :: first :: later
    else if code = first then first :: later
    else first :: insertCode code later

/-- The text as ASCII. -/
def encode (text : Text) : Text :=
  let ascii := text.filter isAscii
  let codes := (text.filter fun c => !isAscii c).foldr (fun c => insertCode c.toNat) []
  let done := encodeCodes text ascii.length 0x80 ⟨[], 0, 72, ascii.length⟩ codes
  ascii ++ (if ascii.isEmpty then [] else ['-']) ++ done.written

/-- Puts characters into `done`, one for each number.  `code` and `place` belong to
the character before. -/
def decodeFrom? : (fuel : Nat) → (bias code place : Nat) → (isFirst : Bool) → (done : Text) →
    Text → Option Text
  | _, _, _, _, _, done, [] => some done
  | 0, _, _, _, _, _, _ :: _ => none
  | fuel + 1, bias, code, place, isFirst, done, rest => do
    let (steps, rest) ← number? bias 36 1 rest
    let room := done.length + 1
    let code := code + (place + steps) / room
    let place := (place + steps) % room
    if Nat.isValidChar code then
      decodeFrom? fuel (nextBias steps room isFirst) code (place + 1) false
        (done.take place ++ Char.ofNat code :: done.drop place) rest
    else none

/-- The text that is written as ASCII. -/
def decode? (text : Text) : Option Text :=
  if text.all isAscii then
    let (back, front) := Text.cut (· == '-') text.reverse
    decodeFrom? text.length 72 0x80 0 true (front.getD []).reverse back.reverse
  else none

end PackageRequires.Uri.Punycode
