import PackageRequires.Uri.Percent

namespace PackageRequires.Uri

/-! # Segments of a path

A path is a list of segments.  One dot stands for the place where it is, and two
dots for the place above.  Tabs and line ends inside of a path count for nothing,
except directly behind a drive.
-/

/-- The characters that count for nothing inside of a URI. -/
def isBreak (c : Char) : Bool := c == '\t' || c == '\n' || c == '\r'

/-- The text without tabs and line ends. -/
def unbroken (text : Text) : Text := text.filter fun c => !isBreak c

/-- The characters between segments. -/
def isSlash (isSpecial : Bool) (c : Char) : Bool := c == '/' || (isSpecial && c == '\\')

/-- What follows a slash at the front. -/
def afterSlash? (isSpecial : Bool) (text : Text) : Option Text :=
  match text.dropWhile isBreak with
  | [] => none
  | c :: rest => if isSlash isSpecial c then some rest else none

/-- The part of a text before the first slash, and the part from there on. -/
def atSlash (isSpecial : Bool) (text : Text) : Text × Text :=
  (text.takeWhile fun c => !isSlash isSpecial c, text.dropWhile fun c => !isSlash isSpecial c)

inductive Segment where
  | name (text : Text)
  /-- The drive that a file is on. -/
  | drive (letter : Char)
  deriving DecidableEq, Repr

def Segment.text : Segment → Text
  | name text => text
  | drive letter => [letter, ':']

/-- Whether a letter and a mark could be those of a drive. -/
def marksDrive (letter mark : Char) : Bool := letter.isAlpha && (mark == ':' || mark == '|')

/-- The letter, if a text is the name of a drive. -/
def drive? : Text → Option Char
  | [letter, mark] => if marksDrive letter mark then some letter else none
  | _ => none

/-- The letter of a drive, and what follows the tab or line end directly behind its colon. -/
def brokenDrive? (text : Text) : Option (Char × Text) :=
  match text.dropWhile isBreak with
  | [] => none
  | letter :: rest =>
    match rest.dropWhile isBreak with
    | ':' :: mark :: rest =>
      if letter.isAlpha && isBreak mark && !(unbroken rest).isEmpty then
        some (letter, unbroken rest)
      else none
    | _ => none

/-- Whether two dots do not leave a segment, because it begins like a drive. -/
def isKept : Text → Bool
  | [letter, mark] => marksDrive letter mark
  | letter :: mark :: c :: _ => marksDrive letter mark && c == '\\'
  | _ => false

/-- How many dots a segment is made of, which may be escaped. -/
def dots? : Text → Option Nat
  | [] => some 0
  | '.' :: rest => (dots? rest).map (· + 1)
  | '%' :: '2' :: 'e' :: rest => (dots? rest).map (· + 1)
  | '%' :: '2' :: 'E' :: rest => (dots? rest).map (· + 1)
  | _ => none

/-- The place above one, both given by their segments in reverse. -/
def leave : (place : List Segment) → List Segment
  | [] => []
  | last :: above => if isKept last.text then last :: above else above

/-- Whether a segment stands for a place that is there already. -/
def isDots (segment : Text) : Bool := dots? segment = some 1 || dots? segment = some 2

/-- The place that a segment leads to.  A file is on a drive if the path starts with
one; a drive that is broken off is a name like the one behind it. -/
def enter (isFile : Bool) (place : List Segment) (segment : Text) : List Segment :=
  let text := unbroken segment
  let inside := .name (escaped pathMarks text) :: place
  if dots? text = some 1 then place
  else if dots? text = some 2 then leave place
  else if isFile && place.isEmpty then
    match drive? text, brokenDrive? segment with
    | some letter, _ => [.drive letter]
    | none, some (letter, rest) => [.name (escaped pathMarks rest), .name [letter, ':']]
    | none, none => inside
  else inside

/-- The place that segments lead to from another one.  Dots at the end leave an
empty segment. -/
def follow (isFile : Bool) : (place : List Segment) → List Text → List Segment
  | place, [] => place.reverse
  | place, [last] =>
    let place := enter isFile place last
    if isDots (unbroken last) then (.name [] :: place).reverse else place.reverse
  | place, segment :: rest => follow isFile (enter isFile place segment) rest

/-- A path from the root. -/
def pathText (segments : List Segment) : Text :=
  '/' :: Text.joined ['/'] (segments.map Segment.text)

/-- A path from the root, which may start with a slash or without one. -/
def rooted (isSpecial : Bool) (text : Text) : Text :=
  let inner := (afterSlash? isSpecial text).getD text
  pathText (follow false [] (Text.split (isSlash isSpecial) inner))

/-- The segments of a file's path, behind its first slash. -/
def fileSegments (text : Text) : List Segment := follow true [] (Text.split (isSlash true) text)

end PackageRequires.Uri
