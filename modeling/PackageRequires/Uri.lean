import PackageRequires.Uri.Host
import PackageRequires.Uri.Segments

namespace PackageRequires

/-! # URIs

Documents are named by URIs, and two spellings of one URI name one document.  A
URI is therefore kept in its normal form: the scheme and the host in lower case,
the path without dots, and characters escaped where they have to be.
-/

/-- A URI in its normal form. -/
structure Uri where
  scheme : Text
  authority : Option Text
  path : Text
  query : Option Text
  fragment : Option Text
  deriving DecidableEq, Repr

namespace Uri

/-- The special schemes, with the ports that they use if none is given. -/
def specialSchemes : List (String × Option Nat) :=
  [("http", some 80), ("https", some 443), ("ws", some 80), ("wss", some 443), ("ftp", some 21),
    ("file", none)]

def isSpecialScheme (scheme : Text) : Bool :=
  (specialSchemes.lookup (String.ofList scheme)).isSome

/-- Which of the ports a scheme uses if none is given. -/
def usualPort? (scheme : Text) : Option Nat :=
  (specialSchemes.lookup (String.ofList scheme)).join

/-- The text of a URI.  A path that starts with two slashes is kept apart from an
authority by a dot. -/
def text (uri : Uri) : Text :=
  let front := match uri.authority with
    | some authority => "//".toList ++ authority
    | none => if (Text.dropFront? "//".toList uri.path).isSome then "/.".toList else []
  uri.scheme ++ ':' :: front ++ uri.path ++
    ((uri.query.map fun query => '?' :: query).getD []) ++
    ((uri.fragment.map fun fragment => '#' :: fragment).getD [])

def isSchemeCharacter (c : Char) : Bool := c.isAlphanum || c == '+' || c == '-' || c == '.'

/-- A scheme, and what follows its colon. -/
def scheme? (text : Text) : Option (Text × Text) :=
  match Text.cut (· == ':') text with
  | (_, none) => none
  | (front, some rest) =>
    let name := unbroken front
    if (name.head?.any Char.isAlpha) && name.all isSchemeCharacter then
      some (name.map Char.toLower, rest)
    else none

/-- The name and the password of a user, in front of the host. -/
def user (text : Text) : Text :=
  let (name, password) := Text.cut (· == ':') text
  let secret := match password with
    | none | some [] => []
    | some password => ':' :: escaped userMarks password
  let both := escaped userMarks name ++ secret
  if both.isEmpty then [] else both ++ ['@']

/-- A host, and what stands behind the first colon that no bracket encloses. -/
def cutPort : (enclosed : Bool) → Text → Text × Option Text
  | _, [] => ([], none)
  | enclosed, c :: rest =>
    if c == ':' && !enclosed then ([], some rest)
    else
      let (host, portDigits) := cutPort (c == '[' || (enclosed && c != ']')) rest
      (c :: host, portDigits)

/-- A colon and the digits behind it, and what follows them.  Both are left out for
what the scheme uses anyway. -/
def portPart? (scheme : Text) (text : Text) : Option (Text × Text) := do
  let digits := text.takeWhile Char.isDigit
  let rest := text.dropWhile Char.isDigit
  let number ← Text.numeral? 10 digits
  if 0xFFFF < number || (rest != [] && rest.head? != some '\\') then none
  else if digits.isEmpty || usualPort? scheme = some number then return ([], rest)
  else return (':' :: Text.ofNat number, rest)

/-- A user, a host and what stands behind its colon, and the start of a path that
follows a backslash.  A user or a colon needs a host, and so does a special scheme; a
mark for a user without a name stands alone only if the URI ends with it. -/
def authority? (scheme : Text) (isLast : Bool) (text : Text) : Option (Text × Text) := do
  let (hostAndPort, userText) := match Text.cut (· == '@') text.reverse with
    | (back, some front) => (back.reverse, some front.reverse)
    | (back, none) => (back.reverse, none)
  let name := (userText.map user).getD []
  let (host, portDigits) := cutPort false hostAndPort
  if host.isEmpty && (isSpecialScheme scheme || !name.isEmpty || portDigits.isSome ||
      (userText = some [] && !isLast)) then none
  else
    let host ← host? (isSpecialScheme scheme) host
    let (portText, rest) ← portPart? scheme (portDigits.getD [])
    return (name ++ host ++ portText, rest)

/-- The path of a file, which starts with one slash only. -/
def filePath (segments : List Segment) : Text :=
  '/' :: (pathText segments).dropWhile (· == '/')

/-- Whether a path starts with a drive. -/
def isOnDrive (segments : List Segment) : Bool :=
  match segments with
  | .drive _ :: _ => true
  | _ => false

/-- A file on a machine.  The drives of all machines are one's own. -/
def fileOn (host : Text) (segments : List Segment) : Text × Text :=
  (if isOnDrive segments then [] else host, filePath segments)

/-- Authority and path of a file behind two slashes.  The machine itself needs no name,
and a drive is not a host. -/
def hostedFile? (text : Text) : Option (Text × Text) :=
  let (front, path) := atSlash true text
  let host := unbroken front
  if (drive? host).isSome then some (fileOn [] (fileSegments text))
  else if host.isEmpty then some (fileOn [] (fileSegments path))
  else do
    let name ← specialHost? host
    if name = "localhost".toList then return fileOn [] (fileSegments path)
    else return fileOn name (fileSegments ((afterSlash? true path).getD path))

/-- Authority and path of a file. -/
def fileParts? (text : Text) : Option (Text × Text) :=
  match afterSlash? true text with
  | none => some (fileOn [] (fileSegments text))
  | some inner =>
    match afterSlash? true inner with
    | none => some (fileOn [] (fileSegments inner))
    | some rest => hostedFile? rest

/-- Authority and path of a URI whose scheme is special, and not that of files. -/
def specialParts? (scheme text : Text) : Option (Text × Text) := do
  let (front, path) := atSlash true (text.dropWhile fun c => isSlash true c || isBreak c)
  let (authority, rest) ← authority? scheme false (unbroken front)
  return (authority, rooted true (rest ++ path))

/-- Authority and path of a URI whose scheme is not special.  Without a slash the path
is any text. -/
def plainParts? (scheme : Text) (isLast : Bool) (text : Text) : Option (Option Text × Text) :=
  match afterSlash? false text with
  | none => some (none, escaped [] (unbroken text))
  | some inner =>
    match afterSlash? false inner with
    | none => some (none, rooted false inner)
    | some rest => do
      let (front, tail) := atSlash false rest
      let (authority, start) ← authority? scheme (isLast && tail.isEmpty) (unbroken front)
      let path := start ++ tail
      return (some authority, if path.isEmpty then [] else rooted false path)

/-- Authority and path of a URI; `isLast` says that nothing follows the path. -/
def parts? (scheme : Text) (isLast : Bool) (text : Text) : Option (Option Text × Text) :=
  if scheme = "file".toList then
    (fileParts? text).map fun (authority, path) => (some authority, path)
  else if isSpecialScheme scheme then
    (specialParts? scheme text).map fun (authority, path) => (some authority, path)
  else plainParts? scheme isLast text

/-- The normal form of a URI.  Controls and spaces at its ends do not belong to it. -/
def parse? (text : Text) : Option Uri := do
  let (scheme, rest) ← scheme? (Text.trimWhile (·.toNat ≤ 0x20) text)
  let (rest, fragment) := Text.cut (· == '#') rest
  let (rest, query) := Text.cut (· == '?') rest
  let (authority, path) ← parts? scheme (fragment.isNone && query.isNone) rest
  return {
    scheme, authority, path
    query := query.map fun query => escaped (queryMarks (isSpecialScheme scheme)) (unbroken query)
    fragment := fragment.map fun fragment => escaped fragmentMarks (unbroken fragment) }

end Uri

end PackageRequires
