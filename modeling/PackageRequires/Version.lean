import PackageRequires.Text

namespace PackageRequires

/-! # Version strings

A version such as `1.0-rc1` is read run by run: maximal runs of digits are
numbers, and the runs between them are either the separating dot or a release
marker.  The canonical text joins neighbouring numbers by dots and writes each
marker by its label.
-/

/-- Release markers, from the earliest to the latest before the release itself. -/
inductive Marker where
  | snapshot
  | alpha
  | beta
  | pre
  deriving DecidableEq, Repr

namespace Marker

/-- Sort key of a marker; every number of a release is greater. -/
def rank : Marker → Int
  | snapshot => -4
  | alpha => -3
  | beta => -2
  | pre => -1

/-- The word that stands for a marker in canonical text. -/
def label : Marker → Text
  | snapshot => "snapshot".toList
  | alpha => "alpha".toList
  | beta => "beta".toList
  | pre => "pre".toList

/-- The words that name a marker, in lower case. -/
def vocabulary : List (Text × Marker) := [
  ("snapshot".toList, snapshot),
  ("unknown".toList, snapshot),
  ("cvs".toList, snapshot),
  ("git".toList, snapshot),
  ("bzr".toList, snapshot),
  ("svn".toList, snapshot),
  ("hg".toList, snapshot),
  ("darcs".toList, snapshot),
  ("alpha".toList, alpha),
  ("beta".toList, beta),
  ("pre".toList, pre),
  ("rc".toList, pre)]

/-- The marker that a word names, in any ASCII case. -/
def ofWord? (word : Text) : Option Marker := vocabulary.lookup (word.map Char.toLower)

/-- Characters of which one may stand in front of a marker's word. -/
def isSeparator (c : Char) : Bool :=
  c == '-' || c == '.' || c == '_' || c == '+' || c == ' '

/-- The marker that a run of non-digits stands for.  A lone `-`, `_` or `+` is a
snapshot; otherwise a word, with at most one separator in front of it. -/
def ofRun? : (run : Text) → Option Marker
  | ['-'] | ['_'] | ['+'] => some snapshot
  | c :: word => ofWord? (if isSeparator c then word else c :: word)
  | [] => none

end Marker

/-- One component of a version. -/
inductive Component where
  | number (value : Nat)
  | marker (kind : Marker)
  deriving DecidableEq, Repr

/-- Sort key of a component. -/
def Component.rank : Component → Int
  | number value => value
  | marker kind => kind.rank

/-- A version, as the components that its text denotes. -/
structure Version where
  components : List Component
  deriving DecidableEq, Repr

/-- Why a text is not a version. -/
inductive VersionError where
  | empty
  | mustStartWithNumber (text : Text)
  | invalidSyntax (text : Text)
  | componentTooLarge (text : Text)
  deriving DecidableEq, Repr

namespace VersionError

/-- The wording of a rejection: the text, and what is wrong with it. -/
def wording (text reason : Text) : Text :=
  "Invalid version syntax: '".toList ++ text ++ "'".toList ++ reason

def message : VersionError → Text
  | empty => wording [] " (must start with a number)".toList
  | mustStartWithNumber text => wording text " (must start with a number)".toList
  | invalidSyntax text => wording text []
  | componentTooLarge text => wording text " (component does not fit in 63 bits)".toList

end VersionError

namespace Version

/-- The maximal runs of digits and of non-digits. -/
def runs (text : Text) : List Text := text.splitBy fun c d => c.isDigit == d.isDigit

/-- Value of a digit, and of any other character zero. -/
def digitValue (c : Char) : Nat := if c.isDigit then c.toNat - '0'.toNat else 0

/-- Value of a run of digits. -/
def numberValue (digits : Text) : Nat :=
  digits.foldl (fun value c => 10 * value + digitValue c) 0

/-- The largest number that a component can hold. -/
def largestNumber : Nat := 9223372036854775807

/-- The components of a list of runs, `text` being the whole of them.  The
leftmost run that has no meaning decides the error. -/
def componentsOf (text : Text) : List Text → Except VersionError (List Component)
  | [] => .ok []
  | run :: rest =>
    if run.all Char.isDigit then
      if numberValue run ≤ largestNumber then
        (componentsOf text rest).map (.number (numberValue run) :: ·)
      else .error (.componentTooLarge text)
    else if run = ['.'] then
      if rest.isEmpty then .error (.invalidSyntax text) else componentsOf text rest
    else
      match Marker.ofRun? run with
      | some kind => (componentsOf text rest).map (.marker kind :: ·)
      | none => .error (.invalidSyntax text)

/-- The version that a text denotes. -/
def parse : Text → Except VersionError Version
  | [] => .error .empty
  | c :: rest =>
    if c.isDigit then (componentsOf (c :: rest) (runs (c :: rest))).map Version.mk
    else .error (.mustStartWithNumber (c :: rest))

/-- Whether a text denotes a version. -/
def isValid (text : Text) : Bool :=
  match parse text with
  | .ok _ => true
  | .error _ => false

/-- Text of the components that follow a number (`afterNumber`) or anything else. -/
def render (afterNumber : Bool) : List Component → Text
  | [] => []
  | .number value :: rest =>
    (if afterNumber then ['.'] else []) ++ Text.ofNat value ++ render true rest
  | .marker kind :: rest => kind.label ++ render false rest

/-- The canonical text of a version. -/
def canonical (version : Version) : Text := render false version.components

/-- The sort keys of the components. -/
def ranks (version : Version) : List Int := version.components.map Component.rank

end Version

end PackageRequires
