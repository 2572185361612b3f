import PackageRequires.Text

namespace PackageRequires.Toml

/-! # TOML values

A table remembers how it came to be, because that decides what may still be
added to it.
-/

/-- How a table came to be. -/
inductive Origin where
  /-- Written between braces, and complete. -/
  | inline
  /-- Opened by a `[header]` of its own. -/
  | stated
  /-- Passed through by the header of a table inside it. -/
  | implied
  /-- Passed through by a dotted key. -/
  | dotted
  deriving DecidableEq, Repr

inductive Value where
  | string (contents : Text)
  | integer (literal : Text)
  | float (literal : Text)
  | boolean (value : Bool)
  | dateTime (literal : Text)
  | array (items : List Value)
  | table (origin : Origin) (entries : List (Text × Value))
  /-- The tables of `[[headers]]` of one name, the latest first. -/
  | tables (latestFirst : List Value)
  deriving Repr

/-- The entries of a table, in the order of their first mention. -/
abbrev Entries := List (Text × Value)

namespace Value

/-- The items of an array, or of the tables under one name, in the order of the file. -/
def items? : Value → Option (List Value)
  | array items => some items
  | tables latestFirst => some latestFirst.reverse
  | _ => none

def text? : Value → Option Text
  | string contents => some contents
  | _ => none

end Value

namespace Entries

/-- The value of a key. -/
def get? (entries : Entries) (key : Text) : Option Value := entries.lookup key

/-- Gives a key the value that `change` makes of its present one, if any. -/
def alter (key : Text) (change : Option Value → Option Value) : Entries → Option Entries
  | [] => (change none).map fun value => [(key, value)]
  | (name, value) :: rest =>
    if name = key then (change (some value)).map fun value => (name, value) :: rest
    else (alter key change rest).map ((name, value) :: ·)

/-- Gives a key a value, if it has none. -/
def define (key : Text) (value : Value) (entries : Entries) : Option Entries :=
  alter key (fun present => if present.isSome then none else some value) entries

/-- Gives a dotted key a value.  The tables on the way must be new or have no
header and braces of their own, and are dotted from then on; the latest of several
tables may be passed through, but does not take the last part. -/
def assign (value : Value) : (path : List Text) → Entries → Option Entries
  | [], _ => none
  | [key], entries => define key value entries
  | key :: next :: path, entries =>
    alter key
      (fun
        | none => (assign value (next :: path) []).map (.table .dotted)
        | some (.table origin inner) =>
          if origin = .dotted || origin = .implied then
            (assign value (next :: path) inner).map (.table .dotted)
          else none
        | some (.tables (.table origin inner :: older)) =>
          if path.isEmpty then none
          else
            (assign value (next :: path) inner).map fun inner => .tables (.table origin inner :: older)
        | some _ => none)
      entries

/-- Changes the table at a path, which goes on in the latest of several tables. -/
def within (change : Entries → Option Entries) : (path : List Text) → Entries → Option Entries
  | [], entries => change entries
  | key :: path, entries =>
    alter key
      (fun
        | none => (within change path []).map (.table .implied)
        | some (.table origin inner) =>
          if origin = .inline then none else (within change path inner).map (.table origin)
        | some (.tables (.table origin inner :: older)) =>
          (within change path inner).map fun inner => .tables (.table origin inner :: older)
        | some _ => none)
      entries

/-- Opens the table `key` for a header; a header opens a table once. -/
def openTable (key : Text) (entries : Entries) : Option Entries :=
  alter key
    (fun
      | none => some (.table .stated [])
      | some (.table .implied inner) => some (.table .stated inner)
      | some _ => none)
    entries

/-- Adds one more table under `key`. -/
def addTable (key : Text) (entries : Entries) : Option Entries :=
  alter key
    (fun
      | none => some (.tables [.table .stated []])
      | some (.tables tables) => some (.tables (.table .stated [] :: tables))
      | some _ => none)
    entries

end Entries

end PackageRequires.Toml
