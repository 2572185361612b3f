import PackageRequires.Text

namespace PackageRequires.CommandLine

/-! # Command lines

Arguments are read from left to right.  An option takes its value from behind an
equals sign or from the next argument, unless that looks like an option.  A value
that is an argument of its own is judged only when the next option, the next
operand or the end is reached, so an argument that is unknown is reported first.
-/

/-- Why a command line does not start the program's work. -/
inductive Stop where
  | unknownArgument
  | invalidValue
  | repeatedOption
  | unneededValue
  | missingOperand
  | help
  | version
  deriving DecidableEq, Repr

/-- The exit code of a program that does not start its work. -/
def Stop.exitCode : Stop → Nat
  | help | version => 0
  | _ => 2

/-- An option that takes a value. -/
structure Rule where
  name : Text
  repeatable : Bool
  accepts : Text → Bool

/-- The options of a program, and what it takes as operands, if it takes any. -/
structure Grammar where
  rules : List Rule
  operand : Option (Text → Bool)

/-- An option whose value is still to come or to be judged. -/
structure Pending where
  rule : Rule
  value : Option Text

/-- What has been read so far: the options with their values, and the operands. -/
structure Reading where
  options : List (Text × Text)
  operands : List Text
  pending : Option Pending

namespace Reading

def empty : Reading := ⟨[], [], none⟩

/-- Takes a value for an option, if the option is not used up and the value fits. -/
def take (reading : Reading) (rule : Rule) (value : Text) : Except Stop Reading :=
  if !rule.repeatable && (reading.options.lookup rule.name).isSome then .error .repeatedOption
  else if !rule.accepts value then .error .invalidValue
  else .ok { reading with options := reading.options ++ [(rule.name, value)] }

/-- Judges the option that is pending. -/
def settle (reading : Reading) : Except Stop Reading :=
  match reading.pending with
  | none => .ok reading
  | some ⟨_, none⟩ => .error .invalidValue
  | some ⟨rule, some value⟩ => { reading with pending := none }.take rule value

/-- Takes an operand. -/
def takeOperand (grammar : Grammar) (reading : Reading) (operand : Text) :
    Except Stop Reading :=
  match grammar.operand with
  | none => .error .unknownArgument
  | some accepts => do
    let reading ← reading.settle
    if accepts operand then .ok { reading with operands := reading.operands ++ [operand] }
    else .error .invalidValue

/-- Stops for `help` or `version`, which take no value. -/
def stopFor (reading : Reading) (stop : Stop) (value : Option Text) : Except Stop Reading :=
  if value.isSome then .error .unneededValue
  else do
    let _ ← reading.settle
    .error stop

/-- Reads an option that is written with two dashes. -/
def takeLong (grammar : Grammar) (reading : Reading) (name : Text) (value : Option Text) :
    Except Stop Reading :=
  if name = "help".toList then reading.stopFor .help value
  else if name = "version".toList then reading.stopFor .version value
  else
    match grammar.rules.find? fun rule => rule.name == name with
    | none => .error .unknownArgument
    | some rule => do
      let reading ← reading.settle
      match value with
      | some value => reading.take rule value
      | none => .ok { reading with pending := some ⟨rule, none⟩ }

/-- Reads options that are written with one dash. -/
def takeShort (reading : Reading) (letter : Char) : Except Stop Reading :=
  if letter = 'h' then reading.stopFor .help none
  else if letter = 'V' then reading.stopFor .version none
  else .error .unknownArgument

/-- Reads an argument that does not look like an option. -/
def takePlain (grammar : Grammar) (reading : Reading) (argument : Text) :
    Except Stop Reading :=
  match reading.pending with
  | some ⟨rule, none⟩ => .ok { reading with pending := some ⟨rule, some argument⟩ }
  | _ => reading.takeOperand grammar argument

/-- Reads one argument. -/
def takeArgument (grammar : Grammar) (reading : Reading) (argument : Text) :
    Except Stop Reading :=
  match argument with
  | '-' :: '-' :: long =>
    let (name, value) := Text.cut (· == '=') long
    reading.takeLong grammar name value
  | '-' :: letter :: _ => reading.takeShort letter
  | _ => reading.takePlain grammar argument

end Reading

/-- Reads arguments; behind `--` all of them are operands. -/
def readFrom (grammar : Grammar) : Reading → List Text → Except Stop Reading
  | reading, [] => reading.settle
  | reading, argument :: rest =>
    if argument = "--".toList then do
      (← rest.foldlM (Reading.takeOperand grammar) reading).settle
    else do
      readFrom grammar (← reading.takeArgument grammar argument) rest

def read (grammar : Grammar) (arguments : List Text) : Except Stop Reading :=
  readFrom grammar .empty arguments

/-- The values of an option, in order. -/
def Reading.values (reading : Reading) (name : Text) : List Text :=
  (reading.options.filter fun option => option.1 == name).map Prod.snd

/-- The value of an option that is given at most once. -/
def Reading.value? (reading : Reading) (name : Text) : Option Text := reading.options.lookup name

/-- Paths must not be empty. -/
def isPath (value : Text) : Bool := !value.isEmpty

end PackageRequires.CommandLine
