import PackageRequires.Checker
import PackageRequires.Configuration
import PackageRequires.Json

namespace PackageRequires

open CommandLine

/-! # The command-line checker

All files are read before anything is reported: if one of them cannot be read,
the first such file is the only thing that the program names.
-/

inductive Format where
  | text
  | json
  deriving DecidableEq, Repr

/-- What the command-line checker is asked to do. -/
structure CheckRequest where
  files : List Text
  format : Format
  options : Options
  deriving DecidableEq, Repr

/-- A diagnostic for one of the files. -/
structure Finding where
  path : Text
  diagnostic : Diagnostic
  deriving DecidableEq, Repr

/-- What a run of the program leaves: its exit code, its output and its failure. -/
structure Outcome where
  exit : Nat
  output : Text
  failure : Option Text
  deriving DecidableEq, Repr

namespace Format

def ofName? (name : Text) : Option Format :=
  if name = "text".toList then some .text
  else if name = "json".toList then some .json
  else none

end Format

namespace CheckRequest

def formatRule : Rule := ⟨"format".toList, false, fun value => (Format.ofName? value).isSome⟩

/-- The command line of the checker. -/
def grammar : Grammar := ⟨formatRule :: Options.grammar.rules, some isPath⟩

/-- Reads the checker's arguments, of which at least one must be a file. -/
def read (arguments : List Text) : Except Stop CheckRequest := do
  let reading ← CommandLine.read grammar arguments
  if reading.operands.isEmpty then .error .missingOperand
  else
    .ok {
      files := reading.operands
      format := ((reading.value? formatRule.name).bind Format.ofName?).getD .text
      options := .ofReading reading "warn".toList }

end CheckRequest

namespace Finding

/-- The line for a finding: `path:line:column: severity: message`. -/
def toText (finding : Finding) : Text :=
  let diagnostic := finding.diagnostic
  finding.path ++ ':' :: Text.ofNat diagnostic.line ++ ':' :: Text.ofNat diagnostic.column ++
    ": ".toList ++ diagnostic.severity.label ++ ": ".toList ++ diagnostic.message

def toJson (finding : Finding) : Json :=
  let diagnostic := finding.diagnostic
  .object [
    ("path".toList, .string finding.path),
    ("line".toList, .ofNat diagnostic.line),
    ("column".toList, .ofNat diagnostic.column),
    ("severity".toList, .string diagnostic.severity.label),
    ("message".toList, .string diagnostic.message)]

end Finding

/-- The findings as the program prints them. -/
def Format.render (findings : List Finding) : Format → Text
  | .text => findings.flatMap fun finding => finding.toText ++ ['\n']
  | .json => Json.pretty 0 (.array (findings.map Finding.toJson)) ++ ['\n']

/-- Reads files in order, up to the first one that cannot be read. -/
def readFiles (files : FileSystem) : (paths : List Text) → Except Text (List (Text × Text))
  | [] => .ok []
  | path :: rest =>
    match files.read path with
    | .error _ => .error path
    | .ok content => (readFiles files rest).map ((path, content) :: ·)

/-- The findings of the standard checkers for files that have been read. -/
def findingsOf (catalogue : Catalogue) (contents : List (Text × Text)) : List Finding :=
  contents.flatMap fun (path, content) =>
    (CheckerRegistry.standard.run packageMode catalogue content).map (Finding.mk path)

namespace CheckRequest

/-- Checks files against the archives of some sources. -/
def runWith (files : FileSystem) (sources : Sources) (paths : List Text) (format : Format) :
    Outcome :=
  match readFiles files paths with
  | .error path => ⟨1, [], some ("Error: Failed to read ".toList ++ path)⟩
  | .ok contents =>
    let findings := findingsOf (Shelf.load files sources).catalogue contents
    ⟨if findings.any fun finding => finding.diagnostic.isError then 1 else 0,
      format.render findings, none⟩

/-- Carries out a request. -/
def run (files : FileSystem) (surroundings : Surroundings) (request : CheckRequest) : Outcome :=
  runWith files (Configuration.of surroundings request.options).sources request.files
    request.format

end CheckRequest

/-- How the checker is called. -/
def checkUsage : Text :=
  "Usage: pkgreq-check [OPTIONS] <FILES>...\n".toList

/-- The outcome of a command line that asks for no check. -/
def stopOutcome (stop : Stop) : Outcome where
  exit := stop.exitCode
  output :=
    match stop with
    | .version => "pkgreq-check 0.1.0\n".toList
    | .help => checkUsage
    | _ => []
  failure := none

/-- The whole program. -/
def checkProgram (files : FileSystem) (surroundings : Surroundings) (arguments : List Text) :
    Outcome :=
  match CheckRequest.read arguments with
  | .error stop => stopOutcome stop
  | .ok request => request.run files surroundings

end PackageRequires
