import PackageRequires.Metadata.FileHeader
import PackageRequires.Metadata.Field
import PackageRequires.Version

namespace PackageRequires

/-! # Package metadata

A package file begins with its file header line and ends with a terminating
comment that repeats the name.  The fields in between give its version and what
it requires.
-/

structure Metadata where
  name : Text
  summary : Text
  version : Version
  requires : Option Text
  keywords : List Text
  deriving DecidableEq, Repr

/-- Why a document has no metadata. -/
inductive MetadataError where
  | missingFileHeader
  | missingTerminator (file : Text)
  | missingVersion
  /-- An extractor's own pattern for header lines is refused. -/
  | invalidPattern (reason : Text)
  deriving DecidableEq, Repr

def MetadataError.message : MetadataError → Text
  | missingFileHeader => "Package lacks a file header".toList
  | missingTerminator _ => "Package lacks a terminating comment".toList
  | missingVersion => "Package lacks a \"Version\" or \"Package-Version\" header".toList
  | invalidPattern reason => "invalid header pattern: ".toList ++ reason

namespace Metadata

/-- The lines up to the first one that holds `mark`, and that one. -/
def through? (mark : Text) : (lines : List Text) → Option (List Text)
  | [] => none
  | line :: later =>
    if Text.contains mark line then some [line] else (through? mark later).map (line :: ·)

/-- The lines from the file header through the terminating comment. -/
def block (document : Text) : Except MetadataError (FileHeader × List Text) :=
  match FileHeader.among? document.lines with
  | none => .error .missingFileHeader
  | some (header, line, later) =>
    match through? header.terminator later with
    | none => .error (.missingTerminator header.name)
    | some body => .ok (header, line :: body)

/-- A field's value without the wrapping `$Revision: ... $`. -/
def revision (value : Text) : Text :=
  let value := value.trim
  match Text.dropFront? "$Revision:".toList value with
  | some rest => (rest.dropEndWhile (· == '$')).trim
  | none => value

/-- The version that a field gives, if it is valid. -/
def version? (key : Text) (fields : List Field) : Option Version :=
  match Field.value? key fields with
  | some value => (Version.parse (revision value)).toOption
  | none => none

/-- The words of a keyword list. -/
def keywordsOf (value : Text) : List Text := value.words fun c => c == ' ' || c == ','

/-- The metadata that a file header and the fields below it give. -/
def ofFields (header : FileHeader) (fields : List Field) : Except MetadataError Metadata :=
  match (version? "package-version".toList fields).or (version? "version".toList fields) with
  | none => .error .missingVersion
  | some version => .ok {
      name := header.name
      summary := header.summary
      version
      requires := Field.value? "package-requires".toList fields
      keywords := ((Field.value? "keywords".toList fields).map keywordsOf).getD [] }

/-- The metadata of a document. -/
def extract (document : Text) : Except MetadataError Metadata :=
  match block document with
  | .error error => .error error
  | .ok (header, lines) => ofFields header (Field.ofLines lines)

end Metadata

end PackageRequires
