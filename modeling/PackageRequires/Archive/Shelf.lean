import PackageRequires.Archive.Builtin
import PackageRequires.FileSystem

namespace PackageRequires

/-! # Loading archives

A shelf is the list of archives that are in use, from the lowest priority to the
highest: the built-in one, those of the archive directories in turn, and those
named explicitly.  The catalogue takes them in this order, so that a later
package replaces an earlier one of its name.
-/

/-- Where archives are looked for. -/
structure Sources where
  directories : List Text
  files : List Text
  deriving DecidableEq, Repr

inductive Priority where
  | builtIn
  | directory
  | explicit
  deriving DecidableEq, Repr

/-- An archive in use, and where it came from. -/
structure ShelvedArchive where
  archive : Archive
  priority : Priority
  source : Option Text
  deriving DecidableEq, Repr

/-- The archives in use, the lowest priority first. -/
abbrev Shelf := List ShelvedArchive

/-- Why something could not be loaded. -/
inductive LoadError where
  | unreadableDirectory (path : Text) (cause : FileError)
  | unreadableFile (path : Text) (cause : FileError)
  | malformed (path : Text)
  deriving DecidableEq, Repr

namespace LoadError

def message : LoadError → Text
  | unreadableDirectory path cause =>
    "Failed to read archive directory: ".toList ++ path ++ ": ".toList ++ cause.message
  | unreadableFile path cause =>
    "Failed to read archive file: ".toList ++ path ++ ": ".toList ++ cause.message
  | malformed path => "Failed to parse archive TOML: ".toList ++ path

end LoadError

/-- Loads the archive file at a path. -/
def loadFile (files : FileSystem) (priority : Priority) (path : Text) :
    Except LoadError ShelvedArchive :=
  match files.read path with
  | .error cause => .error (.unreadableFile path cause)
  | .ok content =>
    match Archive.parse? content with
    | some archive => .ok ⟨archive, priority, some path⟩
    | none => .error (.malformed path)

/-- The paths of the archive files in a directory, in the order of their names.
A directory that does not exist has none. -/
def archiveFiles (files : FileSystem) (directory : Text) : Except LoadError (List Text) :=
  if !files.isPresent directory then .ok []
  else
    match files.list directory with
    | .error cause => .error (.unreadableDirectory directory cause)
    | .ok names => .ok ((names.filter Path.isArchiveName).map (Path.join directory))

/-- Loads the archive files of a directory. -/
def loadDirectory (files : FileSystem) (directory : Text) :
    List (Except LoadError ShelvedArchive) :=
  match archiveFiles files directory with
  | .error error => [.error error]
  | .ok paths => paths.map (loadFile files .directory)

/-- What comes of each file that the sources name, in order of priority. -/
def attempts (files : FileSystem) (sources : Sources) : List (Except LoadError ShelvedArchive) :=
  sources.directories.flatMap (loadDirectory files) ++
    sources.files.map (loadFile files .explicit)

namespace Shelf

/-- The built-in archive in its place. -/
def builtin : ShelvedArchive := ⟨Archive.builtin, .builtIn, none⟩

/-- Loads all archives; files that cannot be loaded are left out. -/
def load (files : FileSystem) (sources : Sources) : Shelf :=
  builtin :: (attempts files sources).filterMap Except.toOption

/-- The packages that the archives of a shelf offer. -/
def catalogue (shelf : Shelf) : Catalogue :=
  shelf.foldl (fun catalogue shelved => catalogue.addArchive shelved.archive) .empty

end Shelf

/-- The errors that loading meets, in order. -/
def loadErrors (files : FileSystem) (sources : Sources) : List LoadError :=
  (attempts files sources).filterMap fun
    | .error error => some error
    | .ok _ => none

end PackageRequires
