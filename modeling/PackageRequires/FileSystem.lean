import PackageRequires.Path

namespace PackageRequires

/-! # The file system

A snapshot of files and directories.  A location is the list of names from the
root to an entry; a path is resolved to a location part by part, and each part
but the last must be a directory that exists.
-/

/-- The names from the root to an entry. -/
abbrev Location := List Text

inductive Node where
  | directory
  | file (bytes : ByteArray)

/-- Why a path cannot be read. -/
inductive FileError where
  | notFound
  | notADirectory
  | isADirectory
  | notUtf8
  deriving DecidableEq, Repr

def FileError.message : FileError → Text
  | notFound => "No such file or directory (os error 2)".toList
  | notADirectory => "Not a directory (os error 20)".toList
  | isADirectory => "Is a directory (os error 21)".toList
  | notUtf8 => "stream did not contain valid UTF-8".toList

/-- Files and directories, and where relative paths start. -/
structure FileSystem where
  nodes : List (Location × Node)
  workingDirectory : Location

namespace FileSystem

/-- What is at a location.  The root is always a directory. -/
def node? (files : FileSystem) (location : Location) : Option Node :=
  if location.isEmpty then some .directory else files.nodes.lookup location

/-- Follows the parts of a path from a location. -/
def follow (files : FileSystem) (here : Location) : List Text → Except FileError Location
  | [] => .ok here
  | part :: rest =>
    match files.node? here with
    | none => .error .notFound
    | some (.file _) => .error .notADirectory
    | some .directory =>
      if part = ".".toList then follow files here rest
      else if part = "..".toList then follow files here.dropLast rest
      else if (files.node? (here ++ [part])).isSome then follow files (here ++ [part]) rest
      else .error .notFound

/-- The location that a path names. -/
def locate (files : FileSystem) (path : Text) : Except FileError Location :=
  if path.isEmpty then .error .notFound
  else
    files.follow (if Path.isAbsolute path then [] else files.workingDirectory)
      (Path.parts path ++ if Path.endsInSlash path then [".".toList] else [])

/-- Whether a path names anything. -/
def isPresent (files : FileSystem) (path : Text) : Bool := (files.locate path).toOption.isSome

/-- The text of the file at a path. -/
def read (files : FileSystem) (path : Text) : Except FileError Text :=
  match files.locate path with
  | .error error => .error error
  | .ok location =>
    match files.node? location with
    | some (.file bytes) =>
      match Text.ofUtf8? bytes with
      | some text => .ok text
      | none => .error .notUtf8
    | some .directory => .error .isADirectory
    | none => .error .notFound

/-- The names of the entries of a directory. -/
def children (files : FileSystem) (directory : Location) : List Text :=
  files.nodes.filterMap fun (location, _) =>
    if location.dropLast = directory then location.getLast? else none

/-- The names of the entries of the directory at a path, in order. -/
def list (files : FileSystem) (path : Text) : Except FileError (List Text) :=
  match files.locate path with
  | .error error => .error error
  | .ok location =>
    match files.node? location with
    | some .directory => .ok ((files.children location).mergeSort fun a b => !Text.isBefore b a)
    | some (.file _) => .error .notADirectory
    | none => .error .notFound

/-- The location that a path would name if every directory on it existed. -/
def place (files : FileSystem) (path : Text) : Location :=
  (Path.parts path).foldl
    (fun here part =>
      if part = ".".toList then here else if part = "..".toList then here.dropLast
      else here ++ [part])
    (if Path.isAbsolute path then [] else files.workingDirectory)

/-- Puts a node at a location, instead of the one that is there. -/
def put (files : FileSystem) (location : Location) (node : Node) : FileSystem :=
  { files with
    nodes :=
      if (files.nodes.lookup location).isSome then
        files.nodes.map fun entry => if entry.1 = location then (location, node) else entry
      else files.nodes ++ [(location, node)] }

/-- The locations on the way from the root to a location, itself excluded. -/
def ancestors (location : Location) : List Location :=
  (List.range (location.length - 1)).map fun depth => location.take (depth + 1)

/-- The directories that are made so that a location's parent exists. -/
def newDirectories (files : FileSystem) (location : Location) : List Location :=
  (ancestors location).filter fun ancestor => (files.node? ancestor).isNone

/-- Makes a directory, and those on the way to it. -/
def makeDirectory (files : FileSystem) (location : Location) : FileSystem :=
  (files.newDirectories location ++ if (files.node? location).isNone then [location] else []).foldl
    (fun files location => files.put location .directory) files

/-- Writes a file, and makes the directories on the way to it. -/
def write (files : FileSystem) (location : Location) (bytes : ByteArray) : FileSystem :=
  ((files.newDirectories location).foldl (fun files location => files.put location .directory)
    files).put location (.file bytes)

/-- Whether a location is at or below another one. -/
def isWithin (location top : Location) : Bool := top.isPrefixOf location

/-- Removes what is at a location, and everything below it. -/
def remove (files : FileSystem) (location : Location) : FileSystem :=
  { files with nodes := files.nodes.filter fun entry => !isWithin entry.1 location }

end FileSystem

end PackageRequires
