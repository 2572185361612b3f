import PackageRequires.Text

namespace PackageRequires.Path

/-! # Paths

A path is kept as it was written, because reports show it so.
-/

/-- The parts of a path between its slashes. -/
def parts (path : Text) : List Text := path.words (· == '/')

def isAbsolute (path : Text) : Bool := path.head? == some '/'

/-- Whether a path can only name a directory, as it ends in a slash. -/
def endsInSlash (path : Text) : Bool := path.getLast? == some '/'

/-- The path of an entry of a directory. -/
def join (directory name : Text) : Text :=
  if directory.isEmpty || endsInSlash directory then directory ++ name
  else directory ++ '/' :: name

/-- What follows the last dot of a file's name, unless the dot is the first character. -/
def extension? (name : Text) : Option Text :=
  match Text.cut (· == '.') name.reverse with
  | (reversed, some (_ :: _)) => some reversed.reverse
  | _ => none

/-- Whether a file's name is that of an archive file. -/
def isArchiveName (name : Text) : Bool := extension? name == some "toml".toList

end PackageRequires.Path
