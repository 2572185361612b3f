import PackageRequires.Archive.Shelf

namespace PackageRequires

/-! # Keeping a shelf up to date

A library loads its shelf on demand and, once it watches its sources, after each
change that it is told of.  What it holds is always the whole load of one
snapshot of the files: the archives, and the packages that they offer.
-/

/-- A shelf over changing files. -/
structure Library where
  sources : Sources
  files : FileSystem
  shelf : Shelf
  /-- The available packages. -/
  catalogue : Catalogue
  /-- The directories and files that are watched. -/
  watched : List Location

namespace Library

/-- A library that has loaded nothing yet. -/
def new (sources : Sources) (files : FileSystem) : Library := ⟨sources, files, [], .empty, []⟩

/-- Loads the shelf anew, and the catalogue with it. -/
def reload (library : Library) : Library :=
  let shelf := Shelf.load library.files library.sources
  { library with shelf, catalogue := shelf.catalogue }

theorem catalogue_reload (library : Library) :
    library.reload.catalogue = library.reload.shelf.catalogue := rfl

/-- The places to watch: the directories and files of the sources that exist. -/
def places (files : FileSystem) (sources : Sources) : List Location :=
  (sources.directories ++ sources.files).filterMap fun path => (files.locate path).toOption

/-- Loads the shelf and begins to watch. -/
def watch (library : Library) : Library :=
  { library.reload with watched := places library.files library.sources }

/-- Whether a change at a location is noticed: it must be watched itself or be
directly inside a watched directory, and have the name of an archive file. -/
def notices (watched : List Location) (location : Location) : Bool :=
  (location.getLast?.any Path.isArchiveName) &&
    (watched.contains location || watched.contains location.dropLast)

/-- Takes over the files after some locations have changed, and loads the shelf
anew if a change is noticed. -/
def update (library : Library) (files : FileSystem) (changed : List Location) : Library :=
  let library := { library with files }
  if changed.any (notices library.watched) then library.reload else library

/-- A file is written. -/
def write (library : Library) (path : Text) (bytes : ByteArray) : Library :=
  let location := library.files.place path
  library.update (library.files.write location bytes)
    (library.files.newDirectories location ++ [location])

/-- A file or directory is removed, and is watched no longer. -/
def remove (library : Library) (path : Text) : Library :=
  let location := library.files.place path
  let gone := (library.files.nodes.map Prod.fst).filter (FileSystem.isWithin · location)
  let library := library.update (library.files.remove location) gone
  { library with watched := library.watched.filter fun place => !gone.contains place }

end Library

end PackageRequires
