import PackageRequires.Archive.Shelf
import PackageRequires.CommandLine

namespace PackageRequires

open CommandLine

/-! # Configuration

Archives come from the user's configuration directory, from the workspace, from
one more directory and from files that the command line names.
-/

/-- What the command line says about archives and logging. -/
structure Options where
  archives : List Text
  archiveDirectory : Option Text
  logLevel : Text
  deriving DecidableEq, Repr

/-- Where a program runs. -/
structure Surroundings where
  /-- The directory of the user's configuration files, if there is one. -/
  configDirectory : Option Text
  workingDirectory : Text

structure Configuration where
  sources : Sources
  logLevel : Text
  deriving DecidableEq, Repr

namespace Options

def archiveRule : Rule := ⟨"archive".toList, true, isPath⟩

def archiveDirectoryRule : Rule := ⟨"archive-dir".toList, false, isPath⟩

def logLevelRule : Rule := ⟨"log-level".toList, false, fun _ => true⟩

/-- The command line of the language server. -/
def grammar : Grammar := ⟨[archiveRule, archiveDirectoryRule, logLevelRule], none⟩

/-- The options of a command line that has been read. -/
def ofReading (reading : Reading) (defaultLevel : Text) : Options where
  archives := reading.values archiveRule.name
  archiveDirectory := reading.value? archiveDirectoryRule.name
  logLevel := (reading.value? logLevelRule.name).getD defaultLevel

/-- Reads the language server's arguments. -/
def read (arguments : List Text) : Except Stop Options :=
  (CommandLine.read grammar arguments).map fun reading => ofReading reading "info".toList

end Options

/-- The archive directory below another directory. -/
def archivesBelow (directory folder : Text) : Text :=
  Path.join (Path.join directory folder) "archives".toList

/-- The configuration for some options.  An empty log level stands for the usual one. -/
def Configuration.of (surroundings : Surroundings) (options : Options) : Configuration where
  sources := {
    directories :=
      surroundings.configDirectory.toList.map (archivesBelow · "pkgreq-ls".toList) ++
        [archivesBelow surroundings.workingDirectory ".pkgreq-ls".toList] ++
        options.archiveDirectory.toList
    files := options.archives }
  logLevel := if options.logLevel.isEmpty then "info".toList else options.logLevel

end PackageRequires
