import PackageRequires.Json.Reader
import PackageRequires.Report
import PackageRequires.Server.Wire

namespace PackageRequires.Main

/-! # The program

`check` checks files, and `serve` runs the language server on standard input and
output.  The files that matter are copied into a snapshot, on which everything
else works.
-/

/-- Adds what a path names to a snapshot. -/
def observe (files : FileSystem) (path : Text) : IO FileSystem := do
  if path.isEmpty then return files
  let entry := (← IO.currentDir) / String.ofList path
  let location := files.place path
  try
    if ← entry.isDir then return files.makeDirectory location
    if ← entry.pathExists then return files.write location (← IO.FS.readBinFile entry)
    return files
  catch _ => return files

/-- Adds a directory and its entries to a snapshot. -/
def observeDirectory (files : FileSystem) (path : Text) : IO FileSystem := do
  let files ← observe files path
  let entry := (← IO.currentDir) / String.ofList path
  if !path.isEmpty && (← entry.isDir) then
    let names := (← entry.readDir).toList.map fun child => child.fileName.toList
    names.foldlM (fun files name => observe files (Path.join path name)) files
  else return files

/-- A snapshot of the sources of archives and of some more files. -/
def snapshot (sources : Sources) (more : List Text) : IO FileSystem := do
  let here := Path.parts (← IO.currentDir).toString.toList
  let bare : FileSystem := ⟨[], here⟩
  let files ← sources.directories.foldlM observeDirectory (bare.makeDirectory here)
  (sources.files ++ more).foldlM observe files

/-- Where the program runs. -/
def surroundings : IO Surroundings := do
  let home := (← IO.getEnv "HOME").map fun home => Path.join home.toList ".config".toList
  let config := (← IO.getEnv "XDG_CONFIG_HOME").map String.toList
  return ⟨(config.filter Path.isAbsolute).or home, (← IO.currentDir).toString.toList⟩

/-- Checks files. -/
def check (arguments : List Text) : IO UInt32 := do
  let here ← surroundings
  let files ← match CheckRequest.read arguments with
    | .ok request => snapshot (Configuration.of here request.options).sources request.files
    | .error _ => pure ⟨[], []⟩
  let outcome := checkProgram files here arguments
  IO.print (String.ofList outcome.output)
  if let some failure := outcome.failure then IO.eprintln (String.ofList failure)
  return UInt32.ofNat outcome.exit

/-- Reads the lines in front of a message, and returns the size of the message. -/
partial def readSize (input : IO.FS.Stream) (size : Option Nat) : IO (Option Nat) := do
  let line ← input.getLine
  if line.isEmpty then return none
  let text := Text.trim line.toList
  if text.isEmpty then return size
  readSize input ((Server.contentLength? text).or size)

/-- Reads some bytes. -/
partial def readBytes (input : IO.FS.Stream) (size : Nat) (bytes : ByteArray) : IO ByteArray := do
  if size ≤ bytes.size then return bytes
  let more ← input.read (USize.ofNat (size - bytes.size))
  if more.isEmpty then return bytes
  readBytes input size (bytes ++ more)

/-- Answers messages until the input or the session ends. -/
partial def converse (input output : IO.FS.Stream) (sources : Sources)
    (session : Server.Session) : IO Unit := do
  if session.phase = .exited then return
  let some size ← readSize input none | return
  let bytes ← readBytes input size .empty
  match (Text.ofUtf8? bytes).bind Json.parse? with
  | none => converse input output sources session
  | some json =>
    let (id, message) := Server.received json
    let host : Server.Host := ⟨.standard, ← snapshot sources [], sources⟩
    let (session, notices) := session.refresh host
    let (session, reaction) := session.step host message
    for frame in notices.map Server.Notice.frame ++ Server.framesOf id reaction do
      output.putStr (String.ofList frame)
    output.flush
    converse input output sources session

/-- Runs the language server. -/
def serve (arguments : List Text) : IO UInt32 := do
  match Options.read arguments with
  | .error stop => return UInt32.ofNat stop.exitCode
  | .ok options =>
    let sources := (Configuration.of (← surroundings) options).sources
    converse (← IO.getStdin) (← IO.getStdout) sources .new
    return 0

end PackageRequires.Main

def main (arguments : List String) : IO UInt32 :=
  match arguments with
  | "serve" :: rest => PackageRequires.Main.serve (rest.map String.toList)
  | "check" :: rest => PackageRequires.Main.check (rest.map String.toList)
  | _ => do
    IO.eprintln "usage: pkgreq (check | serve) [ARGUMENTS]"
    return 2
