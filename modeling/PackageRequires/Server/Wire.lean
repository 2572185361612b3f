import PackageRequires.Json
import PackageRequires.Server.Session
import PackageRequires.Uri

namespace PackageRequires.Server

/-! # Messages on the wire

A message has a method and parameters.  Requests and notifications are told apart
by whether the client awaits an answer; the method says which of the two it
should have been.
-/

/-- The methods that the server knows. -/
inductive Method where
  | start
  | ready
  | shutDown
  | exit
  | hover
  | completion
  | opened
  | changed
  | closed
  | cancel
  /-- A request that is not supported. -/
  | otherRequest
  /-- A notification that is ignored. -/
  | otherNotification
  deriving DecidableEq, Repr

namespace Method

/-- Requests of the protocol that are not supported. -/
def otherRequests : List String := [
  "textDocument/willSaveWaitUntil", "textDocument/declaration", "textDocument/definition",
  "textDocument/typeDefinition", "textDocument/implementation", "textDocument/references",
  "textDocument/prepareCallHierarchy", "callHierarchy/incomingCalls",
  "callHierarchy/outgoingCalls", "textDocument/prepareTypeHierarchy",
  "typeHierarchy/supertypes", "typeHierarchy/subtypes", "textDocument/documentHighlight",
  "textDocument/documentLink", "documentLink/resolve", "textDocument/codeLens",
  "codeLens/resolve", "textDocument/foldingRange", "textDocument/selectionRange",
  "textDocument/documentSymbol", "textDocument/semanticTokens/full",
  "textDocument/semanticTokens/full/delta", "textDocument/semanticTokens/range",
  "textDocument/inlineValue", "textDocument/inlayHint", "inlayHint/resolve",
  "textDocument/moniker", "completionItem/resolve", "textDocument/diagnostic",
  "workspace/diagnostic", "textDocument/signatureHelp", "textDocument/codeAction",
  "codeAction/resolve", "textDocument/documentColor", "textDocument/colorPresentation",
  "textDocument/formatting", "textDocument/rangeFormatting", "textDocument/onTypeFormatting",
  "textDocument/rename", "textDocument/prepareRename", "textDocument/linkedEditingRange",
  "workspace/symbol", "workspaceSymbol/resolve", "workspace/willCreateFiles",
  "workspace/willRenameFiles", "workspace/willDeleteFiles", "workspace/executeCommand"]

/-- Notifications of the protocol that are ignored. -/
def otherNotifications : List String := [
  "textDocument/willSave", "textDocument/didSave", "workspace/didChangeConfiguration",
  "workspace/didChangeWorkspaceFolders", "workspace/didCreateFiles",
  "workspace/didRenameFiles", "workspace/didDeleteFiles", "workspace/didChangeWatchedFiles"]

/-- The methods by their names. -/
def table : List (String × Method) :=
  [("initialize", .start), ("initialized", .ready), ("shutdown", .shutDown), ("exit", .exit),
    ("textDocument/hover", .hover), ("textDocument/completion", .completion),
    ("textDocument/didOpen", .opened), ("textDocument/didChange", .changed),
    ("textDocument/didClose", .closed), ("$/cancelRequest", .cancel)] ++
    otherRequests.map (·, .otherRequest) ++ otherNotifications.map (·, .otherNotification)

def ofName? (name : Text) : Option Method := table.lookup (String.ofList name)

end Method

/-- The name of a document, in its normal form. -/
def uriOf? (json : Json) : Option Text := do return (← Uri.parse? (← json.text?)).text

/-- The document that a record with nothing else names. -/
def identifier? (json : Json) : Option Text := do
  match ← json.members? ["uri"] with
  | [uri] => uriOf? uri
  | _ => none

/-- A number of 32 bits. -/
def index? (json : Json) : Option Nat := do
  let n ← json.nat?
  if n < 0x100000000 then return n else none

/-- A number of 32 bits, of which one is the sign. -/
def version? (json : Json) : Option Int := do
  let n ← json.int?
  if -0x80000000 ≤ n ∧ n < 0x80000000 then return n else none

def position? (json : Json) : Option Position := do
  match ← json.members? ["line", "character"] with
  | [line, character] => return ⟨← index? line, ← index? character⟩
  | _ => none

def range? (json : Json) : Option (Position × Position) := do
  match ← json.members? ["start", "end"] with
  | [start, stop] => return (← position? start, ← position? stop)
  | _ => none

/-- Whether a member is missing, or there and well formed. -/
def isOptional {α : Type} (decode? : Json → Option α) : Json → Bool
  | .null => true
  | json => (decode? json).isSome

/-- The document and the position that parameters are about. -/
def place? (parameters : Json) : Option (Text × Position) := do
  return (← identifier? (← parameters.field? "textDocument"),
    ← position? (← parameters.field? "position"))

/-- A request about a position, if the parameters name one. -/
def requestAt (parameters : Json) (request : Text → Position → Request) : Request :=
  match place? parameters with
  | some (uri, position) => request uri position
  | none => .incomplete

def opened? (parameters : Json) : Option Notification := do
  match ← parameters.members? ["textDocument"] with
  | [document] =>
    match ← document.members? ["uri", "languageId", "version", "text"] with
    | [uri, language, version, text] =>
      let _ ← version? version
      return .opened (← uriOf? uri) (← language.text?) (← text.text?)
    | _ => none
  | _ => none

/-- The text of a change.  It is the whole text of the document, whatever the range is. -/
def change? (json : Json) : Option Text := do
  match ← json.members? ["range", "rangeLength", "text"] with
  | [range, size, text] =>
    if isOptional range? range && isOptional index? size then text.text? else none
  | _ => none

def changed? (parameters : Json) : Option Notification := do
  match ← parameters.members? ["textDocument", "contentChanges"] with
  | [document, changes] =>
    match ← document.members? ["uri", "version"] with
    | [uri, version] =>
      let _ ← version? version
      return .changed (← uriOf? uri) (← (← changes.items?).mapM change?)
    | _ => none
  | _ => none

def closed? (parameters : Json) : Option Notification := do
  match ← parameters.members? ["textDocument"] with
  | [document] => return .closed (← identifier? document)
  | _ => none

/-- Whether a server is free to ignore a method. -/
def isOptionalName (name : Text) : Bool := (Text.dropFront? "$/".toList name).isSome

/-- The request of a method. -/
def requestOf (name : Text) (parameters : Json) : Option Method → Request
  | none => if isOptionalName name then .optional else .unknown
  | some .start => .start
  | some .shutDown => .shutDown
  | some .hover => requestAt parameters .hover
  | some .completion => requestAt parameters .completion
  | some .otherRequest => .unsupported
  | some .cancel => .cancellation
  | some .ready | some .exit | some .opened | some .changed | some .closed
  | some .otherNotification => .misdirected

/-- The notification of a method.  One without the parameters that it needs is ignored. -/
def notificationOf (parameters : Json) : Option Method → Notification
  | some .ready => if (parameters.members? []).isSome then .ready else .other
  | some .exit => .exit
  | some .shutDown => .shutDown
  | some .opened => (opened? parameters).getD .other
  | some .changed => (changed? parameters).getD .other
  | some .closed => (closed? parameters).getD .other
  | _ => .other

/-- A message.  The one that ends the session needs no answer, even if one is awaited. -/
def Message.of (isRequest : Bool) (name : Text) (parameters : Json) : Message :=
  let method := Method.ofName? name
  if isRequest && method ≠ some .exit then .request (requestOf name parameters method)
  else .notification (notificationOf parameters method)

/-- An object whose keys are plain. -/
def fieldsOf (fields : List (String × Json)) : Json :=
  .object (fields.map fun (key, value) => (key.toList, value))

namespace Refusal

def code : Refusal → Int
  | notStarted => -32002
  | invalidRequest => -32600
  | methodNotFound => -32601
  | invalidParameters => -32602

def message : Refusal → String
  | notStarted => "Server not initialized"
  | invalidRequest => "Invalid request"
  | methodNotFound => "Method not found"
  | invalidParameters => "Invalid params"

end Refusal

/-- What the server can do. -/
def capabilities : Json :=
  fieldsOf [
    ("capabilities", fieldsOf [
      ("completionProvider", fieldsOf [
        ("resolveProvider", .boolean false),
        ("triggerCharacters", .array [.ofString "("])]),
      ("hoverProvider", .boolean true),
      ("textDocumentSync", .ofNat 1)]),
    ("serverInfo", fieldsOf [
      ("name", .ofString "pkgreq-ls"), ("version", .ofString "0.1.0")])]

def Completion.toJson (completion : Completion) : Json :=
  fieldsOf ([
    ("label", .string completion.label), ("kind", .ofNat 9),
    ("detail", .string completion.detail)] ++
    completion.documentation.toList.map fun text => ("documentation", .string text))

/-- The part of a response that depends on the answer. -/
def Answer.member : Answer → String × Json
  | capabilities => ("result", Server.capabilities)
  | nothing => ("result", .null)
  | description text => ("result", fieldsOf [
      ("contents", fieldsOf [("kind", .ofString "markdown"), ("value", .string text)])])
  | completions items => ("result", .array (items.map Completion.toJson))
  | refused refusal => ("error", fieldsOf [
      ("code", .ofInt refusal.code), ("message", .ofString refusal.message)])
  | exited => ("error", .ofString "exited")

/-- An index on the wire has 32 bits; of a greater one, only the lowest are sent. -/
def ofIndex (index : Nat) : Json := .ofNat (index % UInt32.size)

def Position.toJson (position : Position) : Json :=
  fieldsOf [("line", ofIndex position.line), ("character", ofIndex position.character)]

def severityCode : Severity → Nat
  | .error => 1
  | .warning => 2

def Mark.toJson (mark : Mark) : Json :=
  fieldsOf [
    ("range", fieldsOf [("start", mark.start.toJson), ("end", mark.stop.toJson)]),
    ("severity", .ofNat (severityCode mark.severity)),
    ("source", .ofString "pkgreq-ls"),
    ("message", .string mark.message)]

def LogLevel.code : LogLevel → Nat
  | error => 1
  | info => 3

/-- Method and parameters of a notice. -/
def Notice.members : Notice → List (String × Json)
  | log level message => [
      ("method", .ofString "window/logMessage"),
      ("params", fieldsOf [("type", .ofNat level.code), ("message", .string message)])]
  | publish uri marks => [
      ("method", .ofString "textDocument/publishDiagnostics"),
      ("params", fieldsOf [
        ("uri", .string uri), ("diagnostics", .array (marks.map Mark.toJson))])]

/-- The name and the value of a line in front of a message. -/
def headerField (line : Text) : Text × Text :=
  let (name, value) := Text.cut (· == ':') line
  (name.map Char.toLower, Text.trim (value.getD []))

/-- The size of the message that a line in front of it announces. -/
def contentLength? (line : Text) : Option Nat :=
  match headerField line with
  | (name, value) =>
    if name = "content-length".toList then (Json.number value).nat? else none

/-- A message with the line that announces its size. -/
def frame (message : Json) : Text :=
  let body := message.compact
  "Content-Length: ".toList ++ Text.ofNat body.utf8Size ++ "\r\n\r\n".toList ++ body

/-- An object of the protocol, with the members that are common to all. -/
def envelope (members : List (String × Json)) : Json :=
  fieldsOf (("jsonrpc", .ofString "2.0") :: members)

/-- A message from the client: the request's name, if an answer is awaited, and the message. -/
def received (json : Json) : Option Json × Message :=
  let name := (((json.field? "method").bind Json.text?).getD [])
  let id := json.field? "id"
  (id, .of id.isSome name ((json.field? "params").getD .null))

/-- The frame of a notice. -/
def Notice.frame (notice : Notice) : Text := Server.frame (envelope notice.members)

/-- The frames for what a message leads to. -/
def framesOf (id : Option Json) (reaction : Reaction) : List Text :=
  reaction.notices.map Notice.frame ++
    match id, reaction.answer with
    | some id, some answer => [frame (envelope [("id", id), answer.member])]
    | _, _ => []

end PackageRequires.Server
