import PackageRequires.Archive.Shelf
import PackageRequires.Checker
import PackageRequires.Server.Assistance

namespace PackageRequires.Server

/-! # Language server sessions

A session tracks the open documents and answers messages one after another.
Documents are accepted from the start; archives are loaded when the client is
ready.
-/

/-- An open document.  Its language comes from the client when it is opened. -/
structure Document where
  uri : Text
  language : Text
  text : Text
  deriving DecidableEq, Repr

/-- The stages of a session. -/
inductive Phase where
  | waiting
  | running
  | shutDown
  | exited
  deriving DecidableEq, Repr

inductive Request where
  /-- The client introduces itself. -/
  | start
  | shutDown
  | hover (uri : Text) (position : Position)
  | completion (uri : Text) (position : Position)
  /-- A request of the protocol that is not supported. -/
  | unsupported
  /-- A supported request without the parameters that it needs. -/
  | incomplete
  /-- A notification of the protocol that was sent as a request. -/
  | misdirected
  /-- The notification that cancels a request, sent as a request itself. -/
  | cancellation
  /-- Not a request of the protocol. -/
  | unknown
  /-- Not a request of the protocol, and one that a server is free to ignore. -/
  | optional
  deriving DecidableEq, Repr

inductive Notification where
  /-- The client is ready. -/
  | ready
  | opened (uri language text : Text)
  /-- A document changed; each text is the whole of it. -/
  | changed (uri : Text) (texts : List Text)
  | closed (uri : Text)
  | exit
  /-- The request to shut down, sent as a notification. -/
  | shutDown
  | other
  deriving DecidableEq, Repr

inductive Message where
  | request (request : Request)
  | notification (notification : Notification)
  deriving DecidableEq, Repr

/-- Why a request is refused. -/
inductive Refusal where
  | notStarted
  | invalidRequest
  | methodNotFound
  | invalidParameters
  deriving DecidableEq, Repr

/-- The answer to a request. -/
inductive Answer where
  | capabilities
  | nothing
  | description (text : Text)
  | completions (items : List Completion)
  | refused (refusal : Refusal)
  /-- The session is over. -/
  | exited
  deriving DecidableEq, Repr

/-- A diagnostic as an editor shows it: from a column on to the end of its line. -/
structure Mark where
  start : Position
  stop : Position
  severity : Severity
  message : Text
  deriving DecidableEq, Repr

inductive LogLevel where
  | error
  | info
  deriving DecidableEq, Repr

/-- What the server sends of its own accord. -/
inductive Notice where
  | log (level : LogLevel) (message : Text)
  | publish (uri : Text) (marks : List Mark)
  deriving DecidableEq, Repr

/-- What a message leads to: an answer, if it is a request that is not ignored, and notices. -/
structure Reaction where
  answer : Option Answer
  notices : List Notice
  deriving DecidableEq, Repr

/-- What a server works with. -/
structure Host where
  checkers : CheckerRegistry
  files : FileSystem
  sources : Sources

structure Session where
  phase : Phase
  /-- The open documents in the order of their names. -/
  documents : List Document
  shelf : Shelf
  /-- The available packages. -/
  catalogue : Catalogue

/-- A diagnostic's place in a document. -/
def markOf (document : Text) (diagnostic : Diagnostic) : Mark :=
  let line := diagnostic.line - 1
  let size := ((document.line? (line + 1)).map Text.utf16Size).getD 0
  { start := ⟨line, diagnostic.column⟩
    stop := ⟨line, max size diagnostic.column⟩
    severity := diagnostic.severity
    message := diagnostic.message }

/-- The diagnostics that a document is published with. -/
def marks (host : Host) (catalogue : Catalogue) (document : Document) : List Mark :=
  (host.checkers.run document.language catalogue document.text).map (markOf document.text)

namespace Session

def new : Session := ⟨.waiting, [], [], .empty⟩

def document? (session : Session) (uri : Text) : Option Document :=
  Keyed.find? Document.uri uri session.documents

/-- Publishes a document's diagnostics. -/
def publish (host : Host) (session : Session) (document : Document) : Notice :=
  .publish document.uri (marks host session.catalogue document)

/-- Tracks a document's text, and publishes its diagnostics. -/
def track (host : Host) (session : Session) (document : Document) : Session × List Notice :=
  ({ session with documents := Keyed.insert Document.uri document session.documents },
    [session.publish host document])

/-- What loading the archives reports: each failure, and how many packages there are. -/
def loadNotices (host : Host) (catalogue : Catalogue) : List Notice :=
  (loadErrors host.files host.sources).map (fun error => .log .error error.message) ++
    [.log .info ("Loaded ".toList ++ Text.ofNat catalogue.size ++
      " packages from package archives".toList)]

/-- Loads the archives and the packages that they offer. -/
def loadArchives (host : Host) (session : Session) : Session × List Notice :=
  let shelf := Shelf.load host.files host.sources
  ({ session with shelf, catalogue := shelf.catalogue }, loadNotices host shelf.catalogue)

/-- Loads the archives again, if they are no longer as they were loaded. -/
def refresh (host : Host) (session : Session) : Session × List Notice :=
  if session.shelf.isEmpty || Shelf.load host.files host.sources = session.shelf then (session, [])
  else session.loadArchives host

/-- The client is ready: archives are loaded, and all documents are checked again. -/
def ready (host : Host) (session : Session) : Session × List Notice :=
  let (session, loaded) := session.loadArchives host
  (session,
    loaded ++
      [.log .info ("pkgreq-ls initialized with checkers: ".toList ++
        Text.joined ", ".toList host.checkers.names)] ++
      session.documents.map (session.publish host))

/-- Takes a notification while the session is running. -/
def notify (host : Host) (session : Session) : Notification → Session × List Notice
  | .ready => session.ready host
  | .opened uri language text => session.track host ⟨uri, language, text⟩
  | .changed uri texts =>
    match texts.getLast? with
    | some text =>
      let language := ((session.document? uri).map Document.language).getD []
      session.track host ⟨uri, language, text⟩
    | none => (session, [])
  | .closed uri =>
    ({ session with documents := Keyed.erase Document.uri uri session.documents },
      [.publish uri []])
  | .shutDown => ({ session with phase := .shutDown }, [])
  | .exit | .other => (session, [])

/-- Answers a request about a document. -/
def assist (session : Session) (uri : Text) (answer : Text → Answer) : Answer :=
  match session.document? uri with
  | some document => answer document.text
  | none => .nothing

/-- Answers a request while the session is running. -/
def respond (session : Session) : Request → Session × Answer
  | .shutDown => ({ session with phase := .shutDown }, .nothing)
  | .hover uri position =>
    (session, session.assist uri fun text =>
      match hover? session.catalogue text position with
      | some description => .description description
      | none => .nothing)
  | .completion uri position =>
    (session, session.assist uri fun text =>
      match completions session.catalogue text position with
      | [] => .nothing
      | items => .completions items)
  | .start | .misdirected | .cancellation => (session, .refused .invalidRequest)
  | .incomplete => (session, .refused .invalidParameters)
  | .unsupported | .unknown | .optional => (session, .refused .methodNotFound)

/-- Answers a request before the start or after the shutdown. -/
def refuse (session : Session) (refusal : Refusal) : Request → Session × Answer
  | .start =>
    if session.phase = .waiting then ({ session with phase := .running }, .capabilities)
    else (session, .refused refusal)
  | .cancellation => (session, .refused .invalidRequest)
  | .unknown | .optional => (session, .refused .methodNotFound)
  | _ => (session, .refused refusal)

/-- Answers a request. -/
def request (session : Session) (request : Request) : Session × Answer :=
  match session.phase with
  | .waiting => session.refuse .notStarted request
  | .running => session.respond request
  | .shutDown => session.refuse .invalidRequest request
  | .exited => (session, .exited)

/-- Takes a message. -/
def step (host : Host) (session : Session) (message : Message) : Session × Reaction :=
  if session.phase = .exited then (session, ⟨some .exited, []⟩)
  else
    match message with
    | .notification .exit => ({ session with phase := .exited }, ⟨none, []⟩)
    | .notification notification =>
      if session.phase = .running then
        let (session, notices) := session.notify host notification
        (session, ⟨none, notices⟩)
      else (session, ⟨none, []⟩)
    | .request .optional => (session, ⟨none, []⟩)
    | .request request =>
      let (session, answer) := session.request request
      (session, ⟨some answer, []⟩)

/-- Takes messages one after another. -/
def run (host : Host) (session : Session) : List Message → Session × List Reaction
  | [] => (session, [])
  | message :: rest =>
    let (session, reaction) := session.step host message
    let (session, reactions) := run host session rest
    (session, reaction :: reactions)

end Session

end PackageRequires.Server
