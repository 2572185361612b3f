import Mathlib.Data.List.TakeWhile
import PackageRequires.Server.Session

namespace PackageRequires.Server

/-! # What a session keeps in step

A session's life cycle decides which notifications are heard, and nothing else
changes its documents and archives.  What was heard so far fixes the documents,
and what was last published for each document fits them and the archives.
-/

/-! ## The life cycle -/

def Message.notification? : Message → Option Notification
  | .notification heard => some heard
  | .request _ => none

/-- A message that ends the work, as a request or as a notification. -/
def Message.EndsWork (message : Message) : Prop :=
  message = .request .shutDown ∨ message = .notification .shutDown

instance : DecidablePred Message.EndsWork := fun _ => inferInstanceAs (Decidable (_ ∨ _))

/-- The phase that a message leads to. -/
def Phase.after (phase : Phase) (message : Message) : Phase :=
  if message = .notification .exit then .exited
  else
    match phase with
    | .waiting => if message = .request .start then .running else .waiting
    | .running => if message.EndsWork then .shutDown else .running
    | .shutDown => .shutDown
    | .exited => .exited

/-- The notification that a message brings in a phase. -/
def Phase.hears (phase : Phase) (message : Message) : Option Notification :=
  if phase = .running ∧ message ≠ .notification .exit ∧ ¬ message.EndsWork then
    message.notification?
  else none

/-- The notifications that messages bring, from a phase on. -/
def Phase.hearsAll : Phase → List Message → List Notification
  | _, [] => []
  | phase, message :: rest => (phase.hears message).toList ++ (phase.after message).hearsAll rest

/-- The notifications between the start and the shutdown or exit. -/
def heardIn (messages : List Message) : List Notification :=
  let untilExit := messages.takeWhile fun message => message ≠ .notification .exit
  let started := (untilExit.dropWhile fun message => message ≠ .request .start).tail
  (started.takeWhile fun message => ¬ message.EndsWork).filterMap Message.notification?

theorem hearsAll_append (phase : Phase) (front back : List Message) :
    phase.hearsAll (front ++ back) =
      phase.hearsAll front ++ (front.foldl Phase.after phase).hearsAll back := by
  induction front generalizing phase with
  | nil => rfl
  | cons message front ih => simp [Phase.hearsAll, ih]

theorem hearsAll_exited (messages : List Message) : Phase.exited.hearsAll messages = [] := by
  induction messages with
  | nil => rfl
  | cons message rest ih => simp [Phase.hearsAll, Phase.hears, Phase.after, ih]

theorem hearsAll_shutDown (messages : List Message) : Phase.shutDown.hearsAll messages = [] := by
  induction messages with
  | nil => rfl
  | cons message rest ih =>
      by_cases exits : message = .notification .exit <;>
        simp [Phase.hearsAll, Phase.hears, Phase.after, exits, hearsAll_exited, ih]

theorem hearsAll_running (messages : List Message) :
    Phase.running.hearsAll messages =
      ((messages.takeWhile fun message => message ≠ .notification .exit).takeWhile fun message =>
        ¬ message.EndsWork).filterMap Message.notification? := by
  induction messages with
  | nil => rfl
  | cons message rest ih =>
      by_cases exits : message = .notification .exit
      · simp [Phase.hearsAll, Phase.hears, Phase.after, exits, hearsAll_exited]
      · by_cases ends : message.EndsWork
        · simp [Phase.hearsAll, Phase.hears, Phase.after, exits, ends, hearsAll_shutDown]
        · cases found : message.notification? <;>
            simp [Phase.hearsAll, Phase.hears, Phase.after, exits, ends, found, ih]

theorem hearsAll_waiting (messages : List Message) :
    Phase.waiting.hearsAll messages = heardIn messages := by
  induction messages with
  | nil => rfl
  | cons message rest ih =>
      by_cases exits : message = .notification .exit
      · simp [Phase.hearsAll, Phase.hears, Phase.after, heardIn, exits, hearsAll_exited]
      · by_cases starts : message = .request .start
        · simp [Phase.hearsAll, Phase.hears, Phase.after, heardIn, starts, hearsAll_running]
        · simp [Phase.hearsAll, Phase.hears, Phase.after, heardIn, exits, starts, ih]

namespace Session

variable {host : Host} {session : Session} {uri : Text} {heard : List Notification}
  {sent : List Notice}

/-- Takes a notification if there is one. -/
def hear (host : Host) (session : Session) : Option Notification → Session × List Notice
  | some notification => session.notify host notification
  | none => (session, [])

theorem notify_keeps_phase (host : Host) (session : Session) {notification : Notification}
    (continues : notification ≠ .shutDown) :
    session.notify host notification =
      ({ (session.notify host notification).1 with phase := session.phase },
        (session.notify host notification).2) := by
  cases notification with
  | changed uri texts => cases found : texts.getLast? <;> simp [notify, found, track]
  | shutDown => exact absurd rfl continues
  | _ => rfl

/-- All that a step does to a session: it hears a notification and goes on in the
life cycle. -/
theorem step_eq (host : Host) (session : Session) (message : Message) :
    (session.step host message).1 =
        { (session.hear host (session.phase.hears message)).1 with
          phase := session.phase.after message } ∧
      (session.step host message).2.notices =
        (session.hear host (session.phase.hears message)).2 := by
  obtain ⟨phase, documents, shelf, catalogue⟩ := session
  cases message with
  | request request => cases phase <;> cases request <;> exact ⟨rfl, rfl⟩
  | notification notification =>
      cases phase with
      | running =>
          by_cases ends : notification = .exit ∨ notification = .shutDown
          · rcases ends with rfl | rfl <;> exact ⟨rfl, rfl⟩
          · obtain ⟨notExit, notShutDown⟩ := not_or.mp ends
            simp only [step, Phase.hears, Phase.after, Message.EndsWork, Message.notification?, hear,
              Message.notification.injEq, notExit, notShutDown, reduceCtorEq, ne_eq, not_false_eq_true,
              or_self, and_self, if_true, if_false]
            rw [notify_keeps_phase host _ notShutDown]
            exact ⟨rfl, trivial⟩
      | waiting => cases notification <;> exact ⟨rfl, rfl⟩
      | shutDown => cases notification <;> exact ⟨rfl, rfl⟩
      | exited => cases notification <;> exact ⟨rfl, rfl⟩

theorem phase_step (host : Host) (session : Session) (message : Message) :
    (session.step host message).1.phase = session.phase.after message := by
  rw [(step_eq host session message).1]

end Session

/-! ## The documents that were described -/

/-- The text that a notification gives a document, which is that of its last change. -/
def Notification.text? (uri : Text) : Notification → Option Text
  | .opened name _ text => if name = uri then some text else none
  | .changed name texts => if name = uri then texts.getLast? else none
  | _ => none

/-- The language that a notification gives a document. -/
def Notification.language? (uri : Text) : Notification → Option Text
  | .opened name language _ => if name = uri then some language else none
  | _ => none

/-- What was heard since a document was last closed, the latest first. -/
def sinceClosed (uri : Text) (heard : List Notification) : List Notification :=
  heard.reverse.takeWhile fun notification => notification ≠ .closed uri

/-- A document with the latest text and the latest language since it was closed,
and with no language if it was not opened. -/
def described? (uri : Text) (heard : List Notification) : Option Document :=
  ((sinceClosed uri heard).findSome? (Notification.text? uri)).map fun text =>
    ⟨uri, ((sinceClosed uri heard).findSome? (Notification.language? uri)).getD [], text⟩

section Described

variable {uri : Text} {heard : List Notification} {notification : Notification}

theorem sinceClosed_concat :
    sinceClosed uri (heard ++ [notification]) =
      if notification = .closed uri then [] else notification :: sinceClosed uri heard := by
  by_cases closes : notification = .closed uri <;> simp [sinceClosed, closes]

theorem language?_of_text? (silent : notification.text? uri = none) :
    notification.language? uri = none := by
  cases notification <;> simp_all [Notification.text?, Notification.language?]

theorem language_described? (uri : Text) (heard : List Notification) :
    ((described? uri heard).map Document.language).getD [] =
      ((sinceClosed uri heard).findSome? (Notification.language? uri)).getD [] := by
  cases found : (sinceClosed uri heard).findSome? (Notification.text? uri) with
  | some text => simp [described?, found]
  | none =>
      have silent : (sinceClosed uri heard).findSome? (Notification.language? uri) = none := by
        rw [List.findSome?_eq_none_iff] at found ⊢
        intro notification member
        exact language?_of_text? (found notification member)
      simp [described?, found, silent]

theorem described?_opened (language text : Text) :
    described? uri (heard ++ [.opened uri language text]) = some ⟨uri, language, text⟩ := by
  simp [described?, sinceClosed_concat, Notification.text?, Notification.language?]

theorem described?_changed {texts : List Text} {text : Text} (last : texts.getLast? = some text) :
    described? uri (heard ++ [.changed uri texts]) =
      some ⟨uri, ((described? uri heard).map Document.language).getD [], text⟩ := by
  rw [language_described?]
  simp [described?, sinceClosed_concat, List.findSome?_cons, Notification.text?,
    Notification.language?, last]

theorem described?_closed : described? uri (heard ++ [.closed uri]) = none := by
  simp [described?, sinceClosed_concat]

theorem described?_of_silent (silent : notification.text? uri = none)
    (keeps : notification ≠ .closed uri) :
    described? uri (heard ++ [notification]) = described? uri heard := by
  simp [described?, sinceClosed_concat, keeps, silent, language?_of_text? silent]

theorem isSome_text?_iff : (notification.text? uri).isSome = true ↔
    (∃ language text, notification = .opened uri language text) ∨
      ∃ texts, texts ≠ [] ∧ notification = .changed uri texts := by
  cases notification with
  | opened name language text => by_cases same : name = uri <;> simp [Notification.text?, same]
  | changed name texts => by_cases same : name = uri <;> simp [Notification.text?, same]
  | _ => simp [Notification.text?]

theorem isSome_described?_iff : (described? uri heard).isSome = true ↔
    ∃ notification ∈ sinceClosed uri heard, (notification.text? uri).isSome = true := by
  rw [described?, Option.isSome_map, List.findSome?_isSome_iff]

/-- A document that was described stays so until it is closed. -/
theorem closed_mem_of_forgotten {before : List Notification} (starts : before <+: heard)
    (described : (described? uri before).isSome = true) (forgotten : described? uri heard = none) :
    .closed uri ∈ heard := by
  apply Decidable.byContradiction
  intro neverClosed
  obtain ⟨notification, recent, gives⟩ := isSome_described?_iff.mp described
  have whole : sinceClosed uri heard = heard.reverse := by
    rw [sinceClosed, List.takeWhile_eq_self_iff]
    intro earlier member
    have different : earlier ≠ .closed uri := by
      intro same
      exact neverClosed (same ▸ List.mem_reverse.mp member)
    simpa using different
  have member : notification ∈ sinceClosed uri heard := by
    rw [whole, List.mem_reverse]
    exact starts.subset (List.mem_reverse.mp (List.takeWhile_subset _ recent))
  have still := isSome_described?_iff.mpr ⟨notification, member, gives⟩
  simp [forgotten] at still

end Described

/-! ## What was published -/

/-- The diagnostics that a notice publishes for a document. -/
def Notice.marksFor? (uri : Text) : Notice → Option (List Mark)
  | .publish name marks => if name = uri then some marks else none
  | .log _ _ => none

/-- What is published for a document, one publication after another. -/
def publishedFor (uri : Text) (notices : List Notice) : List (List Mark) :=
  notices.filterMap (Notice.marksFor? uri)

/-- What was published last for a document. -/
def lastPublished? (uri : Text) (sent : List Notice) : Option (List Mark) :=
  sent.reverse.findSome? (Notice.marksFor? uri)

theorem lastPublished?_eq_getLast? (uri : Text) (sent : List Notice) :
    lastPublished? uri sent = (publishedFor uri sent).getLast? := by
  rw [lastPublished?, publishedFor, ← List.head?_filterMap, List.filterMap_reverse,
    List.head?_reverse]

theorem publishedFor_append (uri : Text) (sent more : List Notice) :
    publishedFor uri (sent ++ more) = publishedFor uri sent ++ publishedFor uri more :=
  List.filterMap_append

@[simp] theorem lastPublished?_append (uri : Text) (sent more : List Notice) :
    lastPublished? uri (sent ++ more) = (lastPublished? uri more).or (lastPublished? uri sent) := by
  simp [lastPublished?, List.findSome?_append]

@[simp] theorem lastPublished?_singleton (uri : Text) (notice : Notice) :
    lastPublished? uri [notice] = notice.marksFor? uri := by
  cases found : notice.marksFor? uri <;> simp [lastPublished?, found]

/-- A document's name is not among those of the documents behind it. -/
theorem find?_behind {document : Document} {documents : List Document}
    (ascending : Keyed.Ascending Document.uri (document :: documents)) :
    Keyed.find? Document.uri document.uri documents = none := by
  rw [Keyed.find?, List.find?_eq_none]
  intro other member same
  have before := (List.pairwise_cons.mp ascending).1 other member
  rw [beq_iff_eq.mp same, Text.isBefore_irrefl] at before
  cases before

/-- Of documents with different names, each is published once. -/
theorem publishedFor_documents {documents : List Document}
    (ascending : Keyed.Ascending Document.uri documents) (published : Document → List Mark)
    (uri : Text) :
    publishedFor uri (documents.map fun document => .publish document.uri (published document)) =
      ((Keyed.find? Document.uri uri documents).map published).toList := by
  induction documents with
  | nil => rfl
  | cons document documents ih =>
      have later := (List.pairwise_cons.mp ascending).2
      have rest := ih later
      rw [publishedFor] at rest ⊢
      rw [List.map_cons, List.filterMap_cons, rest]
      by_cases hit : document.uri = uri
      · have alone : Keyed.find? Document.uri uri documents = none := hit ▸ find?_behind ascending
        rw [alone]
        simp [Notice.marksFor?, Keyed.find?, hit]
      · simp [Notice.marksFor?, Keyed.find?, hit]

/-- When the client is ready, each document is published once, with the archives loaded. -/
theorem publishedFor_ready {session : Session}
    (ascending : Keyed.Ascending Document.uri session.documents) (host : Host) (uri : Text) :
    publishedFor uri (session.ready host).2 =
      ((session.document? uri).map
        (marks host (Shelf.load host.files host.sources).catalogue)).toList := by
  have documents := publishedFor_documents ascending
    (marks host (session.ready host).1.catalogue) uri
  have logged : publishedFor uri (Session.loadNotices host (session.ready host).1.catalogue) = [] := by
    simp [publishedFor, Session.loadNotices, Notice.marksFor?]
  change publishedFor uri (Session.loadNotices host (session.ready host).1.catalogue ++
    [.log _ _] ++ session.documents.map fun document =>
      .publish document.uri (marks host (session.ready host).1.catalogue document)) = _
  rw [publishedFor_append, publishedFor_append, logged, documents]
  rfl

/-- What the client should have been told last about a document: its diagnostics,
or that it has none any more. -/
def Session.due? (host : Host) (heard : List Notification) (session : Session) (uri : Text) :
    Option (List Mark) :=
  match session.document? uri with
  | some document => some (marks host session.catalogue document)
  | none => if .closed uri ∈ heard then some [] else none

/-- The session's archives, its documents and what it sent agree with what it heard. -/
structure InStep (host : Host) (heard : List Notification) (session : Session)
    (sent : List Notice) : Prop where
  ascending : Keyed.Ascending Document.uri session.documents
  shelf : session.shelf = if .ready ∈ heard then Shelf.load host.files host.sources else []
  catalogue : session.catalogue = session.shelf.catalogue
  documents : ∀ uri, session.document? uri = described? uri heard
  published : ∀ uri, lastPublished? uri sent = session.due? host heard uri

namespace InStep

variable {host : Host} {session : Session} {heard : List Notification} {sent : List Notice}

theorem new (host : Host) : InStep host [] .new [] where
  ascending := List.Pairwise.nil
  shelf := rfl
  catalogue := rfl
  documents _ := rfl
  published _ := rfl

variable (inStep : InStep host heard session sent)
include inStep

theorem inPhase (phase : Phase) : InStep host heard { session with phase } sent :=
  ⟨inStep.ascending, inStep.shelf, inStep.catalogue, inStep.documents, inStep.published⟩

/-- A notification that is neither about documents nor about archives. -/
theorem ignore {notification : Notification} (silent : ∀ uri, notification.text? uri = none)
    (keeps : ∀ uri, notification ≠ .closed uri) (quiet : notification ≠ .ready) :
    InStep host (heard ++ [notification]) session sent where
  ascending := inStep.ascending
  shelf := by simp [inStep.shelf, quiet.symm]
  catalogue := inStep.catalogue
  documents uri := by rw [described?_of_silent (silent uri) (keeps uri), inStep.documents]
  published uri := by
    simp [inStep.published, Session.due?, (keeps uri).symm]

theorem track {notification : Notification} {document : Document}
    (described : described? document.uri (heard ++ [notification]) = some document)
    (silent : ∀ uri, uri ≠ document.uri → notification.text? uri = none)
    (keeps : ∀ uri, notification ≠ .closed uri) (quiet : notification ≠ .ready) :
    InStep host (heard ++ [notification]) (session.track host document).1
      (sent ++ (session.track host document).2) := by
  have found (uri : Text) : (session.track host document).1.document? uri =
      if document.uri = uri then some document else session.document? uri :=
    Keyed.find?_insert Document.uri document session.documents uri
  refine ⟨Keyed.ascending_insert _ inStep.ascending document, ?_, inStep.catalogue, ?_, ?_⟩
  · simpa [Session.track, quiet.symm] using inStep.shelf
  · intro uri
    rw [found]
    split
    · rename_i same
      rw [← same, described]
    · rename_i other
      rw [described?_of_silent (silent uri (Ne.symm other)) (keeps uri), inStep.documents]
  · intro uri
    have same : (session.track host document).1.catalogue = session.catalogue := rfl
    rw [lastPublished?_append, Session.due?, found, same]
    by_cases hit : document.uri = uri
    · simp [Session.track, Session.publish, Notice.marksFor?, hit]
    · simp [Session.track, Session.publish, Notice.marksFor?, hit, inStep.published, Session.due?,
        (keeps uri).symm]

theorem ready :
    InStep host (heard ++ [.ready]) (session.ready host).1 (sent ++ (session.ready host).2) := by
  have found (uri : Text) : (session.ready host).1.document? uri = session.document? uri := rfl
  have republished (uri : Text) : lastPublished? uri (session.ready host).2 =
      (session.document? uri).map (marks host (session.ready host).1.catalogue) := by
    rw [lastPublished?_eq_getLast?, publishedFor_ready inStep.ascending]
    cases session.document? uri <;> rfl
  refine ⟨inStep.ascending, ?_, rfl, ?_, ?_⟩
  · simp [Session.ready, Session.loadArchives]
  · intro uri
    rw [described?_of_silent rfl (by simp), found, inStep.documents]
  · intro uri
    rw [lastPublished?_append, republished, inStep.published, Session.due?, Session.due?, found]
    cases session.document? uri <;> simp

theorem closed (uri : Text) :
    InStep host (heard ++ [.closed uri]) (session.notify host (.closed uri)).1
      (sent ++ (session.notify host (.closed uri)).2) := by
  have found (name : Text) : (session.notify host (.closed uri)).1.document? name =
      if name = uri then none else session.document? name :=
    Keyed.find?_erase Document.uri session.documents uri name
  refine ⟨Keyed.ascending_erase _ inStep.ascending uri, ?_, inStep.catalogue, ?_, ?_⟩
  · simpa [Session.notify] using inStep.shelf
  · intro name
    rw [found]
    split
    · rename_i same
      rw [same, described?_closed]
    · rename_i other
      have keeps : Notification.closed uri ≠ .closed name := by simpa using Ne.symm other
      rw [described?_of_silent rfl keeps, inStep.documents]
  · intro name
    have same : (session.notify host (.closed uri)).1.catalogue = session.catalogue := rfl
    rw [lastPublished?_append, Session.due?, found, same]
    by_cases hit : name = uri
    · simp [Session.notify, Notice.marksFor?, hit]
    · simp [Session.notify, Notice.marksFor?, hit, Ne.symm hit, inStep.published, Session.due?]

theorem notify (notification : Notification) :
    InStep host (heard ++ [notification]) (session.notify host notification).1
      (sent ++ (session.notify host notification).2) := by
  cases notification with
  | ready => exact inStep.ready
  | opened uri language text =>
      apply inStep.track (described?_opened language text) ?_ (by simp) (by simp)
      intro name other
      simp [Notification.text?, other.symm]
  | changed uri texts =>
      cases last : texts.getLast? with
      | none =>
          have nothing : session.notify host (.changed uri texts) = (session, []) := by
            simp [Session.notify, last]
          rw [nothing, List.append_nil]
          exact inStep.ignore (by simp [Notification.text?, last]) (by simp) (by simp)
      | some text =>
          have tracks : session.notify host (.changed uri texts) = session.track host
              ⟨uri, ((described? uri heard).map Document.language).getD [], text⟩ := by
            simp [Session.notify, last, inStep.documents]
          rw [tracks]
          apply inStep.track (described?_changed last) ?_ (by simp) (by simp)
          intro name other
          simp [Notification.text?, other.symm]
  | closed uri => exact inStep.closed uri
  | shutDown =>
      rw [Session.notify, List.append_nil]
      exact (inStep.ignore (fun _ => rfl) (by simp) (by simp)).inPhase .shutDown
  | exit =>
      rw [Session.notify, List.append_nil]
      exact inStep.ignore (fun _ => rfl) (by simp) (by simp)
  | other =>
      rw [Session.notify, List.append_nil]
      exact inStep.ignore (fun _ => rfl) (by simp) (by simp)

/-- Every step keeps the agreement, whatever phase it leads to. -/
theorem step (message : Message) :
    InStep host (heard ++ (session.phase.hears message).toList) (session.step host message).1
      (sent ++ (session.step host message).2.notices) := by
  obtain ⟨after, notices⟩ := Session.step_eq host session message
  rw [after, notices]
  cases session.phase.hears message with
  | none =>
      rw [Session.hear, Option.toList_none, List.append_nil, List.append_nil]
      exact inStep.inPhase _
  | some notification => exact (inStep.notify notification).inPhase _

theorem run (messages : List Message) :
    InStep host (heard ++ session.phase.hearsAll messages) (session.run host messages).1
      (sent ++ (session.run host messages).2.flatMap Reaction.notices) := by
  induction messages generalizing session heard sent with
  | nil => simpa [Session.run, Phase.hearsAll] using inStep
  | cons message rest ih =>
      have next := ih (inStep.step message)
      rw [Session.phase_step] at next
      simpa [Session.run, Phase.hearsAll] using next

end InStep

/-- How a session from its beginning stands after any messages. -/
theorem inStep_run (host : Host) (messages : List Message) :
    InStep host (heardIn messages) (Session.new.run host messages).1
      ((Session.new.run host messages).2.flatMap Reaction.notices) := by
  rw [← hearsAll_waiting]
  exact (InStep.new host).run messages

theorem heardIn_of_isPrefix {before messages : List Message} (starts : before <+: messages) :
    heardIn before <+: heardIn messages := by
  obtain ⟨rest, rfl⟩ := starts
  rw [← hearsAll_waiting, ← hearsAll_waiting, hearsAll_append]
  exact List.prefix_append _ _

/-- Loading again finds nothing new as long as the files stay as they are. -/
theorem InStep.refresh_eq {host : Host} {session : Session} {heard : List Notification}
    {sent : List Notice} (inStep : InStep host heard session sent) :
    session.refresh host = (session, []) := by
  have settled : session.shelf.isEmpty = true ∨
      Shelf.load host.files host.sources = session.shelf := by
    rw [inStep.shelf]
    split <;> simp
  rw [Session.refresh, if_pos (by simpa using settled)]

/-- After any messages, what a session holds and what it published last for each
document are fixed by the notifications that it heard. -/
theorem publications_in_step (host : Host) (messages : List Message) :
    let session := (Session.new.run host messages).1
    let sent := (Session.new.run host messages).2.flatMap Reaction.notices
    let heard := heardIn messages
    session.catalogue = (if .ready ∈ heard then (Shelf.load host.files host.sources).catalogue
      else .empty) ∧
    session.refresh host = (session, []) ∧
    ∀ uri,
      ((session.document? uri).isSome = true ↔ ∃ notification ∈ sinceClosed uri heard,
        (∃ language text, notification = .opened uri language text) ∨
          ∃ texts, texts ≠ [] ∧ notification = .changed uri texts) ∧
      session.document? uri = described? uri heard ∧
      (∀ document, session.document? uri = some document →
        lastPublished? uri sent = some ((host.checkers.run document.language session.catalogue
          document.text).map (markOf document.text))) ∧
      (session.document? uri = none →
        (∃ before, before <+: messages ∧
          ((Session.new.run host before).1.document? uri).isSome = true) →
        lastPublished? uri sent = some []) := by
  intro session sent heard
  have inStep : InStep host heard session sent := inStep_run host messages
  refine ⟨?_, inStep.refresh_eq, fun uri => ⟨?_, inStep.documents uri, ?_, ?_⟩⟩
  · rw [inStep.catalogue, inStep.shelf]
    split <;> rfl
  · simp only [inStep.documents, isSome_described?_iff, isSome_text?_iff]
  · intro document tracked
    rw [inStep.published, Session.due?, tracked]
    rfl
  · intro untracked wasTracked
    obtain ⟨before, starts, described⟩ := wasTracked
    rw [(inStep_run host before).documents] at described
    have forgotten : described? uri heard = none := by rw [← inStep.documents, untracked]
    have closed := closed_mem_of_forgotten (heardIn_of_isPrefix starts) described forgotten
    rw [inStep.published, Session.due?, untracked]
    exact if_pos closed

/-- One document is changed without having been opened and closed again, another one
is opened before the archives are loaded. -/
theorem publications_in_step_two_documents :
    let host : Host := ⟨.standard, ⟨[], []⟩, ⟨[], []⟩⟩
    let before : List Message := [.request .start,
      .notification (.changed "file:///a.el".toList ["a".toList, "b".toList]),
      .notification (.opened "file:///c.el".toList packageMode "c".toList)]
    let messages := before ++ [.notification .ready, .notification (.closed "file:///a.el".toList)]
    let session := (Session.new.run host messages).1
    let sent := (Session.new.run host messages).2.flatMap Reaction.notices
    session.document? "file:///c.el".toList =
        some ⟨"file:///c.el".toList, packageMode, "c".toList⟩ ∧
      lastPublished? "file:///c.el".toList sent = some ((host.checkers.run packageMode
        session.catalogue "c".toList).map (markOf "c".toList)) ∧
      ((Session.new.run host before).1.document? "file:///a.el".toList).isSome = true ∧
      session.document? "file:///a.el".toList = none ∧
      lastPublished? "file:///a.el".toList sent = some [] := by
  intro host before messages session sent
  have opened : session.document? "file:///c.el".toList =
      some ⟨"file:///c.el".toList, packageMode, "c".toList⟩ := by decide
  have wasTracked : ((Session.new.run host before).1.document? "file:///a.el".toList).isSome = true :=
    by decide
  have untracked : session.document? "file:///a.el".toList = none := by decide
  obtain ⟨_, _, documents⟩ := publications_in_step host messages
  exact ⟨opened, (documents _).2.2.1 _ opened, wasTracked, untracked,
    (documents _).2.2.2 untracked ⟨before, List.prefix_append _ _, wasTracked⟩⟩

end PackageRequires.Server
