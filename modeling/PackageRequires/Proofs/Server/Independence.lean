import PackageRequires.Proofs.Keyed
import PackageRequires.Proofs.Server.Session

namespace PackageRequires

/-! # Documents that do not interfere

What a client is told about one document depends on the life cycle, the archives
and that document alone.  Two sessions that agree on these (`AgreeOn`) still do
after any message about the document, and a message about another one changes
nothing here.  So the messages about other documents can be left out of a run.
-/

namespace Server

attribute [ext] Reaction Session

/-! ## Messages about a document -/

def Request.uri? : Request → Option Text
  | .hover uri _ => some uri
  | .completion uri _ => some uri
  | _ => none

def Notification.uri? : Notification → Option Text
  | .opened uri _ _ => some uri
  | .changed uri _ => some uri
  | .closed uri => some uri
  | _ => none

/-- The document that a message names. -/
def Message.uri? : Message → Option Text
  | .request asked => asked.uri?
  | .notification told => told.uri?

/-- A message that starts the session, says that the client is ready, or ends the work. -/
def Message.IsLifeCycle (message : Message) : Prop :=
  message = .request .start ∨ message = .notification .ready ∨ message.EndsWork ∨
    message = .notification .exit

/-- A message that names the document or belongs to the life cycle. -/
def Message.Concerns (uri : Text) (message : Message) : Prop :=
  message.IsLifeCycle ∨ message.uri? = some uri

instance (uri : Text) : DecidablePred (Message.Concerns uri) := fun message =>
  inferInstanceAs (Decidable ((message = _ ∨ message = _ ∨ message.EndsWork ∨ message = _) ∨ _ = _))

/-- The messages that concern a document, each with its answer if it gets one. -/
def answersAbout (uri : Text) (messages : List Message) (reactions : List Reaction) :
    List (Message × Option Answer) :=
  ((messages.zip reactions).filter fun (message, _) => message.Concerns uri).map
    fun (message, reaction) => (message, reaction.answer)

/-! ## What a notification does to one document -/

/-- What a notification makes of a document. -/
def Notification.revised (uri : Text) (document : Option Document) :
    Notification → Option Document
  | .opened name language text => if name = uri then some ⟨uri, language, text⟩ else document
  | .changed name texts =>
    match texts.getLast? with
    | some text =>
      if name = uri then some ⟨uri, (document.map Document.language).getD [], text⟩ else document
    | none => document
  | .closed name => if name = uri then none else document
  | _ => document

theorem Notification.revised_of_ne {uri : Text} {notification : Notification}
    (other : notification.uri? ≠ some uri) (document : Option Document) :
    notification.revised uri document = document := by
  cases notification with
  | opened name language text => simp_all [revised, uri?]
  | changed name texts => cases found : texts.getLast? <;> simp_all [revised, uri?]
  | closed name => simp_all [revised, uri?]
  | _ => rfl

namespace Session

variable {host : Host} {session : Session} {uri : Text}

/-- The documents are in the order of their names. -/
def Ordered (session : Session) : Prop := Keyed.Ascending Document.uri session.documents

theorem ordered_new : new.Ordered := List.Pairwise.nil

theorem document?_track (document : Document) :
    (session.track host document).1.document? uri =
      if document.uri = uri then some document else session.document? uri :=
  Keyed.find?_insert Document.uri document session.documents uri

theorem document?_notify (host : Host) (session : Session) (uri : Text)
    (notification : Notification) :
    (session.notify host notification).1.document? uri =
      notification.revised uri (session.document? uri) := by
  cases notification with
  | opened name language text =>
      rw [notify, document?_track, Notification.revised]
      split
      · rename_i same
        rw [← same]
      · rfl
  | changed name texts =>
      cases last : texts.getLast? with
      | none => simp [notify, Notification.revised, last]
      | some text =>
          simp only [notify, Notification.revised, last, document?_track]
          split
          · rename_i same
            rw [← same]
          · rfl
  | closed name =>
      have found := Keyed.find?_erase Document.uri session.documents name uri
      simp only [notify, Notification.revised, document?, found, eq_comm]
  | _ => rfl

/-- The archives are loaded when the client is ready, and at no other time. -/
theorem archives_notify (host : Host) (session : Session) (notification : Notification) :
    (session.notify host notification).1.shelf =
        (if notification = .ready then Shelf.load host.files host.sources else session.shelf) ∧
      (session.notify host notification).1.catalogue =
        if notification = .ready then (Shelf.load host.files host.sources).catalogue
        else session.catalogue := by
  cases notification with
  | changed name texts => cases last : texts.getLast? <;> simp [notify, last, track]
  | _ => exact ⟨rfl, rfl⟩

theorem Ordered.notify (ordered : session.Ordered) (host : Host) (notification : Notification) :
    (session.notify host notification).1.Ordered := by
  cases notification with
  | opened name language text => exact Keyed.ascending_insert _ ordered _
  | changed name texts =>
      cases last : texts.getLast? with
      | none => simpa [Session.notify, last] using ordered
      | some text =>
          simp only [Session.notify, last]
          exact Keyed.ascending_insert _ ordered _
  | closed name => exact Keyed.ascending_erase _ ordered name
  | _ => exact ordered

theorem publishedFor_notify_of_ne {notification : Notification}
    (other : notification.uri? ≠ some uri) (quiet : notification ≠ .ready) :
    publishedFor uri (session.notify host notification).2 = [] := by
  cases notification with
  | ready => exact absurd rfl quiet
  | opened name language text =>
      simp_all [Notification.uri?, notify, track, publish, publishedFor, Notice.marksFor?]
  | changed name texts =>
      cases last : texts.getLast? <;>
        simp_all [Notification.uri?, notify, track, publish, publishedFor, Notice.marksFor?]
  | closed name => simp_all [Notification.uri?, notify, publishedFor, Notice.marksFor?]
  | _ => rfl

/-! ## What a step does to one document -/

theorem document?_step (host : Host) (session : Session) (uri : Text) (message : Message) :
    (session.step host message).1.document? uri =
      (session.phase.hears message).elim (session.document? uri)
        (Notification.revised uri (session.document? uri)) := by
  rw [(step_eq host session message).1]
  cases session.phase.hears message with
  | none => rfl
  | some told => exact document?_notify host session uri told

theorem archives_step (host : Host) (session : Session) (message : Message) :
    (session.step host message).1.shelf =
        (if session.phase.hears message = some .ready then Shelf.load host.files host.sources
        else session.shelf) ∧
      (session.step host message).1.catalogue =
        if session.phase.hears message = some .ready then
          (Shelf.load host.files host.sources).catalogue
        else session.catalogue := by
  rw [(step_eq host session message).1]
  cases session.phase.hears message with
  | none => exact ⟨rfl, rfl⟩
  | some told =>
      simp only [Option.some.injEq]
      exact archives_notify host session told

theorem Ordered.step (ordered : session.Ordered) (host : Host) (message : Message) :
    (session.step host message).1.Ordered := by
  rw [(step_eq host session message).1]
  cases session.phase.hears message with
  | none => exact ordered
  | some told => exact ordered.notify host told

theorem answer_step_notification (host : Host) (session : Session) (told : Notification) :
    (session.step host (.notification told)).2.answer =
      if session.phase = .exited then some .exited else none := by
  obtain ⟨phase, documents, shelf, catalogue⟩ := session
  cases phase <;> cases told <;> rfl

theorem Ordered.run (ordered : session.Ordered) (host : Host) (messages : List Message) :
    (session.run host messages).1.Ordered := by
  induction messages generalizing session with
  | nil => exact ordered
  | cons message messages ih => exact ih (ordered.step host message)

end Session

theorem Phase.hears_eq_some {phase : Phase} {message : Message} {told : Notification}
    (heard : phase.hears message = some told) : message = .notification told := by
  rw [Phase.hears] at heard
  split at heard
  · cases message with
    | request asked => cases heard
    | notification heardNow =>
        cases heard
        rfl
  · cases heard

theorem Phase.hears_of_not_concerns {uri : Text} {phase : Phase} {message : Message}
    {told : Notification} (other : ¬ message.Concerns uri) (heard : phase.hears message = some told) :
    told.uri? ≠ some uri ∧ told ≠ .ready := by
  obtain rfl := Phase.hears_eq_some heard
  refine ⟨fun names => other (.inr names), ?_⟩
  intro ready
  subst ready
  exact other (.inl (.inr (.inl rfl)))

theorem Phase.not_hears_ready {uri : Text} {message : Message} (other : ¬ message.Concerns uri)
    (phase : Phase) : phase.hears message ≠ some .ready :=
  fun heard => (hears_of_not_concerns other heard).2 rfl

theorem Phase.after_of_not_concerns {uri : Text} {message : Message}
    (other : ¬ message.Concerns uri) (phase : Phase) : phase.after message = phase := by
  obtain ⟨notCycle, -⟩ := not_or.mp other
  simp only [Message.IsLifeCycle, not_or] at notCycle
  obtain ⟨notStart, -, goesOn, notExit⟩ := notCycle
  cases phase <;> simp [Phase.after, notStart, goesOn, notExit]

/-! ## Sessions that agree on a document -/

/-- The sessions are in the same phase and have the same archives and the same text
under one name. -/
structure AgreeOn (uri : Text) (left right : Session) : Prop where
  phase : left.phase = right.phase
  shelf : left.shelf = right.shelf
  catalogue : left.catalogue = right.catalogue
  document : left.document? uri = right.document? uri
  leftOrdered : left.Ordered
  rightOrdered : right.Ordered

namespace AgreeOn

variable {host : Host} {uri : Text} {left right other : Session} {message : Message}

theorem refl {session : Session} (ordered : session.Ordered) : AgreeOn uri session session :=
  ⟨rfl, rfl, rfl, rfl, ordered, ordered⟩

theorem symm (agree : AgreeOn uri left right) : AgreeOn uri right left :=
  ⟨agree.phase.symm, agree.shelf.symm, agree.catalogue.symm, agree.document.symm,
    agree.rightOrdered, agree.leftOrdered⟩

theorem trans (first : AgreeOn uri left right) (second : AgreeOn uri right other) :
    AgreeOn uri left other :=
  ⟨first.phase.trans second.phase, first.shelf.trans second.shelf,
    first.catalogue.trans second.catalogue, first.document.trans second.document,
    first.leftOrdered, second.rightOrdered⟩

theorem step (agree : AgreeOn uri left right) (host : Host) (message : Message) :
    AgreeOn uri (left.step host message).1 (right.step host message).1 where
  phase := by rw [Session.phase_step, Session.phase_step, agree.phase]
  shelf := by
    rw [(Session.archives_step host left message).1, (Session.archives_step host right message).1,
      agree.phase, agree.shelf]
  catalogue := by
    rw [(Session.archives_step host left message).2, (Session.archives_step host right message).2,
      agree.phase, agree.catalogue]
  document := by rw [Session.document?_step, Session.document?_step, agree.phase, agree.document]
  leftOrdered := agree.leftOrdered.step host message
  rightOrdered := agree.rightOrdered.step host message

/-- A message about another document changes nothing for this one. -/
theorem step_of_not_concerns {session : Session} (ordered : session.Ordered) (host : Host)
    (elsewhere : ¬ message.Concerns uri) :
    AgreeOn uri (session.step host message).1 session where
  phase := by rw [Session.phase_step, Phase.after_of_not_concerns elsewhere]
  shelf := by
    rw [(Session.archives_step host session message).1,
      if_neg (Phase.not_hears_ready elsewhere session.phase)]
  catalogue := by
    rw [(Session.archives_step host session message).2,
      if_neg (Phase.not_hears_ready elsewhere session.phase)]
  document := by
    rw [Session.document?_step]
    cases heard : session.phase.hears message with
    | none => rfl
    | some told => exact Notification.revised_of_ne (Phase.hears_of_not_concerns elsewhere heard).1 _
  leftOrdered := ordered.step host message
  rightOrdered := ordered

theorem assist (agree : AgreeOn uri left right) (answer : Text → Answer) :
    left.assist uri answer = right.assist uri answer := by
  rw [Session.assist, Session.assist, agree.document]

theorem respond (agree : AgreeOn uri left right) {asked : Request}
    (names : ∀ name ∈ asked.uri?, name = uri) :
    (left.respond asked).2 = (right.respond asked).2 := by
  have known := agree.catalogue
  cases asked with
  | hover name position =>
      obtain rfl := names name rfl
      simp only [Session.respond, known, agree.assist]
  | completion name position =>
      obtain rfl := names name rfl
      simp only [Session.respond, known, agree.assist]
  | _ => rfl

theorem answer (agree : AgreeOn uri left right) (host : Host)
    (names : ∀ name ∈ message.uri?, name = uri) :
    (left.step host message).2.answer = (right.step host message).2.answer := by
  cases message with
  | request asked =>
      have responded := agree.respond names
      have same := agree.phase
      obtain ⟨phase, leftDocuments, leftShelf, leftCatalogue⟩ := left
      obtain ⟨phase', rightDocuments, rightShelf, rightCatalogue⟩ := right
      obtain rfl : phase = phase' := same
      cases phase with
      | running => cases asked <;> first | rfl | exact congrArg some responded
      | _ => cases asked <;> rfl
  | notification told =>
      rw [Session.answer_step_notification, Session.answer_step_notification, agree.phase]

theorem notify_notices (agree : AgreeOn uri left right) (host : Host) {told : Notification}
    (names : told.uri? = some uri) :
    (left.notify host told).2 = (right.notify host told).2 := by
  have known := agree.catalogue
  cases told with
  | opened name language text => simp only [Session.notify, Session.track, Session.publish, known]
  | changed name texts =>
      cases names
      cases last : texts.getLast? <;>
        simp only [Session.notify, last, agree.document, Session.track, Session.publish, known]
  | closed name => rfl
  | _ => cases names

/-- A message about a document leads to the same wherever the session agrees on it. -/
theorem reaction (agree : AgreeOn uri left right) (host : Host) (names : message.uri? = some uri) :
    (left.step host message).2 = (right.step host message).2 := by
  apply Reaction.ext
  · apply agree.answer host
    intro name found
    exact Option.some.inj (found.symm.trans names)
  · rw [(Session.step_eq host left message).2, (Session.step_eq host right message).2, agree.phase]
    cases heard : right.phase.hears message with
    | none => rfl
    | some told =>
        obtain rfl := Phase.hears_eq_some heard
        exact agree.notify_notices host names

theorem published (agree : AgreeOn uri left right) (host : Host) (message : Message) :
    publishedFor uri (left.step host message).2.notices =
      publishedFor uri (right.step host message).2.notices := by
  rw [(Session.step_eq host left message).2, (Session.step_eq host right message).2, agree.phase]
  cases right.phase.hears message with
  | none => rfl
  | some told =>
      by_cases ready : told = .ready
      · subst ready
        rw [Session.hear, Session.hear, Session.notify, Session.notify,
          publishedFor_ready agree.leftOrdered, publishedFor_ready agree.rightOrdered,
          agree.document]
      · by_cases names : told.uri? = some uri
        · exact congrArg (publishedFor uri) (agree.notify_notices host names)
        · exact (Session.publishedFor_notify_of_ne names ready).trans
            (Session.publishedFor_notify_of_ne names ready).symm

/-- Sessions that agree on every document are the same. -/
theorem eq (agree : ∀ uri, AgreeOn uri left right) : left = right := by
  obtain ⟨phase, shelf, catalogue, -, leftOrdered, rightOrdered⟩ := agree []
  apply Session.ext phase _ shelf catalogue
  exact Keyed.eq_of_find? leftOrdered rightOrdered fun uri => (agree uri).document

end AgreeOn

/-! ## Runs -/

theorem Message.Concerns.names {uri name : Text} {message : Message} (concerns : message.Concerns uri)
    (found : name ∈ message.uri?) : name = uri := by
  rcases concerns with (rfl | rfl | (rfl | rfl) | rfl) | names
  · cases found
  · cases found
  · cases found
  · cases found
  · cases found
  · exact Option.some.inj (found.symm.trans names)

theorem answersAbout_cons (uri : Text) (message : Message) (messages : List Message)
    (reaction : Reaction) (reactions : List Reaction) :
    answersAbout uri (message :: messages) (reaction :: reactions) =
      (if message.Concerns uri then [(message, reaction.answer)] else []) ++
        answersAbout uri messages reactions := by
  by_cases concerns : message.Concerns uri <;> simp [answersAbout, concerns]

theorem publishedFor_step_of_not_concerns (host : Host) (session : Session) {uri : Text}
    {message : Message} (elsewhere : ¬ message.Concerns uri) :
    publishedFor uri (session.step host message).2.notices = [] := by
  rw [(Session.step_eq host session message).2]
  cases heard : session.phase.hears message with
  | none => rfl
  | some told =>
      obtain ⟨other, quiet⟩ := Phase.hears_of_not_concerns elsewhere heard
      exact Session.publishedFor_notify_of_ne other quiet

/-- What concerns a document in a run is what the messages about it lead to alone. -/
theorem AgreeOn.run_filter {uri : Text} {left right : Session} (agree : AgreeOn uri left right)
    (host : Host) (messages : List Message) :
    answersAbout uri messages (left.run host messages).2 =
        answersAbout uri (messages.filter (Message.Concerns uri))
          (right.run host (messages.filter (Message.Concerns uri))).2 ∧
      publishedFor uri ((left.run host messages).2.flatMap Reaction.notices) =
        publishedFor uri ((right.run host (messages.filter (Message.Concerns uri))).2.flatMap
          Reaction.notices) := by
  induction messages generalizing left right with
  | nil => exact ⟨rfl, rfl⟩
  | cons message messages ih =>
      by_cases concerns : message.Concerns uri
      · obtain ⟨answers, publications⟩ := ih (agree.step host message)
        have answer := agree.answer host fun name found => concerns.names found
        have published := agree.published host message
        rw [List.filter_cons_of_pos (by simpa using concerns)]
        simp only [Session.run, answersAbout_cons, List.flatMap_cons, publishedFor_append]
        rw [answers, publications, answer, published]
        exact ⟨rfl, rfl⟩
      · -- The left session stays in agreement, and the right one takes no step.
        have unchanged := AgreeOn.step_of_not_concerns agree.leftOrdered host concerns
        obtain ⟨answers, publications⟩ := ih (unchanged.trans agree)
        have nothing := publishedFor_step_of_not_concerns host left concerns
        rw [List.filter_cons_of_neg (by simpa using concerns)]
        simp only [Session.run, answersAbout_cons, List.flatMap_cons, publishedFor_append]
        rw [answers, publications, nothing, if_neg concerns]
        exact ⟨rfl, rfl⟩

theorem not_concerns_of_names {one other : Text} {message : Message}
    (names : message.uri? = some other) (different : one ≠ other) : ¬ message.Concerns one := by
  intro concerns
  exact different (concerns.names names).symm

/-- Two messages of which one does not concern a document can be taken in either order. -/
theorem AgreeOn.swap {uri : Text} {session : Session} (ordered : session.Ordered) (host : Host)
    {first : Message} (elsewhere : ¬ first.Concerns uri) (second : Message) :
    AgreeOn uri ((session.step host first).1.step host second).1
      ((session.step host second).1.step host first).1 := by
  have without := (AgreeOn.step_of_not_concerns ordered host elsewhere).step host second
  have later := AgreeOn.step_of_not_concerns (ordered.step host second) host elsewhere
  exact without.trans later.symm

theorem step_comm {session : Session} (ordered : session.Ordered) (host : Host) {one other : Text}
    {first second : Message} (namesOne : first.uri? = some one)
    (namesOther : second.uri? = some other) (different : one ≠ other) :
    ((session.step host first).1.step host second).1 =
      ((session.step host second).1.step host first).1 := by
  apply AgreeOn.eq
  intro uri
  by_cases here : uri = one
  · subst here
    exact (AgreeOn.swap ordered host (not_concerns_of_names namesOther different) first).symm
  · exact AgreeOn.swap ordered host (not_concerns_of_names namesOne here) second

/-- What a session answers and publishes about a document is the same for any two runs
with the same messages about it and the same life cycle.  In one run, messages about
different documents can be exchanged: each leads to what it led to before, and so do
all later messages. -/
theorem documents_do_not_interfere (host : Host) :
    (∀ (uri : Text) (left right : List Message),
      left.filter (Message.Concerns uri) = right.filter (Message.Concerns uri) →
      answersAbout uri left (Session.new.run host left).2 =
          answersAbout uri right (Session.new.run host right).2 ∧
        publishedFor uri ((Session.new.run host left).2.flatMap Reaction.notices) =
          publishedFor uri ((Session.new.run host right).2.flatMap Reaction.notices)) ∧
    ∀ (before after : List Message) (first second : Message) (one other : Text),
      first.uri? = some one → second.uri? = some other → one ≠ other →
      ∃ final reaction reaction' later,
        (Session.new.run host before).1.run host (first :: second :: after) =
            (final, reaction :: reaction' :: later) ∧
          (Session.new.run host before).1.run host (second :: first :: after) =
            (final, reaction' :: reaction :: later) := by
  constructor
  · intro uri left right same
    have agree : AgreeOn uri Session.new Session.new := .refl Session.ordered_new
    obtain ⟨leftAnswers, leftPublications⟩ := agree.run_filter host left
    obtain ⟨rightAnswers, rightPublications⟩ := agree.run_filter host right
    rw [leftAnswers, leftPublications, rightAnswers, rightPublications, same]
    exact ⟨rfl, rfl⟩
  · intro before after first second one other namesOne namesOther different
    have ordered := Session.ordered_new.run host before
    have same := step_comm ordered host namesOne namesOther different
    have firstLater := AgreeOn.reaction (AgreeOn.step_of_not_concerns ordered host
      (not_concerns_of_names namesOther different)) host namesOne
    have secondLater := AgreeOn.reaction (AgreeOn.step_of_not_concerns ordered host
      (not_concerns_of_names namesOne different.symm)) host namesOther
    simp only [Session.run, same, firstLater, secondLater]
    exact ⟨_, _, _, _, rfl, rfl⟩

/-- One document is opened, checked again when the client is ready, and hovered over.
Around it, another one is opened in one run, and a third one changed and closed in the
other. -/
theorem documents_do_not_interfere_around_hover :
    let host : Host := ⟨.standard, ⟨[], []⟩, ⟨[], []⟩⟩
    let one : Text := "file:///a.el".toList
    let other : Text := "file:///b.el".toList
    let opens : Message := .notification (.opened one packageMode "a".toList)
    let left : List Message := [.request .start, .notification (.opened other packageMode "b".toList),
      opens, .notification .ready, .request (.hover one ⟨0, 0⟩)]
    let right : List Message := [.request .start, opens, .notification (.changed other ["c".toList]),
      .notification .ready, .notification (.closed other), .request (.hover one ⟨0, 0⟩)]
    left.filter (Message.Concerns one) = right.filter (Message.Concerns one) ∧
      (answersAbout one left (Session.new.run host left).2 =
          answersAbout one right (Session.new.run host right).2 ∧
        publishedFor one ((Session.new.run host left).2.flatMap Reaction.notices) =
          publishedFor one ((Session.new.run host right).2.flatMap Reaction.notices)) ∧
      ∃ final reaction reaction' later,
        (Session.new.run host [.request .start]).1.run host
            (opens :: .notification (.closed other) :: left) =
              (final, reaction :: reaction' :: later) ∧
          (Session.new.run host [.request .start]).1.run host
            (.notification (.closed other) :: opens :: left) =
              (final, reaction' :: reaction :: later) := by
  intro host one other opens left right
  have same : left.filter (Message.Concerns one) = right.filter (Message.Concerns one) := by decide
  have independent := documents_do_not_interfere host
  exact ⟨same, independent.1 one left right same,
    independent.2 [.request .start] left opens (.notification (.closed other)) one other rfl rfl
      (by decide)⟩

end Server

end PackageRequires
