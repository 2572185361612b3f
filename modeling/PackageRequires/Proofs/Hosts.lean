import Mathlib.Data.List.Forall2
import PackageRequires.Proofs.Report
import PackageRequires.Proofs.Server.Marks
import PackageRequires.Proofs.Server.Session

namespace PackageRequires

open Server

/-! # One verdict in both hosts

A document that is opened in a session gets the diagnostics that the command-line
checker reports for a file with its text, at positions that count lines from zero.
The numbers that are sent for them have 32 bits, which is enough for every line and
column of a document that is not too large.
-/

/-- A mark in an editor and a finding for a file say the same.  An editor counts lines
from zero, and so it marks a finding about the whole document, on line zero, on the
first line as well. -/
structure SameVerdict (path : Text) (mark : Mark) (finding : Finding) : Prop where
  path : finding.path = path
  severity : mark.severity = finding.diagnostic.severity
  message : mark.message = finding.diagnostic.message
  line : mark.start.line = finding.diagnostic.line - 1
  column : mark.start.character = finding.diagnostic.column

theorem sameVerdicts_of_diagnostics (path document : Text) (diagnostics : List Diagnostic) :
    List.Forall₂ (SameVerdict path) (diagnostics.map (markOf document))
      (diagnostics.map (Finding.mk path)) := by
  rw [List.forall₂_map_left_iff, List.forall₂_map_right_iff, List.forall₂_same]
  intro diagnostic _
  exact ⟨rfl, rfl, rfl, rfl, rfl⟩

/-- What is sent for a mark is what a finding says, at the finding's line and column and up
to the column where the mark stops. -/
def SentAs (mark : Mark) (finding : Finding) : Prop :=
  mark.toJson = fieldsOf [
    ("range", fieldsOf [
      ("start", fieldsOf [("line", .ofNat (finding.diagnostic.line - 1)),
        ("character", .ofNat finding.diagnostic.column)]),
      ("end", fieldsOf [("line", .ofNat (finding.diagnostic.line - 1)),
        ("character", .ofNat mark.stop.character)])]),
    ("severity", .ofNat (if finding.diagnostic.severity = .error then 1 else 2)),
    ("source", .ofString "pkgreq-ls"),
    ("message", .string finding.diagnostic.message)]

theorem sentAs_of_mem_checkDocument {extract : Extractor} {catalogue : Catalogue}
    {document : Text} {diagnostic : Diagnostic} (path : Text)
    (fewLines : document.lines.length < 2 ^ 32)
    (shortLines : ∀ line ∈ document.lines, line.utf16Size < 2 ^ 32)
    (member : diagnostic ∈ checkDocument extract catalogue document) :
    SentAs (markOf document diagnostic) ⟨path, diagnostic⟩ := by
  obtain ⟨start, stop⟩ := toJson_of_mem_checkDocument fewLines shortLines member
  have code : severityCode diagnostic.severity =
      if diagnostic.severity = .error then 1 else 2 := by
    cases diagnostic.severity <;> rfl
  rw [SentAs, markOf_of_mem_checkDocument member, Mark.toJson, start, stop, code,
    (place_of_mem_checkDocument member).1]

namespace Server.Session

variable {host : Host} {messages : List Message}

theorem catalogue_run_of_ready (ready : .ready ∈ heardIn messages) :
    (new.run host messages).1.catalogue = (Shelf.load host.files host.sources).catalogue := by
  have inStep := inStep_run host messages
  rw [inStep.catalogue, inStep.shelf, if_pos ready]

theorem step_opened {session : Session} (running : session.phase = .running)
    (uri language text : Text) :
    (session.step host (.notification (.opened uri language text))).2 =
      ⟨none, [session.publish host ⟨uri, language, text⟩]⟩ := by
  simp [step, running, notify, track]

end Server.Session

def dashPackage : String := ";; Package-Requires: ((dash \"2\") (s \"1\") (seq \"x\"))\n"

def dashFiles : FileSystem :=
  ⟨[(["a.el".toList], .file dashPackage.toUTF8),
    (["own.toml".toList],
      .file "[archive]\nname = \"own\"\n\n[[packages]]\nname = \"dash\"\n".toUTF8)], []⟩

end PackageRequires
