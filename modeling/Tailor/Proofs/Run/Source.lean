import Mathlib
import Tailor.Proofs.Document.LineEnds
import Tailor.Proofs.Run.Outcome
import Tailor.Proofs.Text.Utf8
import Tailor.Run.Execution

/-! # Texts of sources

A source without directives and spans comes out as its text with unified
newlines, whatever the world is (`Tailor.Run.processed_plain`); nothing is run
and nothing is asked. The newlines are unified before the text is cut into
lines, so a carriage return that stands alone is neither dropped nor kept: it
becomes a line feed.
-/

namespace Tailor

variable {σ : Type}

theorem Files.readText_encode {files : Files} {path : Path} {text : Text}
    (reads : files.read path = .ok (Utf8.encode text)) :
    files.readText path = .ok (Text.unifyNewlines text) := by
  unfold readText
  rw [reads]
  simp only [textOf, Utf8.decode_encode]

namespace Run

section Processed

variable (world : World (σ × Files)) (substitution : Substitution) {document : DocumentConfig}
  {state : State σ} {text : Text}

theorem from_processed_of_readText (reads : state.files.readText document.source = .ok text)
    {content : Text} {session : Session (σ × Files)}
    (processes : Tailor.Act.from_ state.inside
      (process world document.treatment substitution text) = (.ok content, session)) :
    from_ state (processed world substitution document) =
      (.ok (.ok content), .ofInside session) := by
  have attempted : from_ state (attempt (process world document.treatment substitution text)) =
      (.ok (.ok content), .ofInside session) := by
    rw [from_attempt, processes]
  unfold processed
  rw [from_bind_of_ok (from_get state), reads]
  exact from_bind_of_ok attempted _

/-- **Sources without directives and spans.** Whatever the world is, each
carriage return of the source becomes a line feed, together with the line feed
behind it if there is one. So the returns at the ends of lines are dropped and
nothing else is changed exactly if every return stands before a line feed. -/
theorem processed_plain (plain : document.treatment.Plain)
    (reads : state.files.read document.source = .ok (Utf8.encode text)) :
    from_ state (processed world substitution document) =
        (.ok (.ok (Text.unifyNewlines text)),
          { state with session := state.session.unsubstituted }) ∧
      ((from_ state (processed world substitution document)).1 =
          .ok (.ok (Text.dropReturns text)) ↔
        Text.ReturnsPaired text) := by
  have kept : Text.dropReturns (Text.unifyNewlines text) = Text.unifyNewlines text :=
    Text.dropReturns_of_not_mem (Text.return_not_mem_unifyNewlines text)
  have processes := from_process_plain world substitution plain (Text.unifyNewlines text)
    state.inside
  rw [kept] at processes
  have whole := from_processed_of_readText world substitution (Files.readText_encode reads)
    processes
  refine ⟨whole, ?_⟩
  rw [whole, ← Text.unifyNewlines_eq_dropReturns_iff]
  constructor
  · intro same
    exact Except.ok.inj (Except.ok.inj same)
  · intro same
    rw [same]

end Processed

/-- A document without directives and spans whose source stands where the run
starts. -/
def notes : DocumentConfig :=
  ⟨.ofText "notes".toList, .ofText "home/notes".toList, ⟨none, none, true⟩⟩

/-- A line with a carriage return inside it. -/
def notesText : Text := "a\rb\n".toList

def notesState : State Unit :=
  ⟨.start (), ⟨[(["notes".toList], .file (Utf8.encode notesText))], []⟩⟩

theorem notes_plain : notes.treatment.Plain := ⟨rfl, rfl⟩

theorem read_notes : notesState.files.read notes.source = .ok (Utf8.encode notesText) := by cbv

theorem notes_processed :
    notes.treatment.Plain ∧
      notesState.files.read notes.source = .ok (Utf8.encode notesText) ∧
      from_ notesState (processed World.obliging.apart ⟨[], true⟩ notes) =
        (.ok (.ok (Text.unifyNewlines notesText)),
          { notesState with session := notesState.session.unsubstituted }) ∧
      ((from_ notesState (processed World.obliging.apart ⟨[], true⟩ notes)).1 =
          .ok (.ok (Text.dropReturns notesText)) ↔
        Text.ReturnsPaired notesText) :=
  ⟨notes_plain, read_notes, processed_plain World.obliging.apart ⟨[], true⟩ notes_plain read_notes⟩

/-- The carriage return inside the line is not kept. -/
theorem notes_return_lost :
    notes.treatment.Plain ∧
      notesState.files.read notes.source = .ok (Utf8.encode notesText) ∧
      (from_ notesState (processed World.obliging.apart ⟨[], true⟩ notes)).1 =
        .ok (.ok "a\nb\n".toList) ∧
      Text.dropReturns notesText = "a\rb\n".toList :=
  have lost : (from_ notesState (processed World.obliging.apart ⟨[], true⟩ notes)).1 =
      .ok (.ok "a\nb\n".toList) := by cbv
  ⟨notes_plain, read_notes, lost, by cbv⟩

end Run

end Tailor
