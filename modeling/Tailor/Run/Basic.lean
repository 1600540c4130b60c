import Tailor.Config.Check
import Tailor.Files.Content
import Tailor.Files.Delivery

/-! # Runs and their results

A run processes the documents of a configuration one after another. Each document has a result of
its own: it is completed, it failed for a reason, or it was skipped.
-/

namespace Tailor

/-- Why a document failed. -/
inductive DocumentFault where
  | problem (what : Problem) (line : Option Nat)
  /-- Its source cannot be read. -/
  | unreadable (fault : ReadFault)
  /-- Something other than a link stands at its target. -/
  | targetExists (fault : FileFault)
  /-- Its processed form cannot be written or linked. -/
  | undeliverable (fault : FileFault)

namespace DocumentFault

def sort : DocumentFault → String
  | .problem what _ => what.category.name
  | .unreadable _ => "read_error"
  | .targetExists _ => "target_exists"
  | .undeliverable _ => "filesystem_error"

def message : DocumentFault → Text
  | .problem what _ => what.message
  | .unreadable fault => "Failed to read source file: ".toList ++ fault.message
  | .targetExists fault => fault.message
  | .undeliverable fault => fault.message

/-- The line of a fault, if it is known. -/
def line? : DocumentFault → Option Nat
  | .problem _ line => line
  | _ => none

end DocumentFault

/-- What became of a document. -/
inductive Status where
  /-- It was processed; a written one has a path. -/
  | completed (output? : Option Path)
  | failed (fault : DocumentFault)
  | skipped

/-- The result of one document of a run. -/
structure DocumentResult where
  source : Path
  target : Path
  status : Status

def DocumentResult.isFailed (result : DocumentResult) : Bool :=
  match result.status with
  | .failed _ => true
  | _ => false

def DocumentResult.isCompleted (result : DocumentResult) : Bool :=
  match result.status with
  | .completed _ => true
  | _ => false

/-- What to do when a document fails. -/
inductive OnError where
  | stop
  | proceed
deriving Repr, DecidableEq

namespace Run

/-- What a run does beside processing. -/
structure Options where
  dryRun : Bool
  /-- Targets are made links to the written documents. -/
  link : Bool
  onError : OnError
deriving Repr, DecidableEq

/-- The state of a run. -/
structure State (σ : Type) where
  session : Session σ
  files : Files

namespace State

variable {σ : Type}

/-- The session in which a document is processed: the files belong to the world, so commands and
whoever answers can read and change them. -/
def inside (state : State σ) : Session (σ × Files) :=
  ⟨(state.session.world, state.files), state.session.cache, state.session.trace⟩

/-- The state of a run that a session in it leaves. -/
def ofInside (session : Session (σ × Files)) : State σ :=
  ⟨⟨session.world.1, session.cache, session.trace⟩, session.world.2⟩

@[simp] theorem ofInside_inside (state : State σ) : ofInside state.inside = state := rfl

@[simp] theorem inside_ofInside (session : Session (σ × Files)) :
    (ofInside session).inside = session := rfl

end State

/-- What ends a run without results. -/
inductive Crash where
  | session (crash : Tailor.Crash)
  | files (fault : FileFault)
deriving Repr, DecidableEq

def Crash.message : Crash → Text
  | .session crash => crash.message
  | .files fault => fault.message

abbrev Act (σ α : Type) := ExceptT Crash (StateM (State σ)) α

variable {σ : Type}

/-- The outcome of processing, which may fail; what it did to the session and to the files stays. -/
def attempt {α : Type} (action : Tailor.Act (σ × Files) α) : Act σ (Except Fault α) := do
  let (outcome, session) := Tailor.Act.from_ (← get).inside action
  set (State.ofInside session)
  pure outcome

/-- The outcome of an action on files; what it did stays. -/
def attemptFiles {α : Type} (action : FileAct α) : Act σ (Except FileFault α) := do
  let state ← get
  let (outcome, files) := Files.perform state.files action
  set { state with files }
  pure outcome

def note (level : Level) (activity : Activity) (message : Text) : Act σ Unit :=
  modify fun state =>
    { state with session :=
        { state.session with
          trace := state.session.trace ++ [.noted ⟨level, activity, message⟩] } }

end Run
end Tailor
