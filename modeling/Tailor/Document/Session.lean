import Tailor.Document.Problem
import Tailor.Query.Cache

/-! # Sessions

Processing depends on a world: values of variables, a shell that runs commands and somebody who
answers questions. The last two may change a state of their own. A session adds the answers given so
far and the trace of all calls; it outlives a document that fails.
-/

namespace Tailor

/-- What processing asks of its surroundings. The state may decide later results. -/
structure World (σ : Type) where
  /-- The value of a variable, if it has one. -/
  lookup : Text → Option Text
  /-- The output of a command without the line feeds at its end. -/
  run : Text → σ → Except Fault Text × σ
  ask : Query → σ → Except Fault Answer × σ

/-- How urgent a note is. -/
inductive Level where
  | info
  | warning
  | error
deriving Repr, DecidableEq

/-- The activity that a note is about. -/
inductive Activity where
  | configuring
  | processing
  | running
  | linking
  | runCommand
  | renderCommand
deriving Repr, DecidableEq

/-- A message to the person who started the program. -/
structure Note where
  level : Level
  activity : Activity
  message : Text
deriving Repr, DecidableEq

/-- One step of a session that can be seen from outside. -/
inductive Event where
  | ran (command : Text)
  | consulted (query : Query)
  | asked (query : Query)
  | noted (note : Note)
deriving Repr, DecidableEq

/-- The state of a session: that of the world, the answers given and the trace, oldest first. -/
structure Session (σ : Type) where
  world : σ
  cache : Cache
  trace : List Event

namespace Session

def start {σ : Type} (world : σ) : Session σ := ⟨world, .empty, []⟩

/-- The commands run, in order. -/
def commands {σ : Type} (session : Session σ) : List Text :=
  session.trace.filterMap fun | .ran command => some command | _ => none

/-- The queries put to somebody, in order. -/
def asked {σ : Type} (session : Session σ) : List Query :=
  session.trace.filterMap fun | .asked query => some query | _ => none

/-- The queries whose answers were needed, in order. -/
def consulted {σ : Type} (session : Session σ) : List Query :=
  session.trace.filterMap fun | .consulted query => some query | _ => none

/-- The notes written, in order. -/
def notes {σ : Type} (session : Session σ) : List Note :=
  session.trace.filterMap fun | .noted note => some note | _ => none

end Session

/-- An action of a session: it may fail, and what it did to the session stays. -/
abbrev Act (σ α : Type) := ExceptT Fault (StateM (Session σ)) α

namespace Act

variable {σ : Type}

def record (event : Event) : Act σ Unit :=
  modify fun session => { session with trace := session.trace ++ [event] }

/-- Fails with a problem that has no line yet. -/
def fail {α : Type} (problem : Problem) : Act σ α := throw (.problem problem none)

def note (level : Level) (activity : Activity) (message : Text) : Act σ Unit :=
  record (.noted ⟨level, activity, message⟩)

/-- Uses the world, which may change its state and may fail. -/
def useWorld {α : Type} (call : σ → Except Fault α × σ) : Act σ α := do
  let session ← get
  let (result, world) := call session.world
  set { session with world }
  liftExcept result
where
  liftExcept : Except Fault α → Act σ α
    | .ok value => pure value
    | .error fault => throw fault

def runCommand (world : World σ) (command : Text) : Act σ Text := do
  record (.ran command)
  useWorld (world.run command)

def putQuery (world : World σ) (query : Query) : Act σ Answer := do
  record (.asked query)
  useWorld (world.ask query)

/-- The answer to a query: the recorded one, or else that of somebody who is asked and whose answer
is recorded. A query that fails leaves nothing recorded. -/
def resolve (world : World σ) (query : Query) : Act σ Answer := do
  record (.consulted query)
  match (← get).cache.get? query with
  | some answer => pure answer
  | none =>
      let answer ← putQuery world query
      modify fun session => { session with cache := session.cache.add query answer }
      pure answer

/-- The action with a line number on the problem it fails with. -/
def atLine {α : Type} (line : Nat) (action : Act σ α) : Act σ α :=
  tryCatch action fun fault => throw (fault.atLine line)

/-- The outcome of an action from a session, and the session it leaves. -/
def from_ {α : Type} (session : Session σ) (action : Act σ α) : Except Fault α × Session σ :=
  (action.run).run session

end Act
end Tailor
