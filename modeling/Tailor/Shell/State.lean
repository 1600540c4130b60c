import Tailor.Command.Report
import Tailor.Shell.Script

/-! # The state of a shell

What a running script can see and change: variables, functions, its streams and the output that
they collect. A step either goes on with a new state or stops. Sleeping moves a clock, and the only
files are those that the script itself has written.
-/

namespace Tailor.Shell

/-- A variable; exported ones are the environment of programs. -/
structure Variable where
  name : Text
  value : Text
  exported : Bool
deriving Repr, DecidableEq

/-- What a stream is connected to. -/
inductive Stream where
  /-- What is written is lost, and nothing is read. -/
  | nothing
  | given
  | collected (index : Nat)
  | file (path : Text)
deriving Repr, DecidableEq

/-- The state of a shell. -/
structure State where
  bindings : List Variable
  functions : List (Text × Command)
  name : Text
  parameters : List Text
  loops : Nat
  directories : List Text
  directory : Text
  streams : List (Nat × Stream)
  input : Bytes
  collected : List Bytes
  files : List (Text × Bytes)
  status : Nat
  line : Nat
  clock : Float
  endsOnFailure : Bool
  /-- The value of a missing variable is refused. -/
  refusesMissing : Bool
  atExit : Option Text

/-- Why a script does not go on. -/
inductive Stop where
  | exit (status : Nat)
  | killed (signal : Nat)
  | returned (status : Nat)
  /-- Some loops are left, the innermost ones first. -/
  | broken (loops : Nat)
  /-- Some loops are left, and the next one goes on with its next turn. -/
  | continued (loops : Nat)
  /-- The steps that were granted are used up. -/
  | endless
deriving Repr, DecidableEq

/-- A step of a script. What was changed before a stop stays changed. -/
abbrev RunM := ExceptT Stop (StateM State)

namespace RunM

/-- A list of pairs with a new value for a key. -/
def put {α : Type} (key : α) [DecidableEq α] {β : Type} (value : β) (entries : List (α × β)) :
    List (α × β) :=
  (key, value) :: entries.filter (·.1 ≠ key)

/-- A path as it is seen from the directory of the shell. -/
def absolute (directory path : Text) : Text :=
  if path.head? = some '/' then path
  else if directory.getLast? = some '/' then directory ++ path
  else directory ++ '/' :: path

/-- The stream of a number, if it is open. -/
def stream? (number : Nat) : RunM (Option Stream) := do pure ((← get).streams.lookup number)

/-- Writes bytes; a stream that is not open takes none. -/
def write (number : Nat) (bytes : Bytes) : RunM Bool := do
  match ← stream? number with
  | none | some .given => pure false
  | some .nothing => pure true
  | some (.collected index) =>
      modify fun state => { state with collected := state.collected.modify index (· ++ bytes) }
      pure true
  | some (.file path) =>
      modify fun state =>
        { state with files := put path ((state.files.lookup path).getD [] ++ bytes) state.files }
      pure true

def say (text : Text) : RunM Unit := discard (write 1 (Utf8.encode text))

/-- Writes a complaint with the line of the command to the error output. -/
def complain (text : Text) : RunM Unit := do
  let state ← get
  let place := state.name ++ ": ".toList ++ Text.ofNat state.line ++ ": ".toList
  discard (write 2 (Utf8.encode (place ++ text ++ ['\n'])))

def refuse {α : Type} (text : Text) : RunM α := do
  complain text
  throw (.exit 2)

def readAll : RunM Bytes := do
  match ← stream? 0 with
  | some .given =>
      let input := (← get).input
      modify fun state => { state with input := [] }
      pure input
  | _ => pure []

/-- A line of the input without its line feed, and whether it had one. -/
def readLine : RunM (Text × Bool) := do
  let input ← readAll
  let line := input.takeWhile (· != 10)
  let rest := input.drop (line.length + 1)
  modify fun state => { state with input := rest }
  pure (Utf8.decodeLenient line, line.length < input.length)

def variableValue? (name : Text) : RunM (Option Text) := do
  pure (((← get).bindings.find? (·.name = name)).map (·.value))

/-- Sets a variable; it stays exported if it was. -/
def assign (name value : Text) (exported : Bool) : RunM Unit :=
  modify fun state =>
    let kept := (state.bindings.find? (·.name = name)).map (·.exported)
    { state with
      bindings := ⟨name, value, exported || kept.getD false⟩ ::
        state.bindings.filter (·.name ≠ name) }

def environment : RunM (List (Text × Text)) := do
  let exported := (← get).bindings.filter (·.exported)
  pure (exported.map fun entry => (entry.name, entry.value))

/-- Runs an action whose streams, directory, variables and functions are its own: only what it has
read, written and waited for remains. -/
def apart {α : Type} (action : RunM α) : RunM (Except Stop α) := do
  let outer ← get
  let result ← tryCatch (do pure (Except.ok (← action))) fun stop => pure (.error stop)
  modify fun inner =>
    { outer with
      input := inner.input, collected := inner.collected, files := inner.files,
      clock := inner.clock }
  pure result

def statusOf : Except Stop Nat → RunM Nat
  | .ok status => pure status
  | .error (.exit status) => pure status
  | .error (.returned status) => pure status
  | .error (.broken _) => pure 0
  | .error (.continued _) => pure 0
  | .error stop => throw stop

/-- Runs an action with an output of its own, which is collected and returned. -/
def collecting (action : RunM Nat) : RunM (Nat × Bytes) := do
  let index := (← get).collected.length
  let result ← apart do
    modify fun state =>
      { state with
        collected := state.collected ++ [[]], streams := put 1 (.collected index) state.streams }
    action
  let collected := (← get).collected
  modify fun state => { state with collected := collected.take index }
  let status ← statusOf result
  pure (status, collected.getD index [])

/-- Runs an action with an input of its own. -/
def reading {α : Type} (input : Bytes) (action : RunM α) : RunM α := do
  let outer ← get
  set { outer with input := input, streams := put 0 .given outer.streams }
  let restore := modify fun (inner : State) =>
    { inner with
      input := outer.input, streams := inner.streams.filter (·.1 ≠ 0) ++
        outer.streams.filter (·.1 = 0) }
  let result ← tryCatch action fun stop => do
    restore
    throw stop
  restore
  pure result

end RunM
end Tailor.Shell
