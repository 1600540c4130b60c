import Tailor.Shell.Condition
import Tailor.Shell.Expansion

/-! # Redirections

Streams can be connected to files, to other streams and to texts of the script while a command
runs. The files are those that the script has written and the null device.
-/

namespace Tailor.Shell.RunM

/-- A path is one of some directories; slashes at its end count for nothing. -/
def isDirectory (directories : List Text) (path : Text) : Bool :=
  directories.contains path || directories.contains (Text.dropTrailing (· == '/') path)

/-- The places that paths lead to: directories, the null device and files that were written. -/
def placeOf (state : State) (path : Text) : Place :=
  if path.isEmpty then .nothing
  else
    let path := absolute state.directory path
    if isDirectory state.directories path then .directory
    else if path = "/dev/null".toList then .device
    else
      match state.files.lookup path with
      | some bytes => .file bytes.length
      | none => .nothing

def contentOf (state : State) (path : Text) : Option Bytes :=
  let path := absolute state.directory path
  if path = "/dev/null".toList then some [] else state.files.lookup path

def target (append : Bool) (path : Text) : RunM (Option Stream) := do
  let state ← get
  let whole := absolute state.directory path
  let parent := Text.dropTrailing (· != '/') whole
  let folder := if parent.length > 1 then parent.dropLast else parent
  if whole = "/dev/null".toList then pure (some .nothing)
  else if whole = "/dev/stdout".toList then stream? 1
  else if whole = "/dev/stderr".toList then stream? 2
  else if placeOf state whole = .directory then
    complain ("cannot create ".toList ++ path ++ ": Is a directory".toList)
    pure none
  else if placeOf state folder ≠ .directory then
    complain ("cannot create ".toList ++ path ++ ": Directory nonexistent".toList)
    pure none
  else
    let before := if append then (state.files.lookup whole).getD [] else []
    modify fun state => { state with files := put whole before state.files }
    pure (some (.file whole))

/-- Connects a stream; without a new connection it is closed. -/
def connect (number : Nat) (stream? : Option Stream) : RunM Unit :=
  modify fun state =>
    let others := state.streams.filter (·.1 ≠ number)
    { state with streams := (stream?.map (number, ·)).toList ++ others }

def feed (number : Nat) (bytes : Bytes) : RunM Unit := do
  if number = 0 then modify fun state => { state with input := bytes }
  connect number (some .given)

/-- Makes a redirection; the result tells whether it could be made. -/
def redirect (output : Text → RunM Text) (redirection : Redirection) : RunM Bool := do
  let number := redirection.stream
  match redirection.direction with
  | .document word => do
      feed number (Utf8.encode (← expandText output word))
      pure true
  | .input word => do
      let path ← expandText output word
      match contentOf (← get) path with
      | some bytes =>
          feed number bytes
          pure true
      | none =>
          complain ("cannot open ".toList ++ path ++ ": No such file".toList)
          pure false
  | .output word append => do
      match ← target append (← expandText output word) with
      | some stream =>
          connect number (some stream)
          pure true
      | none => pure false
  | .same word => do
      let name ← expandText output word
      if name = ['-'] then
        connect number none
        pure true
      else
        match Text.inBase? 10 name with
        | none => refuse "Syntax error: Bad fd number".toList
        | some other =>
            match ← stream? other with
            | some stream =>
                connect number (some stream)
                pure true
            | none =>
                complain (name ++ ": Bad file descriptor".toList)
                pure false

/-- Makes redirections in order up to the first that cannot be made. -/
def redirectAll (output : Text → RunM Text) : List Redirection → RunM Bool
  | [] => pure true
  | redirection :: rest => do
      if ← redirect output redirection then redirectAll output rest else pure false

/-- Runs an action with redirections, which end with it. -/
def redirected (output : Text → RunM Text) (redirections : List Redirection)
    (action : RunM Nat) : RunM Nat := do
  if redirections.isEmpty then action
  else
    let outer ← get
    let feeds := redirections.any fun redirection =>
      match redirection.direction with
      | .document _ | .input _ => true
      | _ => false
    let restore := modify fun (inner : State) =>
      { inner with
        streams := outer.streams, input := if feeds then outer.input else inner.input }
    let result ← tryCatch
      (do if ← redirectAll output redirections then action else pure 2)
      (fun stop => do
        restore
        throw stop)
    restore
    pure result

/-- Runs an action with variables that are exported while it runs. -/
def withVariables (assignments : List (Text × Text)) (action : RunM Nat) : RunM Nat := do
  let before := (← get).bindings
  if assignments.isEmpty then action
  else
    for (name, value) in assignments do assign name value true
    let restore := modify fun (state : State) => { state with bindings := before }
    let status ← tryCatch action fun stop => do
      restore
      throw stop
    restore
    pure status

end Tailor.Shell.RunM
