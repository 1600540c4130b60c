import Tailor.Shell.Builtin
import Tailor.Shell.Reader

/-! # Running shell scripts

A script runs line by line in the state of its shell, in a bounded number of steps. A script that
uses up its steps counts as one that never ends, so every time limit stops it.
-/

namespace Tailor.Shell

namespace RunM

def isKnown (name : Text) : Bool :=
  (builtin? name).isSome || (program? name).isSome ||
    ["eval", "exec", ".", "command", "sh"].any (·.toList = name)

def isSpecial (name : Text) : Bool :=
  [":", "export", "readonly", "unset", "set", "shift", "exit", "return", "break", "continue",
    "trap", "eval", "exec", "."].any (·.toList = name)

/-- What follows a turn of a loop: nothing more, with a status, or the next turn. -/
def afterTurn : Stop → RunM (Option Nat)
  | .broken loops => if loops ≤ 1 then pure (some 0) else throw (.broken (loops - 1))
  | .continued loops => if loops ≤ 1 then pure none else throw (.continued (loops - 1))
  | stop => throw stop

/-- Makes a turn of a loop; the result is the status of a loop that is over, and of the turn. -/
def inLoop (turn : RunM (Option Nat × Nat)) : RunM (Option Nat × Nat) := do
  let loops := (← get).loops
  modify fun state => { state with loops := loops + 1 }
  let restore := modify fun (state : State) => { state with loops := loops }
  let result ← tryCatch turn fun stop => do
    restore
    pure (← afterTurn stop, 0)
  restore
  pure result

def ended (status : Nat) : RunM Nat := do
  modify fun state => { state with status := status }
  pure status

/-- Notes the status of a command whose failure nothing asks for. -/
def endedUntested (isTested : Bool) (status : Nat) : RunM Nat := do
  let status ← ended status
  if status ≠ 0 ∧ !isTested ∧ (← get).endsOnFailure then throw (.exit status) else pure status

mutual

/-- Runs a script line by line. Complaints about how it is written bear a name if there is one. -/
def runSource (name : Text) : (steps : Nat) → Source → RunM Nat
  | 0, _ => throw .endless
  | steps + 1, source => do
      match (Source.line?).run.run source with
      | (.error flaw, place) => do
          modify fun state => { state with line := place.line }
          refuse (name ++ flaw.message)
      | (.ok none, _) => do pure (← get).status
      | (.ok (some command), rest) => do
          discard (runCommand false steps command)
          runSource name steps rest

/-- Runs a script that stands in the running one. -/
def runText (name script : Text) : (steps : Nat) → RunM Nat
  | 0 => throw .endless
  | steps + 1 => do
      let _ ← ended 0
      runSource name steps ⟨script, (← get).line⟩

/-- The output of a script, without line feeds at its end. -/
def outputOf : (steps : Nat) → Text → RunM Text
  | 0, _ => throw .endless
  | steps + 1, script => do
      let (status, bytes) ← collecting (runText [] script steps)
      let _ ← ended status
      pure (Text.dropTrailing (· == '\n') (Utf8.decodeLenient (bytes.filter (· != 0))))

/-- Runs a command. A failure that is tested does not end the shell. -/
def runCommand (isTested : Bool) : (steps : Nat) → Command → RunM Nat
  | 0, _ => throw .endless
  | steps + 1, command => do
      match command with
      | .simple line assignments words redirections => do
          modify fun state => { state with line := line }
          endedUntested isTested (← runSimple steps assignments words redirections)
      | .pipeline stages => do endedUntested isTested (← runStages steps stages)
      | .negation body => do
          let status ← runCommand true steps body
          ended (if status = 0 then 1 else 0)
      | .both first second => do
          let status ← runCommand true steps first
          if status = 0 then runCommand isTested steps second else pure status
      | .either first second => do
          let status ← runCommand true steps first
          if status = 0 then pure 0 else runCommand isTested steps second
      | .sequence commands => runAll isTested steps commands
      | .subshell body => do
          let status ← statusOf (← apart (runCommand isTested steps body))
          endedUntested isTested status
      | .redirected body redirections => do
          ended (← redirected (outputOf steps) redirections (runCommand isTested steps body))
      | .conditional test body otherwise => do
          let status ← runCommand true steps test
          if status = 0 then runCommand isTested steps body
          else
            match otherwise with
            | some otherwise => runCommand isTested steps otherwise
            | none => ended 0
      | .loop until_ test body => runLoop isTested until_ test body 0 steps
      | .forEach name words body => do
          let values ←
            match words with
            | some words => fieldsOf steps words
            | none => do pure (← get).parameters
          runEach isTested name body 0 steps values
      | .choice subject branches => do
          let subject ← expandText (outputOf steps) subject
          runBranches isTested subject steps branches
      | .function name body => do
          modify fun state => { state with functions := put name body state.functions }
          ended 0

def runAll (isTested : Bool) : (steps : Nat) → List Command → RunM Nat
  | 0, _ => throw .endless
  | _, [] => pure 0
  | steps + 1, [command] => runCommand isTested steps command
  | steps + 1, command :: commands => do
      discard (runCommand isTested steps command)
      runAll isTested steps commands

/-- Runs the commands of a pipeline; each reads the output of the one before. -/
def runStages : (steps : Nat) → List Command → RunM Nat
  | 0, _ => throw .endless
  | _, [] => pure 0
  | steps + 1, [command] => do statusOf (← apart (runCommand true steps command))
  | steps + 1, command :: commands => do
      let (_, bytes) ← collecting (runCommand true steps command)
      reading bytes (runStages steps commands)

def fieldsOf : (steps : Nat) → List Word → RunM (List Text)
  | 0, _ => throw .endless
  | _, [] => pure []
  | steps + 1, word :: words => do
      let fields ← expandFields (outputOf steps) word
      pure (fields ++ (← fieldsOf steps words))

def valuesOf : (steps : Nat) → List (Text × Word) → RunM (List (Text × Text))
  | 0, _ => throw .endless
  | _, [] => pure []
  | steps + 1, (name, word) :: rest => do
      let value ← expandText (outputOf steps) word
      pure ((name, value) :: (← valuesOf steps rest))

def runSimple : (steps : Nat) → List (Text × Word) → List Word → List Redirection → RunM Nat
  | 0, _, _, _ => throw .endless
  | steps + 1, assignments, words, redirections => do
      let before := (← get).status
      let fields ← fieldsOf steps words
      match fields with
      | [] => do
          let _ ← ended 0
          let values ← valuesOf steps assignments
          for (name, value) in values do assign name value false
          let status := (← get).status
          redirected (outputOf steps) redirections (pure status)
      | name :: arguments => do
          let values ← valuesOf steps assignments
          let _ ← ended before
          if name = "exec".toList ∧ arguments.isEmpty then
            if ← redirectAll (outputOf steps) redirections then pure 0 else throw (.exit 2)
          else
            redirected (outputOf steps) redirections do
              if isSpecial name then
                for (name, value) in values do assign name value false
                invoke steps name arguments
              else withVariables values (invoke steps name arguments)

/-- Runs the command of a name: a function, a command of the shell or a program. -/
def invoke : (steps : Nat) → Text → List Text → RunM Nat
  | 0, _, _ => throw .endless
  | steps + 1, name, arguments => do
      match (← get).functions.lookup name with
      | some body => do
          let outer := (← get).parameters
          modify fun state => { state with parameters := arguments }
          let restore := modify fun (state : State) => { state with parameters := outer }
          let status ← tryCatch (runCommand false steps body) fun stop => do
            restore
            match stop with
            | .returned status => pure status
            | _ => throw stop
          restore
          pure status
      | none =>
          match String.ofList name, arguments with
          | "eval", _ => runText "eval: ".toList (Text.join [' '] arguments) steps
          | "exec", name :: arguments => do
              if !isKnown name then
                complainOf "exec" (name ++ ": not found".toList)
                throw (.exit 127)
              else throw (.exit (← invoke steps name arguments))
          | ".", path :: _ => do
              match contentOf (← get) path with
              | some bytes => runText [] (Utf8.decodeLenient bytes) steps
              | none => refuse (".: cannot open ".toList ++ path ++ ": No such file".toList)
          | "command", [['-', 'v'], name] => do
              if (builtin? name).isSome || isSpecial name then
                say (name ++ ['\n'])
                pure 0
              else if (program? name).isSome then
                say ("/usr/bin/".toList ++ name ++ ['\n'])
                pure 0
              else pure 127
          | "command", name :: arguments => invoke steps name arguments
          | "env", first :: rest =>
              match Text.splitOnce? ['='] first with
              | some assigned => withVariables [assigned] (invoke steps name rest)
              | none =>
                  if first = "-i".toList then
                    statusOf (← apart do
                      modify fun state => { state with bindings := [] }
                      invoke steps name rest)
                  else if isKnown first then invoke steps first rest
                  else
                    let reason := ": No such file or directory\n".toList
                    let complaint := "env: '".toList ++ first ++ ['\''] ++ reason
                    discard (write 2 (Utf8.encode complaint))
                    pure 127
          | "sh", ['-', 'c'] :: script :: parameters => do
              let result ← apart do
                modify fun state =>
                  { state with
                    bindings := state.bindings.filter (·.exported), functions := [],
                    name := parameters.headD "sh".toList, parameters := parameters.drop 1,
                    loops := 0, line := 1, endsOnFailure := false, refusesMissing := false,
                    atExit := none }
                runText [] script steps
              statusOf result
          | _, _ =>
              match builtin? name, program? name with
              | some action, _ => action arguments
              | none, some program => call program arguments
              | none, none => unknown name

def runLoop (isTested until_ : Bool) (test body : Command) (status : Nat) : (steps : Nat) → RunM Nat
  | 0 => throw .endless
  | steps + 1 => do
      let turn := inLoop do
        let verdict ← runCommand true steps test
        if (verdict = 0) = until_ then pure (some status, status)
        else pure (none, ← runCommand isTested steps body)
      let (finished, status) ← turn
      match finished with
      | some status => ended status
      | none => runLoop isTested until_ test body status steps

/-- Runs a command for each value of a variable. -/
def runEach (isTested : Bool) (name : Text) (body : Command) (status : Nat) :
    (steps : Nat) → List Text → RunM Nat
  | 0, _ => throw .endless
  | _, [] => ended status
  | steps + 1, value :: values => do
      assign name value false
      let turn := inLoop do pure (none, ← runCommand isTested steps body)
      let (finished, status) ← turn
      match finished with
      | some status => ended status
      | none => runEach isTested name body status steps values

/-- Runs the first branch that has a pattern of the subject. -/
def runBranches (isTested : Bool) (subject : Text) :
    (steps : Nat) → List (List Word × Command) → RunM Nat
  | 0, _ => throw .endless
  | _, [] => ended 0
  | steps + 1, (patterns, body) :: branches => do
      if ← fits steps subject patterns then runCommand isTested steps body
      else runBranches isTested subject steps branches

def fits : (steps : Nat) → Text → List Word → RunM Bool
  | 0, _, _ => throw .endless
  | _, _, [] => pure false
  | steps + 1, subject, word :: words => do
      let pattern ← expandPattern (outputOf steps) word
      if pattern.isMatch subject then pure true else fits steps subject words

end

/-- Runs a whole script, and at its end what was set aside for it. -/
def runScript (steps : Nat) (script : Text) : RunM Nat := do
  let finish := fun (status : Nat) => do
    match (← get).atExit with
    | none => pure status
    | some last =>
        modify fun state => { state with atExit := none }
        discard (runText [] last steps)
        pure status
  let status ← tryCatch (runSource [] steps ⟨script, 1⟩) fun stop =>
    match stop with
    | .exit status => pure status
    | .returned status => pure status
    | stop => throw stop
  tryCatch (finish status) fun stop =>
    match stop with
    | .exit status => pure status
    | stop => throw stop

end RunM

def granted : Nat := 100000

/-- The time that a process takes at least. -/
def startingTime : Float := 0.001

/-- The path on which programs are found if the environment has none. -/
def usualPath : Text := "/usr/local/sbin:/usr/local/bin:/usr/sbin:/usr/bin:/sbin:/bin".toList

/-- The variables that a shell sets for itself if the environment does not. -/
def ownVariables : List (Text × Text) :=
  [("PATH".toList, usualPath), ("OPTIND".toList, ['1']), ("IFS".toList, " \t\n".toList)]

def usualDirectories : List Text :=
  ["/", "/bin", "/dev", "/etc", "/home", "/lib", "/opt", "/proc", "/root", "/run", "/sbin", "/srv",
    "/sys", "/tmp", "/usr", "/usr/bin", "/usr/lib", "/usr/local", "/usr/local/bin",
    "/usr/local/sbin", "/usr/sbin", "/usr/share", "/var", "/var/log", "/var/tmp"].map
      String.toList

/-- Where a shell starts. -/
structure Setting where
  environment : List (Text × Text)
  directories : List Text
  directory : Text

/-- The state in which a shell starts: nothing to read, and two outputs to collect. -/
def Setting.start (setting : Setting) : State :=
  let given := setting.environment.filter fun entry =>
    Source.isName entry.1 && entry.1 != "PWD".toList && entry.1 != "IFS".toList
  let own := ownVariables.filter fun entry => (given.lookup entry.1).isNone
  { bindings :=
      given.map (fun entry => ⟨entry.1, entry.2, true⟩) ++
        [⟨"PWD".toList, setting.directory, true⟩] ++
        own.map (fun entry => ⟨entry.1, entry.2, false⟩),
    functions := [], name := "sh".toList, parameters := [], loops := 0,
    directories := setting.directories, directory := setting.directory,
    streams := [(0, .given), (1, .collected 0), (2, .collected 1)],
    input := [], collected := [[], []], files := [], status := 0, line := 1,
    clock := startingTime, endsOnFailure := false, refusesMissing := false, atExit := none }

/-- What keeps a shell from starting: its directory or its program is missing. -/
def Setting.missing? (setting : Setting) : Option Text :=
  let path := (setting.environment.lookup "PATH".toList).getD usualPath
  let hasShell := fun (folder : Text) =>
    ["/bin", "/usr/bin"].contains (String.ofList (Text.dropTrailing (· == '/') folder))
  if !RunM.isDirectory setting.directories setting.directory then some setting.directory
  else if !(Text.splitAll ':' path).any hasShell then some "sh".toList
  else none

def Setting.run (setting : Setting) (script : Text) : Command.Attempt :=
  match setting.missing? with
  | some name => .notStarted ("[Errno 2] No such file or directory: ".toList ++ Text.quoted name)
  | none =>
      let action := RunM.runScript granted script
      let (result, state) := action.run setting.start
      let report := fun (status : Int) =>
        Command.Attempt.ends (.real state.clock)
          ⟨status, state.collected.getD 0 [], state.collected.getD 1 []⟩
      match result with
      | .ok status => report status
      | .error (.exit status) => report status
      | .error (.killed signal) => report (-(signal : Int))
      | .error .endless => .ends (.real (1.0 / 0.0)) ⟨0, [], []⟩
      | .error _ => report 0

end Tailor.Shell
