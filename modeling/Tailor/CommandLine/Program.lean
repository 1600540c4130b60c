import Tailor.CommandLine.Request
import Tailor.Config.Load
import Tailor.Query.Respondent
import Tailor.Run.Execution

/-! # Carrying out requests

A request works on a tree of files and asks at a terminal. It ends with a status: zero if all is
well, one if a document failed or a file is missing, two if the configuration or the request itself
is invalid. Rendering may also be aborted by a fault that has no status.
-/

namespace Tailor.CommandLine

/-- What the program finds around it. -/
structure Around (τ : Type) where
  lookup : Text → Option Text
  homes : Path.Homes
  /-- What reads configuration files in YAML. -/
  yaml : Config.YamlReader
  shell : Command.Shell (τ × Files)
  /-- What commands know of beside the files. -/
  others : τ

/-- What ends the program without a status. -/
inductive Abort where
  | breakdown (breakdown : Config.Breakdown)
  | crash (crash : Run.Crash)
  | undecodable (fault : Utf8.Fault)

def Abort.message : Abort → Text
  | .breakdown what => what.message
  | .crash what => what.message
  | .undecodable fault => fault.message

/-- The state in which requests are carried out. -/
abbrev State (τ : Type) := Run.State (Respondent × τ)

/-- A step of carrying out a request. What it did before an abort stays. -/
abbrev ProgramM (τ : Type) := ExceptT Abort (StateM (State τ))

variable {τ : Type}

def note (level : Level) (activity : Activity) (message : Text) : ProgramM τ Unit :=
  modify fun state =>
    { state with session :=
        { state.session with
          trace := state.session.trace ++ [.noted ⟨level, activity, message⟩] } }

/-- Does what may crash; a crash aborts. -/
def perform {α : Type} (action : Run.Act (Respondent × τ) α) : ProgramM τ α := do
  let (result, state) := action.run.run (← get)
  set state
  match result with
  | .ok value => pure value
  | .error crash => throw (.crash crash)

/-- What the present files answer; a fault aborts. -/
def inspect {α : Type} (question : Files → Except FileFault α) : ProgramM τ α := do
  match question (← get).files with
  | .ok value => pure value
  | .error fault => throw (.crash (.files fault))

/-- The configuration in the file at a path, with its notes; it may be invalid. -/
def loadConfig (around : Around τ) (path : Path) :
    ProgramM τ (Except (List Config.Problem) Config) := do
  match Config.load around.yaml around.lookup around.homes (← get).files path with
  | .ok config =>
      for written in config.notes do note written.level written.activity written.message
      pure (.ok config)
  | .error (.invalid problems) => pure (.error problems)
  | .error (.breakdown breakdown) => throw (.breakdown breakdown)

namespace RunRequest

/-- The report of a problem of a configuration, with its place. -/
def problemReport (problem : Config.Problem) : Text :=
  let place :=
    if problem.place.isEmpty then [] else " (".toList ++ problem.place ++ [')']
  "Validation error".toList ++ place ++ ": ".toList ++ problem.flaw.message

def summary (results : List DocumentResult) : Text :=
  let failed := results.countP DocumentResult.isFailed
  "Processed ".toList ++ Text.ofNat (results.countP DocumentResult.isCompleted) ++ " of ".toList ++
    Text.ofNat results.length ++ " documents".toList ++
    (if failed = 0 then [] else ", ".toList ++ Text.ofNat failed ++ " failed".toList)

/-- Runs the documents of a configuration, which may be missing or invalid. -/
def carryOut (around : Around τ) (request : RunRequest) : ProgramM τ Nat := do
  let path ← inspect (·.resolve (.ofText request.config))
  if !(← inspect (·.isThere path)) then
    note .error .runCommand ("Configuration file not found: ".toList ++ path.text)
    return 1
  note .info .runCommand ("Loading configuration: ".toList ++ path.text)
  match ← loadConfig around path with
  | .error problems =>
      for problem in problems do note .error .runCommand (problemReport problem)
      return Config.Problem.exitStatus
  | .ok config =>
      let world := World.ofShell around.lookup around.shell request.limit?
      let results ← perform (Run.execute world request.options config)
      note .info .runCommand (summary results)
      return if Run.succeeded results then 0 else 1

/-- Runs a configuration. What would abort is reported as an error. -/
def run (around : Around τ) (request : RunRequest) : ProgramM τ Nat :=
  tryCatch (carryOut around request) fun abort => do
    note .error .runCommand ("Unexpected error: ".toList ++ abort.message)
    pure 1

end RunRequest

namespace RenderRequest

/-- What keeps a document from being rendered before it is read. -/
inductive Invalidity where
  | config (problems : List Config.Problem)
  /-- A value is wrong, for a reason in words. -/
  | value (reason : Text)

/-- The entry that an argument such as `KEY=VALUE` writes. -/
def entry (written : Text) : Except Invalidity (Text × Text) :=
  match Text.splitOnce? ['='] written with
  | none =>
      .error (.value ("Invalid substitution format (expected KEY=VALUE): ".toList ++ written))
  | some ([], _) => .error (.value ("Invalid KEY in pair: ".toList ++ written))
  | some pair => .ok pair

/-- The treatment that a configuration has for the document at a place: that of the first entry
whose source is there, or else the usual one. -/
def treatmentOf (files : Files) (config : Config) (source : Path) : Except FileFault Treatment :=
  go config.documents
where
  go : List DocumentConfig → Except FileFault Treatment
    | [] => .ok config.defaults
    | document :: documents => do
        let own ← files.resolve document.source
        let here ← files.resolve source
        if own = here then pure document.treatment else go documents

/-- The treatment that the request itself asks for, with another one for what it leaves open. -/
def overriding (request : RenderRequest) (treatment : Treatment) : Treatment :=
  ⟨match request.mark? with
    | some (c :: mark) => some (c :: mark)
    | _ => treatment.mark?,
    request.escape? <|> treatment.escape?,
    treatment.removeDirectives && !request.keepsDirectives⟩

/-- An abort that is a complaint about a value makes the request invalid. -/
def complaint? : Abort → Option Text
  | .breakdown what => if what.isAboutValue then some what.message else none
  | .crash (.files .nullCharacter) => some FileFault.nullCharacter.message
  | _ => none

/-- How a document is rendered: its treatment and the substitution. -/
def settings (around : Around τ) (request : RenderRequest) (source : Path) :
    ProgramM τ (Except Invalidity (Treatment × Substitution)) := do
  let found : Except Invalidity (Treatment × Substitution) ←
    match request.config? with
    | none | some [] => pure (.ok (⟨none, none, true⟩, ⟨[], false⟩))
    | some path =>
        match ← loadConfig around (.ofText path) with
        | .error problems => pure (.error (.config problems))
        | .ok config =>
            let treatment ← inspect fun files => treatmentOf files config source
            pure (.ok (treatment, config.substitution))
  pure do
    let (treatment, substitution) ← found
    let entries ← request.substitutions.mapM entry
    pure (overriding request treatment,
      { substitution with table := Table.merge substitution.table entries })

/-- How a document is rendered; a complaint about a value is no abort. -/
def checkedSettings (around : Around τ) (request : RenderRequest) (source : Path) :
    ProgramM τ (Except Invalidity (Treatment × Substitution)) :=
  tryCatch (settings around request source) fun abort =>
    match complaint? abort with
    | some reason => pure (.error (.value reason))
    | none => throw abort

def failureReport (source : Path) (what : Problem) (line : Option Nat) : Text :=
  let place :=
    match line with
    | some line => "line ".toList ++ Text.ofNat line ++ ": ".toList
    | none => []
  source.text ++ ": ".toList ++ place ++ what.message ++ " (".toList ++
    what.category.name.toList ++ [')']

/-- The status, and the processed form of the document if there is one. -/
def process (around : Around τ) (source : Path) (treatment : Treatment)
    (substitution : Substitution) : ProgramM τ (Nat × Text) := do
  match (← get).files.readText source with
  | .error (.undecodable fault) => throw (.undecodable fault)
  | .error (.file fault) =>
      note .error .renderCommand
        ("Failed to read ".toList ++ source.text ++ ": ".toList ++ fault.message)
      pure (1, [])
  | .ok text =>
      let world := World.ofShell around.lookup around.shell none
      match ← perform (Run.attempt (Tailor.process world treatment substitution text)) with
      | .ok output => pure (0, output)
      | .error (.problem what line) =>
          note .error .renderCommand (failureReport source what line)
          pure (1, [])
      | .error (.crash crash) => throw (.crash (.session crash))

def render (around : Around τ) (request : RenderRequest) : ProgramM τ (Nat × Text) := do
  let source := Path.ofText request.source
  if !(← inspect (·.isThere source)) then
    note .error .renderCommand ("Source file not found: ".toList ++ source.text)
    return (1, [])
  match ← checkedSettings around request source with
  | .error (.config problems) =>
      for problem in problems do note .error .renderCommand problem.flaw.message
      return (Config.Problem.exitStatus, [])
  | .error (.value reason) =>
      note .error .renderCommand ("Validation error: ".toList ++ reason)
      return (2, [])
  | .ok (treatment, substitution) => process around source treatment substitution

end RenderRequest

/-- All that carrying out a request leaves. Notes below the threshold of the request are left
out. -/
structure Result where
  ending : Except Abort Nat
  output : Text
  prompts : Text
  promptsInOutput : Bool
  notes : List Note
  commands : List Text
  files : Files

/-- Carries out a request with an input on a tree of files. -/
def Request.carryOut (around : Around τ) (files : Files) (input : Input) (request : Request) :
    Result :=
  let start : State τ := ⟨.start (.ofInput input, around.others), files⟩
  let action : ProgramM τ (Nat × Text) :=
    match request with
    | .run request => do pure (← request.run around, [])
    | .render request => request.render around
  let (result, state) := action.run.run start
  let prompts :=
    match state.session.world.1 with
    | .terminal terminal _ => terminal.written
    | .prepared _ => []
  { ending := result.map (·.1)
    output := match result with
      | .ok (_, output) => output
      | .error _ => []
    prompts := prompts
    promptsInOutput := match request with
      | .run _ => true
      | .render _ => false
    notes := state.session.notes.filter fun written =>
      Level.isShown request.threshold written.level
    commands := state.session.commands
    files := state.files }

end Tailor.CommandLine
