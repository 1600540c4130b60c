import Tailor.Command.Seconds
import Tailor.CommandLine.Argument
import Tailor.Document.Session
import Tailor.Run.Basic
import Tailor.Span.Substitution

/-! # Requests

What the program can be asked for: to run a configuration, or to render one document. The arguments
of a command line ask for one of these, for help or for nothing, or they are misused.
-/

namespace Tailor.CommandLine

/-- A request to run a configuration. -/
structure RunRequest where
  config : Text
  options : Run.Options
  /-- The limit on the time of each command. -/
  limit? : Option Seconds
  debug : Bool
  quiet : Bool
  verbose : Bool
  /-- The least urgent notes that are shown otherwise. -/
  level : Level

/-- A request to render a document. -/
structure RenderRequest where
  source : Text
  config? : Option Text
  mark? : Option Text
  escape? : Option Escape
  keepsDirectives : Bool
  /-- The entries that are put over the substitution table, as they were written. -/
  substitutions : List Text
  level : Level

/-- What the program is asked for. -/
inductive Request where
  | run (request : RunRequest)
  | render (request : RenderRequest)

def Request.threshold : Request → Level
  | .run request =>
      if request.debug then .info
      else if request.quiet then .error
      else if request.verbose then .info
      else request.level
  | .render request => request.level

def Level.isShown (threshold level : Level) : Bool :=
  match threshold, level with
  | .info, _ => true
  | .warning, .info => false
  | .warning, _ => true
  | .error, level => level == .error

variable {σ : Type}

/-- An option without arguments. -/
def Form.flag (spelling : String) (change : σ → σ) : Form σ :=
  ⟨[spelling.toList], 0, fun _ settings => .ok (change settings)⟩

/-- An option with one argument, which may be refused. -/
def Form.value (spelling : String) (change : Text → σ → Except Dismissal σ) : Form σ :=
  ⟨[spelling.toList], 1, fun arguments settings => change (arguments.headD []) settings⟩

/-- An option with one argument out of some. -/
def Form.choice {α : Type} (spelling : String) (choices : List (String × α))
    (change : α → σ → σ) : Form σ :=
  .value spelling fun text settings =>
    match choices.find? fun choice => choice.1.toList = text with
    | some choice => .ok (change choice.2 settings)
    | none => .error .misuse

def levels : List (String × Level) :=
  [("debug", .info), ("info", .info), ("warn", .warning), ("error", .error)]

def runGrammar : Grammar RunRequest where
  operand text request := { request with config := text }
  forms :=
    [.help,
      .flag "--dry-run" fun request =>
        { request with options := { request.options with dryRun := true } },
      .flag "--no-link" fun request =>
        { request with options := { request.options with link := false } },
      .choice "--on-error" [("stop", OnError.stop), ("continue", .proceed)] fun policy request =>
        { request with options := { request.options with onError := policy } },
      .value "--command-timeout" fun text request =>
        match Decimal.read? text with
        | some limit => .ok { request with limit? := some (.real limit) }
        | none => .error .misuse,
      .flag "--debug" fun request => { request with debug := true },
      .flag "--quiet" fun request => { request with quiet := true },
      .flag "--verbose" fun request => { request with verbose := true },
      .choice "--log-level" levels fun level request => { request with level := level }]

def renderGrammar : Grammar RenderRequest where
  operand text request := { request with source := text }
  forms :=
    [.help,
      .value "--config" fun text request => .ok { request with config? := some text },
      .value "--prefix" fun text request => .ok { request with mark? := some text },
      ⟨["--escape".toList], 2, fun texts request =>
        .ok { request with escape? := some ⟨texts.headD [], (texts.drop 1).headD []⟩ }⟩,
      .flag "--keep-instructions" fun request => { request with keepsDirectives := true },
      .value "--sub" fun text request =>
        .ok { request with substitutions := request.substitutions ++ [text] },
      .choice "--log-level" levels fun level request => { request with level := level }]

/-- A request to run without any option. -/
def RunRequest.plain : RunRequest :=
  ⟨[], ⟨false, true, .stop⟩, none, false, false, false, .info⟩

/-- A request to render without any option. -/
def RenderRequest.plain : RenderRequest := ⟨[], none, none, none, false, [], .warning⟩

/-- The request of a command with its arguments. -/
def Request.ofCommand (name : Text) (arguments : List Text) : Except Dismissal (Request × Bool) :=
  if name = "run".toList then
    (runGrammar.read .plain arguments).map fun (request, surplus) => (.run request, surplus)
  else if name = "render".toList then
    (renderGrammar.read .plain arguments).map fun (request, surplus) => (.render request, surplus)
  else .error .misuse

/-- The request of arguments that begin with options of no command; `surplus` tells that one of
these is unknown. -/
def Request.ofTokens (surplus : Bool) :
    List Text → Except Dismissal (Option Request)
  | [] => if surplus then .error .misuse else .ok none
  | text :: rest => do
      if text = ['-', '-'] then throw .misuse
      let forms : List (Form Unit) := [.help]
      match ← Token.ofText forms text with
      | .operand name =>
          let (request, further) ← Request.ofCommand name rest
          if surplus || further then throw .misuse else pure (some request)
      | .option form none => do
          form.apply [] ()
          Request.ofTokens surplus rest
      | .option _ (some _) => throw .misuse
      | .cluster forms after => do
          if after = .argument then throw .misuse
          for form in forms do form.apply [] ()
          Request.ofTokens (surplus || after == .unknown) rest
      | .unknown => Request.ofTokens true rest
      | .separator => throw .misuse

/-- The request of a command line; there is none without arguments. -/
def Request.ofArguments (arguments : List Text) : Except Dismissal (Option Request) :=
  Request.ofTokens false arguments

end Tailor.CommandLine
