import Tailor.Shell.Format
import Tailor.Shell.Program
import Tailor.Shell.Redirection

/-! # Commands of the shell

The commands that a shell carries out itself: each maps its arguments to a step that ends with a
status. Those that run scripts are with the running of scripts.
-/

namespace Tailor.Shell.RunM

def complainOf (name : String) (reason : Text) : RunM Unit :=
  complain (name.toList ++ ": ".toList ++ reason)

def statusArgument (name : String) (argument : Text) : RunM Nat := do
  match Text.inBase? 10 argument with
  | some n => if n < 0x80000000 then pure (n % 256) else illegal
  | none => illegal
where
  illegal : RunM Nat := refuse (name.toList ++ ": Illegal number: ".toList ++ argument)

def signals : List (String × Nat) :=
  [("HUP", 1), ("INT", 2), ("QUIT", 3), ("ILL", 4), ("TRAP", 5), ("ABRT", 6), ("BUS", 7),
    ("FPE", 8), ("KILL", 9), ("USR1", 10), ("SEGV", 11), ("USR2", 12), ("PIPE", 13), ("ALRM", 14),
    ("TERM", 15)]

/-- The number of a signal, which is written in digits or as a name. -/
def signal? (name : Text) : Option Nat :=
  Text.inBase? 10 name <|> (signals.find? fun entry => entry.1.toList = name).map (·.2)

/-- Sends a signal to the shell itself, the only process that a script can name. -/
def kill (arguments : List Text) : RunM Nat := do
  let (name, processes) :=
    match arguments with
    | ['-', 's'] :: name :: rest => (name, rest)
    | ('-' :: name) :: rest => (name, rest)
    | rest => ("TERM".toList, rest)
  match signal? name, processes with
  | some 0, [_] => pure 0
  | some number, [['1']] => throw (.killed number)
  | some _, process :: _ =>
      complainOf "kill" ("Illegal number: ".toList ++ process)
      pure 2
  | _, _ =>
      complainOf "kill" "No such process".toList
      pure 1

/-- A whole or decimal number of seconds, with an optional unit. -/
def duration? (text : Text) : Option Float :=
  let (digits, unit) :=
    match text.getLast? with
    | some 's' => (text.dropLast, 1.0)
    | some 'm' => (text.dropLast, 60.0)
    | some 'h' => (text.dropLast, 3600.0)
    | some 'd' => (text.dropLast, 86400.0)
    | _ => (text, 1.0)
  let whole := digits.takeWhile (· != '.')
  let decimals := digits.drop (whole.length + 1)
  let size := Text.inBase? 10 (whole ++ decimals)
  size.map fun (n : Nat) => Float.ofScientific n true decimals.length * unit

def sleep (arguments : List Text) : RunM Nat := do
  let hint := "\nTry 'sleep --help' for more information.".toList
  let fail := fun (reason : Text) => do
    discard (write 2 (Utf8.encode ("sleep: ".toList ++ reason ++ hint ++ ['\n'])))
    pure 1
  if arguments.isEmpty then fail "missing operand".toList
  else
    match arguments.find? fun argument => (duration? argument).isNone with
    | some argument => fail ("invalid time interval '".toList ++ argument ++ ['\''])
    | none =>
        let total := (arguments.filterMap duration?).foldl (· + ·) 0.0
        modify fun state => { state with clock := state.clock + total }
        pure 0

def changeDirectory (arguments : List Text) : RunM Nat := do
  let state ← get
  let (path, isShown) ←
    match arguments with
    | [] => do pure ((← variableValue? "HOME".toList).getD [], false)
    | ['-'] :: _ => do pure ((← variableValue? "OLDPWD".toList).getD state.directory, true)
    | path :: _ => pure (path, false)
  let whole := simplified (absolute state.directory path)
  if path.isEmpty ∨ placeOf state whole = .directory then
    let directory := if path.isEmpty then state.directory else whole
    assign "OLDPWD".toList state.directory true
    assign "PWD".toList directory true
    modify fun state => { state with directory := directory }
    if isShown then say (directory ++ ['\n'])
    pure 0
  else
    complainOf "cd" ("can't cd to ".toList ++ path)
    pure 2
where
  /-- A path without empty parts and dots. -/
  simplified (path : Text) : Text :=
    let step := fun (parts : List Text) (part : Text) =>
      if part.isEmpty ∨ part = ['.'] then parts
      else if part = ['.', '.'] then parts.dropLast
      else parts ++ [part]
    let parts := (Text.splitAll '/' path).foldl step []
    '/' :: Text.join ['/'] parts

/-- Reads a line into variables; the last one takes all that is left. -/
def readVariables (names : List Text) : RunM Nat := do
  let isRaw := names.contains "-r".toList
  let names := names.filter (·.head? ≠ some '-')
  let separators ← separators
  let (line, ended) ← readLine
  let line := if isRaw then line else line.filter (· != '\\')
  let isSeparator := fun c => separators.contains c
  let rec fill (text : Text) : List Text → RunM Unit
    | [] => pure ()
    | [name] =>
        assign name (Text.dropTrailing isSeparator (text.dropWhile isSeparator)) false
    | name :: names => do
        let text := text.dropWhile isSeparator
        let value := text.takeWhile (!isSeparator ·)
        assign name value false
        fill (text.drop (value.length + 1)) names
  fill line names
  pure (if ended then 0 else 1)

def declare (exported : Bool) (arguments : List Text) : RunM Nat := do
  for argument in arguments do
    match Text.splitOnce? ['='] argument with
    | some (name, value) => assign name value exported
    | none =>
        match ← variableValue? argument with
        | some value => assign argument value exported
        | none => pure ()
  pure 0

def setOptions (arguments : List Text) : RunM Nat := do
  match arguments with
  | ['-', '-'] :: rest =>
      modify fun state => { state with parameters := rest }
      pure 0
  | (sign :: letters) :: rest => do
      if sign = '-' ∨ sign = '+' then
        for letter in letters do
          if letter = 'e' then modify fun state => { state with endsOnFailure := sign = '-' }
          if letter = 'u' then modify fun state => { state with refusesMissing := sign = '-' }
        setOptions rest
      else
        modify fun state => { state with parameters := arguments }
        pure 0
  | _ => pure 0

/-- The commands of the shell that need nothing but its state. -/
def builtin? (name : Text) : Option (List Text → RunM Nat) :=
  match String.ofList name with
  | ":" | "true" | "wait" | "umask" | "times" | "alias" | "ulimit" => some fun _ => pure 0
  | "false" => some fun _ => pure 1
  | "echo" => some fun arguments => do
      pure (if ← write 1 (Format.echo arguments) then 0 else 1)
  | "printf" => some fun arguments => do
      match arguments with
      | [] | [['-', '-']] =>
          complainOf "printf" "usage: printf format [arg ...]".toList
          pure 2
      | ['-', '-'] :: format :: arguments => formatted format arguments
      | ('-' :: letter :: _) :: _ =>
          complainOf "printf" ("Illegal option -".toList ++ [letter])
          throw (.exit 2)
      | format :: arguments => formatted format arguments
  | "test" => some fun arguments => decideOn "test" arguments
  | "[" => some fun arguments => do
      if arguments.getLast? = some [']'] then decideOn "[" arguments.dropLast
      else
        complainOf "[" "missing ]".toList
        pure 2
  | "cd" => some changeDirectory
  | "pwd" => some fun _ => do
      say ((← get).directory ++ ['\n'])
      pure 0
  | "read" => some readVariables
  | "export" => some (declare true)
  | "readonly" | "local" => some (declare false)
  | "unset" => some fun names => do
      modify fun state =>
        { state with
          bindings := state.bindings.filter fun entry => !names.contains entry.name,
          functions := state.functions.filter fun entry =>
            !(names.contains "-f".toList && names.contains entry.1) }
      pure 0
  | "set" => some setOptions
  | "shift" => some fun arguments => do
      let count := (arguments.head?.bind (Text.inBase? 10)).getD 1
      let parameters := (← get).parameters
      if parameters.length < count then refuse "shift: can't shift that many".toList
      else
        modify fun state => { state with parameters := parameters.drop count }
        pure 0
  | "exit" => some fun arguments => do
      match arguments with
      | [] => throw (.exit (← get).status)
      | argument :: _ => throw (.exit (← statusArgument "exit" argument))
  | "return" => some fun arguments => do
      match arguments with
      | [] => throw (.returned (← get).status)
      | argument :: _ => throw (.returned (← statusArgument "return" argument))
  | "break" => some (leave .broken)
  | "continue" => some (leave .continued)
  | "kill" => some kill
  | "trap" => some fun arguments => do
      match arguments with
      | [script, condition] =>
          if condition = "EXIT".toList ∨ condition = ['0'] then
            let last := if script = ['-'] then none else some script
            modify fun state => { state with atExit := last }
      | _ => pure ()
      pure 0
  | "sleep" => some sleep
  | _ => none
where
  /-- Leaves as many loops as an argument writes, if there are any. -/
  leave (stop : Nat → Stop) (arguments : List Text) : RunM Nat := do
    let count := (arguments.head?.bind (Text.inBase? 10)).getD 1
    let loops := (← get).loops
    if loops = 0 then pure 0 else throw (stop (min count loops))
  formatted (format : Text) (arguments : List Text) : RunM Nat := do
    let progress := Format.printf format arguments
    for complaint in progress.complaints do complainOf "printf" complaint
    pure (if ← write 1 progress.output then progress.status else 1)
  decideOn (name : String) (arguments : List Text) : RunM Nat := do
    let state ← get
    match Condition.holds (placeOf state) arguments with
    | .ok verdict => pure (if verdict then 0 else 1)
    | .error reason =>
        complainOf name reason
        pure 2

def call (program : Call → Reply) (arguments : List Text) : RunM Nat := do
  let input ← readAll
  let state ← get
  let reply := program ⟨arguments, input, ← environment, contentOf state⟩
  modify fun state => { state with input := reply.input }
  discard (write 1 reply.report.output)
  discard (write 2 reply.report.errorOutput)
  pure reply.report.status.toNat

/-- A command of this name does not exist. -/
def unknown (name : Text) : RunM Nat := do
  let reason := if name.isEmpty ∨ name = ['/'] then "Permission denied" else "not found"
  complain (name ++ ": ".toList ++ reason.toList)
  pure (if name = ['/'] then 126 else 127)

end Tailor.Shell.RunM
