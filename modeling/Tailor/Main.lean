import Tailor.CommandLine.Reach
import Tailor.CommandLine.Usage
import Tailor.Files.Change
import Tailor.Shell.Run
import Tailor.Yaml.Reader

/-! # The program

The outermost layer: it reads the arguments, the environment and the files that a request looks at,
lets the request be carried out on these, and then shows the output and changes the files. Commands
run in the shell of this library. Links cannot be made from here; they are listed instead.
-/

namespace Tailor.Outside

/-- The path of a location as the system takes it. -/
def systemPath (location : Location) : String :=
  String.ofList (Path.ofLocation location).text

def ofArray (bytes : ByteArray) : Bytes := bytes.toList

/-- The content of the file that a handle reads; a directory has none. -/
def entryOf (handle : IO.FS.Handle) : IO Entry := do
  match ← handle.readBinToEnd.toBaseIO with
  | .ok content => pure (.file (ofArray content))
  | .error _ => pure .directory

/-- What stands at a location whose directory is reached without links. -/
def entryAt? (location : Location) : IO (Option Entry) := do
  let path := systemPath location
  match ← (IO.FS.realPath path).toBaseIO with
  | .error _ => pure none
  | .ok real =>
      if toString real ≠ path then pure (some (.link (toString real).toList))
      else
        match ← (IO.FS.Handle.mk path .read).toBaseIO with
        | .error _ => pure none
        | .ok handle => do pure (some (← entryOf handle))

/-- Adds what stands at locations that are not known yet. -/
def learn (files : Files) : List Location → IO Files
  | [] => pure files
  | location :: rest => do
      if (files.get? location).isSome then learn files rest
      else
        match ← entryAt? location with
        | some entry => learn (files.put location entry) rest
        | none => learn files rest

/-- The files that a request looks at; each round may show further ones. -/
def gather (around : CommandLine.Around Unit) (request : CommandLine.Request) :
    (rounds : Nat) → Files → IO Files
  | 0, files => pure files
  | rounds + 1, files => do
      let known ← learn files (request.locations around files)
      if known.entries.length = files.entries.length then pure known
      else gather around request rounds known

/-- Does on the system what was done to the tree. -/
def apply : Change → IO Unit
  | .removal location => discard (IO.FS.removeFile (systemPath location)).toBaseIO
  | .addition location .directory => discard (IO.FS.createDir (systemPath location)).toBaseIO
  | .addition location (.file content) =>
      IO.FS.writeBinFile (systemPath location) ⟨content.toArray⟩
  | .addition location (.link target) =>
      IO.eprintln
        (String.ofList ("tailor: to be linked: ".toList ++ target ++ " to ".toList) ++
          systemPath location)

/-- The variables of the environment, as the system lists them. -/
def environment : IO (List (Text × Text)) := do
  let listed ← IO.FS.readBinFile "/proc/self/environ"
  let text := Utf8.decodeLenient (ofArray listed)
  pure ((Text.splitAll '\x00' text).filterMap (Text.splitOnce? ['=']))

/-- Carries out a request: its input is read only if it asks something. -/
def carryOut (request : CommandLine.Request) : IO UInt32 := do
  let bindings ← environment
  let here := (toString (← IO.currentDir)).toList
  let homes : Path.Homes := fun account =>
    if account.isEmpty then bindings.lookup "HOME".toList else none
  let shell : Command.Shell (Unit × Files) := fun command state =>
    (Shell.Setting.run ⟨bindings, here :: Shell.usualDirectories, here⟩ command, state)
  let around : CommandLine.Around Unit :=
    ⟨fun name => bindings.lookup name, homes, Yaml.reader, shell.checked, ()⟩
  let files ← gather around request 100 ⟨[], (Path.ofText here).names⟩
  let rehearsal := request.carryOut around files (.ofText [])
  let result ←
    if rehearsal.prompts.isEmpty then pure rehearsal
    else do
      let input ← (← IO.getStdin).readBinToEnd
      pure (request.carryOut around files (.ofBytes (ofArray input)))
  for change in files.changes result.files do apply change
  let shown := String.ofList result.prompts
  if result.promptsInOutput then IO.print shown else IO.eprint shown
  IO.print (String.ofList result.output)
  for written in result.notes do IO.eprint (String.ofList (CommandLine.noteLine written))
  match result.ending with
  | .ok status => pure status.toUInt32
  | .error abort => do
      IO.eprintln (String.ofList ("tailor: ".toList ++ abort.message))
      pure 1

end Tailor.Outside

def main (arguments : List String) : IO UInt32 := do
  match Tailor.CommandLine.Request.ofArguments (arguments.map String.toList) with
  | .error .help => do
      IO.print (String.ofList Tailor.CommandLine.usage)
      pure 0
  | .error .misuse => do
      IO.eprint (String.ofList Tailor.CommandLine.usage)
      pure 2
  | .ok none => do
      IO.print (String.ofList Tailor.CommandLine.usage)
      pure 1
  | .ok (some request) => Tailor.Outside.carryOut request
