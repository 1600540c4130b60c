import Tailor.Files.Walk

/-! # Operations on files

The operations of the file system that the program needs. Each either changes the tree or is
refused, and a refusal leaves the tree as it was.
-/

namespace Tailor

/-- Why an operation on files failed. -/
inductive FileFault where
  /-- The file system refused it; the path is as it was given, with a second one for a renaming or
  a link. -/
  | refused (refusal : Refusal) (path : Text) (other? : Option Text)
  | nullCharacter
  /-- A path leads through links in a circle. -/
  | linkLoop (path : Text)
  | nameless (path : Text)
  /-- Something other than a link stands where a link should be made. -/
  | targetExists (target : Text)
deriving Repr, DecidableEq

def FileFault.message : FileFault → Text
  | .refused refusal path other? =>
      "[Errno ".toList ++ Text.ofNat refusal.number ++ "] ".toList ++ refusal.wording ++
        ": ".toList ++ Text.quoted path ++
        (match other? with
        | some other => " -> ".toList ++ Text.quoted other
        | none => [])
  | .nullCharacter => "embedded null byte".toList
  | .linkLoop path => "Symlink loop from ".toList ++ Text.quoted path
  | .nameless path => "PosixPath(".toList ++ Text.quoted path ++ ") has an empty name".toList
  | .targetExists target =>
      "Target ".toList ++ Text.quoted target ++ " already exists and is not a symlink".toList

/-- An action on a tree of files: it may fail, and what it did to the tree stays. -/
abbrev FileAct (α : Type) := ExceptT FileFault (StateM Files) α

namespace Files

def hasNull (path : Path) : Bool := path.names.any fun name => name.contains '\x00'

/-- The place of a path in the tree, or the fault that names it. -/
def place (files : Files) (follow : Bool) (path : Path) : Except FileFault Place :=
  if hasNull path then .error .nullCharacter
  else
    match files.locate follow path with
    | .ok place => .ok place
    | .error refusal => .error (.refused refusal path.text none)

def meansAbsent : Refusal → Bool
  | .noEntry | .notDirectory | .tooManyLinks => true
  | _ => false

/-- What stands at a path, or nothing if the path leads nowhere. -/
def entryAt (files : Files) (follow : Bool) (path : Path) : Except FileFault (Option Entry) :=
  match files.place follow path with
  | .ok (.found _ entry) => .ok (some entry)
  | .ok (.vacant _ _) => .ok none
  | .error .nullCharacter => .ok none
  | .error (.refused refusal shown other?) =>
      if meansAbsent refusal then .ok none else .error (.refused refusal shown other?)
  | .error fault => .error fault

def isThere (files : Files) (path : Path) : Except FileFault Bool :=
  (files.entryAt true path).map Option.isSome

def isDirectory (files : Files) (path : Path) : Except FileFault Bool :=
  (files.entryAt true path).map (· == some .directory)

def isLink (files : Files) (path : Path) : Except FileFault Bool :=
  (files.entryAt false path).map fun
    | some (.link _) => true
    | _ => false

/-- The content of the file at a path. -/
def read (files : Files) (path : Path) : Except FileFault Bytes :=
  match files.place true path with
  | .ok (.found _ (.file content)) => .ok content
  | .ok (.found _ _) => .error (.refused .isDirectory path.text none)
  | .ok (.vacant _ _) => .error (.refused .noEntry path.text none)
  | .error fault => .error fault

/-- The absolute path with every link followed, as far as the path exists. -/
def resolve (files : Files) (path : Path) : Except FileFault Path :=
  if hasNull path then .error .nullCharacter
  else
    let settled := Path.ofLocation (files.settle path)
    match files.locate true settled with
    | .error .tooManyLinks => .error (.linkLoop settled.text)
    | _ => .ok settled

/-- A link cannot hold more than a path may have. -/
def isOverlong : Entry → Bool
  | .link target => decide (pathLimit < sizeInBytes target)
  | _ => false

/-- Puts a new entry at a path where nothing stands. -/
def create (path : Path) (entry : Entry) (shown : Text) (other? : Option Text) : FileAct Unit := do
  let files ← get
  if hasNull path then throw .nullCharacter
  if isOverlong entry then throw (.refused .nameTooLong shown other?)
  match files.locate false path with
  | .ok (.vacant directory name) => set (files.put (directory ++ [name]) entry)
  | .ok (.found _ _) => throw (.refused .exists shown other?)
  | .error refusal => throw (.refused refusal shown other?)

def makeDirectory (path : Path) : FileAct Unit := create path .directory path.text none

/-- Makes a link that holds an absolute path. -/
def makeLink (source target : Path) : FileAct Unit :=
  create target (.link source.text) source.text (some target.text)

/-- Takes away the file or link at a path. -/
def remove (path : Path) : FileAct Unit := do
  let files ← get
  match files.place false path with
  | .ok (.found _ .directory) => throw (.refused .isDirectory path.text none)
  | .ok (.found location _) => set (files.erase location)
  | .ok (.vacant _ _) => throw (.refused .noEntry path.text none)
  | .error fault => throw fault

/-- Writes a file, through a link if one stands at the path. -/
def write (path : Path) (content : Bytes) : FileAct Unit := do
  let files ← get
  match files.place true path with
  | .ok (.found _ .directory) => throw (.refused .isDirectory path.text none)
  | .ok (.found location _) => set (files.put location (.file content))
  | .ok (.vacant directory name) => set (files.put (directory ++ [name]) (.file content))
  | .error fault => throw fault

/-- The last name of a path is one that can be given or taken: neither missing nor a double dot. -/
def endsInName (path : Path) : Bool :=
  match path.name? with
  | some name => name != ['.', '.']
  | none => false

/-- Gives the file or link at one path the other path, in the place of a file or link there. -/
def rename (path other : Path) : FileAct Unit := do
  let files ← get
  let refuse := fun refusal => throw (.refused refusal path.text (some other.text))
  if hasNull path || hasNull other then throw .nullCharacter
  if !(endsInName path && endsInName other) then refuse .busy
  match files.locate false path, files.locate false other with
  | .error refusal, _ => refuse refusal
  | .ok _, .error refusal => refuse refusal
  | .ok (.vacant _ _), _ => refuse .noEntry
  | .ok (.found _ .directory), _ => refuse .isDirectory
  | .ok (.found _ _), .ok (.found _ .directory) => refuse .isDirectory
  | .ok (.found location entry), .ok (.found goal _) =>
      set ((files.erase location).put goal entry)
  | .ok (.found location entry), .ok (.vacant directory name) =>
      set ((files.erase location).put (directory ++ [name]) entry)

/-- What the present tree answers, as an action. -/
def ofTree {α : Type} (question : Files → Except FileFault α) : FileAct α := do
  match question (← get) with
  | .ok value => pure value
  | .error fault => throw fault

/-- Makes a directory, unless it is there already. -/
def ensureDirectory (path : Path) : FileAct Unit :=
  tryCatch (makeDirectory path) fun fault =>
    match fault with
    | .refused .noEntry _ _ => throw fault
    | .refused _ _ _ => do
        if ← ofTree (·.isDirectory path) then pure () else throw fault
    | _ => throw fault

/-- Makes a directory and the missing ones above it; `depth` is the number of names of the path. -/
def ensureDirectories : (depth : Nat) → (path : Path) → FileAct Unit
  | 0, path => ensureDirectory path
  | depth + 1, path =>
      tryCatch (ensureDirectory path) fun fault =>
        match fault with
        | .refused .noEntry _ _ => do
            ensureDirectories depth path.parent
            ensureDirectory path
        | _ => throw fault

def ensureParents (path : Path) : FileAct Unit :=
  ensureDirectories path.parent.names.length path.parent

end Files
end Tailor
