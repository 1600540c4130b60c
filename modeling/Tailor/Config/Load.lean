import Tailor.Config.Check
import Tailor.Files.Content
import Tailor.Toml.Document

/-! # Loading configurations

A configuration file is TOML if its name ends so, and YAML otherwise. What reads YAML is given from
outside. Relative paths in a configuration start at the directory of the file itself, whatever links
lead to it.
-/

namespace Tailor.Config

/-- Why there are no data in a text: it is no YAML, a literal in it writes no value, or the reading
breaks off for another reason. -/
inductive YamlFault where
  | malformed (reason : Text)
  | literal (fault : LiteralFault)
  | broken (reason : Text) (aboutValue : Bool)

/-- What reads YAML: it finds data in a text or has a fault. Data that contain themselves come as
far down as a configuration is looked into. -/
abbrev YamlReader := Text → Except YamlFault Data

def tomlEnding : Text := ".toml".toList

/-- The failure to load a configuration for a reason. -/
def unreadable (reason : Text) : Failure := .invalid [⟨[], .unreadable reason⟩]

def ofReadFault : ReadFault → Failure
  | .file .nullCharacter => .breakdown .nullCharacter
  | fault => unreadable fault.message

def ofYamlFault : YamlFault → Failure
  | .malformed reason => unreadable reason
  | .literal fault => .breakdown (.literal fault)
  | .broken reason aboutValue => .breakdown (.reading reason aboutValue)

def ofTomlFault : Toml.Fault → Failure
  | .flaw flaw => unreadable flaw.message
  | .literal fault => .breakdown (.literal fault)

def tomlData (content : Bytes) : Except Failure Data :=
  match Utf8.decode content with
  | .ok text => ((Toml.read text).map Data.map).mapError ofTomlFault
  | .error fault => .error (unreadable fault.message)

def yamlData (yaml : YamlReader) (content : Bytes) : Except Failure Data := do
  let text ← (Files.textOf content).mapError ofReadFault
  (yaml text).mapError ofYamlFault

/-- The data in the file at a path. -/
def fileData (yaml : YamlReader) (files : Files) (path : Path) : Except Failure Data := do
  let content ← (files.read path).mapError fun fault => ofReadFault (.file fault)
  if path.hasEnding tomlEnding then tomlData content else yamlData yaml content

/-- The configuration in the file at a path; a file without value is an empty configuration. -/
def load (yaml : YamlReader) (lookup : Text → Option Text) (homes : Path.Homes) (files : Files)
    (path : Path) : Except Failure Config := do
  let entries ←
    match ← fileData yaml files path with
    | .map entries => pure entries
    | .scalar .null => pure []
    | _ => throw (.invalid [⟨[], .notMapping⟩])
  let place ← (files.resolve path).mapError fun fault => ofReadFault (.file fault)
  build ⟨lookup, homes, place.parent⟩ entries

end Tailor.Config
