import Tailor.Config.Problem
import Tailor.Document.Processing
import Tailor.Files.Path

/-! # Checking configurations

A configuration is a mapping that lists documents and gives defaults, a substitution table and a
strictness. Every check returns a value together with the problems it found, so no problem hides
another one, and the problems of the whole are those of its parts in order.
-/

namespace Tailor

/-- One document of a configuration with the treatment it gets. -/
structure DocumentConfig where
  source : Path
  target : Path
  treatment : Treatment
deriving Repr, DecidableEq

/-- A configuration that was found to be valid. -/
structure Config where
  documents : List DocumentConfig
  substitution : Substitution
  /-- The treatment of documents whose entry does not say otherwise. -/
  defaults : Treatment

namespace Config

/-- The ending that marks the processed form of a document beside its source. -/
def outputEnding : Text := ".preprocessed".toList

/-- What paths in a configuration refer to. -/
structure Surroundings where
  lookup : Text → Option Text
  homes : Path.Homes
  root : Path

/-- A value with the problems that were found in making it. -/
structure Checked (α : Type) where
  value : α
  problems : List Problem

/-- A value in which one flaw was found. -/
def flawed {α : Type} (value : α) (place : Text) (flaw : Flaw) : Checked α :=
  ⟨value, [⟨place, flaw⟩]⟩

/-- A value without problems. -/
def clean {α : Type} (value : α) : Checked α := ⟨value, []⟩

/-- The place of a field of something at a place. -/
def field (place name : Text) : Text := place ++ '.' :: name

/-- The keys that a mapping may not have. -/
def unknownKeys (allowed : List Text) (entries : List (Scalar × Data)) : List Scalar :=
  (entries.map (·.1)).filter fun key => !allowed.any fun name => key.sameKey (.text name)

/-- Keys that are to be written must have a text. -/
def requireTexts (keys : List Scalar) : Except Breakdown Unit :=
  if keys.all Scalar.isWritable then .ok () else .error (.literal .tooLarge)

/-- The fields that a mapping may not have. -/
def unknownFields (allowed : List Text) (entries : List (Scalar × Data)) (place : Text) :
    Except Breakdown (List Problem) := do
  let keys := unknownKeys allowed entries
  requireTexts keys
  pure (keys.map fun key => ⟨place, .unknownField key⟩)

/-- A mark is a text that is not blank; the blanks around it do not count. -/
def checkMark (value : Data) (place : Text) : Checked (Option Text) :=
  match value with
  | .scalar .null => clean none
  | .scalar (.text text) =>
      let mark := Text.trim text
      if mark.isEmpty then flawed none place .blankMark else clean (some mark)
  | _ => flawed none place .blankMark

/-- The keys in order, as far as they have one. -/
def inOrder (keys : List Scalar) : List Scalar :=
  keys.mergeSort fun a b => !(b.before? a).getD false

def sortKeys (keys : List Scalar) : Except Breakdown (List Scalar) :=
  let clash := (keys.zip keys.tail).find? fun (earlier, later) => (later.before? earlier).isNone
  match clash with
  | some (earlier, later) => .error (.unordered later earlier)
  | none => .ok (inOrder keys)

/-- Two texts that are not empty make an escape. -/
def checkEscapeParts (parts : List Data) (place : Text) : Checked (Option Escape) :=
  match parts with
  | [.scalar (.text opening), .scalar (.text closing)] =>
      if opening.isEmpty || closing.isEmpty then flawed none place .badEscapeParts
      else clean (some ⟨opening, closing⟩)
  | _ => flawed none place .badEscapeParts

/-- An escape is a list of its two parts, or a mapping that names them. -/
def checkEscape (value : Data) (place : Text) : Except Breakdown (Checked (Option Escape)) :=
  match value with
  | .scalar .null => .ok (clean none)
  | .list parts => .ok (checkEscapeParts parts place)
  | .map entries =>
      let start := "start".toList
      let stop := "end".toList
      let unknown := unknownKeys [start, stop] entries
      if unknown.isEmpty then
        .ok (checkEscapeParts
          [(Data.get? entries start).getD .null, (Data.get? entries stop).getD .null] place)
      else do
        let keys ← sortKeys unknown
        requireTexts keys
        pure (flawed none place (.unknownEscapeFields keys))
  | _ => .ok (flawed none place .notEscape)

def checkBoolean (value : Data) (place : Text) : Checked Bool :=
  match value with
  | .scalar (.bool value) => clean value
  | _ => flawed false place (.notBoolean value)

def tablePlace : Text := "substitutions".toList

/-- One entry of a table, put over those before it; its value must be a text. -/
def checkTableEntry (before : Checked Table) (entry : Scalar × Data) : Checked Table :=
  match entry.2 with
  | .scalar (.text value) => ⟨before.value.set entry.1.written value, before.problems⟩
  | other =>
      ⟨before.value, before.problems ++ [⟨field tablePlace entry.1.written, .notText other⟩]⟩

def checkTable (value : Data) : Except Breakdown (Checked Table) :=
  match value with
  | .scalar .null => .ok (clean [])
  | .map entries => do
      requireTexts (entries.map (·.1))
      pure (entries.foldl checkTableEntry (clean []))
  | _ => .ok (flawed [] tablePlace .tableNotMapping)

/-- A path is a text that is not empty; variables are expanded in it, then a home directory. -/
def checkPath (around : Surroundings) (value : Option Data) (place : Text) :
    Except Breakdown (Checked (Option Path)) :=
  match value with
  | none | some (.scalar .null) => .ok (flawed none place .missing)
  | some (.scalar (.text (c :: text))) =>
      match Expression.expandVariables around.lookup (c :: text) with
      | .error flaw => .ok (flawed none place (.badReference flaw))
      | .ok expanded =>
          let path := Path.ofText expanded
          if path.account?.any (·.contains '\x00') then .error .nullCharacter
          else
            match path.expandHome? around.homes with
            | some path => .ok (clean (some (around.root.under path)))
            | none => .error .unknownHome
  | some _ => .ok (flawed none place .notPath)

def documentFields : List Text :=
  ["source".toList, "target".toList, "prefix".toList, "escape".toList,
    "remove_instructions".toList]

/-- A field that falls back on a default if the entry does not have it. -/
def orDefault {α : Type} (entries : List (Scalar × Data)) (name : Text) (default : α)
    (check : Data → Checked α) : Checked α :=
  match Data.get? entries name with
  | some value => check value
  | none => clean default

/-- The escape of an entry falls back on a default too. -/
def escapeOrDefault (entries : List (Scalar × Data)) (default : Option Escape) (place : Text) :
    Except Breakdown (Checked (Option Escape)) :=
  match Data.get? entries "escape".toList with
  | some value => checkEscape value (field place "escape".toList)
  | none => .ok (clean default)

/-- The entry of a document; there is a document if it has both paths. -/
def checkEntry (around : Surroundings) (defaults : Treatment) (place : Text) (entry : Data) :
    Except Breakdown (Checked (Option DocumentConfig)) :=
  match entry with
  | .map entries => do
      let unknown ← unknownFields documentFields entries place
      let source ← checkPath around (Data.get? entries "source".toList)
        (field place "source".toList)
      let target ← checkPath around (Data.get? entries "target".toList)
        (field place "target".toList)
      let mark := orDefault entries "prefix".toList defaults.mark? fun value =>
        checkMark value (field place "prefix".toList)
      let escape ← escapeOrDefault entries defaults.escape? place
      let remove := orDefault entries "remove_instructions".toList defaults.removeDirectives
        fun value => checkBoolean value (field place "remove_instructions".toList)
      let document :=
        match source.value, target.value with
        | some source, some target =>
        some ⟨source, target, ⟨mark.value, escape.value, remove.value⟩⟩
        | _, _ => none
      pure ⟨document, unknown ++ source.problems ++ target.problems ++ mark.problems ++
        escape.problems ++ remove.problems⟩
  | _ => .ok (flawed none place .entryNotMapping)

/-- The place of an entry, by its number from zero. -/
def entryPlace (index : Nat) : Text := "config[".toList ++ Text.ofNat index ++ [']']

def checkEntries (around : Surroundings) (defaults : Treatment) :
    (index : Nat) → List Data → Except Breakdown (Checked (List DocumentConfig))
  | _, [] => .ok (clean [])
  | index, entry :: entries => do
      let first ← checkEntry around defaults (entryPlace index) entry
      let others ← checkEntries around defaults (index + 1) entries
      pure ⟨first.value.toList ++ others.value, first.problems ++ others.problems⟩

/-- The list of documents, which may be left out. -/
def checkDocuments (around : Surroundings) (defaults : Treatment) (value : Data) :
    Except Breakdown (Checked (List DocumentConfig)) :=
  match value with
  | .scalar .null => .ok (clean [])
  | .list entries => checkEntries around defaults 0 entries
  | _ => .ok (flawed [] "config".toList .documentsNotList)

def topFields : List Text :=
  ["default_prefix".toList, "default_escape".toList, "default_remove_instructions".toList,
    "strict_substitutions".toList, "substitutions".toList, "config".toList]

def check (around : Surroundings) (raw : List (Scalar × Data)) :
    Except Breakdown (Checked Config) := do
  let value := fun (name : Text) => (Data.get? raw name).getD .null
  let truth := fun (name : Text) (default : Bool) =>
    checkBoolean ((Data.get? raw name).getD (.scalar (.bool default))) name
  let unknown ← unknownFields topFields raw []
  let mark := checkMark (value "default_prefix".toList) "default_prefix".toList
  let escape ← checkEscape (value "default_escape".toList) "default_escape".toList
  let remove := truth "default_remove_instructions".toList true
  let strict := truth "strict_substitutions".toList false
  let table ← checkTable (value "substitutions".toList)
  let defaults : Treatment := ⟨mark.value, escape.value, remove.value⟩
  let documents ← checkDocuments around defaults (value "config".toList)
  pure ⟨⟨documents.value, ⟨table.value, strict.value⟩, defaults⟩,
    unknown ++ mark.problems ++ escape.problems ++ remove.problems ++ strict.problems ++
      table.problems ++ documents.problems⟩

/-- The configuration that a mapping writes, if it has no problem. -/
def build (around : Surroundings) (raw : List (Scalar × Data)) : Except Failure Config :=
  match check around raw with
  | .error breakdown => .error (.breakdown breakdown)
  | .ok checked =>
      if checked.problems.isEmpty then .ok checked.value else .error (.invalid checked.problems)

/-- What a valid configuration is remarkable for: that it lists no documents. -/
def notes (config : Config) : List Note :=
  if config.documents.isEmpty then
    [⟨.warning, .configuring, "Configuration lists no documents".toList⟩]
  else []

end Config

/-- Where the processed form of a document is written, if its source has a name. -/
def DocumentConfig.output? (document : DocumentConfig) : Option Path :=
  document.source.extend? Config.outputEnding

end Tailor
