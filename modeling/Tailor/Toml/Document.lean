import Tailor.Text.Utf8
import Tailor.Toml.Value

/-! # TOML: documents

A document is a row of statements: entries, and headers that open a table or add a table to a list.
What was declared once may not be declared again, and lists and tables that were written as values
stay as they are.
-/

namespace Tailor.Toml

/-- The state of reading a document. -/
structure Document where
  entries : List Entry
  header : List Text
  /-- The tables that may not be declared again. -/
  declared : List (List Text)
  /-- The tables that dotted keys opened since the last header; after the next one they may not be
  declared again. -/
  opened : List (List Text)
  /-- The lists and tables that were written as values. -/
  fixed : List (List Text)

namespace Document

def empty : Document := ⟨[], [], [], [], []⟩

/-- A header begins: what dotted keys opened may not be declared any more. -/
def closeSection (document : Document) : Document :=
  { document with declared := document.opened ++ document.declared, opened := [] }

def openTable (path : List Text) (document : Document) : Except Fault Document := do
  if path ∈ document.declared ∨ isInside path document.fixed then flawed (.repeatedTable path)
  match changeTable? true some path document.entries with
  | some entries =>
      pure { document with entries, header := path, declared := path :: document.declared }
  | none => flawed (.overwritten path)

/-- Adds an empty table to the list under a key. -/
def appendTable? (key : Text) (entries : List Entry) : Option (List Entry) :=
  match Data.get? entries key with
  | none => some (entries ++ [(.text key, .list [.map []])])
  | some (.list items) => some (Data.put entries (.text key) (.list (items ++ [.map []])))
  | some _ => none

/-- Adds a table to the list at a path. What was declared inside the table before it is free
again. -/
def addToList (path : List Text) (document : Document) : Except Fault Document := do
  if isInside path document.fixed then flawed (.fixedTable path)
  let outside := fun (other : List Text) => !path.isPrefixOf other
  match changeTable? true (appendTable? (path.getLast?.getD [])) path.dropLast document.entries with
  | some entries =>
      pure { document with
        entries, header := path
        declared := path :: document.declared.filter outside
        fixed := document.fixed.filter outside }
  | none => flawed (.overwritten path)

/-- The tables that a dotted key opens on the way to its last part. -/
def passed (header path : List Text) : List (List Text) :=
  (List.range (path.length - 1)).map fun (index : Nat) => header ++ path.take (index + 1)

/-- Adds an entry to the table of the last header. -/
def addEntry (path : List Text) (value : Data) (document : Document) : Except Fault Document := do
  let whole := document.header ++ path
  let passed := passed document.header path
  match passed.find? (document.declared.contains ·) with
  | some table => flawed (.repeatedTable table)
  | none =>
      if isInside whole.dropLast document.fixed then flawed (.fixedTable whole.dropLast)
      match changeTable? true (addNew? (whole.getLast?.getD []) value) whole.dropLast
          document.entries with
      | none => flawed (.overwritten whole)
      | some entries =>
          pure { document with
            entries
            opened := passed ++ document.opened
            fixed := if hasParts value then whole :: document.fixed else document.fixed }

/-- One statement, and what follows it in its line. -/
def statement (document : Document) (text : Text) : Except Fault (Document × Text) := do
  match text with
  | '[' :: '[' :: rest => do
      let (path, rest) ← key (afterSpace rest)
      let document ← document.closeSection.addToList path
      match rest with
      | ']' :: ']' :: rest => pure (document, rest)
      | _ => flawed .openHeader
  | '[' :: rest => do
      let (path, rest) ← key (afterSpace rest)
      let document ← document.closeSection.openTable path
      match rest with
      | ']' :: rest => pure (document, rest)
      | _ => flawed .openHeader
  | '#' :: _ => pure (document, text)
  | c :: _ =>
      if !(isBare c || c == '"' || c == '\'') then flawed .badStatement
      let (path, rest) ← key text
      match rest with
      | '=' :: rest => do
          let (value, rest) ← value (afterSpace rest)
          let document ← document.addEntry path value
          pure (document, rest)
      | _ => flawed .missingEquals
  | [] => pure (document, [])

/-- The statements of a text, each in a line of its own. -/
def statements (document : Document) : (steps : Nat) → Text → Except Fault Document
  | 0, _ => .ok document
  | steps + 1, text =>
      match afterSpace text with
      | [] => .ok document
      | '\n' :: rest => statements document steps rest
      | text => do
          let (document, rest) ← document.statement text
          match ← afterComment (afterSpace rest) with
          | [] => pure document
          | '\n' :: rest => statements document steps rest
          | _ => flawed .trailingText

end Document

/-- Carriage return and line feed together become a line feed. -/
def joinBreaks : Text → Text
  | '\r' :: '\n' :: rest => '\n' :: joinBreaks rest
  | c :: rest => c :: joinBreaks rest
  | [] => []

/-- The entries that a text writes. Every statement takes at least one character. -/
def read (text : Text) : Except Fault (List Entry) := do
  let text := joinBreaks text
  let document ← Document.empty.statements (text.length + 1) text
  pure document.entries

end Tailor.Toml
