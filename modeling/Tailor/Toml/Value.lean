import Tailor.Data.Basic
import Tailor.Toml.Basic

/-! # TOML: values

Strings, truth values, moments, numbers, lists and tables in braces.
-/

namespace Tailor.Toml

/-! ## Moments -/

/-- A number of a fixed count of digits between two bounds. -/
def field? (count least most : Nat) (text : Text) : Option (Nat × Text) := do
  let digits := text.take count
  if digits.length < count ∨ !digits.all Char.isDigit then none
  let value ← Text.inBase? 10 digits
  if value < least ∨ most < value then none
  some (value, text.drop count)

/-- The fraction of a second in microseconds; of its digits six count. -/
def fraction (text : Text) : Nat × Text :=
  match text with
  | '.' :: rest =>
      match rest.takeWhile Char.isDigit with
      | [] => (0, text)
      | digits =>
          let six := digits.take 6
          let micro := six ++ List.replicate (6 - six.length) '0'
          ((Text.inBase? 10 micro).getD 0, rest.dropWhile Char.isDigit)
  | _ => (0, text)

def time? (text : Text) : Option (TimeOfDay × Text) := do
  let (hour, rest) ← field? 2 0 23 text
  let rest ← Text.after? [':'] rest
  let (minute, rest) ← field? 2 0 59 rest
  let rest ← Text.after? [':'] rest
  let (second, rest) ← field? 2 0 59 rest
  let (micro, rest) := fraction rest
  some (⟨hour, minute, second, micro⟩, rest)

/-- The distance from universal time after a moment, in minutes. -/
def offset (text : Text) : Option Int × Text :=
  match text with
  | 'Z' :: rest | 'z' :: rest => (some 0, rest)
  | sign :: rest =>
      let read : Option (Int × Text) := do
        let (hours, rest) ← field? 2 0 23 rest
        let rest ← Text.after? [':'] rest
        let (minutes, rest) ← field? 2 0 59 rest
        if sign = '+' then some ((hours * 60 + minutes : Nat), rest)
        else if sign = '-' then some (-((hours * 60 + minutes : Nat) : Int), rest)
        else none
      match read with
      | some (minutes, rest) => (some minutes, rest)
      | none => (none, text)
  | [] => (none, [])

/-- A day, with a time and its distance from universal time if they follow. The month and the day
are within the bounds of every year, so the calendar may still not have it. -/
def moment? (text : Text) : Option (Except Fault Scalar × Text) := do
  let (year, rest) ← field? 4 0 9999 text
  let rest ← Text.after? ['-'] rest
  let (month, rest) ← field? 2 1 12 rest
  let rest ← Text.after? ['-'] rest
  let (day, rest) ← field? 2 1 31 rest
  let date := (Date.make year month day).mapError fun _ => Fault.flaw .badDate
  let clock? :=
    match rest with
    | 'T' :: after | 't' :: after | ' ' :: after => time? after
    | _ => none
  match clock? with
  | some (time, rest) =>
      let (offset, rest) := offset rest
      some (date.map fun date => Scalar.moment date time offset, rest)
  | none => some (date.map Scalar.date, rest)

/-! ## Numbers -/

def digitsFrom (isDigit : Char → Bool) : Text → Text × Text
  | '_' :: c :: rest =>
      if isDigit c then
        let (digits, after) := digitsFrom isDigit rest
        (c :: digits, after)
      else ([], '_' :: c :: rest)
  | c :: rest =>
      if isDigit c then
        let (digits, after) := digitsFrom isDigit rest
        (c :: digits, after)
      else ([], c :: rest)
  | [] => ([], [])

/-- Digits, if the text begins with one. -/
def digits? (isDigit : Char → Bool) (text : Text) : Option (Text × Text) :=
  if (text.head?.map isDigit).getD false then some (digitsFrom isDigit text) else none

def based? (text : Text) : Option (Except Fault Scalar × Text) := do
  let (base, rest) ←
    match text with
    | '0' :: 'x' :: rest => some (16, rest)
    | '0' :: 'o' :: rest => some (8, rest)
    | '0' :: 'b' :: rest => some (2, rest)
    | _ => none
  let (digits, rest) ← digits? (fun c => (Text.baseDigit? base c).isSome) rest
  some (((Literal.integer base digits).mapError .literal).map Scalar.int, rest)

/-- The part of a number after its point. -/
def fractionText (text : Text) : Text × Text :=
  match text with
  | '.' :: rest =>
      match digits? Char.isDigit rest with
      | some (digits, rest) => ('.' :: digits, rest)
      | none => ([], text)
  | _ => ([], text)

def exponentText (text : Text) : Text × Text :=
  match text with
  | mark :: rest =>
      if mark = 'e' ∨ mark = 'E' then
        let (sign, rest) :=
          match rest with
          | '-' :: rest => (['-'], rest)
          | '+' :: rest => ([], rest)
          | _ => ([], rest)
        match digits? Char.isDigit rest with
        | some (digits, rest) => ('e' :: sign ++ digits, rest)
        | none => ([], text)
      else ([], text)
  | [] => ([], [])

def signText (text : Text) : Text × Text :=
  match text with
  | '-' :: rest => (['-'], rest)
  | '+' :: rest => ([], rest)
  | _ => ([], text)

/-- A decimal number: a whole one unless it has a fraction or an exponent. No zero stands before
other digits. -/
def decimal? (text : Text) : Option (Except Fault Scalar × Text) := do
  let (sign, rest) := signText text
  let (whole, rest) ←
    match rest with
    | '0' :: rest => some (['0'], rest)
    | _ => digits? Char.isDigit rest
  let (fraction, rest) := fractionText rest
  let (exponent, rest) := exponentText rest
  if fraction.isEmpty ∧ exponent.isEmpty then
    some (((Literal.integer 10 (sign ++ whole)).mapError .literal).map Scalar.int, rest)
  else
    let value := Decimal.read? (sign ++ whole ++ fraction ++ exponent)
    some (.ok (.float (value.getD 0.0)), rest)

/-- Infinity, or the undefined number. -/
def named? (text : Text) : Option (Except Fault Scalar × Text) := do
  let (sign, rest) := signText text
  let name := rest.take 3
  if name ≠ "inf".toList ∧ name ≠ "nan".toList then none
  let value ← Decimal.read? (sign ++ name)
  some (.ok (.float value), rest.drop 3)

def truth? (text : Text) : Option (Except Fault Scalar × Text) :=
  match Text.after? "true".toList text, Text.after? "false".toList text with
  | some rest, _ => some (.ok (.bool true), rest)
  | _, some rest => some (.ok (.bool false), rest)
  | _, _ => none

/-- A time without day. -/
def clock? (text : Text) : Option (Except Fault Scalar × Text) :=
  (time? text).map fun (time, rest) => (.ok (.time time), rest)

/-- A value without parts that is no string: the first of its forms that the text begins with. -/
def scalar (text : Text) : Except Fault (Scalar × Text) :=
  let read := truth? text <|> moment? text <|> clock? text <|> based? text <|> decimal? text <|>
    named? text
  match read with
  | some (value, rest) => value.map (·, rest)
  | none => flawed .badValue

/-! ## Values with parts -/

abbrev Entry := Scalar × Data

/-- Changes the table that a path leads to. Tables that are missing on the way are made; where lists
of tables are entered, the last table counts. There is no such table if anything else stands on the
way. -/
def changeTable? (intoLists : Bool) (change : List Entry → Option (List Entry)) :
    (path : List Text) → (entries : List Entry) → Option (List Entry)
  | [], entries => change entries
  | key :: path, entries => do
      match (Data.get? entries key).getD (.map []) with
      | .map inner =>
          let inner ← changeTable? intoLists change path inner
          some (Data.put entries (.text key) (.map inner))
      | .list items =>
          match items.getLast? with
          | some (.map inner) =>
              if !intoLists then none
              let inner ← changeTable? intoLists change path inner
              some (Data.put entries (.text key) (.list (items.dropLast ++ [.map inner])))
          | _ => none
      | _ => none

/-- Adds an entry under a key that is still free. -/
def addNew? (key : Text) (value : Data) (entries : List Entry) : Option (List Entry) :=
  if (Data.get? entries key).isSome then none else some (entries ++ [(.text key, value)])

/-- The value has parts, which no later statement may change. -/
def hasParts : Data → Bool
  | .map _ | .list _ => true
  | _ => false

/-- A path leads to one of some others, or to something inside it. -/
def isInside (path : List Text) (others : List (List Text)) : Bool :=
  others.any fun other => !other.isEmpty && other.isPrefixOf path

/-- The text after white space, line feeds and comments. -/
def afterGap : (steps : Nat) → Text → Except Fault Text
  | 0, text => .ok text
  | steps + 1, text => do
      let rest ← afterComment (text.dropWhile fun c => isSpace c || c == '\n')
      if rest.length = text.length then pure text else afterGap steps rest

mutual

/-- A value. Each step below takes at least one character, so the text's length bounds the steps. -/
def valueFrom : (steps : Nat) → Text → Except Fault (Data × Text)
  | 0, _ => flawed .badValue
  | steps + 1, text =>
      match string? text, text with
      | some read, _ => read.map fun (value, rest) => (.scalar (.text value), rest)
      | none, '[' :: rest => do
          let rest ← afterGap rest.length rest
          let (items, rest) ← itemsFrom steps rest
          pure (.list items, rest)
      | none, '{' :: rest => do
          match afterSpace rest with
          | '}' :: rest => pure (.map [], rest)
          | rest =>
              let (entries, rest) ← entriesFrom [] [] steps rest
              pure (.map entries, rest)
      | none, _ => (scalar text).map fun (value, rest) => (.scalar value, rest)

/-- The items of a list up to its closing bracket; a comma may stand before that. -/
def itemsFrom : (steps : Nat) → Text → Except Fault (List Data × Text)
  | 0, _ => flawed .openList
  | steps + 1, text =>
      match text with
      | ']' :: rest => .ok ([], rest)
      | _ => do
          let (item, rest) ← valueFrom steps text
          match ← afterGap rest.length rest with
          | ']' :: rest => pure ([item], rest)
          | ',' :: rest => do
              let rest ← afterGap rest.length rest
              let (items, rest) ← itemsFrom steps rest
              pure (item :: items, rest)
          | _ => flawed .openList

/-- The entries of a table in braces, after those that were read, some of which are fixed. -/
def entriesFrom (entries : List Entry) (fixed : List (List Text)) :
    (steps : Nat) → Text → Except Fault (List Entry × Text)
  | 0, _ => flawed .openTable
  | steps + 1, text => do
      let (path, rest) ← key text
      match rest with
      | '=' :: rest => do
          let (value, rest) ← valueFrom steps (afterSpace rest)
          if isInside path fixed then flawed (.fixedTable path)
          let added :=
            changeTable? false (addNew? (path.getLast?.getD []) value) path.dropLast entries
          match added with
          | none => flawed (.overwritten path)
          | some entries =>
              match afterSpace rest with
              | '}' :: rest => pure (entries, rest)
              | ',' :: rest =>
                  entriesFrom entries (if hasParts value then path :: fixed else fixed) steps
                    (afterSpace rest)
              | _ => flawed .openTable
      | _ => flawed .missingEquals

end

/-- A value, with what follows it. -/
def value (text : Text) : Except Fault (Data × Text) := valueFrom (2 * text.length + 2) text

end Tailor.Toml
