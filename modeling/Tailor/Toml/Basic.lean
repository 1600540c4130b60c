import Tailor.Data.Literal

/-! # TOML: faults and strings

The readers of this folder take TOML 1.0 texts in which a carriage return and a line feed together
have become a line feed.
-/

namespace Tailor.Toml

/-- Why a text is no TOML document. -/
inductive Flaw where
  | undecodable
  | badStatement
  | trailingText
  | badKey
  | missingEquals
  | badValue
  | badDate
  | openString
  | badEscape
  | badCharacter (c : Char)
  | openList
  | openTable
  | openHeader
  | repeatedTable (path : List Text)
  | fixedTable (path : List Text)
  | overwritten (path : List Text)
deriving Repr, DecidableEq

def pathText (path : List Text) : Text := Text.join ['.'] path

def Flaw.message : Flaw → Text
  | .undecodable => "the document is not encoded in UTF-8".toList
  | .badStatement => "Invalid statement".toList
  | .trailingText => "Expected newline or end of document after a statement".toList
  | .badKey => "Invalid initial character for a key part".toList
  | .missingEquals => "Expected '=' after a key in a key/value pair".toList
  | .badValue => "Invalid value".toList
  | .badDate => "Invalid date or datetime".toList
  | .openString => "Unterminated string".toList
  | .badEscape => "Invalid escape sequence".toList
  | .badCharacter c => "Found invalid character ".toList ++ Text.quoted [c]
  | .openList => "Unclosed array".toList
  | .openTable => "Unclosed inline table".toList
  | .openHeader => "Expected ']' at the end of a table declaration".toList
  | .repeatedTable path => "Cannot declare ".toList ++ pathText path ++ " twice".toList
  | .fixedTable path => "Cannot mutate immutable namespace ".toList ++ pathText path
  | .overwritten path => "Cannot overwrite the value of ".toList ++ pathText path

/-- Why a text gives no data: it is no document, or a number of it has too many digits. -/
inductive Fault where
  | flaw (flaw : Flaw)
  | literal (fault : LiteralFault)
deriving Repr, DecidableEq

def flawed {α : Type} (flaw : Flaw) : Except Fault α := .error (.flaw flaw)

def isSpace (c : Char) : Bool := c == ' ' || c == '\t'

def afterSpace (text : Text) : Text := text.dropWhile isSpace

/-- The control characters that no comment and no string may hold as they are. -/
def isControl (c : Char) : Bool := (c.toNat < 0x20 && c != '\t') || c.toNat == 0x7F

/-- The text after a comment, if one begins here; the end of its line stays. -/
def afterComment (text : Text) : Except Fault Text :=
  match text with
  | '#' :: rest =>
      match (rest.takeWhile (· != '\n')).find? isControl with
      | some c => flawed (.badCharacter c)
      | none => .ok (rest.dropWhile (· != '\n'))
  | _ => .ok text

/-! ## Strings -/

/-- The characters that stand for others after a backslash. -/
def escapes : List (Char × Char) :=
  [('b', '\x08'), ('t', '\t'), ('n', '\n'), ('f', '\x0C'), ('r', '\r'), ('"', '"'), ('\\', '\\')]

/-- The character with a code point in hexadecimal digits. -/
def coded (digits : Text) : Except Fault Char :=
  match Text.inBase? 16 digits with
  | some code =>
      if 0x10FFFF < code ∨ (0xD800 ≤ code ∧ code ≤ 0xDFFF) then flawed .badEscape
      else .ok (Char.ofNat code)
  | none => flawed .badEscape

/-- White space after a backslash that ends a line of a string: it does not count, up to the next
other character. -/
inductive Trim where
  | no
  /-- The line has not ended yet. -/
  | inLine
  | afterLine
deriving Repr, DecidableEq

def before (text : Text) (tail : Except Fault (Text × Text)) : Except Fault (Text × Text) := do
  let (value, rest) ← tail
  pure (text ++ value, rest)

/-- A string with escapes, after its opening quotes, up to its closing ones: three in a string of
several lines. -/
def basicFrom (multiline : Bool) (trim : Trim) : Text → Except Fault (Text × Text)
  | [] => flawed .openString
  | c :: rest =>
      if trim = .inLine then
        if isSpace c then basicFrom multiline .inLine rest
        else if c = '\n' then basicFrom multiline .afterLine rest
        else flawed .badEscape
      else if trim = .afterLine ∧ (isSpace c ∨ c = '\n') then basicFrom multiline .afterLine rest
      else if c = '"' then
        if !multiline then .ok ([], rest)
        else
          match rest with
          | '"' :: '"' :: after => .ok ([], after)
          | _ => before ['"'] (basicFrom multiline .no rest)
      else if c = '\\' then
        match rest with
        | 'u' :: a :: b :: c :: d :: after => do
            let meant ← coded [a, b, c, d]
            before [meant] (basicFrom multiline .no after)
        | 'U' :: a :: b :: c :: d :: e :: f :: g :: h :: after => do
            let meant ← coded [a, b, c, d, e, f, g, h]
            before [meant] (basicFrom multiline .no after)
        | mark :: after =>
            match escapes.lookup mark with
            | some meant => before [meant] (basicFrom multiline .no after)
            | none =>
                if !multiline then flawed .badEscape
                else if isSpace mark then basicFrom multiline .inLine after
                else if mark = '\n' then basicFrom multiline .afterLine after
                else flawed .badEscape
        | [] => flawed .badEscape
      else if isControl c ∧ !(multiline ∧ c = '\n') then flawed (.badCharacter c)
      else before [c] (basicFrom multiline .no rest)

/-- A string without escapes, after its opening quotes. -/
def literalFrom (multiline : Bool) : Text → Except Fault (Text × Text)
  | [] => flawed .openString
  | c :: rest =>
      if c = '\'' then
        if !multiline then .ok ([], rest)
        else
          match rest with
          | '\'' :: '\'' :: after => .ok ([], after)
          | _ => before ['\''] (literalFrom multiline rest)
      else if isControl c ∧ !(multiline ∧ c = '\n') then flawed (.badCharacter c)
      else before [c] (literalFrom multiline rest)

/-- Up to two quotes right before the closing ones of a string of several lines belong to it. -/
def withQuotes (quote : Char) (read : Except Fault (Text × Text)) : Except Fault (Text × Text) := do
  let (value, rest) ← read
  let quotes := (rest.take 2).takeWhile (· = quote)
  pure (value ++ quotes, rest.drop quotes.length)

/-- A line feed right after the opening quotes of a string of several lines does not count. -/
def afterFirstBreak (text : Text) : Text :=
  match text with
  | '\n' :: rest => rest
  | _ => text

/-- A string of any of the four forms. -/
def string? (text : Text) : Option (Except Fault (Text × Text)) :=
  match text with
  | '"' :: '"' :: '"' :: rest =>
      some (withQuotes '"' (basicFrom true .no (afterFirstBreak rest)))
  | '"' :: rest => some (basicFrom false .no rest)
  | '\'' :: '\'' :: '\'' :: rest =>
      some (withQuotes '\'' (literalFrom true (afterFirstBreak rest)))
  | '\'' :: rest => some (literalFrom false rest)
  | _ => none

/-! ## Keys -/

/-- The characters of keys without quotes. -/
def isBare (c : Char) : Bool := c.isAlphanum || c == '-' || c == '_'

/-- One part of a key: bare or in quotes on one line. -/
def keyPart (text : Text) : Except Fault (Text × Text) :=
  match text with
  | '"' :: rest => basicFrom false .no rest
  | '\'' :: rest => literalFrom false rest
  | _ =>
      match text.takeWhile isBare with
      | [] => flawed .badKey
      | part => .ok (part, text.dropWhile isBare)

/-- The parts of a key between points, with spaces around them. -/
def keyFrom : (steps : Nat) → Text → Except Fault (List Text × Text)
  | 0, _ => flawed .badKey
  | steps + 1, text => do
      let (part, rest) ← keyPart text
      match afterSpace rest with
      | '.' :: rest => do
          let (parts, rest) ← keyFrom steps (afterSpace rest)
          pure (part :: parts, rest)
      | rest => pure ([part], rest)

/-- A key; its parts take a character each at least. -/
def key (text : Text) : Except Fault (List Text × Text) := keyFrom (text.length + 1) text

end Tailor.Toml
