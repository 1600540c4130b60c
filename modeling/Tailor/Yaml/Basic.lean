import Tailor.Data.Literal

/-! # YAML: characters, faults and positions

The readers of this folder take YAML 1.1 texts whose lines end in line feeds. A text is read in
three steps: into tokens, into a tree of nodes, and into data.
-/

namespace Tailor.Yaml

def isBreak (c : Char) : Bool :=
  c == '\n' || c == '\x85' || c == '\u2028' || c == '\u2029'

/-- The character that the end of a line stands for in a value. -/
def broken (c : Char) : Char := if c == '\x85' then '\n' else c

/-- Spaces and tabs; only spaces indent. -/
def isSpace (c : Char) : Bool := c == ' ' || c == '\t'

/-- What follows an indicator that stands alone: a space, a tab, the end of the line or the end of
the text. -/
def endsWord (text : Text) : Bool :=
  match text with
  | [] => true
  | c :: _ => isSpace c || isBreak c

/-- What follows a word that must end before a space: a space, the end of the line or the end of
the text. -/
def endsField (text : Text) : Bool :=
  match text with
  | [] => true
  | c :: _ => c == ' ' || isBreak c

/-- The line has ended, or the text has. -/
def atLineEnd (text : Text) : Bool :=
  match text with
  | [] => true
  | c :: _ => isBreak c

/-- A mark between documents, `---` or `...`, stands here as a word of its own. -/
def atMark (mark : Char) (text : Text) : Bool :=
  match Text.after? [mark, mark, mark] text with
  | some rest => endsWord rest
  | none => false

/-- One of the marks between documents stands here. -/
def atSeparator (text : Text) : Bool := atMark '-' text || atMark '.' text

/-- The characters of the names of anchors, directives and tag handles. -/
def isNameChar (c : Char) : Bool := c.isAlphanum || c == '-' || c == '_'

def isPrintable (c : Char) : Bool :=
  let n := c.toNat
  n == 0x09 || n == 0x0A || n == 0x0D || (0x20 ≤ n && n ≤ 0x7E) || n == 0x85 ||
    (0xA0 ≤ n && n ≤ 0xD7FF) || (0xE000 ≤ n && n ≤ 0xFFFD) || 0x10000 ≤ n

/-- Why a text is no YAML document. -/
inductive Flaw where
  | unprintable (c : Char)
  | strayCharacter (c : Char)
  | malformedDirective
  | malformedName
  | malformedTag
  | malformedEscape
  | malformedBlockHeader
  | openQuote
  | separatorInQuote
  /-- An entry, a key or a value stands where no block collection can begin. -/
  | misplaced (indicator : Char)
  /-- A key that must be followed by a colon is not. -/
  | missingColon
  | repeatedVersion
  | unknownVersion (major : Nat)
  | repeatedHandle (handle : Text)
  | unknownHandle (handle : Text)
  /-- A token stands where the structure does not allow it. -/
  | misfit
  | severalDocuments
  | unknownAlias (name : Text)
  | repeatedAnchor (name : Text)
  /-- No value can be made from a node with this tag. -/
  | unreadableTag (tag : Text)
  | compoundKey
  | badMerge
deriving Repr, DecidableEq

def Flaw.message : Flaw → Text
  | .unprintable c => "special characters are not allowed: ".toList ++ Text.quoted [c]
  | .strayCharacter c => "character ".toList ++ Text.quoted [c] ++ " cannot start any token".toList
  | .malformedDirective => "malformed directive".toList
  | .malformedName => "malformed name of an anchor or alias".toList
  | .malformedTag => "malformed tag".toList
  | .malformedEscape => "unknown or malformed escape sequence".toList
  | .malformedBlockHeader => "malformed header of a block scalar".toList
  | .openQuote => "unexpected end of a quoted scalar".toList
  | .separatorInQuote => "unexpected document separator in a quoted scalar".toList
  | .misplaced c => Text.quoted [c] ++ " is not allowed here".toList
  | .missingColon => "could not find expected ':'".toList
  | .repeatedVersion => "duplicate YAML directive".toList
  | .unknownVersion _ => "incompatible YAML document (version 1.* is required)".toList
  | .repeatedHandle handle => "duplicate tag handle ".toList ++ Text.quoted handle
  | .unknownHandle handle => "undefined tag handle ".toList ++ Text.quoted handle
  | .misfit => "unexpected token".toList
  | .severalDocuments => "expected a single document".toList
  | .unknownAlias name => "undefined alias ".toList ++ Text.quoted name
  | .repeatedAnchor name => "duplicate anchor ".toList ++ Text.quoted name
  | .unreadableTag tag => "could not determine a value for the tag ".toList ++ Text.quoted tag
  | .compoundKey => "a key must be a scalar".toList
  | .badMerge => "expected a mapping or list of mappings for merging".toList

/-- Why a text gives no data: it is no document, or a scalar of it does not write a value of its
type. -/
inductive Fault where
  | flaw (flaw : Flaw)
  | literal (fault : LiteralFault)
deriving Repr, DecidableEq

/-- A place in a text: what is left to read, and where it stands. Lines and columns count from
zero. -/
structure Cursor where
  rest : Text
  index : Nat
  line : Nat
  column : Nat

namespace Cursor

/-- The beginning of a text; a byte order mark there does not count. -/
def ofText (text : Text) : Cursor :=
  match text with
  | '\uFEFF' :: rest => ⟨rest, 1, 0, 0⟩
  | _ => ⟨text, 0, 0, 0⟩

/-- The place after a number of characters. A byte order mark takes no column. -/
def skip (cursor : Cursor) : Nat → Cursor
  | 0 => cursor
  | n + 1 =>
      match cursor.rest with
      | [] => cursor
      | c :: rest =>
          if isBreak c then skip ⟨rest, cursor.index + 1, cursor.line + 1, 0⟩ n
          else
            skip ⟨rest, cursor.index + 1, cursor.line,
              if c == '\uFEFF' then cursor.column else cursor.column + 1⟩ n

/-- The place at which a given end of the text is left to read. -/
def skipTo (cursor : Cursor) (rest : Text) : Cursor :=
  cursor.skip (cursor.rest.length - rest.length)

end Cursor
end Tailor.Yaml
