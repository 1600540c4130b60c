import Tailor.Text.Utf8
import Tailor.Yaml.Scalar

/-! # YAML: tokens

A text is cut into tokens from left to right. Block collections have no brackets: where they begin
and end follows from columns, and is written by tokens of its own. That a scalar, an alias or a flow
collection is the key of a mapping shows only at the colon after it, so a place where a key may have
begun is remembered until the line ends.
-/

namespace Tailor.Yaml

/-- A directive before a document. -/
inductive Directive where
  | version (major : Nat)
  | handle (handle stem : Text)
  | other
deriving Repr, DecidableEq

/-- The parts that a YAML text is made of. -/
inductive Token where
  | directive (directive : Directive)
  | documentStart
  | documentEnd
  | blockList
  | blockMap
  | blockEnd
  | flowList
  | flowListEnd
  | flowMap
  | flowMapEnd
  | comma
  /-- A dash before an item of a block list. -/
  | entry
  | key
  | value
  | alias (name : Text)
  | anchor (name : Text)
  /-- A tag; without handle it is complete. -/
  | tag (handle : Option Text) (suffix : Text)
  | scalar (text : Text) (plain : Bool)
deriving Repr, DecidableEq

/-! ## Words of tokens -/

/-- A name of letters, digits, dashes and underscores. -/
def nameFrom (text : Text) : Text × Text :=
  (text.takeWhile isNameChar, text.dropWhile isNameChar)

/-- The characters of tags that stand for themselves. -/
def isTagChar (c : Char) : Bool := c.isAlphanum || "-;/?:@&=+$,_.!~*'()[]".toList.contains c

def escaped (bytes : Bytes) : Except Fault Text :=
  match Utf8.decode bytes with
  | .ok text => .ok text
  | .error _ => .error (.flaw .malformedTag)

/-- The characters of a tag; the bytes are those of the percent escapes just before. -/
def tagTextFrom (bytes : Bytes) : Text → Except Fault (Text × Text)
  | '%' :: a :: b :: rest =>
      match Text.inBase? 16 [a, b] with
      | some byte => tagTextFrom (bytes ++ [UInt8.ofNat byte]) rest
      | none => .error (.flaw .malformedTag)
  | [] => do pure (← escaped bytes, [])
  | c :: rest =>
      if c == '%' then .error (.flaw .malformedTag)
      else do
        let text ← escaped bytes
        if isTagChar c then before (text ++ [c]) (tagTextFrom [] rest)
        else pure (text, c :: rest)

/-- The characters of a tag, at least one. -/
def tagText (text : Text) : Except Fault (Text × Text) := do
  let (value, rest) ← tagTextFrom [] text
  if value.isEmpty then throw (.flaw .malformedTag)
  pure (value, rest)

/-- A tag handle: an exclamation mark, or a name between two of them. -/
def tagHandle (text : Text) : Except Fault (Text × Text) :=
  match text with
  | '!' :: rest =>
      let (name, after) := nameFrom rest
      match after with
      | '!' :: after => .ok ('!' :: name ++ ['!'], after)
      | _ => if rest.head? = some ' ' then .ok (['!'], rest) else .error (.flaw .malformedTag)
  | _ => .error (.flaw .malformedTag)

def tagFrom (text : Text) : Except Fault (Token × Text) := do
  let (token, rest) ←
    match text with
    | '<' :: rest => do
        match ← tagText rest with
        | (suffix, '>' :: rest) => pure (Token.tag none suffix, rest)
        | _ => throw (.flaw .malformedTag)
    | _ =>
        if endsWord text then pure (Token.tag none ['!'], text)
        else if (text.takeWhile fun c => c != ' ' && !isBreak c).contains '!' then do
          let (handle, rest) ← tagHandle ('!' :: text)
          let (suffix, rest) ← tagText rest
          pure (Token.tag (some handle) suffix, rest)
        else do
          let (suffix, rest) ← tagText text
          pure (Token.tag (some ['!']) suffix, rest)
  if !endsField rest then throw (.flaw .malformedTag)
  pure (token, rest)

/-- The name of an anchor or alias after its indicator. -/
def anchorName (text : Text) : Except Fault (Text × Text) :=
  let (name, rest) := nameFrom text
  let ends := endsWord rest || (rest.head?.map ("?:,]\x7d%@\x60".toList.contains ·)).getD false
  if name.isEmpty || !ends then .error (.flaw .malformedName) else .ok (name, rest)

def digitsFrom (text : Text) : Except Fault (Nat × Text) :=
  match Text.inBase? 10 (text.takeWhile Char.isDigit) with
  | some number => .ok (number, text.dropWhile Char.isDigit)
  | none => .error (.flaw .malformedDirective)

def versionFrom (text : Text) : Except Fault (Directive × Text) := do
  let (major, rest) ← digitsFrom (text.dropWhile (· == ' '))
  match rest with
  | '.' :: rest => do
      let (_, rest) ← digitsFrom rest
      pure (.version major, rest)
  | _ => throw (.flaw .malformedDirective)

/-- The handle that a directive declares, with the stem of the tags it stands for. -/
def handleFrom (text : Text) : Except Fault (Directive × Text) := do
  let (handle, rest) ← tagHandle (text.dropWhile (· == ' '))
  if rest.head? ≠ some ' ' then throw (.flaw .malformedDirective)
  let (stem, rest) ← tagText (rest.dropWhile (· == ' '))
  pure (.handle handle stem, rest)

/-- A directive after its percent sign, up to the end of its line. -/
def directiveFrom (text : Text) : Except Fault (Token × Text) := do
  let (name, rest) := nameFrom text
  if name.isEmpty || !endsField rest then throw (.flaw .malformedDirective)
  let (directive, rest) ←
    if name = "YAML".toList then versionFrom rest
    else if name = "TAG".toList then handleFrom rest
    else pure (Directive.other, rest.dropWhile (!isBreak ·))
  if !endsField rest then throw (.flaw .malformedDirective)
  match afterEmptyLine? rest with
  | some rest => pure (.directive directive, rest)
  | none => throw (.flaw .malformedDirective)

/-! ## Cutting a text into tokens -/

/-- A place where a key may have begun. -/
structure Candidate where
  position : Nat
  /-- The place is one where only a key can stand. -/
  required : Bool
  index : Nat
  line : Nat
  column : Nat

/-- The most characters that a key may have. -/
def keyLimit : Nat := 1024

/-- The state of cutting a text. -/
structure Scan where
  cursor : Cursor
  tokens : Array Token
  /-- The columns of the open block collections, innermost first. -/
  indents : List Nat
  /-- A key may begin at the next token. -/
  keyAllowed : Bool
  /-- The key that may have begun in the innermost flow collection, or outside of all. -/
  candidate : Option Candidate
  /-- The same for what encloses that collection, innermost first. -/
  enclosing : List (Option Candidate)

/-- A step of the cutting. What was done before a fault stays. -/
abbrev ScanM := ExceptT Fault (StateM Scan)

namespace Scan

def ofText (text : Text) : Scan :=
  { cursor := .ofText text, tokens := #[], indents := [], keyAllowed := true, candidate := none,
    enclosing := [] }

def inFlow (scan : Scan) : Bool := !scan.enclosing.isEmpty

/-- The least column right of the innermost open block collection. -/
def leastColumn (scan : Scan) : Nat :=
  match scan.indents with
  | [] => 0
  | column :: _ => column + 1

def flawed {α : Type} (flaw : Flaw) : ScanM α := throw (.flaw flaw)

def push (token : Token) : ScanM Unit :=
  modify fun scan => { scan with tokens := scan.tokens.push token }

def take (count : Nat) (token : Token) : ScanM Unit :=
  modify fun scan =>
    { scan with cursor := scan.cursor.skip count, tokens := scan.tokens.push token }

/-- Adds a token after which a given text is left. -/
def takeTo (rest : Text) (token : Token) : ScanM Unit :=
  modify fun scan =>
    { scan with cursor := scan.cursor.skipTo rest, tokens := scan.tokens.push token }

/-- Whether a key may begin at the next token. -/
def allowKey (allowed : Bool) : ScanM Unit :=
  modify fun scan => { scan with keyAllowed := allowed }

/-- Forgets the key that may have begun; one that is required is missing its colon. -/
def dropCandidate : ScanM Unit := do
  if ((← get).candidate.map Candidate.required).getD false then flawed .missingColon
  modify fun scan => { scan with candidate := none }

/-- The key that may begin at the next token. Where a block mapping goes on, only a key can. -/
def keyHere (scan : Scan) : Candidate where
  position := scan.tokens.size
  required := !scan.inFlow && scan.indents.head? == some scan.cursor.column
  index := scan.cursor.index
  line := scan.cursor.line
  column := scan.cursor.column

def markCandidate : ScanM Unit := do
  if (← get).keyAllowed then
    dropCandidate
    modify fun scan => { scan with candidate := some scan.keyHere }

/-- A key must end in the line in which it began, and within a number of characters. -/
def isStale (cursor : Cursor) (candidate : Candidate) : Bool :=
  candidate.line != cursor.line || keyLimit < cursor.index - candidate.index

/-- Forgets the keys that cannot be keys any more. -/
def dropStale : ScanM Unit := do
  let scan ← get
  let stale := fun (candidate : Option Candidate) =>
    candidate.filter (isStale scan.cursor)
  if (scan.candidate :: scan.enclosing).any fun candidate =>
      ((stale candidate).map Candidate.required).getD false then
    flawed .missingColon
  let fresh := fun (candidate : Option Candidate) =>
    candidate.filter (!isStale scan.cursor ·)
  set { scan with candidate := fresh scan.candidate, enclosing := scan.enclosing.map fresh }

/-- Ends the block collections that stand right of a column; without column, all of them. -/
def unwind (column? : Option Nat) : ScanM Unit :=
  modify fun scan =>
    if scan.inFlow then scan
    else
      let ends := fun (column : Nat) =>
        match column? with
        | some least => decide (least < column)
        | none => true
      let ended := scan.indents.takeWhile ends
      { scan with
        indents := scan.indents.dropWhile ends
        tokens := scan.tokens ++ (ended.map fun _ => Token.blockEnd).toArray }

/-- Opens a block collection at a column if none is open there or further right. -/
def openBlock (column : Nat) : ScanM Bool := do
  let scan ← get
  if scan.leastColumn ≤ column then
    set { scan with indents := column :: scan.indents }
    pure true
  else pure false

/-- The place of the next token, after spaces, comments and line breaks; and whether a line ended
before it. -/
def tokenPlace (inComment : Bool) : Text → Text × Bool
  | [] => ([], false)
  | c :: rest =>
      if isBreak c then ((tokenPlace false rest).1, true)
      else if inComment || c == ' ' then tokenPlace inComment rest
      else if c == '#' then tokenPlace true rest
      else (c :: rest, false)

/-- Goes to the next token. A key may begin in a new line of a block. -/
def toToken : ScanM Unit :=
  modify fun scan =>
    let (rest, broke) := tokenPlace false scan.cursor.rest
    { scan with
      cursor := scan.cursor.skipTo rest
      keyAllowed := scan.keyAllowed || (broke && !scan.inFlow) }

/-- What separates documents, or a directive: all block collections end before it. -/
def atBorder (step : ScanM Unit) : ScanM Unit := do
  unwind none
  dropCandidate
  allowKey false
  step

/-- A flow collection begins; it may be a key itself. -/
def openFlow (token : Token) : ScanM Unit := do
  markCandidate
  modify fun scan =>
    { scan with enclosing := scan.candidate :: scan.enclosing, candidate := none }
  allowKey true
  take 1 token

def closeFlow (token : Token) : ScanM Unit := do
  dropCandidate
  match (← get).enclosing with
  | [] => flawed .misfit
  | candidate :: enclosing =>
      modify fun scan => { scan with candidate := candidate, enclosing := enclosing }
      allowKey false
      take 1 token

/-- A dash before an item of a block list. -/
def scanEntry : ScanM Unit := do
  let scan ← get
  if !scan.inFlow then
    if !scan.keyAllowed then flawed (.misplaced '-')
    if ← openBlock scan.cursor.column then push .blockList
  allowKey true
  dropCandidate
  take 1 .entry

def scanKey : ScanM Unit := do
  let scan ← get
  if !scan.inFlow then
    if !scan.keyAllowed then flawed (.misplaced '?')
    if ← openBlock scan.cursor.column then push .blockMap
  allowKey (!scan.inFlow)
  dropCandidate
  take 1 .key

/-- A colon before a value. If a key may have begun before, it is one now: its token, and if a block
mapping begins with it that token too, are put before it. -/
def scanValue : ScanM Unit := do
  let scan ← get
  match scan.candidate with
  | some key =>
      let opens ← if scan.inFlow then pure false else openBlock key.column
      modify fun scan =>
        let before := scan.tokens.extract 0 key.position
        let after := scan.tokens.extract key.position scan.tokens.size
        let start := if opens then #[Token.blockMap, Token.key] else #[Token.key]
        { scan with tokens := before ++ start ++ after, candidate := none }
      allowKey false
  | none =>
      if !scan.inFlow then
        if !scan.keyAllowed then flawed (.misplaced ':')
        if ← openBlock scan.cursor.column then push .blockMap
      allowKey (!scan.inFlow)
      dropCandidate
  take 1 .value

/-- A token that may be a key or stand before one. -/
def scanNode (read : Except Fault (Token × Text)) : ScanM Unit := do
  markCandidate
  allowKey false
  match read with
  | .ok (token, rest) => takeTo rest token
  | .error fault => throw fault

/-- A block scalar, which is never a key. -/
def scanBlock (folded : Bool) (text : Text) : ScanM Unit := do
  allowKey true
  dropCandidate
  match blockFrom folded (← get).leastColumn text with
  | .ok (value, rest) => takeTo rest (.scalar value false)
  | .error fault => throw fault

/-- A plain scalar. A key may begin after it if it is the last of its line. -/
def scanPlain (text : Text) : ScanM Unit := do
  markCandidate
  let scan ← get
  let reading := plainFrom scan.inFlow scan.leastColumn .empty text
  allowKey reading.broke
  takeTo reading.rest (.scalar reading.value true)

/-- The characters that begin no plain scalar, whatever follows. -/
def indicators : Text := "-?:,[]\x7b\x7d#&*!|>'\"%@\x60".toList

def beginsPlain (inFlow : Bool) (c : Char) (rest : Text) : Bool :=
  (!isSpace c && !isBreak c && !indicators.contains c) ||
    (!endsWord rest && (c == '-' || (!inFlow && (c == '?' || c == ':'))))

/-- Cuts the token that begins with a character. -/
def scanToken (c : Char) (rest : Text) : ScanM Unit := do
  let scan ← get
  let text := c :: rest
  let first := scan.cursor.column == 0
  let quoted := fun (read : Except Fault (Text × Text)) =>
    read.map fun (value, rest) => (Token.scalar value false, rest)
  if first && c == '%' then
    atBorder do
      match directiveFrom rest with
      | .ok (token, rest) => takeTo rest token
      | .error fault => throw fault
  else if first && atMark '-' text then atBorder (take 3 .documentStart)
  else if first && atMark '.' text then atBorder (take 3 .documentEnd)
  else
    match c with
    | '[' => openFlow .flowList
    | '{' => openFlow .flowMap
    | ']' => closeFlow .flowListEnd
    | '}' => closeFlow .flowMapEnd
    | ',' =>
        allowKey true
        dropCandidate
        take 1 .comma
    | '*' => scanNode ((anchorName rest).map fun (name, rest) => (.alias name, rest))
    | '&' => scanNode ((anchorName rest).map fun (name, rest) => (.anchor name, rest))
    | '!' => scanNode (tagFrom rest)
    | '\'' => scanNode (quoted (singleQuotedFrom .empty rest))
    | '"' => scanNode (quoted (doubleQuotedFrom .empty rest))
    | _ =>
        if c == '-' && endsWord rest then scanEntry
        else if c == '?' && (scan.inFlow || endsWord rest) then scanKey
        else if c == ':' && (scan.inFlow || endsWord rest) then scanValue
        else if (c == '|' || c == '>') && !scan.inFlow then scanBlock (c == '>') rest
        else if beginsPlain scan.inFlow c rest then scanPlain text
        else flawed (.strayCharacter c)

/-- Cuts the rest of the text. Every token takes at least one character, so their number bounds the
steps. -/
def scanAll : (steps : Nat) → ScanM Unit
  | 0 => pure ()
  | steps + 1 => do
      toToken
      dropStale
      unwind (some (← get).cursor.column)
      match (← get).cursor.rest with
      | [] => atBorder (pure ())
      | c :: rest =>
          scanToken c rest
          scanAll steps

end Scan

/-- The tokens of a text, as many as come before the first fault, and that fault. -/
def tokens (text : Text) : List Token × Option Fault :=
  match text.find? (!isPrintable ·) with
  | some c => ([], some (.flaw (.unprintable c)))
  | none =>
      let (outcome, scan) := (Scan.scanAll (text.length + 1)).run.run (Scan.ofText text)
      match outcome with
      | .ok _ => (scan.tokens.toList, none)
      | .error fault => (scan.tokens.toList, some fault)

end Tailor.Yaml
