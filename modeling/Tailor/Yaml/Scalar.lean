import Tailor.Yaml.Basic

/-! # YAML: the texts of scalars

Plain, quoted and block scalars may extend over lines. The line break between two lines of a plain
or quoted scalar is folded into a space; further empty lines stand for line breaks. The readers of
plain and quoted scalars go over the text once and carry the white space that was met since the last
other character, since only what follows it decides what it stands for.
-/

namespace Tailor.Yaml

/-- White space inside a scalar, not yet part of its value. -/
inductive Gap where
  | empty
  | spaces (text : Text)
  /-- The scalar goes on in a later line: the break that ends its line, unless that break is
  escaped, the further breaks, and the column that the later line has reached. -/
  | lines (first : Option Char) (further : Text) (column : Nat)

namespace Gap

def space (c : Char) : Gap → Gap
  | .empty => .spaces [c]
  | .spaces text => .spaces (text ++ [c])
  | .lines first further column => .lines first further (column + 1)

/-- The gap with one more line break. Spaces before it do not count. -/
def lineBreak (c : Char) : Gap → Gap
  | .lines first further _ => .lines first (further ++ [broken c]) 0
  | _ => .lines (some (broken c)) [] 0

/-- What a gap stands for when the scalar goes on after it. -/
def text : Gap → Text
  | .empty => []
  | .spaces text => text
  | .lines none further _ => further
  | .lines (some '\n') [] _ => [' ']
  | .lines (some '\n') further _ => further
  | .lines (some c) further _ => c :: further

/-- The gap is not empty. -/
def isSome : Gap → Bool
  | .empty => false
  | _ => true

def hasBreak : Gap → Bool
  | .lines _ _ _ => true
  | _ => false

/-- The gap ends left of a column, in a later line than it began. -/
def isLeftOf (indent : Nat) : Gap → Bool
  | .lines _ _ column => column < indent
  | _ => false

end Gap

/-- A scalar that was read: its value, what follows it, and whether a line ended between the two. -/
structure Reading where
  value : Text
  rest : Text
  broke : Bool

def flowIndicators : List Char := [',', '?', '[', ']', '{', '}']

def endsPlain (inFlow : Bool) (c : Char) (rest : Text) : Bool :=
  let flowEnd :=
    match rest with
    | next :: _ => next ∈ [',', '[', ']', '{', '}']
    | [] => false
  isSpace c || isBreak c || (c == ':' && (endsWord rest || (inFlow && flowEnd))) ||
    (inFlow && flowIndicators.contains c)

/-- A plain scalar from a place in it on. In block context a later line of it must not stand left of
a column. -/
def plainFrom (inFlow : Bool) (indent : Nat) (gap : Gap) : Text → Reading
  | [] => ⟨[], [], gap.hasBreak⟩
  | c :: rest =>
      if c == ' ' then plainFrom inFlow indent (gap.space c) rest
      else if isBreak c then
        if atSeparator rest then ⟨[], rest, true⟩
        else plainFrom inFlow indent (gap.lineBreak c) rest
      else if (gap.isSome && (c == '#' || (!inFlow && gap.isLeftOf indent))) ||
          endsPlain inFlow c rest then
        ⟨[], c :: rest, gap.hasBreak⟩
      else
        let reading := plainFrom inFlow indent .empty rest
        { reading with value := gap.text ++ c :: reading.value }

/-- The characters that stand for others after a backslash. -/
def escapes : List (Char × Char) :=
  [('0', '\x00'), ('a', '\x07'), ('b', '\x08'), ('t', '\t'), ('\t', '\t'), ('n', '\n'),
    ('v', '\x0B'), ('f', '\x0C'), ('r', '\r'), ('e', '\x1B'), (' ', ' '), ('"', '"'), ('\\', '\\'),
    ('/', '/'), ('N', '\x85'), ('_', '\xA0'), ('L', '\u2028'), ('P', '\u2029')]

/-- The character with a code point in hexadecimal digits. -/
def coded (digits : Text) : Except Fault Char :=
  match Text.inBase? 16 digits with
  | none => .error (.flaw .malformedEscape)
  | some code =>
      if 0x10FFFF < code then .error (.literal (.notCharacter code))
      else if 0xD800 ≤ code ∧ code ≤ 0xDFFF then .error (.flaw .malformedEscape)
      else .ok (Char.ofNat code)

def before (text : Text) (tail : Except Fault (Text × Text)) : Except Fault (Text × Text) := do
  let (value, rest) ← tail
  pure (text ++ value, rest)

/-- A scalar in single quotes, after the opening one: a quote inside is written twice. -/
def singleQuotedFrom (gap : Gap) : Text → Except Fault (Text × Text)
  | [] => .error (.flaw .openQuote)
  | '\'' :: '\'' :: rest => before (gap.text ++ ['\'']) (singleQuotedFrom .empty rest)
  | c :: rest =>
      if c == '\'' then .ok (gap.text, rest)
      else if isSpace c then singleQuotedFrom (gap.space c) rest
      else if isBreak c then
        if atSeparator rest then .error (.flaw .separatorInQuote)
        else singleQuotedFrom (gap.lineBreak c) rest
      else before (gap.text ++ [c]) (singleQuotedFrom .empty rest)

/-- A scalar in double quotes, after the opening one: a backslash escapes. An escaped line break
stands for nothing, and the spaces that begin the next line do not count. -/
def doubleQuotedFrom (gap : Gap) : Text → Except Fault (Text × Text)
  | [] => .error (.flaw .openQuote)
  | '\\' :: 'x' :: a :: b :: rest => do
      let c ← coded [a, b]
      before (gap.text ++ [c]) (doubleQuotedFrom .empty rest)
  | '\\' :: 'u' :: a :: b :: c :: d :: rest => do
      let c ← coded [a, b, c, d]
      before (gap.text ++ [c]) (doubleQuotedFrom .empty rest)
  | '\\' :: 'U' :: a :: b :: c :: d :: e :: f :: g :: h :: rest => do
      let c ← coded [a, b, c, d, e, f, g, h]
      before (gap.text ++ [c]) (doubleQuotedFrom .empty rest)
  | '\\' :: c :: rest =>
      match escapes.lookup c with
      | some meant => before (gap.text ++ [meant]) (doubleQuotedFrom .empty rest)
      | none =>
          if !isBreak c then .error (.flaw .malformedEscape)
          else if atSeparator rest then .error (.flaw .separatorInQuote)
          else before gap.text (doubleQuotedFrom (.lines none [] 0) rest)
  | c :: rest =>
      if c == '"' then .ok (gap.text, rest)
      else if c == '\\' then .error (.flaw .malformedEscape)
      else if isSpace c then doubleQuotedFrom (gap.space c) rest
      else if isBreak c then
        if atSeparator rest then .error (.flaw .separatorInQuote)
        else doubleQuotedFrom (gap.lineBreak c) rest
      else before (gap.text ++ [c]) (doubleQuotedFrom .empty rest)

/-! ## Block scalars -/

/-- What becomes of the line breaks at the end of a block scalar. -/
inductive Chomping where
  | strip
  | clip
  | keep
deriving Repr, DecidableEq

/-- The header of a block scalar: how its end is chomped, and its indentation if that is given. -/
structure BlockHeader where
  chomping : Chomping
  indentation? : Option Nat

def chomping? : Char → Option Chomping
  | '+' => some .keep
  | '-' => some .strip
  | _ => none

/-- The rest of a line that may only hold spaces and a comment, after the end of that line. -/
def afterEmptyLine? (text : Text) : Option Text :=
  let afterSpaces := text.dropWhile (· == ' ')
  let lineEnd :=
    match afterSpaces with
    | '#' :: _ => afterSpaces.dropWhile (!isBreak ·)
    | _ => afterSpaces
  match lineEnd with
  | [] => some []
  | c :: rest => if isBreak c then some rest else none

/-- The header after the indicator: a sign and a digit in either order, each at most once. -/
def blockHeader (text : Text) : Except Fault (BlockHeader × Text) := do
  let digit := fun (text : Text) =>
    match text with
    | c :: rest => if c.isDigit then some (c.toNat - 48, rest) else none
    | [] => none
  let sign := fun (text : Text) =>
    match text with
    | c :: rest => (chomping? c).map (·, rest)
    | [] => none
  let (header, rest) : BlockHeader × Text :=
    match sign text with
    | some (chomping, rest) =>
        match digit rest with
        | some (width, rest) => (⟨chomping, some width⟩, rest)
        | none => (⟨chomping, none⟩, rest)
    | none =>
        match digit text with
        | some (width, rest) =>
            match sign rest with
            | some (chomping, rest) => (⟨chomping, some width⟩, rest)
            | none => (⟨.clip, some width⟩, rest)
        | none => (⟨.clip, none⟩, text)
  if header.indentation? = some 0 ∨ !endsField rest then throw (.flaw .malformedBlockHeader)
  match afterEmptyLine? rest with
  | some rest => pure (header, rest)
  | none => throw (.flaw .malformedBlockHeader)

/-- A line with the break that ends it, if one does. -/
abbrev Line := Text × Option Char

def linesOf : Text → List Line
  | [] => []
  | c :: rest =>
      if isBreak c then ([], some c) :: linesOf rest
      else
        match linesOf rest with
        | [] => [([c], none)]
        | (line, ending) :: others => (c :: line, ending) :: others

/-- The indentation of a block: the most leading spaces in its first lines, up to the first line
that holds anything else. -/
def detectedIndent : List Line → Nat
  | [] => 0
  | (line, _) :: others =>
      let spaces := line.takeWhile (· == ' ')
      if spaces.length = line.length then max spaces.length (detectedIndent others)
      else spaces.length

/-- The lines that belong to a block, without its indentation: those that are empty up to it, and
those that hold something beyond it. -/
def blockLines (indent : Nat) : List Line → List Line
  | [] => []
  | (line, ending) :: others =>
      let spaces := min indent (line.takeWhile (· == ' ')).length
      let inner := line.drop spaces
      if inner.isEmpty then
        if ending.isSome then ([], ending) :: blockLines indent others else []
      else if spaces < indent then []
      else (inner, ending) :: blockLines indent others

/-- The value of a block in parts: its text up to the last line that is not empty, the break that
ends this line, and the breaks of the empty lines after it. -/
structure BlockValue where
  text : Text
  ending : Text
  trailing : Text

/-- The line begins with a space or a tab. -/
def beginsWithSpace (line : Text) : Bool := (line.head?.map isSpace).getD false

/-- The break between a line and the next one that is not empty. In a folded block it stands for a
space if neither line begins with white space, and for nothing if empty lines stand between. -/
def between (folded : Bool) (line : Text) (ending : Text) (others : List Line) : Text :=
  let next := (others.map (·.1)).find? (!·.isEmpty)
  let folds := folded && ending == ['\n'] && !beginsWithSpace line &&
    !beginsWithSpace (next.getD [])
  if !folds then ending
  else
    match others with
    | (first, _) :: _ => if first.isEmpty then [] else [' ']
    | [] => []

/-- The value that the lines of a block write. -/
def blockValue (folded : Bool) : List Line → BlockValue
  | [] => ⟨[], [], []⟩
  | (line, ending) :: others =>
      let value := blockValue folded others
      let ending := (ending.map broken).toList
      if value.text.isEmpty then
        if line.isEmpty then { value with trailing := ending ++ value.trailing }
        else ⟨line, ending, value.trailing⟩
      else if line.isEmpty then { value with text := ending ++ value.text }
      else { value with text := line ++ between folded line ending others ++ value.text }

def BlockValue.chomped (value : BlockValue) : Chomping → Text
  | .strip => value.text
  | .clip => value.text ++ value.ending
  | .keep => value.text ++ value.ending ++ value.trailing

/-- A block scalar after its indicator; it stands further right than a column. -/
def blockFrom (folded : Bool) (least : Nat) (text : Text) : Except Fault (Text × Text) := do
  let (header, body) ← blockHeader text
  let lines := linesOf body
  let least := max least 1
  let indent :=
    match header.indentation? with
    | some width => least + width - 1
    | none => max least (detectedIndent lines)
  let own := blockLines indent lines
  let taken := (lines.take own.length).map fun line => line.1.length + line.2.toList.length
  pure ((blockValue folded own).chomped header.chomping, body.drop (taken.foldl (· + ·) 0))

end Tailor.Yaml
