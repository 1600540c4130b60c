import Tailor.Directive.Basic

/-! # Open blocks

While a document is read, its open blocks stand on a stack, innermost first. A conditional block
knows its present verdict. A question block cannot be decided before its end, so it holds back the
lines inside it, each with the slot that tells when it is kept.
-/

namespace Tailor

/-- A line of a document with its number, counted from one. -/
structure NumberedLine where
  number : Nat
  text : Text
deriving Repr, DecidableEq

/-- An option that a question block has opened, and the line that opened it. -/
structure Offer where
  label : Text
  line : Nat
deriving Repr, DecidableEq

/-- When a line held back by a question block is kept. -/
inductive Slot where
  | always
  /-- If the answer selects the last of the options opened before the line; with none opened, if
  the answer is yes. -/
  | under (opened : Nat)
deriving Repr, DecidableEq

/-- A line held back by a question block. -/
structure HeldLine where
  slot : Slot
  line : NumberedLine
deriving Repr, DecidableEq

/-- An open block, with the number of the line that opened it. -/
inductive Block where
  /-- A conditional block with its verdict; `turned` tells whether that was turned round. -/
  | condition (sort : Condition.Sort) (line : Nat) (verdict : Bool) (turned : Bool)
  /-- A question block with its expanded question, the options opened and the lines held back. -/
  | ask (line : Nat) (question : Text) (offers : List Offer) (held : List HeldLine)
deriving Repr, DecidableEq

namespace Block

def openedAt : Block → Nat
  | .condition _ line _ _ => line
  | .ask line _ _ _ => line

def keyword : Block → Keyword
  | .condition sort _ _ _ => sort.keyword
  | .ask _ _ _ _ => .ask

/-- The block lets lines through for now; a question block always does. -/
def includes : Block → Bool
  | .condition _ _ verdict _ => verdict
  | .ask _ _ _ _ => true

end Block

/-- The state of reading: the open blocks, innermost first, and the lines written so far. -/
structure Reading where
  stack : List Block
  output : List NumberedLine
deriving Repr, DecidableEq

namespace Reading

def start : Reading := ⟨[], []⟩

def included (stack : List Block) : Bool := stack.all Block.includes

/-- Hands a line to the innermost question block of a stack, in the slot chosen for its options, or
else to the output. -/
def deliver (slot : List Offer → Slot) (line : NumberedLine) :
    (stack : List Block) → (output : List NumberedLine) → Reading
  | [], output => ⟨[], output ++ [line]⟩
  | .ask opened question offers held :: stack, output =>
      ⟨.ask opened question offers (held ++ [⟨slot offers, line⟩]) :: stack, output⟩
  | block :: stack, output =>
      let rest := deliver slot line stack output
      ⟨block :: rest.stack, rest.output⟩

/-- The slot of a line behind the options opened so far. -/
def current (offers : List Offer) : Slot := .under offers.length

/-- Hands a line on, wherever the open blocks send it. -/
def emit (line : NumberedLine) (reading : Reading) : Reading :=
  deliver current line reading.stack reading.output

/-- A content line goes on if every open conditional block lets it through. -/
def content (line : NumberedLine) (reading : Reading) : Reading :=
  if included reading.stack then reading.emit line else reading

/-- A directive line goes on, as a content line would, if directive lines are kept. -/
def echo (keep : Bool) (line : NumberedLine) (reading : Reading) : Reading :=
  if keep then reading.content line else reading

/-- An option's own line is kept whatever the answer, if directive lines are kept. -/
def echoAlways (keep : Bool) (line : NumberedLine) (reading : Reading) : Reading :=
  if keep && included reading.stack then
    deliver (fun _ => .always) line reading.stack reading.output
  else reading

def push (block : Block) (reading : Reading) : Reading :=
  { reading with stack := block :: reading.stack }

/-- The held lines that an answer keeps go on in order. -/
def release (keeps : Slot → Bool) (held : List HeldLine) (reading : Reading) : Reading :=
  (held.filter fun item => keeps item.slot).foldl (fun after item => after.emit item.line) reading

end Reading
end Tailor
