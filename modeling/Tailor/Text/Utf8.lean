import Tailor.Text.Quoted

/-! # Texts as bytes

The UTF-8 form of texts. Reading goes through one scan that cuts the bytes into characters and
flaws; a strict reading stops at the first flaw, a lenient one puts the replacement character
U+FFFD in the place of each. A flaw covers the longest run of bytes that begins some character.
-/

namespace Tailor

/-- The content of a file or of a command's output. -/
abbrev Bytes := List UInt8

namespace Utf8

/-- What is wrong with a run of bytes. -/
inductive Flaw where
  | badStart
  /-- The byte after the run does not continue the character. -/
  | badContinuation
  | cutShort
deriving Repr, DecidableEq

/-- A run of bytes: a character, or a flaw from one position up to another. -/
inductive Piece where
  | char (c : Char)
  | flaw (flaw : Flaw) (start stop : Nat)
deriving Repr, DecidableEq

/-- A character of which some bytes are read: how many are owed, the bounds of the next one, the
value so far and the position of the first byte. -/
structure Partial where
  owed : Nat
  low : Nat
  high : Nat
  value : Nat
  start : Nat

/-- What a leading byte promises: the number of bytes to follow, the bounds of the first of them
and the leading byte's own bits. -/
def lead? (b : Nat) : Option (Nat × Nat × Nat × Nat) :=
  if b ≤ 0x7F then some (0, 0x80, 0xBF, b)
  else if b < 0xC2 then none
  else if b ≤ 0xDF then some (1, 0x80, 0xBF, b - 0xC0)
  else if b = 0xE0 then some (2, 0xA0, 0xBF, 0)
  else if b = 0xED then some (2, 0x80, 0x9F, 0xD)
  else if b ≤ 0xEF then some (2, 0x80, 0xBF, b - 0xE0)
  else if b = 0xF0 then some (3, 0x90, 0xBF, 0)
  else if b = 0xF4 then some (3, 0x80, 0x8F, 4)
  else if b ≤ 0xF3 then some (3, 0x80, 0xBF, b - 0xF0)
  else none

/-- A byte read between characters: the pieces it completes and the character it opens. -/
def startByte (position : Nat) (b : UInt8) : List Piece × Option Partial :=
  match lead? b.toNat with
  | none => ([.flaw .badStart position (position + 1)], none)
  | some (0, _, _, bits) => ([.char (Char.ofNat bits)], none)
  | some (owed, low, high, bits) => ([], some ⟨owed, low, high, bits, position⟩)

/-- A byte read inside a character, which it continues or breaks off. -/
def nextByte (open_ : Partial) (position : Nat) (b : UInt8) : List Piece × Option Partial :=
  if open_.low ≤ b.toNat ∧ b.toNat ≤ open_.high then
    let value := open_.value * 64 + (b.toNat - 0x80)
    if open_.owed ≤ 1 then ([.char (Char.ofNat value)], none)
    else ([], some ⟨open_.owed - 1, 0x80, 0xBF, value, open_.start⟩)
  else
    let (pieces, next) := startByte position b
    (.flaw .badContinuation open_.start position :: pieces, next)

/-- The pieces of the bytes from a position on. -/
def scan (position : Nat) (state : Option Partial) : Bytes → List Piece
  | [] =>
      match state with
      | none => []
      | some p => [.flaw .cutShort p.start position]
  | b :: bytes =>
      let (pieces, next) :=
        match state with
        | none => startByte position b
        | some p => nextByte p position b
      pieces ++ scan (position + 1) next bytes

def pieces (bytes : Bytes) : List Piece := scan 0 none bytes

/-- The first flaw of some bytes, with the byte that stands at its start. -/
structure Fault where
  flaw : Flaw
  start : Nat
  stop : Nat
  byte : UInt8
deriving Repr, DecidableEq

/-- What is wrong with the bytes, in words. -/
def Flaw.wording : Flaw → Text
  | .badStart => "invalid start byte".toList
  | .badContinuation => "invalid continuation byte".toList
  | .cutShort => "unexpected end of data".toList

/-- The wording of a decoding fault: the byte if it is a single one, otherwise the positions. -/
def Fault.message (fault : Fault) : Text :=
  let where_ :=
    if fault.stop = fault.start + 1 then
      " byte 0x".toList ++ Text.hex 2 fault.byte.toNat ++ " in position ".toList ++
        Text.ofNat fault.start
    else
      " bytes in position ".toList ++ Text.ofNat fault.start ++ '-' ::
        Text.ofNat (fault.stop - 1)
  "'utf-8' codec can't decode".toList ++ where_ ++ ": ".toList ++ fault.flaw.wording

/-- The text that the bytes write, if they have no flaw. -/
def decode (bytes : Bytes) : Except Fault Text :=
  (pieces bytes).mapM fun
    | .char c => .ok c
    | .flaw flaw start stop => .error ⟨flaw, start, stop, bytes.getD start 0⟩

/-- The text that the bytes write, with U+FFFD for each flaw. -/
def decodeLenient (bytes : Bytes) : Text :=
  (pieces bytes).map fun
    | .char c => c
    | .flaw _ _ _ => '\uFFFD'

def encode (text : Text) : Bytes := text.flatMap String.utf8EncodeChar

end Utf8
end Tailor
