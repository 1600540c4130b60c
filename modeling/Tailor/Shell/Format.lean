import Tailor.Text.Digit
import Tailor.Text.Utf8

/-! # Formatted output

The texts that `echo` and `printf` write. Escapes in a format may name bytes, so the result is
bytes. A format is used again while arguments are left, and missing arguments are empty.
-/

namespace Tailor.Shell.Format

/-- The byte that a letter after a backslash stands for. -/
def letterEscape? : Char → Option UInt8
  | 'a' => some 7
  | 'b' => some 8
  | 'e' => some 27
  | 'f' => some 12
  | 'n' => some 10
  | 'r' => some 13
  | 't' => some 9
  | 'v' => some 11
  | '\\' => some 92
  | _ => none

/-- The byte of up to three octal digits. -/
def octal (digits : Text) : UInt8 := UInt8.ofNat ((Text.inBase? 8 digits).getD 0)

def isOctal (c : Char) : Bool := '0' ≤ c && c ≤ '7'

/-- The bytes of an escape after its backslash, and what follows it. An unknown escape is a
backslash. -/
def escape (text : Text) : Bytes × Text :=
  match text with
  | [] => ([92], [])
  | c :: rest =>
      let digits := (text.takeWhile isOctal).take 3
      if !digits.isEmpty then ([octal digits], text.drop digits.length)
      else
        match letterEscape? c with
        | some byte => ([byte], rest)
        | none => ([92], text)

/-- The bytes of a text with escapes, and whether an escape ends the output. An octal number may
have a further zero before it. -/
def unescape : (steps : Nat) → Text → Bytes × Bool
  | 0, _ => ([], false)
  | _, [] => ([], false)
  | _, '\\' :: 'c' :: _ => ([], true)
  | steps + 1, '\\' :: rest =>
      let text :=
        match rest with
        | '0' :: d :: after => if isOctal d then d :: after else rest
        | _ => rest
      let (bytes, after) := escape text
      let (others, ends) := unescape steps after
      (bytes ++ others, ends)
  | steps + 1, c :: rest =>
      let (others, ends) := unescape steps rest
      (Utf8.encode [c] ++ others, ends)

/-- What `echo` writes: its arguments with blanks between them and a line feed, unless the first
argument is the option that leaves it out. -/
def echo (arguments : List Text) : Bytes :=
  let (shown, newline) :=
    match arguments with
    | ['-', 'n'] :: rest => (rest, false)
    | _ => (arguments, true)
  let text := Text.join [' '] shown
  let (bytes, ends) := unescape (text.length + 1) text
  if newline && !ends then bytes ++ [10] else bytes

/-- How a value is put into a field. -/
structure Layout where
  flags : Text
  width : Nat
  precision : Option Nat

/-- What is written so far, with the arguments that are left. -/
structure Progress where
  output : Bytes
  complaints : List Text
  arguments : List Text
  asked : Bool
  status : Nat
  ended : Bool

abbrev FormatM := StateM Progress

def emit (bytes : Bytes) : FormatM Unit :=
  modify fun progress => { progress with output := progress.output ++ bytes }

/-- Notes a complaint; what has no value fails. -/
def complain (text : Text) (status : Nat) : FormatM Unit :=
  modify fun progress =>
    { progress with complaints := progress.complaints ++ [text], status := status }

/-- The next argument, if there is one. -/
def argument? : FormatM (Option Text) := do
  let progress ← get
  set { progress with asked := true, arguments := progress.arguments.drop 1 }
  pure progress.arguments.head?

def inField (layout : Layout) (bytes : Bytes) : Bytes :=
  let fill := List.replicate (layout.width - bytes.length) 32
  if layout.flags.contains '-' then bytes ++ fill else fill ++ bytes

/-- The number at the start of a text, as numbers are written in programs, and what follows it. -/
def startNumber (text : Text) : Option (Int × Text) :=
  let trimmed := Text.trimLeft text
  let (negative, digits) :=
    match trimmed with
    | '-' :: rest => (true, rest)
    | '+' :: rest => (false, rest)
    | _ => (false, trimmed)
  let (base, digits) :=
    match digits with
    | '0' :: x :: d :: rest =>
        if (x = 'x' ∨ x = 'X') ∧ (Text.baseDigit? 16 d).isSome then (16, d :: rest)
        else (8, digits)
    | '0' :: _ => (8, digits)
    | _ => (10, digits)
  let own := digits.takeWhile fun c => (Text.baseDigit? base c).isSome
  (Text.inBase? base own).map fun (size : Nat) =>
    (if negative then -(size : Int) else size, digits.drop own.length)

/-- The number that an argument writes; a quote before a character gives its code. -/
def number (argument : Text) : FormatM Int := do
  match argument with
  | '\'' :: c :: _ | '"' :: c :: _ => pure c.toNat
  | [] => pure 0
  | _ =>
      match startNumber argument with
      | none =>
          complain (argument ++ ": expected numeric value".toList) 1
          pure 0
      | some (value, rest) =>
          if !rest.isEmpty then
            complain (argument ++ ": not completely converted".toList) 1
          if value > 0x7FFFFFFFFFFFFFFF ∨ value < -0x8000000000000000 then
            complain (argument ++ ": Numerical result out of range".toList) 1
          pure (max (-0x8000000000000000) (min 0x7FFFFFFFFFFFFFFF value))

/-- A number in a field: its sign, its mark and its digits with leading zeros. -/
def numberText (layout : Layout) (sign mark digits : Text) : Text :=
  let least := layout.precision.getD 1
  let digits := Text.padLeft '0' least (if least = 0 ∧ digits = ['0'] then [] else digits)
  let room := layout.width - sign.length - mark.length
  let zeros := layout.flags.contains '0' && !layout.flags.contains '-' && layout.precision.isNone
  sign ++ mark ++ (if zeros then Text.padLeft '0' room digits else digits)

/-- Writes a number in the base that a letter names. -/
def writeNumber (layout : Layout) (letter : Char) (value : Int) : FormatM Unit :=
  let sign : Text :=
    if value < 0 then ['-']
    else if layout.flags.contains '+' then ['+']
    else if layout.flags.contains ' ' then [' ']
    else []
  let unsigned := (value % 0x10000000000000000).toNat
  let isMarked := layout.flags.contains '#' && unsigned != 0
  let text :=
    match letter with
    | 'u' => numberText layout [] [] (Text.ofNat unsigned)
    | 'o' => numberText layout [] (if isMarked then ['0'] else []) (Nat.toDigits 8 unsigned)
    | 'x' =>
        numberText layout [] (if isMarked then "0x".toList else []) (Nat.toDigits 16 unsigned)
    | 'X' =>
        numberText layout [] (if isMarked then "0X".toList else [])
          ((Nat.toDigits 16 unsigned).map Char.toUpper)
    | _ => numberText layout sign [] (Text.ofNat value.natAbs)
  emit (inField layout (Utf8.encode text))

/-- The count that a format gives in digits, or as a star that stands for an argument. -/
def count? (text : Text) : FormatM (Option Int × Text) := do
  match text with
  | '*' :: rest => do
      let argument ← argument?
      pure (some (← number (argument.getD [])), rest)
  | _ =>
      let digits := text.takeWhile Char.isDigit
      pure ((Text.inBase? 10 digits).map Int.ofNat, text.drop digits.length)

/-- Writes what a directive stands for, after its percent sign; the result is what follows it. -/
def directive (text : Text) : FormatM Text := do
  let flags := text.takeWhile "#-+ 0".toList.contains
  let (width, rest) ← count? (text.drop flags.length)
  let (precision, rest) ←
    match rest with
    | '.' :: rest => do
        let (precision, rest) ← count? rest
        pure (some (precision.getD 0).toNat, rest)
    | _ => pure (none, rest)
  let width := width.getD 0
  let flags := if width < 0 then '-' :: flags else flags
  let layout : Layout := ⟨flags, width.natAbs, precision⟩
  match rest with
  | [] =>
      complain "missing format character".toList 2
      modify fun progress => { progress with ended := true }
      pure []
  | letter :: rest =>
      if letter = 's' then
        let bytes := Utf8.encode ((← argument?).getD [])
        emit (inField layout (bytes.take (precision.getD bytes.length)))
      else if letter = 'b' then
        let argument := (← argument?).getD []
        let (bytes, ends) := unescape (argument.length + 1) argument
        emit (inField layout (bytes.take (precision.getD bytes.length)))
        if ends then modify fun progress => { progress with ended := true }
      else if letter = 'c' then
        emit (inField layout ((Utf8.encode ((← argument?).getD []) ++ [0]).take 1))
      else if "diouxX".toList.contains letter then
        let argument ← argument?
        writeNumber layout letter (← number (argument.getD []))
      else
        let shown := text.take (text.length - rest.length)
        complain ('%' :: shown ++ ": invalid directive".toList) 2
        modify fun progress => { progress with ended := true }
      pure rest

def once : (steps : Nat) → Text → FormatM Unit
  | 0, _ => pure ()
  | steps + 1, text => do
      if (← get).ended then pure ()
      else
        match text with
        | [] => pure ()
        | '\\' :: rest =>
            let (bytes, after) := escape rest
            emit bytes
            once steps after
        | '%' :: '%' :: rest =>
            emit [37]
            once steps rest
        | '%' :: rest => once steps (← directive rest)
        | c :: rest =>
            emit (Utf8.encode [c])
            once steps rest

/-- Writes a format until no argument is left. -/
def again (format : Text) : (steps : Nat) → FormatM Unit
  | 0 => pure ()
  | steps + 1 => do
      once (format.length + 1) format
      let progress ← get
      if !progress.ended && progress.asked && !progress.arguments.isEmpty then again format steps

/-- What `printf` writes for a format and its arguments. -/
def printf (format : Text) (arguments : List Text) : Progress :=
  ((again format (arguments.length + 1)).run ⟨[], [], arguments, false, 0, false⟩).2

end Tailor.Shell.Format
