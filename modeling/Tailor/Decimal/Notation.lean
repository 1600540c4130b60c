import Tailor.Decimal.Shortest
import Tailor.Text.Digit

/-! # Writing and reading floating-point numbers

A number is written with the fewest digits that read back: positionally if its leading digit stands
between the fourth place after the point and the sixteenth before it, always with a point and a
digit after it, and otherwise with a signed exponent of at least two digits.
-/

namespace Tailor.Decimal

/-- The text of a decimal that is not negative. -/
def Digits.text (d : Digits) : Text :=
  let digits := Text.ofNat d.digits
  let count := digits.length
  let leading : Int := d.exponent + count - 1
  if d.digits = 0 then ['0', '.', '0']
  else if -4 ≤ leading ∧ leading < 16 then
    if 0 ≤ d.exponent then digits ++ List.replicate d.exponent.toNat '0' ++ ['.', '0']
    else if 0 ≤ leading then
      let whole := (leading + 1).toNat
      digits.take whole ++ '.' :: digits.drop whole
    else '0' :: '.' :: List.replicate (-leading - 1).toNat '0' ++ digits
  else
    let mantissa :=
      match digits with
      | first :: second :: rest => first :: '.' :: second :: rest
      | short => short
    let sign := if leading < 0 then '-' else '+'
    mantissa ++ 'e' :: sign :: Text.padLeft '0' 2 (Text.ofNat leading.natAbs)

def text (x : Float) : Text :=
  if x.isNaN then ['n', 'a', 'n']
  else
    let bits := x.toBits
    let sign := if bits >>> 63 == 1 then ['-'] else []
    let size := if x.isInf then ['i', 'n', 'f'] else (Binary.ofBits bits).shortest.text
    sign ++ size

/-- The number `digits * 10 ^ exponent`, rounded to the nearest double. Beyond every double's range
it is infinite or zero, whatever the digits. -/
def ofDigits (digits : Nat) (exponent : Int) : Float :=
  let leading := exponent + (Text.ofNat digits).length
  if digits = 0 ∨ leading < -400 then 0.0
  else if leading > 400 then 1.0 / 0.0
  else Float.ofScientific digits (exponent < 0) exponent.natAbs

/-- The text without its underscores, if each stands between two ASCII digits; the flag tells
whether the character before is a digit. -/
def dropSeparators? : Bool → Text → Option Text
  | _, [] => some []
  | previousIsDigit, '_' :: c :: rest =>
      if previousIsDigit && c.isDigit then (dropSeparators? true rest).map (c :: ·) else none
  | _, c :: rest =>
      if c = '_' then none
      else (dropSeparators? c.isDigit rest).map (c :: ·)

def toAscii (c : Char) : Char :=
  match Text.digitValue? c with
  | some n => Char.ofNat (48 + n)
  | none => c

/-- An exponent: nothing, or a mark, a sign and digits. -/
def exponent? : Text → Option Int
  | [] => some 0
  | mark :: rest =>
      if mark.toLower = 'e' then
        match rest with
        | '-' :: digits => (Text.inBase? 10 digits).map fun n => -(n : Int)
        | '+' :: digits => (Text.inBase? 10 digits).map (fun n => (n : Int))
        | digits => (Text.inBase? 10 digits).map (fun n => (n : Int))
      else none

/-- A number without sign in ASCII: digits with at most one point and at least one digit, then an
exponent. -/
def unsigned? (text : Text) : Option Float :=
  let whole := text.takeWhile Char.isDigit
  let rest := text.dropWhile Char.isDigit
  let (fraction, rest) :=
    match rest with
    | '.' :: more => (more.takeWhile Char.isDigit, more.dropWhile Char.isDigit)
    | other => ([], other)
  let digits := whole ++ fraction
  match Text.inBase? 10 digits, exponent? rest with
  | some value, some exponent => some (ofDigits value (exponent - fraction.length))
  | _, _ => none

/-- A number with an optional sign, or one of the names of infinity and of the undefined number. -/
def signed? (text : Text) : Option Float :=
  let (negative, size) :=
    match text with
    | '-' :: rest => (true, rest)
    | '+' :: rest => (false, rest)
    | rest => (false, rest)
  let name := size.map Char.toLower
  let value? :=
    if name = "inf".toList ∨ name = "infinity".toList then some (1.0 / 0.0)
    else if name = "nan".toList then some (0.0 / 0.0)
    else unsigned? size
  value?.map fun value => if negative then -value else value

/-- Reads a number as a user types it: blanks around it, digits of any script, single underscores
between digits. -/
def read? (text : Text) : Option Float :=
  (dropSeparators? false ((Text.trimNumeral text).map toAscii)).bind signed?

end Tailor.Decimal
