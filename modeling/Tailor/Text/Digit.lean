import Tailor.Text.Basic

/-! # Decimal digits

Every script's decimal digits count as digits: the Unicode property of decimal numbers, version 14.
The digits of a script stand in one block of ten from its zero, so the table lists the zeros.
-/

namespace Tailor.Text

/-- The code points of the zeros of all scripts, ascending. -/
def zeros : List Nat :=
  [0x0030, 0x0660, 0x06F0, 0x07C0, 0x0966, 0x09E6, 0x0A66, 0x0AE6, 0x0B66, 0x0BE6, 0x0C66, 0x0CE6,
    0x0D66, 0x0DE6, 0x0E50, 0x0ED0, 0x0F20, 0x1040, 0x1090, 0x17E0, 0x1810, 0x1946, 0x19D0, 0x1A80,
    0x1A90, 0x1B50, 0x1BB0, 0x1C40, 0x1C50, 0xA620, 0xA8D0, 0xA900, 0xA9D0, 0xA9F0, 0xAA50, 0xABF0,
    0xFF10, 0x104A0, 0x10D30, 0x11066, 0x110F0, 0x11136, 0x111D0, 0x112F0, 0x11450, 0x114D0,
    0x11650, 0x116C0, 0x11730, 0x118E0, 0x11950, 0x11C50, 0x11D50, 0x11DA0, 0x16A60, 0x16AC0,
    0x16B50, 0x1D7CE, 0x1D7D8, 0x1D7E2, 0x1D7EC, 0x1D7F6, 0x1E140, 0x1E2F0, 0x1E950, 0x1FBF0]

/-- The value of a decimal digit of any script. -/
def digitValue? (c : Char) : Option Nat :=
  (zeros.find? fun first => first ≤ c.toNat && c.toNat ≤ first + 9).map (c.toNat - ·)

/-- The character is a decimal digit of some script. -/
def isDigit (c : Char) : Bool := (digitValue? c).isSome

/-- The number that a row of digits writes, most significant first. -/
def numeralValue (digits : List Nat) : Nat := digits.foldl (10 * · + ·) 0

/-- The number written by a non-empty text of decimal digits. -/
def natural? (text : Text) : Option Nat :=
  if text.isEmpty then none else (text.mapM digitValue?).map numeralValue

/-- The value of a digit in a base of up to sixteen, in either case; these digits are ASCII. -/
def baseDigit? (base : Nat) (c : Char) : Option Nat :=
  let n := c.toNat
  let value? :=
    if 48 ≤ n ∧ n ≤ 57 then some (n - 48)
    else if 97 ≤ n ∧ n ≤ 102 then some (n - 87)
    else if 65 ≤ n ∧ n ≤ 70 then some (n - 55)
    else none
  value?.filter (· < base)

/-- The number written by a non-empty text of digits in a base of up to sixteen. -/
def inBase? (base : Nat) (text : Text) : Option Nat :=
  if text.isEmpty then none
  else (text.mapM (baseDigit? base)).map (·.foldl (base * · + ·) 0)

/-- The blanks that may surround a numeral: all but the information separators. -/
def isNumeralBlank (c : Char) : Bool := isBlank c && !(0x1C ≤ c.toNat && c.toNat ≤ 0x1F)

/-- A numeral without the blanks around it. -/
def trimNumeral (text : Text) : Text :=
  dropTrailing isNumeralBlank (text.dropWhile isNumeralBlank)

/-- The most digits that a number in base ten is read from or written in. -/
def digitLimit : Nat := 4300

/-- The complaint about a numeral with more digits than the limit. -/
def tooManyDigits (count : Nat) : Text :=
  "Exceeds the limit (".toList ++ ofNat digitLimit ++
    " digits) for integer string conversion: value has ".toList ++ ofNat count ++
    " digits; use sys.set_int_max_str_digits() to increase the limit".toList

/-- The complaint about a number that is to be written in more digits than the limit. -/
def tooLarge : Text :=
  "Exceeds the limit (".toList ++ ofNat digitLimit ++
    " digits) for integer string conversion; use sys.set_int_max_str_digits() to ".toList ++
    "increase the limit".toList

end Tailor.Text
