import Tailor.Data.Calendar
import Tailor.Text.Digit
import Tailor.Text.Quoted

/-! # Literals

What can be wrong with a text that is to be read as a value of a certain type or with a value that
is to be written, and the reading of whole numbers.
-/

namespace Tailor

/-- Why a text does not write a value of the type that it is marked with, or a value has no text. -/
inductive LiteralFault where
  | notInteger (base : Nat) (text : Text)
  /-- A numeral has more digits than a number may be read from. -/
  | tooManyDigits (count : Nat)
  /-- A whole number has more digits than numbers are written in. -/
  | tooLarge
  | notFloat (text : Text)
  | notBoolean (text : Text)
  /-- Nothing is left of a numeral beside its sign. -/
  | emptyNumeral
  /-- A text is marked as a moment and has another form. -/
  | notMoment
  | calendar (fault : CalendarFault)
  | notCharacter (code : Nat)
deriving Repr, DecidableEq

/-- The largest number that a character is looked up by. -/
def largestCode : Nat := 0x7FFFFFFF

def LiteralFault.message : LiteralFault → Text
  | .notInteger base text =>
      "invalid literal for int() with base ".toList ++ Text.ofNat base ++ [':', ' '] ++
        Text.quoted text
  | .tooManyDigits count => Text.tooManyDigits count
  | .tooLarge => Text.tooLarge
  | .notFloat text => "could not convert string to float: ".toList ++ Text.quoted text
  | .notBoolean text => Text.quoted text
  | .emptyNumeral => "string index out of range".toList
  | .notMoment => "'NoneType' object has no attribute 'groupdict'".toList
  | .calendar fault => fault.message
  | .notCharacter code =>
      if code ≤ largestCode then "chr() arg not in range(0x110000)".toList
      else "Python int too large to convert to C int".toList

/-- The fault is a complaint about the value of the text, not about its form. -/
def LiteralFault.isAboutValue : LiteralFault → Bool
  | .notBoolean _ | .emptyNumeral | .notMoment => false
  | .notCharacter code => code ≤ largestCode
  | _ => true

namespace Literal

/-- The letters after a zero that announce a base. -/
def baseMarks : Nat → List Char
  | 2 => ['b', 'B']
  | 8 => ['o', 'O']
  | 16 => ['x', 'X']
  | _ => []

/-- The digits of a numeral without the announcement of its base. -/
def withoutMark (base : Nat) (digits : Text) : Text :=
  match digits with
  | '0' :: mark :: rest => if mark ∈ baseMarks base then rest else digits
  | _ => digits

/-- A digit of any script, or a letter, as its value in a base. -/
def digitIn? (base : Nat) (c : Char) : Option Nat :=
  match Text.digitValue? c with
  | some value => if value < base then some value else none
  | none => Text.baseDigit? base c

/-- The whole number that a text writes in a base: blanks around it, a sign, digits. Only numerals
in base ten have a limit on their digits. -/
def integer (base : Nat) (text : Text) : Except LiteralFault Int :=
  let (negative, unsigned) :=
    match Text.trimNumeral text with
    | '-' :: rest => (true, rest)
    | '+' :: rest => (false, rest)
    | rest => (false, rest)
  let digits := withoutMark base unsigned
  match digits.mapM (digitIn? base) with
  | some (first :: others) =>
      if base = 10 ∧ Text.digitLimit < digits.length then .error (.tooManyDigits digits.length)
      else
        let size := (first :: others).foldl (fun (value digit : Nat) => base * value + digit) 0
        .ok (if negative then -(size : Int) else size)
  | _ => .error (.notInteger base text)

end Literal
end Tailor
