import Tailor.Data.Calendar
import Tailor.Decimal.Notation
import Tailor.Text.Quoted
import Tailor.Text.Utf8

/-! # Values without parts

Scalars are the values that stand alone, and the keys of mappings. Numbers that are equal are the
same key, whatever their types.
-/

namespace Tailor

/-- A value without parts. -/
inductive Scalar where
  | null
  | bool (value : Bool)
  | int (value : Int)
  | float (value : Float)
  | text (value : Text)
  | bytes (value : Bytes)
  | date (date : Date)
  /-- A moment, with the distance from universal time in minutes if it is known. -/
  | moment (date : Date) (time : TimeOfDay) (offset : Option Int)
  | time (time : TimeOfDay)
deriving Inhabited

namespace Scalar

def typeName : Scalar → Text
  | .null => "NoneType".toList
  | .bool _ => "bool".toList
  | .int _ => "int".toList
  | .float _ => "float".toList
  | .text _ => "str".toList
  | .bytes _ => "bytes".toList
  | .date _ => "date".toList
  | .moment _ _ _ => "datetime".toList
  | .time _ => "time".toList

def offsetText (minutes : Int) : Text :=
  let two := fun n => Text.padLeft '0' 2 (Text.ofNat n)
  (if minutes < 0 then '-' else '+') :: two (minutes.natAbs / 60) ++ ':' ::
    two (minutes.natAbs % 60)

/-- The text of bytes between quotes: printable ASCII characters as they are. -/
def bytesText (value : Bytes) : Text :=
  let quote := Text.enclosingQuote (value.map fun b => Char.ofNat b.toNat)
  let one := fun (b : UInt8) =>
    let c := Char.ofNat b.toNat
    if c.toNat < 0x7F then Text.quotedChar quote c else '\\' :: 'x' :: Text.hex 2 c.toNat
  'b' :: quote :: value.flatMap one ++ [quote]

/-- The text of a scalar as a key. -/
def written : Scalar → Text
  | .null => "None".toList
  | .bool true => "True".toList
  | .bool false => "False".toList
  | .int value => Text.ofInt value
  | .float value => Decimal.text value
  | .text value => value
  | .bytes value => bytesText value
  | .date day => day.text
  | .moment day clock offset =>
      day.text ++ ' ' :: clock.text ++ (offset.map offsetText).getD []
  | .time clock => clock.text

/-- The scalar has a text: a whole number may have more digits than numbers are written in. -/
def isWritable : Scalar → Bool
  | .int value => (Text.ofNat value.natAbs).length ≤ Text.digitLimit
  | _ => true

/-- Numbers in words, for the listing of a moment's parts. -/
def parts (numbers : List Nat) : Text := Text.join [',', ' '] (numbers.map Text.ofNat)

/-- The parts of a time in a listing; trailing seconds and microseconds of zero are left out. -/
def timeParts (clock : TimeOfDay) : List Nat :=
  [clock.hour, clock.minute] ++
    (if clock.microsecond ≠ 0 then [clock.second, clock.microsecond]
     else if clock.second ≠ 0 then [clock.second] else [])

/-- The zone of a moment in a listing. -/
def listedZone : Option Int → Text
  | none => []
  | some 0 => ", tzinfo=datetime.timezone.utc".toList
  | some minutes =>
      ", tzinfo=datetime.timezone(datetime.timedelta(".toList ++ spanParts minutes ++ "))".toList

/-- The text of a scalar in a listing: texts are quoted, days and times are spelled out. -/
def listed : Scalar → Text
  | .text value => Text.quoted value
  | .date day => "datetime.date(".toList ++ parts [day.year, day.month, day.day] ++ [')']
  | .moment day clock offset =>
      "datetime.datetime(".toList ++ parts ([day.year, day.month, day.day] ++ timeParts clock) ++
        listedZone offset ++ [')']
  | .time clock => "datetime.time(".toList ++ parts (timeParts clock) ++ [')']
  | other => other.written

/-- The number that a scalar counts as when keys are compared, if it is one. -/
def number? : Scalar → Option (Int ⊕ Float)
  | .bool value => some (.inl (if value then 1 else 0))
  | .int value => some (.inl value)
  | .float value => some (.inr value)
  | _ => none

/-- The exact order of a whole number and a floating one; the undefined number has none. -/
def compareExact (n : Int) (x : Float) : Option Ordering :=
  if x.isNaN then none
  else if x.isInf then some (if 0 < x then .lt else .gt)
  else
    let size := Decimal.Binary.ofBits x.toBits
    let units : Int := if x < 0 then -size.m else size.m
    some (compare (n * Nat.pow 2 (-size.q).toNat) (units * Nat.pow 2 size.q.toNat))

/-- The numbers are equal; the undefined number equals itself. -/
def sameNumber : Int ⊕ Float → Int ⊕ Float → Bool
  | .inl m, .inl n => m == n
  | .inr x, .inr y => x == y || (x.isNaN && y.isNaN)
  | .inl m, .inr y => compareExact m y == some .eq
  | .inr x, .inl n => compareExact n x == some .eq

/-- The microseconds between the beginning of the year 1 and a moment, in universal time if its
distance from that is known. -/
def instant (day : Date) (clock : TimeOfDay) (offset : Option Int) : Int :=
  (day.ordinal : Int) * 86400000000 + clock.microseconds - offset.getD 0 * 60000000

/-- The scalars are the same key of a mapping. -/
def sameKey (a b : Scalar) : Bool :=
  match number? a, number? b with
  | some m, some n => sameNumber m n
  | none, none =>
      match a, b with
      | .null, .null => true
      | .text s, .text t => s == t
      | .bytes s, .bytes t => s == t
      | .date d, .date e => d == e
      | .moment d s p, .moment e t q =>
          p.isSome == q.isSome && instant d s p == instant e t q
      | .time s, .time t => s == t
      | _, _ => false
  | _, _ => false

/-- The first scalar stands before the second, if the two have an order. -/
def before? (a b : Scalar) : Option Bool :=
  match number? a, number? b with
  | some (.inl m), some (.inl n) => some (m < n)
  | some (.inr x), some (.inr y) => some (x < y)
  | some (.inl m), some (.inr y) => some (compareExact m y == some .lt)
  | some (.inr x), some (.inl n) => some (compareExact n x == some .gt)
  | none, none =>
      match a, b with
      | .text s, .text t => some (compare s t == .lt)
      | .bytes s, .bytes t => some (compare (s.map UInt8.toNat) (t.map UInt8.toNat) == .lt)
      | .date d, .date e => some (d.ordinal < e.ordinal)
      | .moment d s p, .moment e t q =>
          if p.isSome == q.isSome then some (instant d s p < instant e t q) else none
      | .time s, .time t => some (s.microseconds < t.microseconds)
      | _, _ => none
  | _, _ => none

end Scalar

end Tailor
