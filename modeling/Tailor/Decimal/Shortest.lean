import Tailor.Text.Basic

/-! # The shortest decimal of a binary number

A finite binary number stands for an interval of reals, those that round to it. Its shortest decimal
has the fewest digits among the decimals in that interval; of several it is the one nearest to the
number, and an exact tie goes to the even digit. The digits are found in exact natural arithmetic:
for each number of digits the two neighbours of the value on that decimal grid are tested.
-/

namespace Tailor.Decimal

/-- A finite number that is not negative, `m * 2 ^ q`. -/
structure Binary where
  m : Nat
  q : Int
  /-- The gap to the number below is half the gap to the number above. -/
  narrowBelow : Bool

/-- The number that the bits of a finite double write, without its sign. -/
def Binary.ofBits (bits : UInt64) : Binary :=
  let exponent := ((bits >>> 52) &&& 0x7FF).toNat
  let fraction := (bits &&& 0xFFFFFFFFFFFFF).toNat
  if exponent = 0 then ⟨fraction, -1074, false⟩
  else ⟨0x10000000000000 + fraction, (exponent : Int) - 1075, fraction == 0 && exponent > 1⟩

/-- The decimal `digits * 10 ^ exponent`. -/
structure Digits where
  digits : Nat
  exponent : Int
deriving Repr, DecidableEq

/-- The order of `a * 10 ^ i` and `n * 2 ^ j`. -/
def compareScaled (a : Nat) (i : Int) (n : Nat) (j : Int) : Ordering :=
  compare (a * Nat.pow 10 i.toNat * Nat.pow 2 (-j).toNat)
    (n * Nat.pow 2 j.toNat * Nat.pow 10 (-i).toNat)

/-- The decimal lies among the reals that round to the number; the two ends do so if `m` is even. -/
def Binary.readsBack (x : Binary) (d : Digits) : Bool :=
  let low := if x.narrowBelow then 4 * x.m - 1 else 4 * x.m - 2
  let high := 4 * x.m + 2
  let inclusive := x.m % 2 == 0
  let atLow := compareScaled d.digits d.exponent low (x.q - 2)
  let atHigh := compareScaled d.digits d.exponent high (x.q - 2)
  (atLow == .gt || (inclusive && atLow == .eq)) && (atHigh == .lt || (inclusive && atHigh == .eq))

/-- The least `k` for which the number is below `10 ^ k`: an estimate from the binary logarithm,
corrected upwards. -/
def Binary.scale (x : Binary) : Int :=
  let estimate := ((x.m.log2 : Int) + x.q) * 30103 / 100000 - 1
  let candidates := (List.range 5).map fun (step : Nat) => estimate + (step : Int)
  (candidates.find? fun k => compareScaled 1 k x.m x.q == .gt).getD (estimate + 5)

/-- The number in units of `10 ^ exponent`, rounded down. -/
def Binary.floorAt (x : Binary) (exponent : Int) : Nat :=
  (x.m * Nat.pow 2 x.q.toNat * Nat.pow 10 (-exponent).toNat) /
    (Nat.pow 2 (-x.q).toNat * Nat.pow 10 exponent.toNat)

/-- The decimal on the grid of `10 ^ exponent` that reads back, if there is one: the nearer of the
two neighbours, and of two equally near ones the even one. -/
def Binary.onGrid? (x : Binary) (exponent : Int) : Option Digits :=
  let below : Nat := x.floorAt exponent
  let lower : Digits := ⟨below, exponent⟩
  let upper : Digits := ⟨below + 1, exponent⟩
  match x.readsBack lower, x.readsBack upper with
  | false, false => none
  | true, false => some lower
  | false, true => some upper
  | true, true =>
      match compareScaled (2 * below + 1) exponent (2 * x.m) x.q with
      | .gt => some lower
      | .lt => some upper
      | .eq => some (if below % 2 = 0 then lower else upper)

/-- Zeros at the end of the digits move into the exponent; `fuel` bounds their number. -/
def Digits.strip : (fuel : Nat) → Digits → Digits
  | 0, d => d
  | fuel + 1, d =>
      if d.digits ≠ 0 ∧ d.digits % 10 = 0 then strip fuel ⟨d.digits / 10, d.exponent + 1⟩ else d

/-- The shortest decimal of a number; seventeen digits suffice for every double. -/
def Binary.shortest (x : Binary) : Digits :=
  if x.m = 0 then ⟨0, 0⟩
  else
    let scale := x.scale
    let exact : Digits := ⟨x.m * Nat.pow 2 x.q.toNat * Nat.pow 5 (-x.q).toNat, min x.q 0⟩
    let found := (List.range 17).findSome? fun (n : Nat) => x.onGrid? (scale - (n + 1 : Nat))
    (found.getD exact).strip 20

end Tailor.Decimal
