import Tailor.Decimal.Notation

/-! # Seconds

Time limits and running times, written as they were given: a whole number of seconds, or a
floating-point one.
-/

namespace Tailor

/-- A number of seconds. -/
inductive Seconds where
  | whole (n : Int)
  | real (x : Float)

namespace Seconds

/-- The text of a number of seconds; only floating-point ones have a point or an exponent. -/
def text : Seconds → Text
  | .whole n => Text.ofInt n
  | .real x => Decimal.text x

def toFloat : Seconds → Float
  | .whole n => Float.ofInt n
  | .real x => x

def exceeds (time limit : Seconds) : Bool :=
  match time, limit with
  | .whole m, .whole n => decide (n < m)
  | _, _ => decide (limit.toFloat < time.toFloat)

end Seconds
end Tailor
