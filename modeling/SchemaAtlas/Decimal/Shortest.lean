import SchemaAtlas.Decimal.Real64

/-! # The shortest decimal that reads back

Of all decimals that round to a given real, the shortest is the one with the fewest digits, and of
several with equally many the nearest. For each count of digits from one upward only the two
neighbours of the real on that decimal grid can be in its rounding interval when any grid point is,
so testing these two is enough.
-/

namespace SchemaAtlas.Decimal

/-- A decimal: a whole number of digits times a power of ten. -/
structure Digits where
  digits : Nat
  exponent : Int
  deriving DecidableEq, Repr

/-- A positive real with the ends of its rounding interval, over one power of two. -/
structure RoundingInterval where
  low : Nat
  centre : Nat
  high : Nat
  exponent : Int
  closed : Bool

/-- The interval of reals that round to a significand at an exponent. -/
def RoundingInterval.of (significand : Nat) (exponent : Int) : RoundingInterval where
  low := if significand = Nat.pow 2 52 && Real64.leastExponent < exponent then 4 * significand - 1
    else 4 * significand - 2
  centre := 4 * significand
  high := 4 * significand + 2
  exponent := exponent - 2
  closed := significand % 2 = 0

/-- A whole number times powers of two and ten, as a quotient of naturals. -/
def scaled (n : Nat) (two ten : Int) : Nat × Nat :=
  (n * Nat.pow 2 two.toNat * Nat.pow 10 ten.toNat, Nat.pow 2 (-two).toNat * Nat.pow 10 (-ten).toNat)

/-- Whether one quotient of naturals is below another, or equal to it when that is admitted. -/
def below (x y : Nat × Nat) (orEqual : Bool) : Bool :=
  if orEqual then x.1 * y.2 ≤ y.1 * x.2 else x.1 * y.2 < y.1 * x.2

namespace RoundingInterval

/-- Whether a decimal lies in the interval. -/
def contains (interval : RoundingInterval) (d : Digits) : Bool :=
  let point := scaled d.digits 0 d.exponent
  below (scaled interval.low interval.exponent 0) point interval.closed &&
    below point (scaled interval.high interval.exponent 0) interval.closed

/-- The distance of a decimal from the centre, over a denominator fixed by the grid. -/
def distance (interval : RoundingInterval) (d : Digits) : Nat :=
  let point := scaled d.digits 0 d.exponent
  let centre := scaled interval.centre interval.exponent 0
  ((point.1 * centre.2 : Int) - centre.1 * point.2).natAbs

/-- The nearer of two neighbours on one grid, the even one when both are equally near. -/
def nearer (interval : RoundingInterval) (a b : Digits) : Digits :=
  if interval.distance a < interval.distance b then a
  else if interval.distance b < interval.distance a then b
  else if a.digits % 2 = 0 then a
  else b

/-- The neighbour of the centre on a decimal grid that lies in the interval, if one does. -/
def onGrid? (interval : RoundingInterval) (exponent : Int) : Option Digits :=
  let centre := scaled interval.centre interval.exponent (-exponent)
  let lower : Digits := ⟨centre.1 / centre.2, exponent⟩
  let upper : Digits := ⟨centre.1 / centre.2 + 1, exponent⟩
  match 0 < lower.digits && interval.contains lower, interval.contains upper with
  | true, true => some (interval.nearer lower upper)
  | true, false => some lower
  | false, true => some upper
  | false, false => none

/-- The first grid, from coarse to fine, that has a point in the interval. -/
def onFirstGrid (interval : RoundingInterval) (exponent : Int) : Nat → Digits
  | 0 => ⟨0, 0⟩
  | finer + 1 =>
      match interval.onGrid? exponent with
      | some d => d
      | none => interval.onFirstGrid (exponent - 1) finer

end RoundingInterval

/-- The decimal exponent of the leading digit, or one more, of a significand at an exponent. -/
def leadingExponent (significand : Nat) (exponent : Int) : Int :=
  (((Nat.log2 significand : Int) + exponent + 1) * 30103) / 100000 + 1

/-- The shortest decimal that rounds to a positive significand at an exponent. -/
def shortest (significand : Nat) (exponent : Int) : Digits :=
  (RoundingInterval.of significand exponent).onFirstGrid (leadingExponent significand exponent) 25

end SchemaAtlas.Decimal
