/-! # Real numbers of 64 bits

Documents hold real numbers in the binary format with a 53-bit significand. They are kept as the
integers that make them up, so reading, comparing and printing them is exact integer arithmetic.
A decimal or a quotient is rounded to the nearest such number, a tie going to the even significand.
-/

namespace SchemaAtlas.Decimal

/-- A binary real: a signed significand times a power of two, an infinity, or no number at all. -/
inductive Real64 where
  | finite (negative : Bool) (significand : Nat) (exponent : Int)
  | infinite (negative : Bool)
  | undefined
  deriving DecidableEq, Repr

namespace Real64

/-- The least exponent of a finite number. -/
def leastExponent : Int := -1074

/-- The greatest exponent of a finite number. -/
def greatestExponent : Int := 971

/-- Zero, of either sign. -/
def zero (negative : Bool) : Real64 := finite negative 0 leastExponent

/-- A quotient rounded to a whole number, a half going to the even neighbour. -/
def roundDiv (num den : Nat) : Nat :=
  let quotient := num / den
  let twice := 2 * (num % den)
  if den < twice then quotient + 1
  else if twice = den then quotient + quotient % 2
  else quotient

/-- A quotient scaled down by a power of two, as a quotient of naturals. -/
def scaleDown (num den : Nat) (exponent : Int) : Nat × Nat :=
  if exponent < 0 then (num * Nat.pow 2 (-exponent).toNat, den)
  else (num, den * Nat.pow 2 exponent.toNat)

/-- Put a rounded significand at an exponent, renormalising when rounding carried over. -/
def normalised (negative : Bool) (significand : Nat) (exponent : Int) : Real64 :=
  let (significand, exponent) :=
    if Nat.pow 2 53 ≤ significand then (significand / 2, exponent + 1) else (significand, exponent)
  if significand = 0 then zero negative
  else if greatestExponent < exponent then infinite negative
  else finite negative significand exponent

/-- The nearest real to a quotient of naturals. -/
def ofRatio (negative : Bool) (num den : Nat) : Real64 :=
  if num = 0 then zero negative
  else
    let guess := (Nat.log2 num : Int) - Nat.log2 den - 53
    let (top, bottom) := scaleDown num den guess
    let exponent := max leastExponent (if top / bottom < Nat.pow 2 53 then guess else guess + 1)
    let (top, bottom) := scaleDown num den exponent
    normalised negative (roundDiv top bottom) exponent

/-- The nearest real to a decimal, a whole number times a power of ten. -/
def ofDecimal (negative : Bool) (digits : Nat) (exponent : Int) : Real64 :=
  let magnitude := (Nat.toDigits 10 digits).length + exponent
  if digits = 0 then zero negative
  else if 400 < magnitude then infinite negative
  else if magnitude < -400 then zero negative
  else if exponent < 0 then ofRatio negative digits (Nat.pow 10 (-exponent).toNat)
  else ofRatio negative (digits * Nat.pow 10 exponent.toNat) 1

/-- The nearest real to a whole number. -/
def ofInt (n : Int) : Real64 := ofRatio (n < 0) n.natAbs 1

/-- A finite real as a quotient with a sign. -/
def toRatio? : Real64 → Option (Bool × Nat × Nat)
  | finite negative significand exponent =>
      let (num, den) := scaleDown significand 1 (-exponent)
      some (negative, num, den)
  | _ => none

/-- The signed numerator of a sum of two signed quotients over the product of their denominators. -/
def crossSum (x y : Bool × Nat × Nat) : Int :=
  let (negative, num, den) := x
  let (negative', num', den') := y
  (if negative then -(num * den' : Int) else num * den') +
    (if negative' then -(num' * den : Int) else num' * den)

/-- The nearest real to the sum of two reals. -/
def add : Real64 → Real64 → Real64
  | undefined, _ => undefined
  | _, undefined => undefined
  | infinite a, infinite b => if a = b then infinite a else undefined
  | infinite a, _ => infinite a
  | _, infinite b => infinite b
  | finite a m e, finite b n f =>
      match toRatio? (finite a m e), toRatio? (finite b n f) with
      | some x, some y =>
          let sum := crossSum x y
          if sum = 0 then zero (a && b) else ofRatio (sum < 0) sum.natAbs (x.2.2 * y.2.2)
      | _, _ => undefined

/-- The nearest real to the product of two reals. -/
def mul : Real64 → Real64 → Real64
  | undefined, _ => undefined
  | _, undefined => undefined
  | infinite a, infinite b => infinite (a != b)
  | infinite a, finite b n _ => if n = 0 then undefined else infinite (a != b)
  | finite a m _, infinite b => if m = 0 then undefined else infinite (a != b)
  | finite a m e, finite b n f =>
      match toRatio? (finite a m e), toRatio? (finite b n f) with
      | some (_, num, den), some (_, num', den') => ofRatio (a != b) (num * num') (den * den')
      | _, _ => undefined

/-- The number with the opposite sign. -/
def neg : Real64 → Real64
  | finite negative m e => finite (!negative) m e
  | infinite negative => infinite (!negative)
  | undefined => undefined

/-- Whether the number is a zero, of either sign. -/
def isZero : Real64 → Bool
  | finite _ significand _ => significand == 0
  | _ => false

/-- The whole number that a real equals, if there is one. -/
def toInt? (x : Real64) : Option Int :=
  match x.toRatio? with
  | some (negative, num, den) =>
      if num % den = 0 then some (if negative then -(num / den : Nat) else (num / den : Nat))
      else none
  | none => none

end Real64

end SchemaAtlas.Decimal
