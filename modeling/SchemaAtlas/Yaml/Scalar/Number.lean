import SchemaAtlas.Text.Blank
import SchemaAtlas.Text.Case
import SchemaAtlas.Text.Digit
import SchemaAtlas.Text.Split
import SchemaAtlas.Yaml.Fault

/-! # Numbers

Whole numbers are written in base two, eight, ten or sixteen, reals with a point, and both in base
sixty with colons. Underscores may divide digits. A scalar without a tag is a number only when it is
written in one of these forms; a scalar that is declared to be a number is read more freely.
-/

namespace SchemaAtlas.Yaml.Number

open Decimal (Real64)

/-- A text without a sign in front of it. -/
def unsigned : List Char → List Char
  | '+' :: rest => rest
  | '-' :: rest => rest
  | cs => cs

/-- Whether a text starts with a minus sign. -/
def isNegative (cs : List Char) : Bool := cs.head? = some '-'

/-! ### Written forms -/

/-- A digit of ten or an underscore. -/
def isPlace (c : Char) : Bool := c.isDigit || c == '_'

/-- Whether a text is made of some of the characters of a class, one at least. -/
def isRun (admits : Char → Bool) (cs : List Char) : Bool := !cs.isEmpty && cs.all admits

/-- A digit, then digits and underscores. -/
def isPlaces : List Char → Bool
  | [] => false
  | c :: rest => c.isDigit && rest.all isPlace

/-- One digit, or two below sixty. -/
def isSixtieth : List Char → Bool
  | [a] => a.isDigit
  | [a, b] => '0' ≤ a && a ≤ '5' && b.isDigit
  | _ => false

/-- Places, then sixtieths behind colons. -/
def isSexagesimal (cs : List Char) : Bool :=
  match Text.cut ':' cs with
  | first :: part :: parts => isPlaces first && (part :: parts).all isSixtieth
  | _ => false

/-- The forms of whole numbers. -/
def isWhole (cs : List Char) : Bool :=
  match unsigned cs with
  | ['0'] => true
  | '0' :: 'b' :: rest => isRun (fun c => c == '0' || c == '1' || c == '_') rest
  | '0' :: 'x' :: rest => isRun (fun c => (Text.digitInBase? 16 c).isSome && c.toNat < 128 || c == '_') rest
  | '0' :: rest => isRun (fun c => '0' ≤ c && c ≤ '7' || c == '_') rest
  | body => isPlaces body || isSexagesimal body

/-- Nothing, or an exponent with a sign. -/
def isExponent : List Char → Bool
  | [] => true
  | e :: sign :: digits =>
      (e == 'e' || e == 'E') && (sign == '+' || sign == '-') && isRun Char.isDigit digits
  | _ => false

/-- What may follow a point: places and an exponent. -/
def isFraction (cs : List Char) : Bool := isExponent (cs.dropWhile isPlace)

/-- The forms of reals with a point. -/
def hasPoint (cs : List Char) : Bool :=
  let body := unsigned cs
  let whole := body.takeWhile (· != '.')
  match cs, body.dropWhile (· != '.') with
  | '.' :: rest, _ => rest.head?.any Char.isDigit && isFraction rest
  | _, _ :: rest => (isPlaces whole && isFraction rest) || (isSexagesimal whole && rest.all isPlace)
  | _, [] => false

/-- The forms of infinities. -/
def isInfinity (cs : List Char) : Bool :=
  [".inf", ".Inf", ".INF"].any fun form => unsigned cs == form.toList

/-- The forms of what is no number. -/
def isUndefined (cs : List Char) : Bool := [".nan", ".NaN", ".NAN"].any fun form => cs == form.toList

/-- The forms of reals. -/
def isReal (cs : List Char) : Bool := hasPoint cs || isInfinity cs || isUndefined cs

/-! ### Values -/

/-- White space around a number that is read freely. -/
def isAround (c : Char) : Bool := Text.isBlank c && !(28 ≤ c.toNat && c.toNat ≤ 31)

/-- A text without white space around it. -/
def inner (cs : List Char) : List Char :=
  ((cs.dropWhile isAround).reverse.dropWhile isAround).reverse

/-- The mark of a base that may stand in front of its digits. -/
def dropBaseMark (base : Nat) : List Char → List Char
  | '0' :: c :: rest =>
      if (base = 2 && (c == 'b' || c == 'B')) || (base = 8 && (c == 'o' || c == 'O')) ||
          (base = 16 && (c == 'x' || c == 'X')) then rest
      else '0' :: c :: rest
  | cs => cs

/-- The whole number that a text writes in a base. -/
def wholeInBase (base : Nat) (cs : List Char) : Except Fault Int :=
  let body := dropBaseMark base (unsigned (inner cs))
  let digits := (body.map (Text.digitInBase? base)).takeWhile Option.isSome
  if base = 10 && Decimal.mostDigits < digits.length then .error (.tooManyDigits digits.length)
  else if digits.isEmpty || digits.length < body.length then
    .error (.notWhole base (String.ofList cs))
  else
    let magnitude : Int := (digits.reduceOption.foldl (fun n digit => base * n + digit) 0 : Nat)
    .ok (if isNegative (inner cs) then -magnitude else magnitude)

/-- The number that parts of base sixty make up, the last part counting ones. -/
def sexagesimal (parts : List Int) : Int := parts.foldl (fun n part => 60 * n + part) 0

/-- The magnitude of a whole number, by the marks it starts with. -/
def magnitude (cs : List Char) : Except Fault Int :=
  match cs with
  | [] => .error .emptyNumber
  | ['0'] => .ok 0
  | '0' :: 'b' :: rest => wholeInBase 2 rest
  | '0' :: 'x' :: rest => wholeInBase 16 rest
  | '0' :: _ => wholeInBase 8 cs
  | _ =>
      if cs.contains ':' then ((Text.cut ':' cs).mapM (wholeInBase 10)).map sexagesimal
      else wholeInBase 10 cs

/-- A text without underscores. -/
def withoutUnderscores (cs : List Char) : List Char := cs.filter (· != '_')

/-- The whole number that a scalar writes. -/
def whole (cs : List Char) : Except Fault Int :=
  let digits := withoutUnderscores cs
  (magnitude (unsigned digits)).map fun n => if isNegative digits then -n else n

/-- A real in decimal: places, a fraction and an exponent. -/
def decimal? (negative : Bool) (cs : List Char) : Option Real64 := do
  let digit := fun c => (Text.digitValue? c).isSome
  let wholePart := cs.takeWhile digit
  let rest := cs.dropWhile digit
  let (fraction, rest) := match rest with
    | '.' :: rest => (rest.takeWhile digit, rest.dropWhile digit)
    | _ => ([], rest)
  let places := (wholePart ++ fraction).filterMap Text.digitValue?
  if places.isEmpty then none
  let power ← match rest with
    | [] => some (0 : Int)
    | e :: exponent =>
        if (e == 'e' || e == 'E') && isRun digit (unsigned exponent) then
          let size : Nat := ((unsigned exponent).filterMap Text.digitValue?).foldl
            (fun n digit => 10 * n + digit) 0
          some (if isNegative exponent then -size else size)
        else none
  return .ofDecimal negative (places.foldl (fun n digit => 10 * n + digit) 0)
    (power - fraction.length)

/-- The real that a text writes when it is read freely. -/
def freeReal? (cs : List Char) : Option Real64 :=
  let negative := isNegative (inner cs)
  let body := unsigned (inner cs)
  let word := String.ofList (Text.lower body)
  if word = "inf" || word = "infinity" then some (.infinite negative)
  else if word = "nan" then some .undefined
  else decimal? negative body

/-- The real that a text writes when it is read freely, or a fault. -/
def freeReal (cs : List Char) : Except Fault Real64 :=
  (freeReal? cs).elim (.error (.notReal (String.ofList cs))) .ok

/-- The sum of parts of base sixty, the first part counting ones of a power of sixty. -/
def sexagesimalReal (sum : Real64) (unit : Nat) : List Real64 → Except Fault Real64
  | [] => .ok sum
  | part :: parts =>
      match Real64.ofInt unit with
      | .infinite _ => .error .tooGreat
      | weight => sexagesimalReal (sum.add (part.mul weight)) (60 * unit) parts

/-- The real that a scalar writes. -/
def real (cs : List Char) : Except Fault Real64 := do
  let digits := Text.lower (withoutUnderscores cs)
  if digits.isEmpty then throw .emptyNumber
  let signed := fun (x : Real64) => if isNegative digits then x.neg else x
  let body := unsigned digits
  if body = ".inf".toList then return signed (.infinite false)
  else if body = ".nan".toList then return .undefined
  else if body.contains ':' then
    let parts ← (Text.cut ':' body).mapM freeReal
    return signed (← sexagesimalReal (.zero false) 1 parts.reverse)
  else return signed (← freeReal body)

end SchemaAtlas.Yaml.Number
