import SchemaAtlas.Decimal.Shortest

/-! # Writing real numbers

A layout says how the digits of a real are written: which magnitudes are written positionally, how
an exponent looks, and what stands for the infinities and for no number.
-/

namespace SchemaAtlas.Decimal

/-- The decisions of a written form for reals. -/
structure Layout where
  positionalFrom : Int
  positionalBelow : Int
  wholeEnding : String
  exponentMark : String
  exponentWidth : Nat
  infinity : String
  negativeInfinity : String
  noNumber : String

/-- Zeros in front of a text up to a width. -/
def padded (width : Nat) (s : String) : String :=
  String.ofList (List.replicate (width - s.length) '0') ++ s

/-- A natural number in decimal digits, with zeros in front up to a width. -/
def paddedNat (width n : Nat) : String := padded width (toString n)

/-- Digits without their trailing zeros, each zero dropped raising the exponent by one. -/
def Digits.trimmed (d : Digits) : List Char × Int :=
  let text := Nat.toDigits 10 d.digits
  let kept := (text.reverse.dropWhile (· == '0')).reverse
  (kept, d.exponent + (text.length - kept.length : Nat))

/-- Digits with a point after the first one, which is left out when nothing follows it. -/
def pointed : List Char → String
  | [] => "0"
  | [c] => String.ofList [c]
  | c :: rest => String.ofList (c :: '.' :: rest)

/-- The exponent part of a written real. -/
def Layout.exponentPart (layout : Layout) (exponent : Int) : String :=
  layout.exponentMark ++ (if exponent < 0 then "-" else "+") ++
    paddedNat layout.exponentWidth exponent.natAbs

/-- Digits with the point placed by their exponent. -/
def Layout.positional (layout : Layout) (digits : List Char) (exponent : Int) : String :=
  let places := digits.length + exponent
  if 0 ≤ exponent then
    String.ofList (digits ++ List.replicate exponent.toNat '0') ++ layout.wholeEnding
  else if 0 < places then
    String.ofList (digits.take places.toNat ++ '.' :: digits.drop places.toNat)
  else "0." ++ String.ofList (List.replicate (-places).toNat '0' ++ digits)

/-- The digits of a positive real written out. -/
def Layout.magnitude (layout : Layout) (significand : Nat) (exponent : Int) : String :=
  let (digits, exponent) := (shortest significand exponent).trimmed
  let leading := digits.length + exponent - 1
  if layout.positionalFrom ≤ leading && leading < layout.positionalBelow then
    layout.positional digits exponent
  else pointed digits ++ layout.exponentPart leading

/-- A real number in a given layout. -/
def Layout.write (layout : Layout) : Real64 → String
  | .undefined => layout.noNumber
  | .infinite negative => if negative then layout.negativeInfinity else layout.infinity
  | .finite negative significand exponent =>
      (if negative then "-" else "") ++
        if significand = 0 then "0" ++ layout.wholeEnding
        else layout.magnitude significand exponent

end SchemaAtlas.Decimal
