/-! # The limit on decimal digits

Whole numbers of more than 4300 decimal digits are neither read nor written in decimal.
-/

namespace SchemaAtlas.Decimal

/-- The greatest number of digits of a whole number in decimal. -/
def mostDigits : Nat := 4300

/-- Whether a number has at most so many decimal digits; zero has none. -/
def fits : Nat → Nat → Bool
  | 0, n => n == 0
  | digits + 1, n => n == 0 || fits digits (n / 10)

/-- Whether a whole number can be written in decimal. -/
def isWritable (n : Int) : Bool := fits mostDigits n.natAbs

/-- The wording for a text of too many digits. -/
def digitLimitText (count : Nat) : String :=
  "Exceeds the limit (" ++ toString mostDigits ++ " digits) for integer string conversion: value has " ++
    toString count ++ " digits; use sys.set_int_max_str_digits() to increase the limit"

/-- The wording for a number of too many digits. -/
def numberLimitText : String :=
  "Exceeds the limit (" ++ toString mostDigits ++ " digits) for integer string conversion; " ++
    "use sys.set_int_max_str_digits() to increase the limit"

end SchemaAtlas.Decimal
