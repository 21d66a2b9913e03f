import SchemaAtlas.Document.Literal

/-! # JSON strings

The written form of a string is plain ASCII: quotes, backslashes and control characters have short
escapes, and every other character outside the printable ASCII range is written as one or two
16-bit units in hexadecimal. Reading accepts raw characters too, except control characters.
-/

namespace SchemaAtlas.Json

open Document (hexadecimal)

/-- A 16-bit unit as an escape. -/
def unitEscape (unit : Nat) : List Char := ("\\u" ++ hexadecimal 4 unit).toList

/-- A character as escaped 16-bit units, two of them beyond the basic plane. -/
def unitEscapes (n : Nat) : List Char :=
  if n < 0x10000 then unitEscape n
  else unitEscape (0xD800 + (n - 0x10000) / 0x400) ++ unitEscape (0xDC00 + (n - 0x10000) % 0x400)

/-- A character inside a written string. -/
def escapeChar (c : Char) : List Char :=
  if c = '"' then ['\\', '"']
  else if c = '\\' then ['\\', '\\']
  else if c = '\n' then ['\\', 'n']
  else if c = '\r' then ['\\', 'r']
  else if c = '\t' then ['\\', 't']
  else if c.toNat = 12 then ['\\', 'f']
  else if c.toNat = 8 then ['\\', 'b']
  else if 32 ≤ c.toNat && c.toNat < 127 then [c]
  else unitEscapes c.toNat

/-- The written form of a text. -/
def quote (cs : List Char) : List Char := '"' :: cs.flatMap escapeChar ++ ['"']

/-- The written form of a string. -/
def quoted (s : String) : String := String.ofList (quote s.toList)

/-- The character named by a one-letter escape. -/
def shortEscape? (c : Char) : Option Char :=
  if c = '"' || c = '\\' || c = '/' then some c
  else if c = 'b' then some (Char.ofNat 8)
  else if c = 'f' then some (Char.ofNat 12)
  else if c = 'n' then some '\n'
  else if c = 'r' then some '\r'
  else if c = 't' then some '\t'
  else none

/-- The value of a hexadecimal digit of either case. -/
def hexDigit? (c : Char) : Option Nat :=
  if '0' ≤ c && c ≤ '9' then some (c.toNat - 48)
  else if 'a' ≤ c && c ≤ 'f' then some (c.toNat - 87)
  else if 'A' ≤ c && c ≤ 'F' then some (c.toNat - 55)
  else none

/-- The value of four hexadecimal digits. -/
def hexUnit? (a b c d : Char) : Option Nat := do
  return (← hexDigit? a) * 4096 + (← hexDigit? b) * 256 + (← hexDigit? c) * 16 + (← hexDigit? d)

/-- Whether a unit is the first half of a pair. -/
def isHighUnit (n : Nat) : Bool := 0xD800 ≤ n && n < 0xDC00

/-- Whether a unit is the second half of a pair. -/
def isLowUnit (n : Nat) : Bool := 0xDC00 ≤ n && n < 0xE000

/-- The character of a unit that stands alone; half of a pair is no character and has a mark in its
place. -/
def unitChar (n : Nat) : Char :=
  if isHighUnit n || isLowUnit n then Char.ofNat 0xFFFD else Char.ofNat n

/-- The character of a pair of units. -/
def pairChar (high low : Nat) : Char :=
  Char.ofNat (0x10000 + (high - 0xD800) * 0x400 + (low - 0xDC00))

/-- The unit that stands as an escape in front of a text, and what follows it. -/
def escapedUnit? : List Char → Option (Nat × List Char)
  | '\\' :: 'u' :: a :: b :: c :: d :: rest => (hexUnit? a b c d).map (·, rest)
  | _ => none

/-- Whether the escapes of a text give half of a pair that is not one of two halves in a row. -/
def spellsHalf : List Char → Bool
  | '\\' :: 'u' :: a :: b :: c :: d :: rest =>
      let unit := (hexUnit? a b c d).getD 0
      let paired := isHighUnit unit && (escapedUnit? rest).any fun (low, _) => isLowUnit low
      if paired then spellsHalf (rest.drop 6) else isHighUnit unit || isLowUnit unit || spellsHalf rest
  | '\\' :: _ :: rest => spellsHalf rest
  | _ :: rest => spellsHalf rest
  | [] => false
termination_by cs => cs.length
decreasing_by all_goals simp_all; try omega

end SchemaAtlas.Json
