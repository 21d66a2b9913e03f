/-! # Octets written as text

Four characters stand for three octets, each character for six bits. Characters that stand for
nothing are read over, and padding ends the text once it completes a group of four.
-/

namespace SchemaAtlas.Text.Base64

/-- The six bits of a character. -/
def sextet? (c : Char) : Option Nat :=
  if c.isUpper then some (c.toNat - 'A'.toNat)
  else if c.isLower then some (c.toNat - 'a'.toNat + 26)
  else if c.isDigit then some (c.toNat - '0'.toNat + 52)
  else if c == '+' then some 62
  else if c == '/' then some 63
  else none

/-- The sextets of a text up to its end or its completed padding, and whether padding completed the
last group; `count` sextets and then `padding` marks came before. -/
def sextets (count padding : Nat) : List Char → List Nat × Bool
  | [] => ([], false)
  | c :: rest =>
      if c = '=' then
        if 2 ≤ count % 4 && 4 ≤ count % 4 + (padding + 1) then ([], true)
        else sextets count (if 2 ≤ count % 4 then padding + 1 else padding) rest
      else
        match sextet? c with
        | none => sextets count padding rest
        | some bits =>
            let (more, closed) := sextets (count + 1) 0 rest
            (bits :: more, closed)

/-- The octets that sextets make up; bits that fill no octet are dropped. -/
def octets : List Nat → List UInt8
  | a :: b :: c :: d :: rest =>
      UInt8.ofNat (a * 4 + b / 16) :: UInt8.ofNat (b % 16 * 16 + c / 4) ::
        UInt8.ofNat (c % 4 * 64 + d) :: octets rest
  | [a, b, c] => [UInt8.ofNat (a * 4 + b / 16), UInt8.ofNat (b % 16 * 16 + c / 4)]
  | [a, b] => [UInt8.ofNat (a * 4 + b / 16)]
  | _ => []

/-- The octets of a text, if its last group is complete or padded. -/
def read? (cs : List Char) : Option (List UInt8) :=
  let (bits, closed) := sextets 0 0 cs
  if closed || bits.length % 4 = 0 then some (octets bits) else none

end SchemaAtlas.Text.Base64
