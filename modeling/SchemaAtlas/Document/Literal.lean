import SchemaAtlas.Document.Value
import SchemaAtlas.Text.Printable
import SchemaAtlas.Text.Split

/-! # Values as text

Messages, labels and names show document values as text. A text is shown as it is; any other value
is shown as a literal, and inside a collection every value is. A quoted literal uses single quotes
unless the text holds a single quote and no double quote, and escapes what is not printable. Whole
numbers have their digits here however many there are; whatever shows a value has to see to it that
the value can be written.
-/

namespace SchemaAtlas.Document

open Decimal (Layout)
open Text (isPrintable joined)

/-- Reals are positional from 10⁻⁴ up to 10¹⁶ and keep `.0` when they are whole. -/
def realLayout : Layout where
  positionalFrom := -4
  positionalBelow := 16
  wholeEnding := ".0"
  exponentMark := "e"
  exponentWidth := 2
  infinity := "inf"
  negativeInfinity := "-inf"
  noNumber := "nan"

/-- A number in lower-case hexadecimal digits, with zeros in front up to a width. -/
def hexadecimal (width n : Nat) : String :=
  Decimal.padded width (String.ofList (Nat.toDigits 16 n))

/-- The escape of a character by its code point. -/
def codePointEscape (n : Nat) : String :=
  if n < 0x100 then "\\x" ++ hexadecimal 2 n
  else if n < 0x10000 then "\\u" ++ hexadecimal 4 n
  else "\\U" ++ hexadecimal 8 n

/-- A character inside a literal with a given quote. -/
def quotedChar (quote c : Char) : String :=
  if c = quote || c = '\\' then String.ofList ['\\', c]
  else if c = '\n' then "\\n"
  else if c = '\r' then "\\r"
  else if c = '\t' then "\\t"
  else if isPrintable c then String.ofList [c]
  else codePointEscape c.toNat

/-- The quote of a literal: single, unless only the double quote needs no escape. -/
def chosenQuote (cs : List Char) : Char :=
  if cs.contains (Char.ofNat 39) && !cs.contains '"' then '"' else Char.ofNat 39

/-- A text as a literal. -/
def quotedText (s : String) : String :=
  let quote := chosenQuote s.toList
  let body := s.toList.map (quotedChar quote)
  String.ofList [quote] ++ String.join body ++ String.ofList [quote]

/-- An octet inside a literal with a given quote. -/
def quotedOctet (quote : Char) (octet : UInt8) : String :=
  if octet < 0x80 then quotedChar quote (Char.ofNat octet.toNat)
  else codePointEscape octet.toNat

/-- Octets as a literal. -/
def quotedBytes (octets : List UInt8) : String :=
  let quote := chosenQuote (octets.map fun octet => Char.ofNat octet.toNat)
  "b" ++ String.ofList [quote] ++ String.join (octets.map (quotedOctet quote)) ++
    String.ofList [quote]

/-- The offset of a moment as a literal. -/
def offsetLiteral (minutes : Int) : String :=
  if minutes = 0 then "datetime.timezone.utc"
  else "datetime.timezone(" ++ durationLiteral minutes ++ ")"

/-- A moment as a literal; seconds and microseconds are left out while they are zero. -/
def momentLiteral (m : Moment) : String :=
  let time := toString m.hour ++ ", " ++ toString m.minute ++
    (if m.second = 0 && m.microsecond = 0 then "" else ", " ++ toString m.second) ++
    (if m.microsecond = 0 then "" else ", " ++ toString m.microsecond)
  let zone := m.offset.elim "" fun minutes => ", tzinfo=" ++ offsetLiteral minutes
  "datetime.datetime(" ++ m.date.commas ++ ", " ++ time ++ zone ++ ")"

/-- A scalar as a literal. -/
def Scalar.literal : Scalar → String
  | .null => "None"
  | .bool b => if b then "True" else "False"
  | .int n => toString n
  | .real x => realLayout.write x
  | .text s => quotedText s
  | .date d => "datetime.date(" ++ d.commas ++ ")"
  | .moment m => momentLiteral m
  | .bytes octets => quotedBytes octets

/-- A scalar as shown on its own. -/
def Scalar.display : Scalar → String
  | .text s => s
  | .date d => d.iso
  | .moment m => m.iso " "
  | other => other.literal

namespace Value

mutual

/-- A value as a literal. -/
def literal : Value → String
  | .scalar s => s.literal
  | .list items => "[" ++ joined ", " (literals items) ++ "]"
  | .tuple [item] => "(" ++ literal item ++ ",)"
  | .tuple items => "(" ++ joined ", " (literals items) ++ ")"
  | .set [] => "set()"
  | .set members => "\x7b" ++ joined ", " (members.map Scalar.literal) ++ "\x7d"
  | .dict entries => "\x7b" ++ joined ", " (entryLiterals entries) ++ "\x7d"

/-- The literals of a sequence. -/
def literals : List Value → List String
  | [] => []
  | item :: items => literal item :: literals items

/-- The literals of entries, key and value divided by a colon. -/
def entryLiterals : List (Scalar × Value) → List String
  | [] => []
  | (key, value) :: rest => (key.literal ++ ": " ++ literal value) :: entryLiterals rest

end

/-- A value as shown on its own. -/
def display : Value → String
  | .scalar s => s.display
  | other => other.literal

/-- A text for an optional field: nothing for null, capitals for truth values. -/
def displayField? : Value → Option String
  | null => none
  | bool b => some (if b then "TRUE" else "FALSE")
  | other => some other.display

end Value

end SchemaAtlas.Document
