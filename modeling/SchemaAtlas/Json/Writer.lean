import SchemaAtlas.Document.Writable
import SchemaAtlas.Json.Text

/-! # Writing JSON

Values are written on one line, or indented with one item a line. Keys that are numbers, truth
values or null become texts; any other key that is not a text cannot be written. Values that JSON
does not know are written as the text that shows them. The first key or value that cannot be written
stops the writing.
-/

namespace SchemaAtlas.Json

open Document Decimal

/-- Reals are laid out as in documents, with the words that the reader accepts for the rest. -/
def realLayout : Layout :=
  { Document.realLayout with
    infinity := "Infinity", negativeInfinity := "-Infinity", noNumber := "NaN" }

/-- What JSON cannot hold: a key that no object can have, or a whole number that is too long. -/
inductive Unwritable where
  | key (key : Scalar)
  | tooLong
  deriving DecidableEq

/-- A whole number in decimal. -/
def writeInt (n : Int) : Except Unwritable String :=
  if Decimal.isWritable n then .ok (toString n) else .error .tooLong

/-- The text of a key. -/
def keyText : Scalar → Except Unwritable String
  | .text s => .ok s
  | .null => .ok "null"
  | .bool b => .ok (if b then "true" else "false")
  | .int n => writeInt n
  | .real x => .ok (realLayout.write x)
  | other => .error (.key other)

/-- A scalar as a value. -/
def writeScalar : Scalar → Except Unwritable String
  | .null => .ok "null"
  | .bool b => .ok (if b then "true" else "false")
  | .int n => writeInt n
  | .real x => .ok (realLayout.write x)
  | .text s => .ok (quoted s)
  | other => .ok (quoted other.display)

/-- How the parts of a collection are divided at a depth. -/
structure Spacing where
  opening : Nat → String
  between : Nat → String
  closing : Nat → String

/-- Everything on one line. -/
def Spacing.oneLine : Spacing := ⟨fun _ => "", fun _ => ", ", fun _ => ""⟩

/-- A line break with two blanks for every level of depth. -/
def lineBreak (depth : Nat) : String := "\n" ++ String.ofList (List.replicate (2 * depth) ' ')

/-- One item a line. -/
def Spacing.indented : Spacing where
  opening depth := lineBreak (depth + 1)
  between depth := "," ++ lineBreak (depth + 1)
  closing depth := lineBreak depth

/-- Written parts between the brackets of a collection. -/
def Spacing.enclose (spacing : Spacing) (depth : Nat) (opening closing : String)
    (parts : List String) : String :=
  if parts.isEmpty then opening ++ closing
  else opening ++ spacing.opening depth ++ Text.joined (spacing.between depth) parts ++
    spacing.closing depth ++ closing

mutual

/-- A value written with a given spacing. -/
def writeWith (spacing : Spacing) (depth : Nat) : Value → Except Unwritable String
  | .scalar s => writeScalar s
  | .list items => do
      let parts ← writeItems spacing (depth + 1) items
      return spacing.enclose depth "[" "]" parts
  | .tuple items => do
      let parts ← writeItems spacing (depth + 1) items
      return spacing.enclose depth "[" "]" parts
  | .set members => do
      let shown ← (showing [.set members] (Value.set members).display).mapError fun _ => .tooLong
      return quoted shown
  | .dict entries => do
      let parts ← writeEntries spacing (depth + 1) entries
      return spacing.enclose depth "\x7b" "\x7d" parts

/-- The items of a list, written one by one. -/
def writeItems (spacing : Spacing) (depth : Nat) : List Value → Except Unwritable (List String)
  | [] => .ok []
  | item :: items => do
      let written ← writeWith spacing depth item
      return written :: (← writeItems spacing depth items)

/-- The entries of a dictionary, written one by one. -/
def writeEntries (spacing : Spacing) (depth : Nat) :
    List (Scalar × Value) → Except Unwritable (List String)
  | [] => .ok []
  | (key, value) :: rest => do
      let name ← keyText key
      let written ← writeWith spacing depth value
      return (quoted name ++ ": " ++ written) :: (← writeEntries spacing depth rest)

end

/-- A value on one line. -/
def write (value : Value) : Except Unwritable String := writeWith .oneLine 0 value

/-- A value with one item a line. -/
def writeIndented (value : Value) : Except Unwritable String := writeWith .indented 0 value

end SchemaAtlas.Json
