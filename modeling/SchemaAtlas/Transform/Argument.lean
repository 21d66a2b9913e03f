import SchemaAtlas.Text.Blank

/-! # Argument lists

An argument list is cut at its commas, except those inside quotes or parentheses. A quote after a
backslash neither opens nor closes anything, and inside a quotation the other kind of quote is an
ordinary character. The scan also goes through lists that are not balanced.
-/

namespace SchemaAtlas.Transform

/-- Where a scan through an argument list stands. -/
structure Scan where
  quote : Option Char
  depth : Int
  previous : Option Char
  deriving DecidableEq, Repr

namespace Scan

/-- Outside quotes and parentheses, before any character. -/
def start : Scan := ⟨none, 0, none⟩

/-- Whether a character is a quote that counts, given the one before it. -/
def isQuote (scan : Scan) (c : Char) : Bool :=
  (c == '"' || c == Char.ofNat 39) && scan.previous != some '\\'

/-- The quotation that is open after a quote that counts. -/
def toggled (scan : Scan) (c : Char) : Option Char :=
  match scan.quote with
  | none => some c
  | some opened => if opened = c then none else some opened

/-- Go past one character. -/
def step (scan : Scan) (c : Char) : Scan :=
  if scan.isQuote c then ⟨scan.toggled c, scan.depth, some c⟩
  else if c = '(' && scan.quote.isNone then ⟨scan.quote, scan.depth + 1, some c⟩
  else if c = ')' && scan.quote.isNone then ⟨scan.quote, scan.depth - 1, some c⟩
  else ⟨scan.quote, scan.depth, some c⟩

/-- Go past a text. -/
def run (scan : Scan) (cs : List Char) : Scan := cs.foldl step scan

/-- Whether a character divides two arguments. -/
def divides (scan : Scan) (c : Char) : Bool := c == ',' && scan.quote.isNone && scan.depth == 0

/-- The pieces between the dividing commas, at least one. -/
def cut (scan : Scan) : List Char → List (List Char)
  | [] => [[]]
  | c :: rest =>
      if scan.divides c then [] :: cut (scan.step c) rest
      else
        match cut (scan.step c) rest with
        | [] => [[c]]
        | piece :: pieces => (c :: piece) :: pieces

end Scan

/-- Pieces in trimmed form, without the last one when it is blank. -/
def keptPieces : List (List Char) → List (List Char)
  | [] => []
  | [last] => if Text.trim last = [] then [] else [Text.trim last]
  | piece :: pieces => Text.trim piece :: keptPieces pieces

/-- The arguments of a list. -/
def splitArguments (cs : List Char) : List (List Char) := keptPieces (Scan.start.cut cs)

/-- The arguments of a string. -/
def argumentsOf (s : String) : List String := (splitArguments s.toList).map String.ofList

end SchemaAtlas.Transform
