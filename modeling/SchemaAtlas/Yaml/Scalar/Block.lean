import SchemaAtlas.Yaml.Fault
import SchemaAtlas.Yaml.Character

/-! # Block scalars

A block scalar stands on lines of its own that are indented alike. A literal block keeps its line
ends; a folded one reads a single line end between two lines that start with no white space as a
space. The header says how line ends behind the last line are kept and, if need be, how far the
lines are indented.
-/

namespace SchemaAtlas.Yaml.Block

/-- How line ends behind the last line are kept. -/
inductive Chomping where
  | strip
  | clip
  | keep
  deriving DecidableEq, Repr

/-- The header of a block scalar: how to end it, and how much deeper it is indented. -/
structure Header where
  chomping : Chomping
  increment : Option Nat

/-- The chomping mark in front of a text. -/
def chompingMark? : List Char → Option (Chomping × List Char)
  | '+' :: rest => some (.keep, rest)
  | '-' :: rest => some (.strip, rest)
  | _ => none

/-- The indentation mark in front of a text. -/
def indentationMark? : List Char → Option (Nat × List Char)
  | c :: rest => if c.isDigit then some (c.toNat - '0'.toNat, rest) else none
  | [] => none

/-- The marks of a header, in either order. -/
def marks (cs : List Char) : Header × List Char :=
  match chompingMark? cs with
  | some (chomping, rest) =>
      match indentationMark? rest with
      | some (increment, rest) => (⟨chomping, some increment⟩, rest)
      | none => (⟨chomping, none⟩, rest)
  | none =>
      match indentationMark? cs with
      | some (increment, rest) =>
          match chompingMark? rest with
          | some (chomping, rest) => (⟨chomping, some increment⟩, rest)
          | none => (⟨.clip, some increment⟩, rest)
      | none => (⟨.clip, none⟩, cs)

/-- The header in front of a text, to the end of its line. -/
def header (cs : List Char) : Except Fault (Header × List Char) :=
  let (header, rest) := marks cs
  let after := skipComment (skipSpaces rest)
  if header.increment = some 0 || !atSpace rest || !atLineEnd after then
    .error (.malformed .blockHeader)
  else .ok (header, ((takeBreak? after).map (·.2)).getD [])

/-- Line ends, the column that follows them, the greatest column on the way, and what is left. -/
structure Breaks where
  text : List Char
  column : Nat
  greatest : Nat
  rest : List Char

/-- The empty lines in front of a text, however far they are indented. -/
def anyBreaks (column : Nat) (cs : List Char) : Breaks :=
  match cs with
  | ' ' :: rest => anyBreaks (column + 1) rest
  | cs =>
      match taken : takeBreak? cs with
      | none => ⟨[], column, column, cs⟩
      | some (c, rest) =>
          have := length_of_takeBreak? taken
          let more := anyBreaks 0 rest
          { more with text := c :: more.text, greatest := max column more.greatest }
termination_by cs.length

/-- The empty lines in front of a text, indented no farther than a column. -/
def breaksUpTo (limit column : Nat) (cs : List Char) : Breaks :=
  match cs with
  | ' ' :: rest =>
      if column < limit then breaksUpTo limit (column + 1) rest
      else ⟨[], column, limit, ' ' :: rest⟩
  | cs =>
      match taken : takeBreak? cs with
      | none => ⟨[], column, limit, cs⟩
      | some (c, rest) =>
          have := length_of_takeBreak? taken
          let more := breaksUpTo limit 0 rest
          { more with text := c :: more.text }
termination_by cs.length

/-- The lines of a block: their text, the end of the last line, the empty lines behind it, and what
is left. -/
structure Lines where
  text : List Char
  lastEnd : List Char
  trailing : List Char
  rest : List Char

/-- Whether a line starts with white space. -/
def startsWhite (cs : List Char) : Bool := cs.head?.any isWhite

/-- What the end of a line stands for when another line follows. -/
def joint (folded : Bool) (line next lineEnd empty : List Char) : List Char :=
  if folded && lineEnd == ['\n'] && !startsWhite line && !startsWhite next then
    if empty.isEmpty then [' '] else []
  else lineEnd

/-- The lines of a block that are indented to a column, behind some empty ones. -/
def lines (folded : Bool) (indent : Nat) (before : Breaks) : Lines :=
  if before.column ≠ indent || before.rest.isEmpty then ⟨[], [], before.text, before.rest⟩
  else
    let line := before.rest.takeWhile fun c => !isBreak c
    let behind := before.rest.drop line.length
    let (lineEnd, behind) := match takeBreak? behind with
      | some (c, rest) => ([c], rest)
      | none => ([], behind)
    let after := breaksUpTo indent 0 behind
    if after.column ≠ indent || after.rest.isEmpty then
      ⟨before.text ++ line, lineEnd, after.text, after.rest⟩
    else if _ : after.rest.length < before.rest.length then
      let more := lines folded indent after
      { more with
        text := before.text ++ line ++ joint folded line after.rest lineEnd after.text ++ more.text }
    else ⟨before.text ++ line, lineEnd, after.text, after.rest⟩
termination_by before.rest.length

/-- The text of a block with its end as the header asks. -/
def Lines.chomped (block : Lines) : Chomping → List Char
  | .strip => block.text
  | .clip => block.text ++ block.lastEnd
  | .keep => block.text ++ block.lastEnd ++ block.trailing

/-- The text of a block scalar from behind its opening mark, and what is left. A block is indented
to the column `depth` at least. -/
def take (folded : Bool) (depth : Nat) (cs : List Char) : Except Fault (List Char × List Char) := do
  let (header, rest) ← header cs
  let depth := max depth 1
  let (indent, before) := match header.increment with
    | some increment => (depth + increment - 1, breaksUpTo (depth + increment - 1) 0 rest)
    | none => (max depth (anyBreaks 0 rest).greatest, anyBreaks 0 rest)
  let block := lines folded indent before
  return (block.chomped header.chomping, block.rest)

end SchemaAtlas.Yaml.Block
