import SchemaAtlas.Yaml.Character

/-! # Places in a text

A cursor is what is left of a text with the number of characters before it, the line and the column.
-/

namespace SchemaAtlas.Yaml

/-- A place in a text. -/
structure Cursor where
  rest : List Char
  index : Nat
  line : Nat
  column : Nat

namespace Cursor

/-- The start of a text. -/
def start (cs : List Char) : Cursor := ⟨cs, 0, 0, 0⟩

/-- Whether the line ends behind a character, given what follows it. -/
def endsLine (c : Char) (rest : List Char) : Bool :=
  isBreak c && !(c == '\r' && rest.head? = some '\n')

/-- The place behind one more character; a byte order mark takes no column. -/
def step (cursor : Cursor) : Cursor :=
  match cursor.rest with
  | [] => cursor
  | c :: rest =>
      if endsLine c rest then ⟨rest, cursor.index + 1, cursor.line + 1, 0⟩
      else if c = byteOrderMark then ⟨rest, cursor.index + 1, cursor.line, cursor.column⟩
      else ⟨rest, cursor.index + 1, cursor.line, cursor.column + 1⟩

/-- The place behind a number of characters. -/
def advance : Nat → Cursor → Cursor
  | 0, cursor => cursor
  | count + 1, cursor => advance count cursor.step

/-- The place where a given end of the text is left. -/
def moveTo (cursor : Cursor) (rest : List Char) : Cursor :=
  cursor.advance (cursor.rest.length - rest.length)

end Cursor

end SchemaAtlas.Yaml
