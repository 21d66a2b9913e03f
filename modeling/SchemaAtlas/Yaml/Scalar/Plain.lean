import SchemaAtlas.Yaml.Character

/-! # Plain scalars

A plain scalar is written without quotes. It goes on over spaces and line ends for as long as its
words stand deeper than the collection around it; a single line end reads as a space, and of several
all but the first are kept.
-/

namespace SchemaAtlas.Yaml.Plain

/-- The characters that a plain scalar inside brackets cannot hold. -/
def isFlowMark (c : Char) : Bool :=
  c == ',' || c == '?' || c == '[' || c == ']' || c == '\x7b' || c == '\x7d'

/-- Whether a colon in front of this text would end a word. -/
def colonEnds (inFlow : Bool) (rest : List Char) : Bool :=
  atBlank rest || (inFlow && rest.head?.any fun c => isFlowMark c && c != '?')

/-- The word in front of a text, and what follows it. -/
def word (inFlow : Bool) : List Char → List Char × List Char
  | [] => ([], [])
  | c :: rest =>
      if isWhite c || isBreak c || (c == ':' && colonEnds inFlow rest) || (inFlow && isFlowMark c) then
        ([], c :: rest)
      else
        let (letters, after) := word inFlow rest
        (c :: letters, after)

/-- What stands between two words: its text, the column it leads to when it crosses a line end, and
whether a line follows that divides documents. -/
structure Gap where
  text : List Char
  rest : List Char
  column : Option Nat
  divided : Bool

/-- The line ends and spaces that follow a line end. -/
def emptyLines (column : Nat) (cs : List Char) : Gap :=
  match cs with
  | ' ' :: rest => emptyLines (column + 1) rest
  | cs =>
      match taken : takeBreak? cs with
      | none => ⟨[], cs, some column, false⟩
      | some (c, rest) =>
          have := length_of_takeBreak? taken
          if startsDivider rest then ⟨[c], rest, some 0, true⟩
          else
            let more := emptyLines 0 rest
            { more with text := c :: more.text }
termination_by cs.length

/-- The gap in front of a text. -/
def gap (cs : List Char) : Gap :=
  match takeBreak? (skipSpaces cs) with
  | none => ⟨cs.takeWhile (· == ' '), skipSpaces cs, none, false⟩
  | some (c, rest) =>
      if startsDivider rest then ⟨[], rest, some 0, true⟩
      else
        let more := emptyLines 0 rest
        let first := if c != '\n' then [c] else if more.text.isEmpty then [' '] else []
        { more with text := first ++ more.text }

/-- A plain scalar, what follows it, and whether a line end was crossed last. -/
structure Taken where
  text : List Char
  rest : List Char
  atNewLine : Bool

/-- Whether the scalar ends behind a gap; `depth` is the least column of its words. -/
def endsBehind (inFlow : Bool) (depth : Nat) (g : Gap) : Bool :=
  g.divided || g.text.isEmpty || g.rest.head? = some '#' ||
    (!inFlow && g.column.any fun column => decide (column < depth))

/-- The plain scalar in front of a text. -/
def take (inFlow : Bool) (depth : Nat) (cs : List Char) : Taken :=
  let letters := (word inFlow cs).1
  let g := gap (word inFlow cs).2
  if endsBehind inFlow depth g then ⟨letters, g.rest, g.column.isSome⟩
  else if (word inFlow g.rest).1.isEmpty then ⟨letters, g.rest, g.column.isSome⟩
  else if _ : g.rest.length < cs.length then
    let more := take inFlow depth g.rest
    ⟨letters ++ g.text ++ more.text, more.rest, more.atNewLine⟩
  else ⟨letters, g.rest, g.column.isSome⟩
termination_by cs.length

end SchemaAtlas.Yaml.Plain
