import SchemaAtlas.Json.Text
import SchemaAtlas.Yaml.Fault
import SchemaAtlas.Yaml.Character

/-! # Quoted scalars

Between single quotes a quote is written twice. Between double quotes a backslash starts an escape,
which may be a line end. A single line end reads as a space, and of several all but the first are
kept; spaces around line ends are dropped.
-/

namespace SchemaAtlas.Yaml.Quoted

/-- Escapes of one character with what they stand for. -/
def shortEscapes : List (Char × Nat) :=
  [('0', 0), ('a', 7), ('b', 8), ('t', 9), ('\t', 9), ('n', 10), ('v', 11), ('f', 12), ('r', 13),
    ('e', 27), (' ', 32), ('"', 34), ('\\', 92), ('/', 47), ('N', 0x85), ('_', 0xA0), ('L', 0x2028),
    ('P', 0x2029)]

/-- The number of hexadecimal digits behind an escape of a code. -/
def codeLength? (c : Char) : Option Nat :=
  if c = 'x' then some 2 else if c = 'u' then some 4 else if c = 'U' then some 8 else none

/-- A code of a given number of hexadecimal digits. -/
def readCode? (length : Nat) (cs : List Char) : Option (Nat × List Char) := do
  let digits ← (cs.take length).mapM Json.hexDigit?
  if digits.length = length then
    some (digits.foldl (fun value digit => 16 * value + digit) 0, cs.drop length)
  else none

/-- The second half of a pair in front of a text, written as an escape. -/
def readLowUnit? : List Char → Option (Nat × List Char)
  | '\\' :: 'u' :: rest => do
      let (code, rest) ← readCode? 4 rest
      if Json.isLowUnit code then some (code, rest) else none
  | _ => none

/-- The character of a code; two halves of a pair make one character. -/
def readCharacter (code : Nat) (rest : List Char) : Except Fault (Char × List Char) :=
  if 0x10FFFF < code then .error (.noCharacter code)
  else if Json.isHighUnit code then
    match readLowUnit? rest with
    | some (low, rest) => .ok (Json.pairChar code low, rest)
    | none => .ok (Json.unitChar code, rest)
  else .ok (Json.unitChar code, rest)

/-- Whether an escape between double quotes gives half of a pair. Two halves side by side stand for
two, although the text that is read has one character in their place. -/
def spellsHalf : List Char → Bool
  | '\\' :: c :: rest =>
      let code := (codeLength? c).bind fun length => (readCode? length rest).map (·.1)
      code.any (fun code => Json.isHighUnit code || Json.isLowUnit code) || spellsHalf rest
  | _ :: rest => spellsHalf rest
  | [] => false

/-- The line ends in front of a text, with the white space around them dropped. -/
def breaks (cs : List Char) : Except Fault (List Char × List Char) :=
  if startsDivider cs then .error (.malformed .unterminated)
  else
    match taken : takeBreak? (cs.dropWhile isWhite) with
    | none => .ok ([], cs.dropWhile isWhite)
    | some (c, rest) => do
        have := length_of_takeBreak? taken
        have : (cs.dropWhile isWhite).length ≤ cs.length := (List.dropWhile_sublist _).length_le
        let (more, rest) ← breaks rest
        return (c :: more, rest)
termination_by cs.length
decreasing_by omega

/-- What white space stands for, when a line may end in it. -/
def space (cs : List Char) : Except Fault (List Char × List Char) :=
  match takeBreak? (cs.dropWhile isWhite) with
  | none => .ok (cs.takeWhile isWhite, cs.dropWhile isWhite)
  | some (c, rest) => do
      let (more, rest) ← breaks rest
      let first := if c != '\n' then [c] else if more.isEmpty then [' '] else []
      return (first ++ more, rest)

/-- What an escape stands for, from behind its backslash. -/
def escape (cs : List Char) : Except Fault (List Char × List Char) :=
  match cs with
  | [] => .error (.malformed .escape)
  | c :: rest =>
      match shortEscapes.lookup c, codeLength? c with
      | some code, _ => .ok ([Char.ofNat code], rest)
      | none, some length =>
          match readCode? length rest with
          | none => .error (.malformed .escape)
          | some (code, rest) => do
              let (character, rest) ← readCharacter code rest
              return ([character], rest)
      | none, none =>
          match takeBreak? cs with
          | none => .error (.malformed .escape)
          | some (_, rest) => breaks rest

/-- The single quote. -/
def apostrophe : Char := Char.ofNat 39

/-- One step inside quotes: what it stands for and what follows, nothing at the closing quote. -/
def step (double : Bool) (cs : List Char) : Except Fault (Option (List Char) × List Char) :=
  match cs with
  | [] => .error (.malformed .unterminated)
  | c :: rest =>
      if double && c == '"' then .ok (none, rest)
      else if double && c == '\\' then (escape rest).map fun (text, rest) => (some text, rest)
      else if !double && c == apostrophe then
        if rest.head? = some apostrophe then .ok (some [apostrophe], rest.tail) else .ok (none, rest)
      else if isWhite c || isBreak c then (space cs).map fun (text, rest) => (some text, rest)
      else .ok (some [c], rest)

/-- The text of a quoted scalar from behind its opening quote, and what follows the closing one. -/
def take (double : Bool) (cs : List Char) : Except Fault (List Char × List Char) := do
  let (text?, rest) ← step double cs
  match text? with
  | none => return ([], rest)
  | some text =>
      if _ : rest.length < cs.length then
        let (more, rest) ← take double rest
        return (text ++ more, rest)
      else throw (.malformed .unterminated)
termination_by cs.length

end SchemaAtlas.Yaml.Quoted
