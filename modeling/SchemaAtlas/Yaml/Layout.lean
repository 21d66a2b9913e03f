import SchemaAtlas.Yaml.Cursor
import SchemaAtlas.Yaml.Directive
import SchemaAtlas.Yaml.Property
import SchemaAtlas.Yaml.Scalar.Block
import SchemaAtlas.Yaml.Scalar.Plain
import SchemaAtlas.Yaml.Scalar.Quoted

/-! # Tokens of a text

Outside brackets, indentation starts and ends collections. A key need not be marked: whatever may be
one is remembered, and the colon behind it puts the mark, and the start of a mapping if the key
stands deeper than the collection around it, in front of what was remembered. Such a key lies on one
line and has at most 1024 characters.
-/

namespace SchemaAtlas.Yaml

/-- The farthest that a colon may stand behind the start of its key. -/
def longestKey : Nat := 1024

/-- Something that is a key if a colon follows: the number of tokens before it, its place, and
whether nothing but a key may stand there. -/
structure Candidate where
  position : Nat
  index : Nat
  line : Nat
  column : Nat
  required : Bool

/-- A text that is read up to a place: the tokens so far, the last in front, the columns of the
blocks that are open, the candidates for keys inside each open bracket, and whether a key may start
here. -/
structure Layout where
  cursor : Cursor
  tokens : List Token
  blocks : List Nat
  candidate : Option Candidate
  outer : List (Option Candidate)
  keyAllowed : Bool

namespace Layout

/-- The start of a text. -/
def start (cs : List Char) : Layout :=
  { cursor := .start cs, tokens := [], blocks := [], candidate := none, outer := [],
    keyAllowed := true }

/-- Whether brackets are open. -/
def inFlow (l : Layout) : Bool := !l.outer.isEmpty

/-- The least column of what belongs to the innermost block. -/
def depth (l : Layout) : Nat := l.blocks.head?.elim 0 (· + 1)

/-- Add a token and move on. -/
def emit (l : Layout) (t : Token) (rest : List Char) : Layout :=
  { l with tokens := t :: l.tokens, cursor := l.cursor.moveTo rest }

/-- Say whether a key may start behind the last token. -/
def allowKey (l : Layout) (allowed : Bool) : Layout := { l with keyAllowed := allowed }

/-! ### Candidates for keys -/

/-- Whether no colon can make a candidate a key any more. -/
def Candidate.isStale (cursor : Cursor) (c : Candidate) : Bool :=
  c.line ≠ cursor.line || longestKey < cursor.index - c.index

/-- A candidate without the stale one; a required one may not go stale. -/
def fresh (cursor : Cursor) (candidate : Option Candidate) : Except Fault (Option Candidate) :=
  match candidate with
  | none => .ok none
  | some c =>
      if !Candidate.isStale cursor c then .ok (some c)
      else if c.required then .error (.malformed .keyWithoutValue)
      else .ok none

/-- Drop all stale candidates. -/
def dropStale (l : Layout) : Except Fault Layout := do
  let candidate ← fresh l.cursor l.candidate
  let outer ← l.outer.mapM (fresh l.cursor)
  return { l with candidate := candidate, outer := outer }

/-- Drop the candidate of the innermost bracket; it may not be a required one. -/
def dropCandidate (l : Layout) : Except Fault Layout :=
  if l.candidate.any (·.required) then .error (.malformed .keyWithoutValue)
  else .ok { l with candidate := none }

/-- The candidate that starts here. -/
def candidateHere (l : Layout) : Candidate :=
  { position := l.tokens.length
    index := l.cursor.index
    line := l.cursor.line
    column := l.cursor.column
    required := !l.inFlow && l.blocks.head? = some l.cursor.column }

/-- Remember that a key may start here. -/
def remember (l : Layout) : Except Fault Layout :=
  if l.keyAllowed then l.dropCandidate.map fun l => { l with candidate := some l.candidateHere }
  else .ok l

/-! ### Blocks -/

/-- End the blocks deeper than a column. -/
def closeTo (column : Nat) (l : Layout) : Layout :=
  if l.inFlow then l
  else
    let closed := l.blocks.takeWhile (column < ·)
    { l with
      tokens := closed.map (fun _ => Token.blockEnd) ++ l.tokens
      blocks := l.blocks.drop closed.length }

/-- End all blocks. -/
def closeAll (l : Layout) : Layout :=
  if l.inFlow then l
  else { l with tokens := l.blocks.map (fun _ => Token.blockEnd) ++ l.tokens, blocks := [] }

/-- Whether a column is deeper than the innermost block. -/
def isDeeper (l : Layout) (column : Nat) : Bool := l.blocks.head?.all fun c => c < column

/-- Start a block here, unless the innermost one stands here; keys must be allowed. -/
def openBlock (l : Layout) (start : Token) : Except Fault Layout :=
  if l.inFlow then .ok l
  else if !l.keyAllowed then .error (.malformed .misplacedMark)
  else if l.isDeeper l.cursor.column then
    .ok { l with tokens := start :: l.tokens, blocks := l.cursor.column :: l.blocks }
  else .ok l

/-! ### Tokens -/

/-- The start of a bracket. -/
def openBracket (l : Layout) (t : Token) (rest : List Char) : Except Fault Layout := do
  let l ← l.remember
  return { l.emit t rest with candidate := none, outer := l.candidate :: l.outer, keyAllowed := true }

/-- The end of a bracket. -/
def closeBracket (l : Layout) (t : Token) (rest : List Char) : Except Fault Layout :=
  match l.outer with
  | [] => .error (.malformed .arrangement)
  | candidate :: outer =>
      .ok { l.emit t rest with candidate := candidate, outer := outer, keyAllowed := false }

/-- The comma between entries inside brackets. -/
def comma (l : Layout) (rest : List Char) : Except Fault Layout := do
  let l ← l.dropCandidate
  return (l.emit .flowEntry rest).allowKey true

/-- The mark of an item. -/
def itemMark (l : Layout) (rest : List Char) : Except Fault Layout := do
  let l ← (← l.openBlock .blockSequenceStart).dropCandidate
  return (l.emit .blockEntry rest).allowKey true

/-- The mark of a key. -/
def keyMark (l : Layout) (rest : List Char) : Except Fault Layout := do
  let l ← (← l.openBlock .blockMappingStart).dropCandidate
  return (l.emit .key rest).allowKey !l.inFlow

/-- Put the mark of a key in front of a candidate, with the start of a mapping where it is due. -/
def markKey (l : Layout) (c : Candidate) : Layout :=
  let behind := l.tokens.length - c.position
  let opens := !l.inFlow && l.isDeeper c.column
  let marks := if opens then [.key, .blockMappingStart] else [.key]
  { l with
    tokens := l.tokens.take behind ++ marks ++ l.tokens.drop behind
    blocks := if opens then c.column :: l.blocks else l.blocks
    candidate := none }

/-- The mark of a value. -/
def valueMark (l : Layout) (rest : List Char) : Except Fault Layout :=
  match l.candidate with
  | some c => .ok (((l.markKey c).emit .value rest).allowKey false)
  | none => do
      let l ← l.openBlock .blockMappingStart
      return (l.emit .value rest).allowKey !l.inFlow

/-- Something that may be a key, or the start of one. -/
def item (l : Layout) (t : Token) (rest : List Char) : Except Fault Layout := do
  let l ← l.remember
  return (l.emit t rest).allowKey false

/-- A scalar without quotes. -/
def plainScalar (l : Layout) : Except Fault Layout := do
  let l ← l.remember
  let taken := Plain.take l.inFlow l.depth l.cursor.rest
  return (l.emit (.scalar (String.ofList taken.text) true true) taken.rest).allowKey taken.atNewLine

/-- A scalar in a block of its own. -/
def blockScalar (l : Layout) (folded : Bool) (rest : List Char) : Except Fault Layout := do
  let l ← l.dropCandidate
  let (text, rest) ← Block.take folded l.depth rest
  return (l.emit (.scalar (String.ofList text) false true) rest).allowKey true

/-- A scalar in quotes. -/
def quotedScalar (l : Layout) (double : Bool) (rest : List Char) : Except Fault Layout := do
  let (text, behind) ← Quoted.take double rest
  let written := rest.take (rest.length - behind.length)
  l.item (.scalar (String.ofList text) false !(double && Quoted.spellsHalf written)) behind

/-- A mark that ends all blocks: of a document, or of a directive. -/
def boundary (l : Layout) (t : Token) (rest : List Char) : Except Fault Layout := do
  let l ← l.closeAll.dropCandidate
  return (l.emit t rest).allowKey false

/-- Whether a plain scalar may start with a character, given what follows it. -/
def startsPlain (inFlow : Bool) (c : Char) (rest : List Char) : Bool :=
  let indicators := "-?:,[]\x7b\x7d#&*!|>\"%@".toList
  (!isWhite c && !isBreak c && !indicators.contains c && c.toNat ≠ 39 && c.toNat ≠ 0x60) ||
    (!atBlank rest && (c == '-' || (!inFlow && (c == '?' || c == ':'))))

/-- The next token of a text that has not ended. -/
def next (l : Layout) (c : Char) (rest : List Char) : Except Fault Layout := do
  let atStart := l.cursor.column = 0
  let isMark := l.inFlow || atBlank rest
  if atStart && c == '%' then
    let (directive, rest) ← Directive.take rest
    l.boundary (.directive directive) rest
  else if atStart && c == '-' && startsDivider (c :: rest) then l.boundary .documentStart (rest.drop 2)
  else if atStart && c == '.' && startsDivider (c :: rest) then l.boundary .documentEnd (rest.drop 2)
  else if c == '[' then l.openBracket .flowSequenceStart rest
  else if c == '\x7b' then l.openBracket .flowMappingStart rest
  else if c == ']' then l.closeBracket .flowSequenceEnd rest
  else if c == '\x7d' then l.closeBracket .flowMappingEnd rest
  else if c == ',' then l.comma rest
  else if c == '-' && atBlank rest then l.itemMark rest
  else if c == '?' && isMark then l.keyMark rest
  else if c == ':' && isMark then l.valueMark rest
  else if c == '*' then
    let (name, rest) ← Property.takeAnchor rest
    l.item (.alias name) rest
  else if c == '&' then
    let (name, rest) ← Property.takeAnchor rest
    l.item (.anchor name) rest
  else if c == '!' then
    let (name, rest) ← Property.takeTag (c :: rest)
    l.item (.tag name) rest
  else if (c == '|' || c == '>') && !l.inFlow then l.blockScalar (c == '>') rest
  else if c == Quoted.apostrophe || c == '"' then l.quotedScalar (c == '"') rest
  else if startsPlain l.inFlow c rest then l.plainScalar
  else throw (.malformed .token)

/-- A text without spaces, comments and line ends in front of it, and whether there was one of the
latter. -/
def skipEmpty (cs : List Char) : List Char × Bool :=
  match taken : takeBreak? (skipComment (skipSpaces cs)) with
  | none => (skipComment (skipSpaces cs), false)
  | some (_, rest) =>
      have := length_of_takeBreak? taken
      if _ : rest.length < cs.length then ((skipEmpty rest).1, true) else (rest, true)
termination_by cs.length

/-- Move to the next token; outside brackets, a key may start on a new line. -/
def skip (l : Layout) : Layout :=
  let cs := l.cursor.rest
  let atMark := l.cursor.index = 0 && cs.head? = some byteOrderMark
  let (rest, newLine) := skipEmpty (if atMark then cs.tail else cs)
  { l with cursor := l.cursor.moveTo rest, keyAllowed := l.keyAllowed || (newLine && !l.inFlow) }

/-- The number of tokens before the first candidate: those that no mark can come in front of. -/
def settled (l : Layout) : Nat :=
  ((l.candidate :: l.outer).filterMap (·.map Candidate.position)).foldl min l.tokens.length

/-- The settled tokens of a text that cannot be read further, with the fault behind them. -/
def broken (l : Layout) (fault : Fault) : List Token := l.tokens.reverse.take l.settled ++ [.broken fault]

/-- The tokens of a text from a place to its end, behind those read before. -/
def finish (l : Layout) : List Token :=
  match l.skip.dropStale with
  | .error fault => l.broken fault
  | .ok ready =>
      match ready.cursor.rest with
      | [] =>
          match ready.closeAll.dropCandidate with
          | .error fault => ready.broken fault
          | .ok done => done.tokens.reverse
      | c :: rest =>
          let closed := ready.closeTo ready.cursor.column
          match closed.next c rest with
          | .error fault => closed.broken fault
          | .ok after =>
              if _ : after.cursor.rest.length < l.cursor.rest.length then after.finish
              else closed.broken (.malformed .token)
termination_by l.cursor.rest.length

end Layout

/-- The tokens of a text. -/
def tokens (cs : List Char) : List Token :=
  if cs.all isAllowed then (Layout.start cs).finish else [.broken (.malformed .character)]

end SchemaAtlas.Yaml
