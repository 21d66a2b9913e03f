import SchemaAtlas.Decimal.DigitLimit
import SchemaAtlas.Json.Text

/-! # Reading JSON

A text is read into a document value. The reader also accepts `NaN`, `Infinity` and `-Infinity`.
A refusal says what was expected and where: the place is kept as the number of characters left,
and turned into a position, a line and a column once the whole text is known.
-/

namespace SchemaAtlas.Json

open Document Decimal

/-- What keeps a text from being JSON. -/
inductive Fault where
  | byteOrderMark
  | value
  | propertyName
  | colon
  | comma
  | unterminatedString
  | controlCharacter
  | escape
  | unicodeEscape
  | extraData
  deriving DecidableEq, Repr

/-- The wording of a fault. -/
def Fault.message : Fault → String
  | .byteOrderMark => "Unexpected UTF-8 BOM (decode using utf-8-sig)"
  | .value => "Expecting value"
  | .propertyName => "Expecting property name enclosed in double quotes"
  | .colon => "Expecting ':' delimiter"
  | .comma => "Expecting ',' delimiter"
  | .unterminatedString => "Unterminated string starting at"
  | .controlCharacter => "Invalid control character at"
  | .escape => "Invalid \\escape"
  | .unicodeEscape => "Invalid \\uXXXX escape"
  | .extraData => "Extra data"

/-- Why reading stopped: a fault with a number of characters left, or a number that is too long. -/
inductive Refusal where
  | malformed (fault : Fault) (left : Nat)
  | tooManyDigits (count : Nat)
  deriving DecidableEq, Repr

/-- Something read from the front of a text, and what is left of it. -/
structure Read (α : Type) (cs : List Char) where
  value : α
  rest : List Char
  shorter : rest.length < cs.length

/-- The four characters that may stand between tokens. -/
def isSpace (c : Char) : Bool := c == ' ' || c == '\t' || c == '\n' || c == '\r'

/-- A text without its leading space. -/
def skipSpace (cs : List Char) : List Char := cs.dropWhile isSpace

theorem length_skipSpace_le (cs : List Char) : (skipSpace cs).length ≤ cs.length :=
  (List.dropWhile_sublist _).length_le

theorem length_lt_cons (c : Char) (cs : List Char) : cs.length < (c :: cs).length :=
  Nat.lt_succ_self _

theorem length_lt_cons_cons (c d : Char) (cs : List Char) : cs.length < (c :: d :: cs).length :=
  Nat.lt_trans (length_lt_cons d cs) (length_lt_cons c (d :: cs))

/-- One escaped unit and, for the first half of a pair, the second; a character must follow. -/
def readUnit? : (cs : List Char) → Option (Read Char cs)
  | a :: b :: c :: d :: next :: rest => do
      let unit ← hexUnit? a b c d
      match pair : next :: rest with
      | '\\' :: 'u' :: e :: f :: g :: h :: last :: more =>
          match hexUnit? e f g h with
          | some low =>
              if isHighUnit unit && isLowUnit low then
                some ⟨pairChar unit low, last :: more, by simp_all⟩
              else some ⟨unitChar unit, next :: rest, by simp⟩
          | none => some ⟨unitChar unit, next :: rest, by simp⟩
      | _ => some ⟨unitChar unit, next :: rest, by simp⟩
  | _ => none

/-- The characters of a string up to its closing quote; `opening` counts from the opening one. -/
def readString (opening : Nat) (cs : List Char) : Except Refusal (Read (List Char) cs) :=
  match cs with
  | [] => .error (.malformed .unterminatedString opening)
  | c :: rest =>
      if c = '"' then .ok ⟨[], rest, length_lt_cons c rest⟩
      else if c = '\\' then
        match rest with
        | [] => .error (.malformed .unterminatedString opening)
        | e :: more =>
            if e = 'u' then
              match readUnit? more with
              | none => .error (.malformed .unicodeEscape (more.length + 1))
              | some unit => do
                  have shorter := Nat.lt_trans unit.shorter (length_lt_cons_cons c e more)
                  let tail ← readString opening unit.rest
                  return ⟨unit.value :: tail.value, tail.rest, Nat.lt_trans tail.shorter shorter⟩
            else
              match shortEscape? e with
              | none => .error (.malformed .escape (more.length + 2))
              | some plain => do
                  have shorter := length_lt_cons_cons c e more
                  let tail ← readString opening more
                  return ⟨plain :: tail.value, tail.rest, Nat.lt_trans tail.shorter shorter⟩
      else if c.toNat < 32 then .error (.malformed .controlCharacter (rest.length + 1))
      else do
        have shorter := length_lt_cons c rest
        let tail ← readString opening rest
        return ⟨c :: tail.value, tail.rest, Nat.lt_trans tail.shorter shorter⟩
termination_by cs.length
decreasing_by all_goals assumption

/-- The parts of a written number: sign, whole digits, and fraction and exponent when present. -/
structure Numeral where
  negative : Bool
  whole : List Char
  fraction : Option (List Char)
  exponent : Option (Bool × List Char)

/-- The value of decimal digits. -/
def decimalValue (digits : List Char) : Nat :=
  digits.foldl (fun value digit => value * 10 + (digit.toNat - 48)) 0

/-- The fraction of a number, when a point with digits stands in front. -/
def readFraction : List Char → Option (List Char) × List Char
  | '.' :: rest =>
      match rest.takeWhile Char.isDigit with
      | [] => (none, '.' :: rest)
      | digits => (some digits, rest.dropWhile Char.isDigit)
  | cs => (none, cs)

/-- A sign in front of digits. -/
def readSign : List Char → Bool × List Char
  | '-' :: rest => (true, rest)
  | '+' :: rest => (false, rest)
  | cs => (false, cs)

/-- The exponent of a number, when a mark with digits stands in front. -/
def readExponent : List Char → Option (Bool × List Char) × List Char
  | [] => (none, [])
  | mark :: rest =>
      let (negative, unsigned) := readSign rest
      match mark == 'e' || mark == 'E', unsigned.takeWhile Char.isDigit with
      | true, digit :: digits =>
          (some (negative, digit :: digits), unsigned.dropWhile Char.isDigit)
      | _, _ => (none, mark :: rest)

/-- The whole digits of a number: a zero, or digits that do not start with one. -/
def readWhole? : List Char → Option (List Char × List Char)
  | '0' :: rest => some (['0'], rest)
  | c :: rest =>
      if c.isDigit then some (c :: rest.takeWhile Char.isDigit, rest.dropWhile Char.isDigit)
      else none
  | [] => none

/-- A written number in front of a text. -/
def readNumeral? (cs : List Char) : Option (Numeral × List Char) :=
  let (negative, unsigned) : Bool × List Char :=
    match cs with
    | '-' :: rest => (true, rest)
    | _ => (false, cs)
  match readWhole? unsigned with
  | none => none
  | some (whole, rest) =>
      let (fraction, rest) := readFraction rest
      let (exponent, rest) := readExponent rest
      some (⟨negative, whole, fraction, exponent⟩, rest)

/-- The value of a number: whole, unless it has a fraction or an exponent. -/
def Numeral.value (n : Numeral) : Except Refusal Value :=
  match n.fraction, n.exponent with
  | none, none =>
      if mostDigits < n.whole.length then .error (.tooManyDigits n.whole.length)
      else
        let magnitude : Int := decimalValue n.whole
        .ok (.int (if n.negative then -magnitude else magnitude))
  | fraction, exponent =>
      let places := fraction.getD []
      let power : Int := match exponent with
        | none => 0
        | some (true, digits) => -decimalValue digits
        | some (false, digits) => decimalValue digits
      .ok (.real (.ofDecimal n.negative (decimalValue (n.whole ++ places))
        (power - places.length)))

/-- The words that stand for values. -/
def words : List (List Char × Value) :=
  [("null".toList, .null), ("true".toList, .bool true), ("false".toList, .bool false),
    ("NaN".toList, .real .undefined), ("Infinity".toList, .real (.infinite false)),
    ("-Infinity".toList, .real (.infinite true))]

/-- The word in front of a text, with its value and what follows. -/
def readWord? (cs : List Char) : Option (Value × List Char) :=
  words.findSome? fun word => (Text.dropOpening? word.1 cs).map (word.2, ·)

/-- A value that is neither a string nor a collection. -/
def readAtom (cs : List Char) : Except Refusal (Read Value cs) :=
  match readWord? cs with
  | some (value, rest) =>
      if shorter : rest.length < cs.length then .ok ⟨value, rest, shorter⟩
      else .error (.malformed .value cs.length)
  | none =>
      match readNumeral? cs with
      | none => .error (.malformed .value cs.length)
      | some (numeral, rest) =>
          if shorter : rest.length < cs.length then do
            return ⟨← numeral.value, rest, shorter⟩
          else .error (.malformed .value cs.length)

/-- A property name in double quotes. -/
def readName (cs : List Char) : Except Refusal (Read (List Char) cs) :=
  match cs with
  | '"' :: rest => do
      let name ← readString (rest.length + 1) rest
      return ⟨name.value, name.rest, by have := name.shorter; simp; omega⟩
  | _ => .error (.malformed .propertyName cs.length)

/-- The colon after a property name, with the space around it. -/
def readColon (cs : List Char) : Except Refusal (Read Unit cs) :=
  match spaced : skipSpace cs with
  | ':' :: rest => .ok ⟨(), skipSpace rest, by
      have := length_skipSpace_le cs
      have := length_skipSpace_le rest
      rw [spaced] at *; simp at *; omega⟩
  | rest => .error (.malformed .colon rest.length)

/-- Whether a collection goes on after a comma or ends, with the space around the mark. -/
def readMark (closing : Char) (cs : List Char) : Except Refusal (Read Bool cs) :=
  match spaced : skipSpace cs with
  | c :: rest =>
      if c = closing then .ok ⟨false, rest, by
        have := length_skipSpace_le cs; rw [spaced] at this; simp at this; omega⟩
      else if c = ',' then .ok ⟨true, skipSpace rest, by
        have := length_skipSpace_le cs
        have := length_skipSpace_le rest
        rw [spaced] at *; simp at *; omega⟩
      else .error (.malformed .comma (rest.length + 1))
  | [] => .error (.malformed .comma 0)

mutual

/-- A value in front of a text. -/
def readValue (cs : List Char) : Except Refusal (Read Value cs) :=
  match cs with
  | [] => .error (.malformed .value 0)
  | c :: rest =>
      have := length_skipSpace_le rest
      if c = '"' then do
        let string ← readString (rest.length + 1) rest
        return ⟨.text (String.ofList string.value), string.rest, by
          have := string.shorter; simp; omega⟩
      else if c = '[' then
        match spaced : skipSpace rest with
        | ']' :: after => .ok ⟨.list [], after, by rw [spaced] at this; simp at *; omega⟩
        | _ => do
            let items ← readItems (skipSpace rest)
            return ⟨.list items.value, items.rest, by have := items.shorter; simp; omega⟩
      else if c = '\x7b' then
        match spaced : skipSpace rest with
        | '\x7d' :: after => .ok ⟨.dict [], after, by rw [spaced] at this; simp at *; omega⟩
        | _ => do
            let members ← readMembers (skipSpace rest)
            return ⟨.dict (Entries.ofList members.value), members.rest, by
              have := members.shorter; simp; omega⟩
      else readAtom (c :: rest)
termination_by (cs.length, 0)
decreasing_by all_goals simp_all; omega

/-- The items of a list up to its closing bracket. -/
def readItems (cs : List Char) : Except Refusal (Read (List Value) cs) := do
  let item ← readValue cs
  let mark ← readMark ']' item.rest
  have : mark.rest.length < cs.length := by
    have := item.shorter; have := mark.shorter; omega
  if mark.value then
    let items ← readItems mark.rest
    return ⟨item.value :: items.value, items.rest, by have := items.shorter; omega⟩
  else return ⟨[item.value], mark.rest, this⟩
termination_by (cs.length, 1)

/-- The members of an object up to its closing brace. -/
def readMembers (cs : List Char) : Except Refusal (Read (List (Scalar × Value)) cs) := do
  let name ← readName cs
  let colon ← readColon name.rest
  have : colon.rest.length < cs.length := by
    have := name.shorter; have := colon.shorter; omega
  let value ← readValue colon.rest
  let mark ← readMark '\x7d' value.rest
  have : mark.rest.length < cs.length := by
    have := value.shorter; have := mark.shorter; omega
  let member := (Scalar.text (String.ofList name.value), value.value)
  if mark.value then
    let members ← readMembers mark.rest
    return ⟨member :: members.value, members.rest, by have := members.shorter; omega⟩
  else return ⟨[member], mark.rest, this⟩
termination_by (cs.length, 1)

end

/-- The value that a text holds, with space around it and nothing else. -/
def readAll (cs : List Char) : Except Refusal Value :=
  if cs.head? = some (Char.ofNat 0xFEFF) then .error (.malformed .byteOrderMark cs.length)
  else do
    let value ← readValue (skipSpace cs)
    match skipSpace value.rest with
    | [] => return value.value
    | rest => throw (.malformed .extraData rest.length)

/-- A place in a text, counted in characters from the start. -/
structure Place where
  offset : Nat
  line : Nat
  column : Nat
  deriving DecidableEq, Repr

/-- The place after a number of characters of a text. -/
def Place.of (cs : List Char) (offset : Nat) : Place :=
  let before := cs.take offset
  let onLine := before.reverse.takeWhile (· != '\n')
  ⟨offset, before.count '\n' + 1, onLine.length + 1⟩

/-- Why a text is no JSON document. -/
inductive Failure where
  | malformed (fault : Fault) (place : Place)
  | tooManyDigits (count : Nat)
  deriving DecidableEq, Repr

/-- A refusal with its place in the text. -/
def Refusal.locate (cs : List Char) : Refusal → Failure
  | .malformed fault left => .malformed fault (.of cs (cs.length - left))
  | .tooManyDigits count => .tooManyDigits count

/-- The value that a string holds, or why it holds none. -/
def read (s : String) : Except Failure Value :=
  (readAll s.toList).mapError (·.locate s.toList)

end SchemaAtlas.Json
