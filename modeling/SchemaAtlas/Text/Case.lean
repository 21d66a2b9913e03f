/-! # Case-insensitive comparison

Types, source kinds, dialects and file extensions are compared with ASCII keywords after mapping
their case. A character outside ASCII matters to such a comparison only when its counterpart
reaches into ASCII, so the mappings below list exactly those characters and leave every other
character alone.
-/

namespace SchemaAtlas.Text

/-- The lower case of a character, as far as it touches ASCII. -/
def lowerChar (c : Char) : List Char :=
  match c.toNat with
  | 0x130 => ['i', Char.ofNat 0x307]
  | 0x212A => ['k']
  | _ => [c.toLower]

/-- The upper case of a character, as far as it touches ASCII. -/
def upperChar (c : Char) : List Char :=
  match c.toNat with
  | 0xDF => ['S', 'S']
  | 0x131 => ['I']
  | 0x149 => [Char.ofNat 0x2BC, 'N']
  | 0x17F => ['S']
  | 0x1F0 => ['J', Char.ofNat 0x30C]
  | 0x1E96 => ['H', Char.ofNat 0x331]
  | 0x1E97 => ['T', Char.ofNat 0x308]
  | 0x1E98 => ['W', Char.ofNat 0x30A]
  | 0x1E99 => ['Y', Char.ofNat 0x30A]
  | 0x1E9A => ['A', Char.ofNat 0x2BE]
  | 0xFB00 => ['F', 'F']
  | 0xFB01 => ['F', 'I']
  | 0xFB02 => ['F', 'L']
  | 0xFB03 => ['F', 'F', 'I']
  | 0xFB04 => ['F', 'F', 'L']
  | 0xFB05 => ['S', 'T']
  | 0xFB06 => ['S', 'T']
  | _ => [c.toUpper]

/-- A text in lower case, for comparison with ASCII keywords. -/
def lower (cs : List Char) : List Char := cs.flatMap lowerChar

/-- A text in upper case, for comparison with ASCII keywords. -/
def upper (cs : List Char) : List Char := cs.flatMap upperChar

/-- A string in lower case, for comparison with ASCII keywords. -/
def lowered (s : String) : String := String.ofList (lower s.toList)

/-- A string in upper case, for comparison with ASCII keywords. -/
def uppered (s : String) : String := String.ofList (upper s.toList)

/-- Whether two characters match when case is ignored in a pattern. -/
def sameLetter (pattern c : Char) : Bool :=
  pattern == c.toLower ||
    (pattern == 'i' && (c.toNat == 0x130 || c.toNat == 0x131)) ||
    (pattern == 's' && c.toNat == 0x17F) ||
    (pattern == 'k' && c.toNat == 0x212A)

/-- Whether a text spells a lower-case ASCII pattern when case is ignored. -/
def spells : List Char → List Char → Bool
  | [], [] => true
  | p :: pattern, c :: cs => sameLetter p c && spells pattern cs
  | _, _ => false

end SchemaAtlas.Text
