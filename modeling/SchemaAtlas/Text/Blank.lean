/-! # Blank characters and trimming

A character is blank when Unicode gives it a white-space, paragraph or segment separator class.
Trimming removes blanks at both ends and nothing else; names, rules and types are compared and
shown in trimmed form throughout the library.
-/

namespace SchemaAtlas.Text

/-- Unicode white space together with the information separators U+001C to U+001F. -/
def isBlank (c : Char) : Bool :=
  let n := c.toNat
  (9 ≤ n && n ≤ 13) || (28 ≤ n && n ≤ 32) || n == 0x85 || n == 0xA0 || n == 0x1680 ||
    (0x2000 ≤ n && n ≤ 0x200A) || n == 0x2028 || n == 0x2029 || n == 0x202F || n == 0x205F ||
    n == 0x3000

/-- Drop leading blanks. -/
def trimStart (cs : List Char) : List Char := cs.dropWhile isBlank

/-- Drop trailing blanks. -/
def trimEnd (cs : List Char) : List Char := (cs.reverse.dropWhile isBlank).reverse

/-- Drop blanks at both ends. -/
def trim (cs : List Char) : List Char := trimEnd (trimStart cs)

/-- A text is blank when it holds nothing but blanks. -/
def allBlank (cs : List Char) : Bool := cs.all isBlank

/-- The trimmed form of a string. -/
def trimmed (s : String) : String := String.ofList (trim s.toList)

/-- Whether a string is empty or holds nothing but blanks. -/
def isBlankText (s : String) : Bool := allBlank s.toList

end SchemaAtlas.Text
