import SchemaAtlas.Text.Blank

/-! # Names and types in diagrams

Diagrams allow only ASCII letters, digits and underscores. Names keep their length; types become
lower-case words joined by single underscores.
-/

namespace SchemaAtlas.Diagram

/-- ASCII letters, digits and the underscore. -/
def isTokenChar (c : Char) : Bool := c.isAlphanum || c == '_'

/-- A text with every other character replaced by an underscore. -/
def tokenChars (cs : List Char) : List Char := cs.map fun c => if isTokenChar c then c else '_'

/-- A name as it appears in a diagram. -/
def sanitizeName (cs : List Char) : List Char := tokenChars (Text.trim cs)

/-- Runs of underscores as single ones. -/
def collapse : List Char → List Char
  | '_' :: '_' :: rest => collapse ('_' :: rest)
  | c :: rest => c :: collapse rest
  | [] => []

/-- Drop underscores at both ends. -/
def trimUnderscores (cs : List Char) : List Char :=
  ((cs.dropWhile (· == '_')).reverse.dropWhile (· == '_')).reverse

/-- A type as it appears in a diagram; one without letters and digits is unknown. -/
def sanitizeType (cs : List Char) : List Char :=
  match trimUnderscores (collapse (tokenChars (Text.trim cs))) with
  | [] => "unknown".toList
  | token => token.map Char.toLower

/-- A name as it appears in a diagram. -/
def nameOf (s : String) : String := String.ofList (sanitizeName s.toList)

/-- A type as it appears in a diagram. -/
def typeOf (s : String) : String := String.ofList (sanitizeType s.toList)

end SchemaAtlas.Diagram
