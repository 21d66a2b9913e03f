/-! # Pieces of a page

A page is made of pieces: markup that the page's layout writes literally, text that comes from the
document, and links. Only text and the targets of links are escaped, so text can neither open a tag
nor leave an attribute.
-/

namespace SchemaAtlas.Site

/-- A piece of a page. -/
inductive Piece where
  | markup (s : String)
  | text (s : String)
  | link (target : String)

/-- The escape of a character that markup gives a meaning to. -/
def escapeChar (c : Char) : List Char :=
  if c = '&' then "&amp;".toList
  else if c = '<' then "&lt;".toList
  else if c = '>' then "&gt;".toList
  else if c = '"' then "&#34;".toList
  else if c.toNat = 39 then "&#39;".toList
  else [c]

/-- A text with every character escaped that markup gives a meaning to. -/
def escape (s : String) : String := String.ofList (s.toList.flatMap escapeChar)

/-- A piece as it is written. -/
def Piece.render : Piece → String
  | .markup s => s
  | .text s => escape s
  | .link target => "<a href=\"" ++ escape target ++ "\">"

/-- Pieces one after the other. -/
def render (pieces : List Piece) : String := String.join (pieces.map Piece.render)

/-- A line of literal markup. -/
def line (s : String) : List Piece := [.markup (s ++ "\n")]

/-- Pieces between literal markup, as a line. -/
def between (opening : String) (content : List Piece) (closing : String) : List Piece :=
  .markup opening :: content ++ [.markup (closing ++ "\n")]

/-- A table cell that holds a text. -/
def cell (s : String) : List Piece := between "        <td>" [.text s] "</td>"

/-- A table cell that holds a number. -/
def countCell (n : Nat) : List Piece := cell (toString n)

/-- A text for a cell, with a dash for nothing. -/
def orDash (text : Option String) : String :=
  match text with
  | none => "-"
  | some s => if s = "" then "-" else s

end SchemaAtlas.Site
