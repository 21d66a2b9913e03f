/-! # Cutting and joining text

Dotted names, argument lists and paths are cut at one separating character and joined again with
a separating text. Cutting at a character always yields at least one piece, and joining the pieces
with that character gives the text back.
-/

namespace SchemaAtlas.Text

/-- The pieces between the occurrences of a separating character. -/
def cut (separator : Char) : List Char → List (List Char)
  | [] => [[]]
  | c :: rest =>
      if c = separator then [] :: cut separator rest
      else
        match cut separator rest with
        | [] => [[c]]
        | piece :: pieces => (c :: piece) :: pieces

/-- Put a separating text between the pieces. -/
def glue (separator : List Char) : List (List Char) → List Char
  | [] => []
  | [piece] => piece
  | piece :: pieces => piece ++ separator ++ glue separator pieces

/-- The pieces of a string between the occurrences of a character. -/
def pieces (separator : Char) (s : String) : List String :=
  (cut separator s.toList).map String.ofList

/-- Strings with a separating string between them. -/
def joined (separator : String) : List String → String
  | [] => ""
  | [s] => s
  | s :: rest => s ++ separator ++ joined separator rest

/-- What follows a given opening, when the text starts with it. -/
def dropOpening? : List Char → List Char → Option (List Char)
  | [], cs => some cs
  | _ :: _, [] => none
  | o :: opening, c :: cs => if o = c then dropOpening? opening cs else none

/-- Whether a text starts with a given opening. -/
def startsWith (opening cs : List Char) : Bool := (dropOpening? opening cs).isSome

/-- Whether a text ends with a given closing. -/
def endsWith (closing cs : List Char) : Bool := startsWith closing.reverse cs.reverse

/-- Whether a fragment occurs somewhere in a text. -/
def contains (fragment : List Char) : List Char → Bool
  | [] => fragment.isEmpty
  | c :: cs => startsWith fragment (c :: cs) || contains fragment cs

/-- Whether a string occurs somewhere in another. -/
def mentions (s fragment : String) : Bool := contains fragment.toList s.toList

theorem cut_ne_nil (separator : Char) (cs : List Char) : cut separator cs ≠ [] := by
  induction cs with
  | nil => simp [cut]
  | cons c rest ih =>
    unfold cut
    split
    · simp
    · split <;> simp

theorem glue_cut (separator : Char) (cs : List Char) :
    glue [separator] (cut separator cs) = cs := by
  induction cs with
  | nil => rfl
  | cons c rest ih =>
    unfold cut
    split
    next same =>
      cases found : cut separator rest with
      | nil => exact absurd found (cut_ne_nil separator rest)
      | cons piece more => rw [found] at ih; simp [glue, ih, same]
    next =>
      cases found : cut separator rest with
      | nil => exact absurd found (cut_ne_nil separator rest)
      | cons piece more =>
        rw [found] at ih
        cases more with
        | nil => simp [glue] at ih ⊢; exact ih
        | cons next others => simp [glue] at ih ⊢; exact ih

end SchemaAtlas.Text
