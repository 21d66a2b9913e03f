import SchemaAtlas.Text.Blank
import SchemaAtlas.Keyed

/-! # File names

A file name is made from a text by replacing every character that is unsafe in a name. Names that
would collide are numbered from two upward, so files in one directory never replace each other.
-/

namespace SchemaAtlas.FileName

/-- ASCII letters and digits, the underscore, the point and the hyphen. -/
def isSafe (c : Char) : Bool := c.isAlphanum || c == '_' || c == '.' || c == '-'

/-- Drop points at both ends. -/
def trimPoints (cs : List Char) : List Char :=
  ((cs.dropWhile (· == '.')).reverse.dropWhile (· == '.')).reverse

/-- The stem of a file name, never empty. -/
def stem (cs : List Char) : List Char :=
  match trimPoints ((Text.trim cs).map fun c => if isSafe c then c else '_') with
  | [] => ['_']
  | kept => kept

/-- The stem of a file name for a string. -/
def stemOf (s : String) : String := String.ofList (stem s.toList)

/-- The names with a number behind the stem, from two to one more than a count. -/
def numbered (stem ending : String) (count : Nat) : List String :=
  (List.range count).map fun k => stem ++ "_" ++ toString (k + 2) ++ ending

/-- The first name, plain or numbered, that is not in use; one of the candidates always is. -/
def fresh (stem ending : String) (used : List String) : String :=
  let plain := stem ++ ending
  if used.contains plain then
    ((numbered stem ending (used.length + 1)).find? fun name => !used.contains name).getD plain
  else plain

/-- Draw a fresh name, which is in use from then on. -/
def draw (stem ending : String) : StateM (List String) String := do
  let name := fresh stem ending (← get)
  modify (name :: ·)
  return name

/-- Draw a name for each of some stems with their endings. -/
def drawAll (requests : List (String × String)) : StateM (List String) (List String) :=
  requests.mapM fun (stem, ending) => draw stem ending

/-- Names for items in order, each fresh for the ones before it and the names already in use. -/
def assign {α : Type} (stem : α → String) (ending : String) :
    List String → List α → List (String × α)
  | _, [] => []
  | used, item :: items =>
      let name := fresh (stem item) ending used
      (name, item) :: assign stem ending (name :: used) items

end SchemaAtlas.FileName
