import SchemaAtlas.Text.Split
import SchemaAtlas.Text.Case

/-! # File paths

Paths are read with slashes between their parts; empty parts and single points say nothing. A path
with exactly two leading slashes keeps both, any other absolute path keeps one.
-/

namespace SchemaAtlas.FilePath

/-- The slashes that an absolute path starts with. -/
def root (cs : List Char) : String :=
  match cs.takeWhile (· == '/') with
  | [] => ""
  | [_, _] => "//"
  | _ => "/"

/-- The parts of a path that say something. -/
def parts (s : String) : List String :=
  (Text.pieces '/' s).filter fun part => part != "" && part != "."

/-- A path in its shortest form; one that says nothing is a point. -/
def normalized (s : String) : String :=
  let written := root s.toList ++ Text.joined "/" (parts s)
  if written = "" then "." else written

/-- The ending of a file name from its last point on; a point at either end starts no ending. -/
def ending (name : List Char) : List Char :=
  let behind := name.reverse.takeWhile (· != '.')
  if name.contains '.' && !behind.isEmpty && behind.length + 1 < name.length then
    '.' :: behind.reverse
  else []

/-- The ending of the last part of a path, in lower case. -/
def endingOf (s : String) : String :=
  String.ofList (Text.lower (ending ((parts s).getLastD "").toList))

end SchemaAtlas.FilePath
