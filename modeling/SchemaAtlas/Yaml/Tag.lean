import SchemaAtlas.Yaml.Scalar.Moment
import SchemaAtlas.Yaml.Scalar.Number

/-! # Tags

The tag of a node says what kind of value it stands for. A plain scalar without a tag is given one
by its form.
-/

namespace SchemaAtlas.Yaml

/-- The kinds of values that tags name; a tag that names none of them is foreign. -/
inductive Tag where
  | null
  | bool
  | int
  | float
  | binary
  | timestamp
  | omap
  | pairs
  | set
  | str
  | seq
  | map
  | merge
  | value
  | foreign
  deriving DecidableEq, Repr

namespace Tag

/-- What the names of the tags of YAML start with. -/
def schema : String := "tag:yaml.org,2002:"

/-- The tags of YAML by the last part of their names. -/
def names : List (String × Tag) :=
  [("null", null), ("bool", bool), ("int", int), ("float", float), ("binary", binary),
    ("timestamp", timestamp), ("omap", omap), ("pairs", pairs), ("set", set), ("str", str),
    ("seq", seq), ("map", map), ("merge", merge), ("value", value)]

/-- The tag of a full name. -/
def ofName (name : String) : Tag :=
  ((Text.dropOpening? schema.toList name.toList).bind fun last =>
    names.lookup (String.ofList last)).getD foreign

/-- The words for truth values. -/
def truthWords : List (String × Bool) :=
  [("yes", true), ("no", false), ("true", true), ("false", false), ("on", true), ("off", false)]

/-- A word in lower case, with a capital, or in capitals. -/
def isCasing (word : String) (cs : List Char) : Bool :=
  let capital := match word.toList with
    | [] => []
    | c :: rest => c.toUpper :: rest
  cs == word.toList || cs == capital || cs == word.toList.map Char.toUpper

/-- The tag of a plain scalar in one line. -/
def ofForm (cs : List Char) : Tag :=
  if truthWords.any fun word => isCasing word.1 cs then bool
  else if Number.isReal cs then float
  else if Number.isWhole cs then int
  else if cs == "<<".toList then merge
  else if cs.isEmpty || cs == ['~'] || isCasing "null" cs then null
  else if (WrittenMoment.read? cs).any WrittenMoment.isEvident then timestamp
  else if cs == ['='] then value
  else if cs == ['!'] || cs == ['&'] || cs == ['*'] then foreign
  else str

/-- A text without the line feed at its end. -/
def withoutFinalFeed (cs : List Char) : List Char :=
  if cs.getLast? = some '\n' then cs.dropLast else cs

/-- The tag of a scalar that has none; a line feed at its end does not count. -/
def ofScalar (text : String) : Tag :=
  if text = "\n" then str else ofForm (withoutFinalFeed text.toList)

end Tag

end SchemaAtlas.Yaml
