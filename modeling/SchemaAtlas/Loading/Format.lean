import SchemaAtlas.FilePath
import SchemaAtlas.Json.Reader
import SchemaAtlas.Text.Blank
import SchemaAtlas.Yaml.Reader

/-! # Formats of documents

A document is written in JSON or in YAML. Its format is told by its file name, or by its text: what
opens like a JSON collection is JSON, what opens or goes on like a YAML list is YAML, and anything
else is JSON exactly if it can be read as such.
-/

namespace SchemaAtlas.Loading

open Document

/-- The formats of documents. -/
inductive Format where
  | json
  | yaml
  deriving DecidableEq, Repr

/-- A name that no format has. -/
structure UnknownFormat where
  name : String

/-- The wording for an unknown format. -/
def UnknownFormat.message (unknown : UnknownFormat) : String :=
  "Unsupported parser type: " ++ unknown.name

/-- A rule of a format that a text breaks. -/
inductive Breach where
  | json (fault : Json.Fault) (place : Json.Place)
  | yaml (flaw : Yaml.Flaw)

/-- Why a text yields no value: it breaks the rules of its format, or it keeps them but holds a scalar
without a value. -/
inductive TextFault where
  | breach (breach : Breach)
  | value (fault : Yaml.Fault)

/-- What a text says: a value, or no more than an outline of it where the text holds itself or half of
a pair of units. -/
structure Reading where
  outline : Value
  exact : Bool

/-- What is wrong with the text of a document. The wording of a flaw in YAML is left open: an ellipsis
stands for it. -/
def Breach.message : Breach → String
  | .json fault place => "Invalid JSON syntax at line " ++ toString place.line ++ ", column " ++
      toString place.column ++ ": " ++ fault.message
  | .yaml _ => "Invalid YAML syntax: ..."

/-- What is wrong with the text of a file, where the wording of a flaw in YAML is left open as well. -/
def Breach.inFile : Breach → String
  | .json fault place => fault.message ++ ": line " ++ toString place.line ++ " column " ++
      toString place.column ++ " (char " ++ toString place.offset ++ ")"
  | .yaml _ => "..."

/-- A failure to read JSON as a fault of a text. -/
def TextFault.ofJson : Json.Failure → TextFault
  | .malformed fault place => .breach (.json fault place)
  | .tooManyDigits count => .value (.tooManyDigits count)

/-- A failure to read YAML as a fault of a text. -/
def TextFault.ofYaml : Yaml.Fault → TextFault
  | .malformed flaw => .breach (.yaml flaw)
  | fault => .value fault

namespace Format

/-- The name of a format. -/
def name : Format → String
  | json => "json"
  | yaml => "yaml"

/-- The format of a name. -/
def named? (name : String) : Except UnknownFormat Format :=
  if name = "json" then .ok json
  else if name = "yaml" then .ok yaml
  else .error ⟨name⟩

/-- The format of a file, by the ending of its name. -/
def ofPath (path : String) : Format := if FilePath.endingOf path = ".json" then json else yaml

/-- How far into a text a list is looked for. -/
def headLength : Nat := 100

/-- Whether a text opens like a JSON collection. -/
def opensJson (cs : List Char) : Bool := cs.head? = some '\x7b' || cs.head? = some '['

/-- Whether a text opens like a YAML document or goes on like a YAML list. -/
def opensYaml (cs : List Char) : Bool :=
  Text.startsWith "---".toList cs || Text.startsWith "- ".toList cs ||
    Text.contains ['\n', '-'] (cs.take headLength)

/-- The format of a text; it cannot be told when a number in it has too many digits. -/
def detect (text : String) : Except TextFault Format :=
  let cs := Text.trim text.toList
  if opensJson cs then .ok json
  else if opensYaml cs then .ok yaml
  else
    match Json.readAll cs with
    | .ok _ => .ok json
    | .error (.malformed _ _) => .ok yaml
    | .error (.tooManyDigits count) => .error (.value (.tooManyDigits count))

/-- What a text says in a format. -/
def read (format : Format) (text : String) : Except TextFault Reading :=
  match format with
  | json =>
      ((Json.read text).map fun value => ⟨value, !Json.spellsHalf text.toList⟩).mapError .ofJson
  | yaml => ((Yaml.read text).map fun (value, whole) => ⟨value, whole⟩).mapError .ofYaml

/-- The format that a name asks for; without a name the text tells it. -/
def choose (text : String) (name : Option String) : Except TextFault (Except UnknownFormat Format) :=
  match name with
  | none | some "" => (detect text).map .ok
  | some name => .ok (named? name)

/-- Whether a text keeps the rules of a format. -/
def admits (format : Format) (text : String) : Except TextFault Bool :=
  match format.read text with
  | .ok _ => .ok true
  | .error (.breach _) => .ok false
  | .error fault => .error fault

end Format

/-- Whether a text keeps the rules of the format that is asked for; a blank one keeps none. -/
def isWellFormed (text : String) (name : Option String) : Except TextFault Bool := do
  if Text.isBlankText text then return false
  match ← Format.choose text name with
  | .ok format => format.admits text
  | .error _ => return false

end SchemaAtlas.Loading
