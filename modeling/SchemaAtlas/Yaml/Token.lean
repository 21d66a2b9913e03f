import SchemaAtlas.Yaml.Fault

/-! # Tokens

What a YAML text is made of once its characters are read: marks, names, scalars, and the starts and
ends of collections that indentation implies. Where the characters make no token, the fault stands
in its place.
-/

namespace SchemaAtlas.Yaml

/-- A line in front of a document that says how to read it. -/
inductive Directive where
  | version (major : Nat)
  | tag (handle uri : String)
  | other
  deriving DecidableEq, Repr

/-- A tag as written: a handle that stands for the start of a name, if any, and the rest. -/
structure TagName where
  handle : Option String
  suffix : String
  deriving DecidableEq, Repr

/-- A token of a YAML text. -/
inductive Token where
  | directive (directive : Directive)
  | documentStart
  | documentEnd
  | blockSequenceStart
  | blockMappingStart
  | blockEnd
  | flowSequenceStart
  | flowSequenceEnd
  | flowMappingStart
  | flowMappingEnd
  | flowEntry
  | blockEntry
  | key
  | value
  | alias (name : String)
  | anchor (name : String)
  | tag (name : TagName)
  | scalar (text : String) (plain whole : Bool)
  | broken (fault : Fault)
  deriving DecidableEq, Repr

/-- Whether a token says all that is written: half of a pair in a scalar is no character, and its
text has a mark in its place. -/
def Token.isWhole : Token → Bool
  | .scalar _ _ whole => whole
  | _ => true

/-- The fault of tokens that start with none that fits. -/
def misfit : List Token → Fault
  | .broken fault :: _ => fault
  | _ => .malformed .arrangement

end SchemaAtlas.Yaml
