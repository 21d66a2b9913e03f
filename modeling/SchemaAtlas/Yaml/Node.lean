import SchemaAtlas.Yaml.Tag

/-! # Nodes

The tree that a YAML text describes, before its scalars are given values. A node that is named by an
alias stands wherever the alias does; an alias of a collection that it lies in is kept as such.
-/

namespace SchemaAtlas.Yaml

/-- A node of a YAML text. -/
inductive Node where
  | scalar (tag : Tag) (text : String)
  | sequence (tag : Tag) (items : List Node)
  | mapping (tag : Tag) (entries : List (Node × Node))
  | enclosing

/-- The node of a place where nothing is written. -/
def Node.absent : Node := .scalar .null ""

end SchemaAtlas.Yaml
