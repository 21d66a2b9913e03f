import SchemaAtlas.Yaml.Layout
import SchemaAtlas.Yaml.Node.Reading
import SchemaAtlas.Yaml.Node.Value

/-! # Reading YAML

A text is read into the value of its only document; a text without a document stands for null. Two
things that a document can say have no value: a collection that holds itself, and half of a pair of
16-bit units, which stays a half beside the other one too. The value has null in place of the one and
a character in place of the other, and is no more than an outline of the document.
-/

namespace SchemaAtlas.Yaml

/-- The value of a text, and whether it is all that the text says. -/
def read (s : String) : Except Fault (Document.Value × Bool) := do
  let written := tokens s.toList
  match ← Node.ofTokens? written with
  | none => return (.null, true)
  | some node =>
      let value ← node.value.mapError Deep.fault
      return (value, !node.isCyclic && written.all Token.isWhole)

end SchemaAtlas.Yaml
