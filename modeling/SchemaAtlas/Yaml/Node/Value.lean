import SchemaAtlas.Document.Value
import SchemaAtlas.Text.Base64
import SchemaAtlas.Yaml.Node

/-! # Values of nodes

Every node stands for a document value of the kind that its tag names. The entries of a mapping may
be merged into another one, whose own entries go over them. When several nodes have no value, the
fault nearest to the root is reported, and of those the first: collections are filled from the
outside in.
-/

namespace SchemaAtlas.Yaml

open Document

/-- A fault with its distance from the node that is given a value. -/
structure Deep where
  depth : Nat
  fault : Fault

/-- A value, or the nearest fault. -/
abbrev Outcome (α : Type) := Except Deep α

namespace Outcome

/-- A fault of the node itself. -/
def here {α : Type} : Except Fault α → Outcome α := Except.mapError (⟨0, ·⟩)

/-- A collection filled with its parts, which lie one step deeper. -/
def filled {α : Type} (make : α → Value) : Outcome α → Outcome Value
  | .ok parts => .ok (make parts)
  | .error d => .error { d with depth := d.depth + 1 }

/-- Two outcomes in order: of two faults the nearer one, or else the first. -/
def both {α β γ : Type} (join : α → β → γ) : Outcome α → Outcome β → Outcome γ
  | .ok a, .ok b => .ok (join a b)
  | .ok _, .error e => .error e
  | .error d, .ok _ => .error d
  | .error d, .error e => .error (if e.depth < d.depth then e else d)

/-- Outcomes in order. -/
def all {α : Type} : List (Outcome α) → Outcome (List α)
  | [] => .ok []
  | a :: rest => both List.cons a (all rest)

end Outcome

/-- The fault of a node whose kind does not fit its tag. -/
def wrongKind {α : Type} : Except Fault α := .error (.malformed .kind)

/-- The octets of a text in ASCII. -/
def octetsOf (text : String) : Except Fault (List UInt8) :=
  let cs := text.toList
  if cs.all fun c => c.toNat < 128 then
    (Text.Base64.read? cs).elim (.error (.malformed .encoding)) .ok
  else .error (.malformed .encoding)

/-- The scalar that a text stands for under a tag. -/
def scalarOf (tag : Tag) (text : String) : Except Fault Scalar :=
  match tag with
  | .null => .ok .null
  | .bool =>
      match Tag.truthWords.lookup (Text.lowered text) with
      | some b => .ok (.bool b)
      | none => .error .notTruthValue
  | .int => (Number.whole text.toList).map .int
  | .float => (Number.real text.toList).map .real
  | .binary => (octetsOf text).map .bytes
  | .timestamp =>
      match WrittenMoment.read? (Tag.withoutFinalFeed text.toList) with
      | some m => m.value
      | none => .error .notMoment
  | .str => .ok (.text text)
  | .omap | .pairs | .set | .seq | .map => wrongKind
  | .merge | .value | .foreign => .error (.malformed .unknownTag)

/-- Whether a tag names a kind of collection. -/
def Tag.isCollection : Tag → Bool
  | .omap | .pairs | .set | .seq | .map => true
  | _ => false

/-- The tag of a key: the mark for a value is an ordinary text there. -/
def Tag.ofKey : Tag → Tag
  | .value => .str
  | tag => tag

/-- Whether a key asks for its value to be merged. -/
def Node.isMerge : Node → Bool
  | .scalar tag _ | .sequence tag _ | .mapping tag _ => tag = .merge
  | .enclosing => false

/-- Whether a key marks the value that stands for its whole mapping. -/
def Node.isValueMark : Node → Bool
  | .scalar tag _ | .sequence tag _ | .mapping tag _ => tag = .value
  | .enclosing => false

mutual

/-- The text of a scalar; a mapping has the text of the value that stands for it. -/
def Node.text? : Node → Option String
  | .scalar _ text => some text
  | .mapping _ entries => markedText? entries
  | _ => none

/-- The text of the first marked value. -/
def markedText? : List (Node × Node) → Option String
  | [] => none
  | (key, value) :: rest => if key.isValueMark then value.text? else markedText? rest

end

/-- The scalar that a node stands for under a tag. -/
def Node.scalarAs (tag : Tag) (node : Node) : Except Fault Scalar :=
  match node.text?, node with
  | some text, .scalar _ _ => scalarOf tag text
  | some text, _ => if tag = .timestamp then .error .momentOfMapping else scalarOf tag text
  | none, _ => if tag = .foreign || tag = .merge || tag = .value then
      .error (.malformed .unknownTag) else wrongKind

/-- A key; only scalars can be keys. -/
def Node.key (node : Node) : Except Fault Scalar :=
  match node with
  | .scalar tag _ | .mapping tag _ =>
      if tag.isCollection then .error (.malformed .key) else node.scalarAs tag.ofKey
  | .sequence _ _ | .enclosing => .error (.malformed .key)

/-- A set of the keys of some entries. -/
def setOf (members : List (Scalar × Value)) : Value := .set ((Entries.ofList members).map (·.1))

/-- A dictionary of some entries. -/
def dictOf (members : List (Scalar × Value)) : Value := .dict (Entries.ofList members)

mutual

/-- The value of a node. -/
def Node.value (node : Node) : Outcome Value :=
  match node with
  | .scalar tag text =>
      if tag.isCollection then Outcome.filled id (Outcome.here wrongKind)
      else Outcome.here ((scalarOf tag text).map .scalar)
  | .sequence tag items =>
      match tag with
      | .seq => Outcome.filled .list (Outcome.all (valuesOf items))
      | .omap | .pairs => Outcome.filled .list (Outcome.all (pairsOf items))
      | .set | .map => Outcome.filled id (Outcome.here wrongKind)
      | tag => Outcome.here ((Node.scalarAs tag (.sequence tag items)).map .scalar)
  | .mapping tag entries =>
      match tag with
      | .map => Outcome.filled dictOf (membersOf entries)
      | .set => Outcome.filled setOf (membersOf entries)
      | .omap | .pairs | .seq => Outcome.filled id (Outcome.here wrongKind)
      | tag => Outcome.here ((Node.scalarAs tag (.mapping tag entries)).map .scalar)
  | .enclosing => .ok .null

/-- The values of nodes. -/
def valuesOf : List Node → List (Outcome Value)
  | [] => []
  | node :: rest => node.value :: valuesOf rest

/-- The pairs of an ordered mapping, each of which is a mapping of one entry. -/
def pairsOf : List Node → List (Outcome Value)
  | [] => []
  | .mapping _ [(key, value)] :: rest =>
      Outcome.both (fun a b => .tuple [a, b]) key.value value.value :: pairsOf rest
  | _ :: rest => Outcome.here wrongKind :: pairsOf rest

/-- The entries of a mapping with their values, the merged ones in front. -/
def membersOf (entries : List (Node × Node)) : Outcome (List (Scalar × Value)) :=
  match flattened entries with
  | .error flaw => .error ⟨0, .malformed flaw⟩
  | .ok (merged, own) => Outcome.all (merged ++ own)

/-- The entries that are merged into a mapping and those of its own. -/
def flattened : List (Node × Node) →
    Except Flaw (List (Outcome (Scalar × Value)) × List (Outcome (Scalar × Value)))
  | [] => .ok ([], [])
  | (key, value) :: rest =>
      if key.isMerge then do
        let here ← mergedFrom value
        let (merged, own) ← flattened rest
        return (here ++ merged, own)
      else do
        let (merged, own) ← flattened rest
        return (merged, Outcome.both Prod.mk (Outcome.here key.key) value.value :: own)

/-- The entries that a node gives to a mapping: those of a mapping, or of the mappings of a
sequence from the last to the first. -/
def mergedFrom : Node → Except Flaw (List (Outcome (Scalar × Value)))
  | .mapping _ entries => do
      let (merged, own) ← flattened entries
      return merged ++ own
  | .sequence _ items => mergedFromItems items
  | .enclosing => .ok []
  | .scalar _ _ => .error .merge

/-- The entries that the mappings of a sequence give, from the last to the first. -/
def mergedFromItems : List Node → Except Flaw (List (Outcome (Scalar × Value)))
  | [] => .ok []
  | .mapping _ entries :: rest => do
      let (merged, own) ← flattened entries
      return (← mergedFromItems rest) ++ (merged ++ own)
  | .enclosing :: rest => mergedFromItems rest
  | _ :: _ => .error .merge

end

mutual

/-- Whether a node holds an alias of a collection that it lies in. -/
def Node.isCyclic : Node → Bool
  | .scalar _ _ => false
  | .sequence _ items => anyCyclic items
  | .mapping _ entries => anyEntryCyclic entries
  | .enclosing => true

/-- Whether one of some nodes is cyclic. -/
def anyCyclic : List Node → Bool
  | [] => false
  | node :: rest => node.isCyclic || anyCyclic rest

/-- Whether one of some entries is cyclic. -/
def anyEntryCyclic : List (Node × Node) → Bool
  | [] => false
  | (key, value) :: rest => key.isCyclic || value.isCyclic || anyEntryCyclic rest

end

end SchemaAtlas.Yaml
