import SchemaAtlas.Document.Value
import SchemaAtlas.Keyed

/-! # Lineage nodes

Nodes are registered under their id. The first registration of an id decides what the node says;
later ones of the same kind change nothing, and one of another kind is refused. Whoever asks for a
node is answered with the one that is held, and a refusal leaves the nodes as they were.
-/

namespace SchemaAtlas.Lineage

open Document (Entries)

/-- What a lineage node is. -/
inductive NodeKind where
  | source
  | table
  | column
  | sourceColumn
  | rule
  deriving DecidableEq, Repr

namespace NodeKind

/-- Every kind of node. -/
def all : List NodeKind := [.source, .table, .column, .sourceColumn, .rule]

/-- The written name of a kind. -/
def name : NodeKind → String
  | source => "source"
  | table => "table"
  | column => "column"
  | sourceColumn => "source_column"
  | rule => "rule"

/-- The kind of a given name. -/
def named? (name : String) : Option NodeKind := all.find? fun kind => kind.name == name

end NodeKind

/-- A lineage node. -/
structure Node where
  id : String
  kind : NodeKind
  label : String
  info : Entries

/-- What a node is asked for with; what it says beside its label may be left out. -/
structure Registration where
  id : String
  kind : NodeKind
  label : String
  info : Option Entries

/-- The node that a registration describes, which says nothing more when nothing is given. -/
def Registration.node (registration : Registration) : Node :=
  ⟨registration.id, registration.kind, registration.label, registration.info.getD []⟩

/-- The registration that describes a node. -/
def Node.registration (node : Node) : Registration :=
  ⟨node.id, node.kind, node.label, some node.info⟩

/-- A node registered again with another kind. -/
structure Clash where
  id : String
  held : NodeKind
  wanted : NodeKind
  deriving DecidableEq, Repr

/-- What is wrong with a registration. -/
def Clash.message (clash : Clash) : String :=
  "Lineage node '" ++ clash.id ++ "' already exists as " ++ clash.held.name ++
    ", cannot redefine it as " ++ clash.wanted.name

/-- Nodes in the order of their first registration. -/
abbrev Nodes := List Node

namespace Nodes

/-- The node of a given id. -/
def find? (nodes : Nodes) (id : String) : Option Node := Keyed.find? Node.id id nodes

/-- Ask for a node: the one held under the id, which must be of the wanted kind, else a new one. -/
def ensure (registration : Registration) : ExceptT Clash (StateM Nodes) Node := do
  match (← get).find? registration.id with
  | some held =>
      if held.kind = registration.kind then return held
      else throw ⟨registration.id, held.kind, registration.kind⟩
  | none =>
      modify (· ++ [registration.node])
      return registration.node

/-- Ask for nodes one after the other; a refusal answers no more than its own registration. -/
def ensureAll (registrations : List Registration) : StateM Nodes (List (Except Clash Node)) :=
  registrations.mapM fun registration => (ensure registration).run

/-- Register a node: ask for it, and keep what is held from then on. -/
def register (nodes : Nodes) (node : Node) : Except Clash Nodes :=
  match (ensure node.registration).run.run nodes with
  | (.ok _, after) => .ok after
  | (.error clash, _) => .error clash

/-- Register nodes one after the other. -/
def registerAll (nodes : Nodes) (more : List Node) : Except Clash Nodes :=
  more.foldlM register nodes

/-- The nodes of one kind. -/
def ofKind (nodes : Nodes) (kind : NodeKind) : List Node := nodes.filter fun node => node.kind == kind

end Nodes

end SchemaAtlas.Lineage
