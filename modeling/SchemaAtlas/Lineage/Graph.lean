import SchemaAtlas.Lineage.Node
import SchemaAtlas.Lineage.NodeId
import SchemaAtlas.Lineage.RuleLabel
import SchemaAtlas.Schema.Graph

/-! # Lineage

Lineage says which source column or rule each target column comes from. Everything declared is a
node, whether something maps to it or not. A mapping contributes one flow for each of its fields,
or one flow in all; a flow is an edge, and all flows from one root into one table make up one table
edge, which lists the columns they reach.
-/

namespace SchemaAtlas.Lineage

open Schema Document

/-- What stands for a source or a path that a mapping does not give. -/
def unknownName : String := "unknown"

/-- A connection between two nodes. -/
inductive EdgeKind where
  | columnLineage
  | tableLineage
  deriving DecidableEq, Repr

/-- The written name of a kind of edge. -/
def EdgeKind.name : EdgeKind → String
  | .columnLineage => "column_lineage"
  | .tableLineage => "table_lineage"

/-- A connection between two nodes, by their ids. -/
structure Edge where
  id : String
  source : String
  target : String
  kind : EdgeKind
  info : Entries

/-- Nodes, column edges, table edges, and the indexes of mappings without a target. -/
structure Graph where
  nodes : Nodes
  edges : List Edge
  tableEdges : List Edge
  unresolved : List Nat

/-- Where a flow comes from: a column of a source, or a rule. -/
inductive Provenance where
  | sourceColumn (source : String) (named : Option String) (path : String)
  | rule (text : String)
  deriving DecidableEq, Repr

namespace Provenance

/-- The node that a flow starts at. -/
def node : Provenance → NodeRef
  | sourceColumn source _ path => .sourceColumn source path
  | rule text => .rule text

/-- The node that a table edge starts at: the source of the column, or the rule. -/
def root : Provenance → NodeRef
  | sourceColumn source _ _ => .source source
  | rule text => .rule text

/-- The nodes that a flow needs at its start, with a stand-in for an undeclared source. -/
def nodes : Provenance → List Node
  | sourceColumn source named path =>
      [⟨(NodeRef.source source).id, .source, source,
          Entries.named [("id", .text source), ("declared", .bool false)]⟩,
        ⟨(NodeRef.sourceColumn source path).id, .sourceColumn, path,
          Entries.named [("source_id", .ofText? named), ("path", .text path)]⟩]
  | rule text =>
      [⟨(NodeRef.rule text).id, .rule, ruleLabel text, Entries.named [("rule", .text text)]⟩]

/-- The provenance of a mapping, or of one of its fields when a path is given. -/
def ofOrigin (origin : Origin) (path : Option String) : Provenance :=
  match given? origin.rule, given? origin.sourceId with
  | some text, none => rule text
  | _, source =>
      sourceColumn (source.getD unknownName) origin.sourceId
        (path.getD ((given? origin.path).getD unknownName))

end Provenance

/-- Content that goes from a provenance into a column of a table, or into the table as a whole. -/
structure Flow where
  provenance : Provenance
  key : TableKey
  column : Option String
  info : Entries

namespace Flow

/-- The node that a flow ends at. -/
def target (flow : Flow) : NodeRef :=
  match flow.column with
  | some name => .column flow.key name
  | none => .table flow.key

/-- The name under which a table edge lists a flow. -/
def columnName (flow : Flow) : String := flow.column.getD wildcard

/-- Stand-ins for the table and the column that a flow ends at, in case they are not declared. -/
def targetNodes (flow : Flow) : List Node :=
  let key := flow.key
  ⟨(NodeRef.table key).id, .table, key.dotted,
    Entries.named [("db", .text key.db), ("schema", .text key.schema), ("table", .text key.table),
      ("declared", .bool false)]⟩ ::
    match flow.column with
    | some name => [⟨(NodeRef.column key name).id, .column, name,
        Entries.named [("table", .text key.dotted), ("declared", .bool false)]⟩]
    | none => []

/-- The nodes that a flow needs. -/
def nodes (flow : Flow) : List Node := flow.provenance.nodes ++ flow.targetNodes

/-- The flow as an edge, numbered from one. -/
def edge (position : Nat) (flow : Flow) : Edge where
  id := "e" ++ toString (position + 1)
  source := flow.provenance.node.id
  target := flow.target.id
  kind := .columnLineage
  info := flow.info

/-- The root and the table that a flow connects, by their ids. -/
def span (flow : Flow) : String × String :=
  (flow.provenance.root.id, (NodeRef.table flow.key).id)

end Flow

/-- What every edge says about its mapping. -/
def edgeInfo (mapping : Mapping) (more : List (String × Value)) : Entries :=
  Entries.named ([("transform", .ofText? mapping.origin.transform),
    ("rule", .ofText? mapping.origin.rule), ("raw", mapping.rawTarget)] ++ more)

/-- The flows of a mapping: one for each field, else one in all, none without a target. -/
def flows (mapping : Mapping) : List Flow :=
  match mapping.target with
  | .unresolved _ => []
  | .path path =>
      if !mapping.origin.fields.isEmpty then
        mapping.origin.fields.map fun (column, source) =>
          { provenance := .ofOrigin mapping.origin (some source)
            key := path.key
            column := some column
            info := edgeInfo mapping [("field_path", .text source)] }
      else if path.isWildcard then
        [⟨.ofOrigin mapping.origin none, path.key, none,
          edgeInfo mapping [("wildcard", .bool true)]⟩]
      else
        [⟨.ofOrigin mapping.origin none, path.key, some path.column, edgeInfo mapping []⟩]

/-- The nodes that a mapping needs; without a target only its provenance. -/
def mappingNodes (mapping : Mapping) : List Node :=
  match mapping.target with
  | .unresolved _ => (Provenance.ofOrigin mapping.origin none).nodes
  | .path _ => (flows mapping).flatMap Flow.nodes

/-- A foreign key as a value. -/
def foreignKeyValue : Option ForeignKey → Value
  | none => .null
  | some fk => .dict (Entries.named [("table", .text fk.table), ("column", fk.column)])

/-- Everything declared about a column. -/
def columnRecord (column : Column) : Entries :=
  Entries.named [("name", .text column.name), ("type", .text column.type), ("pk", .bool column.pk),
    ("fk", foreignKeyValue column.fk), ("unique", .bool column.unique),
    ("not_null", .bool column.notNull), ("default", .ofText? column.default),
    ("description", .ofText? column.description)]

/-- The node of a declared source. -/
def sourceNode (source : Source) : Node :=
  ⟨(NodeRef.source source.id).id, .source, source.id, source.record⟩

/-- The nodes of a declared table and of its columns. -/
def tableNodes (table : Table) : List Node :=
  let key := table.key
  ⟨(NodeRef.table key).id, .table, key.dotted,
    Entries.named [("db", .text key.db), ("schema", .text key.schema), ("table", .text key.table),
      ("declared", .bool true)]⟩ ::
    table.columns.map fun column =>
      ⟨(NodeRef.column key column.name).id, .column, column.name,
        columnRecord column ++
          Entries.named [("table", .text key.dotted), ("declared", .bool true)]⟩

/-- The nodes of everything declared: sources, then tables with their columns. -/
def declaredNodes (graph : Schema.Graph) : List Node :=
  graph.sources.map sourceNode ++ graph.tables.flatMap tableNodes

/-- Names without repetition, in the order of their characters. -/
def sortedNames (names : List String) : List String :=
  (Keyed.distinct names).mergeSort fun a b => decide (a ≤ b)

/-- The table edge of a group of flows, numbered from one. -/
def tableEdge (position : Nat) (group : (String × String) × List Flow) : Edge where
  id := "te" ++ toString (position + 1)
  source := group.1.1
  target := group.1.2
  kind := .tableLineage
  info := Entries.named
    [("columns", .list ((sortedNames (group.2.map Flow.columnName)).map .text))]

/-- The indexes of the mappings without a target. -/
def unresolvedIndexes (mappings : List Mapping) : List Nat :=
  (mappings.filter fun mapping => mapping.target.path?.isNone).map (·.index)

/-- The lineage of a schema graph. -/
def Graph.of? (graph : Schema.Graph) : Except Clash Graph := do
  let allFlows := graph.mappings.flatMap flows
  let nodes ← Nodes.registerAll [] (declaredNodes graph ++ graph.mappings.flatMap mappingNodes)
  return {
    nodes := nodes
    edges := allFlows.mapIdx Flow.edge
    tableEdges := (Keyed.groups Flow.span allFlows).mapIdx tableEdge
    unresolved := unresolvedIndexes graph.mappings }

/-- The sizes of a lineage graph. -/
structure Summary where
  nodes : Nat
  edges : Nat
  tableEdges : Nat
  sources : Nat
  tables : Nat
  unresolved : Nat
  deriving DecidableEq, Repr

/-- The sizes of a lineage graph. -/
def Graph.summary (graph : Graph) : Summary where
  nodes := graph.nodes.length
  edges := graph.edges.length
  tableEdges := graph.tableEdges.length
  sources := (graph.nodes.ofKind .source).length
  tables := (graph.nodes.ofKind .table).length
  unresolved := graph.unresolved.length

/-- The columns that a table edge lists. -/
def Edge.columns (edge : Edge) : List String :=
  match Entries.get edge.info "columns" with
  | .list items => items.map Value.display
  | _ => []

end SchemaAtlas.Lineage
