import SchemaAtlas.Lineage.Graph
import SchemaAtlas.Report.Basic

/-! # Lineage as document values

The written form of a lineage graph and of its sizes, as it stands in artifacts.
-/

namespace SchemaAtlas.Lineage

open Document

/-- A node as a value. -/
def Node.record (node : Node) : Value :=
  .dict (Entries.named [("id", .text node.id), ("type", .text node.kind.name),
    ("label", .text node.label), ("meta", .dict node.info)])

/-- An edge as a value. -/
def Edge.record (edge : Edge) : Value :=
  .dict (Entries.named [("id", .text edge.id), ("source", .text edge.source),
    ("target", .text edge.target), ("type", .text edge.kind.name), ("meta", .dict edge.info)])

/-- A lineage graph as a value. -/
def Graph.record (graph : Graph) : Entries :=
  Entries.named [("nodes", .list (graph.nodes.map Node.record)),
    ("edges", .list (graph.edges.map Edge.record)),
    ("table_edges", .list (graph.tableEdges.map Edge.record))]

/-- The sizes of a lineage graph as a value. -/
def Summary.record (summary : Summary) : Entries :=
  Entries.named [("nodes", .int summary.nodes), ("edges", .int summary.edges),
    ("table_edges", .int summary.tableEdges), ("sources", .int summary.sources),
    ("tables", .int summary.tables), ("unresolved_mappings", .int summary.unresolved)]

end SchemaAtlas.Lineage
