import SchemaAtlas.Document.Writable
import SchemaAtlas.Schema.Graph

/-! # The documentation summary

A project in numbers and names: its owners, its tables by database and schema, and its sources with
where they are.
-/

namespace SchemaAtlas.Site

open Schema Document

/-- The sizes of a project. -/
structure Totals where
  targets : Nat
  tables : Nat
  sources : Nat
  mappings : Nat
  deriving DecidableEq, Repr

/-- The sizes of a schema graph; its targets are its groups of tables. -/
def Totals.of (graph : Graph) : Totals where
  targets := graph.groups.length
  tables := graph.tables.length
  sources := graph.sources.length
  mappings := graph.mappings.length

/-- A table in the summary. -/
def tableEntry (table : Table) : Value :=
  .dict (Entries.named [("name", .text table.key.table), ("description", .ofText? table.description),
    ("column_count", .int table.columns.length)])

/-- A group of tables in the summary. -/
def groupEntry (group : (String × String) × List Table) : Value :=
  .dict (Entries.named [("db", .text group.1.1), ("schema", .text group.1.2),
    ("tables", .list (group.2.map tableEntry))])

/-- A source in the summary. -/
def sourceEntry (source : Source) : Value :=
  .dict (Entries.named [("id", .text source.id), ("kind", .text source.kind.name),
    ("engine", .ofText? source.engine), ("location", .ofText? (location? source.metadata))])

/-- The sizes in the summary. -/
def totalsEntry (totals : Totals) : Value :=
  .dict (Entries.named [("total_targets", .int totals.targets), ("total_tables", .int totals.tables),
    ("total_sources", .int totals.sources), ("total_mappings", .int totals.mappings)])

/-- The summary of a schema graph, stamped with the moment it was made. -/
def documentation (graph : Graph) (stamp : Moment) : Entries :=
  Entries.named [("project", .text graph.project), ("owners", .list (graph.owners.map .text)),
    ("generated_at", .text (stamp.isoSeconds "T")), ("targets", .list (graph.groups.map groupEntry)),
    ("sources", .list (graph.sources.map sourceEntry)), ("summary", totalsEntry (Totals.of graph))]

/-- The values that the summary shows: where the sources are. -/
def locations (graph : Graph) : List Value :=
  graph.sources.filterMap fun source => locationValue? source.metadata

/-- The summary of a schema graph, unless a location is too long. -/
def documentation? (graph : Graph) (stamp : Moment) : Except TooLong Entries :=
  showing (locations graph) (documentation graph stamp)

end SchemaAtlas.Site
