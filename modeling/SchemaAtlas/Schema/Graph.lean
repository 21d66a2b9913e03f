import SchemaAtlas.Schema.Source
import SchemaAtlas.Schema.Mapping

/-! # The schema graph

A schema graph is what a document declares: sources by id, tables by key, and mappings in document
order. No two sources share an id and no two tables a key. Tables that were declared again are
listed once for every further declaration.
-/

namespace SchemaAtlas.Schema

open Document (Value)

/-- Everything that a document declares. -/
structure Graph where
  project : String
  owners : List String
  sources : List Source
  tables : List Table
  mappings : List Mapping
  redeclared : List TableKey
  ids_nodup : (sources.map Source.id).Nodup := by simp
  keys_nodup : (tables.map Table.key).Nodup := by simp

namespace Graph

/-- The table of a given key. -/
def table? (graph : Graph) (key : TableKey) : Option Table := Keyed.find? Table.key key graph.tables

/-- The source of a given id. -/
def source? (graph : Graph) (id : String) : Option Source := Keyed.find? Source.id id graph.sources

/-- The table that a target points at, when it is declared. -/
def targetTable? (graph : Graph) (target : Target) : Option Table :=
  target.path?.bind fun path => graph.table? path.key

/-- Every column with its table, in declaration order. -/
def columns (graph : Graph) : List (Table × Column) :=
  graph.tables.flatMap fun table => table.columns.map (table, ·)

/-- The columns that the foreign keys of a schema graph refer to, null where none is named. -/
def referredColumns (graph : Graph) : List Value :=
  graph.columns.filterMap fun (_, column) => column.fk.map (·.column)

/-- The tables of each database and schema, in order of first appearance. -/
def groups (graph : Graph) : List ((String × String) × List Table) :=
  Keyed.groups (fun table : Table => (table.key.db, table.key.schema)) graph.tables

end Graph

/-- An index that stores something under another key than its own. -/
inductive Corruption where
  | table (key held : TableKey)
  | source (key held : String)
  deriving DecidableEq, Repr

/-- What is wrong with an index. -/
def Corruption.message : Corruption → String
  | .table key held =>
      "Table index corrupted: key '" ++ key.dotted ++ "' holds table '" ++ held.dotted ++ "'"
  | .source key held =>
      "Source index corrupted: key '" ++ key ++ "' holds source '" ++ held ++ "'"

/-- The tables and sources of two indexes, or the first entry under a wrong key. -/
def ofIndexes? (tables : List (TableKey × Table)) (sources : List (String × Source)) :
    Except Corruption (List Table × List Source) :=
  match tables.find? fun entry => entry.1 != entry.2.key with
  | some (key, table) => .error (.table key table.key)
  | none =>
      match sources.find? fun entry => entry.1 != entry.2.id with
      | some (key, source) => .error (.source key source.id)
      | none => .ok (tables.map (·.2), sources.map (·.2))

end SchemaAtlas.Schema
