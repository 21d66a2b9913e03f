import SchemaAtlas.Document.Writable
import SchemaAtlas.Matrix.Record
import SchemaAtlas.Schema.Graph

/-! # The mapping matrix

Every mapping is one record of twelve fields: the coordinates of its target, the type of the target
column when it is declared, and the parts of its origin.
-/

namespace SchemaAtlas.Matrix

open Schema Document

/-- The names of the fields. -/
def header : List String :=
  ["target_db", "target_schema", "target_table", "target_column", "target_type", "source_id",
    "source_path", "transform", "default", "mapping_rule", "fields", "notes"]

/-- The type of the column that a target names, empty when it names no declared column. -/
def targetType (graph : Graph) (target : Target) : String :=
  match target with
  | .unresolved _ => ""
  | .path path =>
      if path.isWildcard then ""
      else
        match (graph.table? path.key).bind (·.column? path.column) with
        | some column => column.type
        | none => ""

/-- Where a mapping writes to; a target that is no path stands in the column field. -/
def coordinates : Target → List String
  | .path path => [path.key.db, path.key.schema, path.key.table, path.column]
  | .unresolved raw => ["", "", "", if raw == .null then "" else raw.display]

/-- The fields of an origin in one text. -/
def fieldList (fields : List (String × String)) : String :=
  Text.joined ";" (fields.map fun (column, path) => column ++ "=" ++ path)

/-- The record of a mapping. -/
def row (graph : Graph) (mapping : Mapping) : List String :=
  let origin := mapping.origin
  coordinates mapping.target ++
    [targetType graph mapping.target, origin.sourceId.getD "", origin.path.getD "",
      origin.transform.getD "", origin.default.getD "", origin.rule.getD "",
      fieldList origin.fields, mapping.notes.getD ""]

/-- The value that the record of a mapping shows: a target that is no path. -/
def rowShown (mapping : Mapping) : List Value :=
  match mapping.target with
  | .path _ => []
  | .unresolved raw => [raw]

/-- The record of a mapping, unless its target is too long. -/
def row? (graph : Graph) (mapping : Mapping) : Except TooLong (List String) :=
  showing (rowShown mapping) (row graph mapping)

/-- The mapping matrix of a schema graph. -/
def ofGraph? (graph : Graph) : Except TooLong String := do
  return write (header :: (← graph.mappings.mapM (row? graph)))

end SchemaAtlas.Matrix
