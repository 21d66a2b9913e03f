import SchemaAtlas.Diagram.Token
import SchemaAtlas.Document.Writable
import SchemaAtlas.FileName
import SchemaAtlas.Schema.Reference

/-! # Entity-relationship diagrams

Each database and schema gets one diagram with its tables and their relationships: first those that
foreign keys declare, then those that column names suggest. An overview of all tables can come
first.
-/

namespace SchemaAtlas.Diagram

open Schema Document

/-- The line of a column, with its marks in quotes if it has any. -/
def columnLine (column : Column) : String :=
  let marks := column.flags
  "    " ++ nameOf column.name ++ " " ++ typeOf column.type ++
    if marks.isEmpty then "" else " \"" ++ Text.joined "," marks ++ "\""

/-- The lines of a table. -/
def tableLines (table : Table) : List String :=
  ["", "  " ++ nameOf table.key.table ++ " \x7b"] ++ table.columns.map columnLine ++ ["  \x7d"]

/-- The line of a relationship from a parent to a child. -/
def relationLine (parent child label : String) : String :=
  "  " ++ nameOf parent ++ " ||--o\x7b " ++ nameOf child ++ " : \"" ++ nameOf label ++ "\""

/-- The name of the table that a reference means, or its last part when it means none. -/
def referredName (graph : Graph) (context : TableKey) (reference : String) : String :=
  match graph.resolve? context reference with
  | some key => key.table
  | none => (Text.pieces '.' reference).getLastD ""

/-- The relationship that a foreign key declares. -/
def declaredRelation? (graph : Graph) (key : TableKey) (column : Column) : Option String :=
  column.fk.map fun fk =>
    relationLine (referredName graph key fk.table) key.table (fk.column?.getD "fk")

/-- The relationship that a column's name suggests, when no foreign key declares one. -/
def suggestedRelation? (graph : Graph) (key : TableKey) (column : Column) : Option String := do
  if column.fk.isSome then none
  let parent ← graph.inferParent? key (← column.base?)
  if parent = key then none
  else some (relationLine parent.table key.table column.name)

/-- The relationships of tables, the declared ones first. -/
def relations (graph : Graph) (tables : List Table) : List String :=
  (tables.flatMap fun table => table.columns.filterMap (declaredRelation? graph table.key)) ++
    tables.flatMap fun table => table.columns.filterMap (suggestedRelation? graph table.key)

/-- The lines of a diagram. -/
def lines (graph : Graph) (tables : List Table) : List String :=
  let related := relations graph tables
  "erDiagram" :: tables.flatMap tableLines ++
    if related.isEmpty then [] else ["", "  %% Relationships"] ++ related

/-- The diagram of tables. -/
def render (graph : Graph) (tables : List Table) : String :=
  String.join ((lines graph tables).map (· ++ "\n"))

/-- The file name of the overview. -/
def overviewName : String := "erd_all.mmd"

/-- The stem of the file of a database and schema. -/
def groupStem (group : (String × String) × List Table) : String :=
  "erd_" ++ nameOf group.1.1 ++ "_" ++ nameOf group.1.2

/-- The diagrams of a schema graph by file name. -/
def ofGraph (graph : Graph) (overview : Bool) : List (String × String) :=
  let first := if overview && !graph.tables.isEmpty then
    [(overviewName, render graph graph.tables)] else []
  let named := FileName.assign groupStem ".mmd" (first.map (·.1)) graph.groups
  first ++ named.map fun (name, group) => (name, render graph group.2)

/-- The diagrams of a schema graph, unless a column that a foreign key names is too long. -/
def ofGraph? (graph : Graph) (overview : Bool) : Except TooLong (List (String × String)) :=
  showing graph.referredColumns (ofGraph graph overview)

end SchemaAtlas.Diagram
