import SchemaAtlas.Dialect.Basic

/-! # PostgreSQL

Constraints stand behind each column, references included; types and defaults are taken over as
they are declared.
-/

namespace SchemaAtlas.Dialect.Postgres

open Schema

/-- The constraints of a column in their fixed order. -/
def constraints (table : Table) (column : Column) : List String :=
  (if column.pk then ["PRIMARY KEY"] else []) ++ (if column.unique then ["UNIQUE"] else []) ++
    (if column.notNull then ["NOT NULL"] else []) ++
    (column.default.elim [] fun text => ["DEFAULT " ++ text]) ++
    (column.fk.elim [] fun fk =>
      ["REFERENCES " ++ referenceWithColumn (reference table.key fk.table) fk])

/-- The definition of a column. -/
def columnDefinition (table : Table) (column : Column) : String :=
  Text.joined " " (["  " ++ column.name, if column.type = "" then "VARCHAR" else column.type] ++
    constraints table column)

/-- The statement that creates a table. -/
def createTable (table : Table) : String :=
  "CREATE TABLE IF NOT EXISTS " ++ table.key.qualified ++
    body (table.columns.map (columnDefinition table)) ++ ";"

/-- The script of a schema graph. -/
def ofGraph (graph : Graph) : String :=
  script (opening .postgres graph.project) ((byRank graph.tables).map createTable)

end SchemaAtlas.Dialect.Postgres
