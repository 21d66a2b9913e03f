import SchemaAtlas.Dialect.Basic

/-! # MySQL

There is no schema below the database, so tables are qualified by their database alone and every
database is created first. Keys and references are clauses of their own, and a reference always
names a column.
-/

namespace SchemaAtlas.Dialect.MySQL

open Schema

/-- The types that go by another name, in upper case. -/
def typeNames : List (String × String) :=
  [("VARCHAR", "VARCHAR(255)"), ("CHARACTER VARYING", "VARCHAR(255)"),
    ("SERIAL", "INT AUTO_INCREMENT"), ("BIGSERIAL", "BIGINT AUTO_INCREMENT"),
    ("UUID", "CHAR(36)"), ("JSONB", "JSON"), ("BOOL", "BOOLEAN"), ("TIMESTAMPTZ", "TIMESTAMP"),
    ("TIMESTAMP WITH TIME ZONE", "TIMESTAMP"), ("BYTEA", "BLOB")]

/-- A type as it is written. -/
def typeName (type : String) : String :=
  let trimmed := Text.trimmed type
  if trimmed = "" then "VARCHAR(255)"
  else (typeNames.lookup (Text.uppered trimmed)).getD trimmed

/-- A default as it is written; calls for the time and for identifiers go by another name. -/
def defaultText (text : String) : String :=
  let trimmed := Text.trim text.toList
  if Text.spells "now()".toList trimmed then "CURRENT_TIMESTAMP"
  else if Text.spells "gen_random_uuid()".toList trimmed then "(UUID())"
  else text

/-- The name of a table behind its database. -/
def tableName (key : TableKey) : String := dotted [key.db, key.table]

/-- A reference as a table behind a database. -/
def reference (context : TableKey) (table : String) : String :=
  let parts := Text.pieces '.' table
  let db := match parts with
    | db :: _ :: _ :: _ => db
    | _ => context.db
  dotted [db, parts.getLastD ""]

/-- The clause of a foreign key; without a column it refers to one of the same name. -/
def foreignKeyClause? (table : Table) (column : Column) : Option String :=
  column.fk.map fun fk =>
    "  FOREIGN KEY (" ++ column.name ++ ") REFERENCES " ++ reference table.key fk.table ++
      "(" ++ fk.column?.getD column.name ++ ")"

/-- The definition of a column; a column that counts by itself takes no default. -/
def columnDefinition (column : Column) : String :=
  let type := typeName column.type
  let counts := Text.contains "AUTO_INCREMENT".toList (Text.upper type.toList)
  Text.joined " " (["  " ++ column.name, type] ++
    (if column.unique then ["UNIQUE"] else []) ++ (if column.required then ["NOT NULL"] else []) ++
    column.default.elim [] fun text => if counts then [] else ["DEFAULT " ++ defaultText text])

/-- The statement that creates a table. -/
def createTable (table : Table) : String :=
  "CREATE TABLE IF NOT EXISTS " ++ tableName table.key ++
    body (table.columns.map columnDefinition ++ primaryKeyClause table ++
      table.columns.filterMap (foreignKeyClause? table)) ++ " ENGINE=InnoDB;"

/-- The databases that tables live in, in the order of their names. -/
def databases (tables : List Table) : List String :=
  (Keyed.distinct ((tables.map (·.key.db)).filter (· != ""))).mergeSort fun a b => decide (a ≤ b)

/-- The script of a schema graph. -/
def ofGraph (graph : Graph) : String :=
  script (opening .mysql graph.project)
    ((databases graph.tables).map (fun db => "CREATE DATABASE IF NOT EXISTS " ++ db ++ ";") ++
      (byRank graph.tables).map createTable)

end SchemaAtlas.Dialect.MySQL
