import SchemaAtlas.Dialect.Basic

/-! # Snowflake

Tables are replaced when they exist. Keys and references are clauses of their own. Types that go by
another name lose their arguments.
-/

namespace SchemaAtlas.Dialect.Snowflake

open Schema

/-- The types that go by another name, in upper case. -/
def typeNames : List (String × String) :=
  [("TEXT", "STRING"), ("VARCHAR", "STRING"), ("CHARACTER VARYING", "STRING"), ("UUID", "STRING"),
    ("JSON", "VARIANT"), ("JSONB", "VARIANT"), ("SERIAL", "NUMBER AUTOINCREMENT"),
    ("BIGSERIAL", "NUMBER AUTOINCREMENT"), ("BOOL", "BOOLEAN"), ("TIMESTAMPTZ", "TIMESTAMP_TZ"),
    ("TIMESTAMP WITH TIME ZONE", "TIMESTAMP_TZ"), ("DOUBLE PRECISION", "DOUBLE"),
    ("BYTEA", "BINARY")]

/-- A text up to the first parenthesis of its last line, when it ends in a closing one. -/
def withoutArguments (cs : List Char) : List Char :=
  let lastLine := (cs.reverse.takeWhile (· != '\n')).reverse
  if cs.getLast? == some ')' && lastLine.contains '(' then
    let argumentsLength := (lastLine.dropWhile (· != '(')).length
    Text.trimEnd (cs.take (cs.length - argumentsLength))
  else cs

/-- A type as it is written. -/
def typeName (type : String) : String :=
  let trimmed := Text.trimmed type
  if trimmed = "" then "STRING"
  else
    let base := String.ofList (Text.upper (withoutArguments trimmed.toList))
    (typeNames.lookup base).getD trimmed

/-- A default as it is written; calls for the time and for identifiers go by another name. -/
def defaultText (text : String) : String :=
  let trimmed := Text.trim text.toList
  if Text.spells "now()".toList trimmed then "CURRENT_TIMESTAMP()"
  else if Text.spells "gen_random_uuid()".toList trimmed then "UUID_STRING()"
  else text

/-- The clause of a foreign key. -/
def foreignKeyClause? (table : Table) (column : Column) : Option String :=
  column.fk.map fun fk =>
    "  FOREIGN KEY (" ++ column.name ++ ") REFERENCES " ++
      referenceWithColumn (reference table.key fk.table) fk

/-- The definition of a column. -/
def columnDefinition (column : Column) : String :=
  Text.joined " " (["  " ++ column.name, typeName column.type] ++
    (if column.unique then ["UNIQUE"] else []) ++ (if column.required then ["NOT NULL"] else []) ++
    column.default.elim [] fun text => ["DEFAULT " ++ defaultText text])

/-- The statement that creates a table. -/
def createTable (table : Table) : String :=
  "CREATE OR REPLACE TABLE " ++ table.key.qualified ++
    body (table.columns.map columnDefinition ++ primaryKeyClause table ++
      table.columns.filterMap (foreignKeyClause? table)) ++ ";"

/-- The script of a schema graph. -/
def ofGraph (graph : Graph) : String :=
  script (opening .snowflake graph.project) ((byKey graph.tables).map createTable)

end SchemaAtlas.Dialect.Snowflake
