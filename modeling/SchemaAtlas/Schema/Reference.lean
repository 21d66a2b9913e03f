import SchemaAtlas.Schema.Graph
import SchemaAtlas.Text.Case

/-! # References between tables

A reference names a table bare, with its schema, or in full. A bare name means the table of that
name in the referring table's own database and schema if there is one, else the first declared
table of that name. Columns called after another table refer to it by convention.
-/

namespace SchemaAtlas.Schema.Graph

/-- The first candidate in a given database and schema, else the first candidate. -/
def preferLocal (context : TableKey) (candidates : List TableKey) : Option TableKey :=
  match candidates.find? fun key => key.db == context.db && key.schema == context.schema with
  | some key => some key
  | none => candidates.head?

/-- The declared tables of a given name. -/
def keysNamed (graph : Graph) (name : String) : List TableKey :=
  (graph.tables.map (·.key)).filter fun key => key.table == name

/-- The table of a given name, the local one first. -/
def tableNamed? (graph : Graph) (context : TableKey) (name : String) : Option TableKey :=
  preferLocal context (graph.keysNamed name)

/-- A key, when it is declared. -/
def declaredKey? (graph : Graph) (key : TableKey) : Option TableKey :=
  (graph.table? key).map (·.key)

/-- The declared table that a reference means; only the last three parts of a long one count. -/
def resolve? (graph : Graph) (context : TableKey) (reference : String) : Option TableKey :=
  match (Text.pieces '.' reference).reverse with
  | table :: schema :: db :: _ => graph.declaredKey? ⟨db, schema, table⟩
  | [table, schema] => graph.declaredKey? ⟨context.db, schema, table⟩
  | _ => graph.tableNamed? context reference

/-- The names of tables that a column called after a base may refer to, in order of preference. -/
def parentNames (base : String) : List String :=
  [base, "dim_" ++ base, base ++ "s", "dim_" ++ base ++ "s"]

/-- The declared table that a column called after a base refers to. -/
def inferParent? (graph : Graph) (context : TableKey) (base : String) : Option TableKey :=
  if base = "" then none else (parentNames base).findSome? (graph.tableNamed? context)

end SchemaAtlas.Schema.Graph

namespace SchemaAtlas.Schema.Column

/-- What a column is called after, when its name ends in `_id`. -/
def base? (column : Column) : Option String :=
  let name := column.name.toList
  if Text.endsWith "_id".toList (Text.lower name) then
    some (String.ofList (name.take (name.length - 3)))
  else none

/-- The marks of a column, in a fixed order. -/
def flags (column : Column) : List String :=
  (if column.pk then ["PK"] else []) ++ (if column.fk.isSome then ["FK"] else []) ++
    (if column.unique then ["UNIQUE"] else []) ++ (if column.notNull then ["NOT_NULL"] else [])

end SchemaAtlas.Schema.Column
