import SchemaAtlas.Document.Literal
import SchemaAtlas.Keyed

/-! # Tables and columns

A table is identified by its database, schema and name. Its columns keep the order in which they
were declared. A foreign key names a table, bare or with the schema or the database in front, and
may name a column of it.
-/

namespace SchemaAtlas.Schema

open Document (Value)

/-- The identity of a table. -/
@[ext]
structure TableKey where
  db : String
  schema : String
  table : String
  deriving DecidableEq, Repr, Inhabited

/-- The three parts divided by points. -/
def TableKey.dotted (key : TableKey) : String := key.db ++ "." ++ key.schema ++ "." ++ key.table

/-- The dotted table key with a column name behind it. -/
def TableKey.dottedColumn (key : TableKey) (column : String) : String := key.dotted ++ "." ++ column

/-- The parts of a table key that are not empty, divided by points. -/
def TableKey.qualified (key : TableKey) : String :=
  Text.joined "." ([key.db, key.schema, key.table].filter (· != ""))

/-- The table that a column refers to, and the column there unless it is null. -/
structure ForeignKey where
  table : String
  column : Value

/-- The referred column as text, when one is named. -/
def ForeignKey.column? (fk : ForeignKey) : Option String :=
  if fk.column.isTruthy then some fk.column.display else none

/-- A declared column. -/
structure Column where
  name : String
  type : String
  pk : Bool
  fk : Option ForeignKey
  unique : Bool
  notNull : Bool
  default : Option String
  description : Option String

/-- A value must always be present: the column is part of the primary key or not nullable. -/
def Column.required (column : Column) : Bool := column.pk || column.notNull

/-- A declared table; no two of its columns share a name. -/
structure Table where
  key : TableKey
  columns : List Column
  description : Option String
  owner : Option String
  names_nodup : (columns.map Column.name).Nodup := by simp

namespace Table

/-- The names of the primary key columns, in column order. -/
def primaryKey (table : Table) : List String :=
  (table.columns.filter (·.pk)).map (·.name)

/-- The column of a given name. -/
def column? (table : Table) (name : String) : Option Column :=
  Keyed.find? Column.name name table.columns

/-- Whether the table declares a column of a given name. -/
def hasColumn (table : Table) (name : String) : Bool := (table.column? name).isSome

end Table

end SchemaAtlas.Schema
