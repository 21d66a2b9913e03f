import SchemaAtlas.Schema.Reference

/-! # Dialects

A schema graph is turned into a script for one of four engines. What the engines share stands here:
how a script is laid out, how tables are ordered, and how references are written.
-/

namespace SchemaAtlas

open Schema

/-- The engines that scripts are written for. -/
inductive Dialect where
  | postgres
  | mysql
  | snowflake
  | mongodb
  deriving DecidableEq, Repr

namespace Dialect

/-- Every dialect, in the order in which scripts are listed. -/
def all : List Dialect := [.postgres, .mysql, .snowflake, .mongodb]

/-- The name by which a dialect is asked for. -/
def name : Dialect → String
  | .postgres => "postgres"
  | .mysql => "mysql"
  | .snowflake => "snowflake"
  | .mongodb => "mongodb"

/-- The name that a script shows. -/
def label : Dialect → String
  | .postgres => "PostgreSQL"
  | .mysql => "MySQL"
  | .snowflake => "Snowflake"
  | .mongodb => "MongoDB"

/-- The ending of a script's file name. -/
def extension : Dialect → String
  | .mongodb => ".js"
  | _ => ".sql"

/-- A dialect that nothing is known about. -/
structure Unsupported where
  shown : String
  deriving DecidableEq, Repr

/-- What is wrong with a request for a dialect. -/
def Unsupported.message (request : Unsupported) : String :=
  "Unsupported dialect: " ++ request.shown ++ ". Available dialects: " ++
    Text.joined ", " (all.map name)

/-- The dialect that a text names in any case. -/
def named? (shown : String) : Except Unsupported Dialect :=
  match all.find? fun dialect => dialect.name == Text.lowered shown with
  | some dialect => .ok dialect
  | none => .error ⟨shown⟩

/-- Dimensions first, facts last, so that referred tables tend to come before referring ones. -/
def rank (key : TableKey) : Nat :=
  let name := Text.lower key.table.toList
  if Text.startsWith "dim_".toList name then 0
  else if Text.startsWith "fct_".toList name || Text.startsWith "fact_".toList name then 2
  else 1

/-- Tables in the order of their dotted keys. -/
def byKey (tables : List Table) : List Table :=
  tables.mergeSort fun a b => decide (a.key.dotted ≤ b.key.dotted)

/-- Tables in the order of rank, then of their dotted keys. -/
def byRank (tables : List Table) : List Table :=
  tables.mergeSort fun a b =>
    decide (rank a.key < rank b.key) ||
      (rank a.key == rank b.key && decide (a.key.dotted ≤ b.key.dotted))

/-- The parts that are not empty, divided by points. -/
def dotted (parts : List String) : String := Text.joined "." (parts.filter (· != ""))

/-- A reference with the database and schema of the referring table put in front as needed. -/
def reference (context : TableKey) (table : String) : String :=
  match Text.pieces '.' table with
  | [_] => dotted [context.db, context.schema, table]
  | [_, _] => dotted [context.db, table]
  | _ => table

/-- A written reference with the referred column in parentheses, if one is named. -/
def referenceWithColumn (reference : String) (fk : ForeignKey) : String :=
  reference ++ fk.column?.elim "" fun column => "(" ++ column ++ ")"

/-- Definitions one a line between parentheses. -/
def body (definitions : List String) : String :=
  " (\n" ++ Text.joined ",\n" definitions ++ "\n)"

/-- The clause that declares a primary key, if there is one. -/
def primaryKeyClause (table : Table) : List String :=
  if table.primaryKey.isEmpty then []
  else ["  PRIMARY KEY (" ++ Text.joined ", " table.primaryKey ++ ")"]

/-- A script: opening lines, then each statement after an empty line. -/
def script (opening statements : List String) : String :=
  String.join (opening.map (· ++ "\n")) ++
    String.join (statements.map fun statement => "\n" ++ statement ++ "\n")

/-- The opening lines of a script of statements. -/
def opening (dialect : Dialect) (project : String) : List String :=
  ["-- " ++ dialect.label ++ " DDL", "-- Project: " ++ project]

end Dialect

end SchemaAtlas
