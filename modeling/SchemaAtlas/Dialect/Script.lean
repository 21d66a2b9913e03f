import SchemaAtlas.Dialect.Postgres
import SchemaAtlas.Dialect.MySQL
import SchemaAtlas.Dialect.Snowflake
import SchemaAtlas.Dialect.MongoDB
import SchemaAtlas.Document.Writable

/-! # Scripts

One script for each dialect asked for, by the dialect's name. A dialect asked for twice is listed
once, where it was asked for first.
-/

namespace SchemaAtlas.Dialect

open Schema Document

/-- The script of a schema graph for one dialect. -/
def render (graph : Graph) : Dialect → String
  | .postgres => Postgres.ofGraph graph
  | .mysql => MySQL.ofGraph graph
  | .snowflake => Snowflake.ofGraph graph
  | .mongodb => MongoDB.ofGraph graph

/-- The definition of a column in one dialect. -/
def columnDefinition (table : Table) (column : Column) : Dialect → String
  | .postgres => Postgres.columnDefinition table column
  | .mysql => MySQL.columnDefinition column
  | .snowflake => Snowflake.columnDefinition column
  | .mongodb => MongoDB.columnDefinition column

/-- The scripts of a schema graph for the dialects that texts name. -/
def renderAll (graph : Graph) (requested : List String) :
    Except Unsupported (List (Dialect × String)) := do
  let dialects ← requested.mapM named?
  return (Keyed.distinct dialects).map fun dialect => (dialect, render graph dialect)

/-- The values that a script shows: the columns that foreign keys name, which collections leave
out. -/
def shown (graph : Graph) : Dialect → List Value
  | .mongodb => []
  | _ => graph.referredColumns

/-- The script of a schema graph, unless a value that it shows is too long. -/
def render? (graph : Graph) (dialect : Dialect) : Except TooLong String :=
  showing (shown graph dialect) (render graph dialect)

/-- Why scripts are not written. -/
inductive Fault where
  | unsupported (request : Unsupported)
  | tooLong
  deriving DecidableEq, Repr

/-- The dialect that a text names, if its script can be written. -/
def requested? (graph : Graph) (name : String) : Except Fault Dialect := do
  let dialect ← (named? name).mapError .unsupported
  (showing (shown graph dialect) dialect).mapError fun _ => .tooLong

/-- The scripts of a schema graph for the dialects that texts name, one after the other. -/
def renderAll? (graph : Graph) (requested : List String) :
    Except Fault (List (Dialect × String)) := do
  let dialects ← requested.mapM (requested? graph)
  return (Keyed.distinct dialects).map fun dialect => (dialect, render graph dialect)

end SchemaAtlas.Dialect
