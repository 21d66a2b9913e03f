import SchemaAtlas.Schema.Table

/-! # Node ids

A lineage node is named by what it stands for. Colons, points and percent signs inside names are
escaped, so that no name can spell the id of another node.
-/

namespace SchemaAtlas.Lineage

open Schema

/-- The escape of a character that divides the segments of an id. -/
def escapeDivider (dotted : Bool) (c : Char) : List Char :=
  if c = '%' then "%25".toList
  else if c = ':' then "%3A".toList
  else if dotted && c = '.' then "%2E".toList
  else [c]

/-- A segment with its dividing characters escaped; points divide only inside table keys. -/
def escapeSegment (dotted : Bool) (segment : String) : String :=
  String.ofList (segment.toList.flatMap (escapeDivider dotted))

/-- The parts of a table key, escaped and divided by points. -/
def escapedKey (key : TableKey) : String :=
  escapeSegment true key.db ++ "." ++ escapeSegment true key.schema ++ "." ++
    escapeSegment true key.table

/-- What a lineage node stands for. -/
inductive NodeRef where
  | source (id : String)
  | sourceColumn (source path : String)
  | rule (text : String)
  | table (key : TableKey)
  | column (key : TableKey) (name : String)
  deriving DecidableEq, Repr

/-- The id of a lineage node. -/
def NodeRef.id : NodeRef → String
  | .source name => "src:" ++ escapeSegment false name
  | .sourceColumn name path =>
      "src:" ++ escapeSegment false name ++ ":" ++ escapeSegment false path
  | .rule text => "rule:" ++ text
  | .table key => "t:" ++ escapedKey key
  | .column key name => "t:" ++ escapedKey key ++ "." ++ escapeSegment true name

end SchemaAtlas.Lineage
