import SchemaAtlas.Schema.Table
import SchemaAtlas.Text.Blank

/-! # Mappings

A mapping says where the content of one column, or of a whole table, comes from. Its target is a
dotted path: three parts name a table and stand for all its columns, further parts name a column.
A path with a blank part, or with fewer parts, stays unresolved.
-/

namespace SchemaAtlas.Schema

open Document (Value)

/-- The column name that stands for every column of a table. -/
def wildcard : String := "*"

/-- A table and one of its columns, or the wildcard. -/
structure TargetPath where
  key : TableKey
  column : String
  deriving DecidableEq, Repr

/-- Whether a path stands for every column of its table. -/
def TargetPath.isWildcard (path : TargetPath) : Bool := path.column == wildcard

/-- What a mapping writes to; what cannot be read as a path is kept as it was written. -/
inductive Target where
  | path (path : TargetPath)
  | unresolved (raw : Value)

/-- The path that dotted parts spell. -/
def TargetPath.ofParts? : List String → Option TargetPath
  | [db, schema, table] => some ⟨⟨db, schema, table⟩, wildcard⟩
  | db :: schema :: table :: column => some ⟨⟨db, schema, table⟩, Text.joined "." column⟩
  | _ => none

/-- The path that a text spells: at least three parts, none of them blank. -/
def TargetPath.parse? (s : String) : Option TargetPath :=
  let parts := Text.pieces '.' s
  if parts.any Text.isBlankText then none else ofParts? parts

/-- The target that a value spells. -/
def Target.ofValue (raw : Value) : Target :=
  match raw with
  | .text s => match TargetPath.parse? s with
    | some found => .path found
    | none => .unresolved raw
  | _ => .unresolved raw

/-- The path of a resolved target. -/
def Target.path? : Target → Option TargetPath
  | .path found => some found
  | .unresolved _ => none

/-- What a mapping reads from. -/
inductive OriginKind where
  | source
  | rule
  | fields
  | unknown
  deriving DecidableEq, Repr

/-- The written name of an origin kind. -/
def OriginKind.name : OriginKind → String
  | .source => "source"
  | .rule => "rule"
  | .fields => "fields"
  | .unknown => "unknown"

/-- Where a mapping reads from; `fields` gives one path for each of several columns. -/
structure Origin where
  sourceId : Option String := none
  path : Option String := none
  transform : Option String := none
  rule : Option String := none
  fields : List (String × String) := []
  default : Option String := none

/-- An optional text that is neither missing nor empty. -/
def given? (text : Option String) : Option String := text.filter (· != "")

/-- Fields come first, then a source, then a rule; empty texts name nothing. -/
def Origin.kind (origin : Origin) : OriginKind :=
  if !origin.fields.isEmpty then .fields
  else if (given? origin.sourceId).isSome then .source
  else if (given? origin.rule).isSome then .rule
  else .unknown

/-- One mapping, with its position in the document. -/
structure Mapping where
  index : Nat
  rawTarget : Value
  target : Target
  origin : Origin
  notes : Option String
  tags : List String

end SchemaAtlas.Schema
