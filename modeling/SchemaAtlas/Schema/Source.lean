import SchemaAtlas.Document.Literal
import SchemaAtlas.Text.Blank
import SchemaAtlas.Text.Case

/-! # Sources

A source is a system that data comes from. Its kind is one of four, found from the engine named in
the document or else from its location: an address on the web is an interface, anything unknown is
a file.
-/

namespace SchemaAtlas.Schema

open Document

/-- The closed set of source kinds. -/
inductive SourceKind where
  | relational
  | document
  | api
  | file
  deriving DecidableEq, Repr

/-- The written name of a source kind. -/
def SourceKind.name : SourceKind → String
  | .relational => "relational"
  | .document => "document"
  | .api => "api"
  | .file => "file"

/-- The engines known by name, in lower case. -/
def SourceKind.engines : List (String × SourceKind) :=
  [("relational", .relational), ("postgres", .relational), ("postgresql", .relational),
    ("mysql", .relational), ("mssql", .relational), ("oracle", .relational),
    ("snowflake", .relational), ("bigquery", .relational), ("sqlite", .relational),
    ("document", .document), ("document-store", .document), ("mongodb", .document),
    ("mongo", .document), ("dynamodb", .document), ("api", .api), ("rest", .api), ("http", .api),
    ("graphql", .api), ("file", .file), ("csv", .file), ("json", .file), ("parquet", .file),
    ("excel", .file)]

/-- A value as text, empty when it counts as absent. -/
def displayOrEmpty (value : Value) : String := if value.isTruthy then value.display else ""

/-- The first of two values that does not count as absent, the second if both do. -/
def firstTruthy (first second : Value) : Value := if first.isTruthy then first else second

/-- The kind of a known engine, blanks and case aside. -/
def SourceKind.ofEngine? (engine : Value) : Option SourceKind :=
  SourceKind.engines.lookup (Text.lowered (Text.trimmed (displayOrEmpty engine)))

/-- The value that tells an interface from a file. -/
def address (metadata : Entries) : Value :=
  firstTruthy (metadata.get "url") (metadata.get "connection")

/-- The kind of a source with a given engine and metadata. -/
def SourceKind.resolve (engine : Value) (metadata : Entries) : SourceKind :=
  match SourceKind.ofEngine? engine with
  | some kind => kind
  | none =>
      let location := displayOrEmpty (address metadata)
      if Text.startsWith "http://".toList location.toList ||
          Text.startsWith "https://".toList location.toList then .api
      else .file

/-- A declared source with everything else that the document says about it. -/
structure Source where
  id : String
  kind : SourceKind
  engine : Option String
  metadata : Entries

/-- Identity, kind and engine with the metadata stored over them. -/
def Source.record (source : Source) : Entries :=
  Entries.override
    (Entries.named [("id", .text source.id), ("kind", .text source.kind.name),
      ("engine", .ofText? source.engine)])
    source.metadata

/-- The metadata keys that tell where a source is, in order of preference. -/
def locationKeys : List String := ["url", "connection", "location", "path", "db"]

/-- The value that tells where a source is: the first under a location key that does not count as
absent. -/
def locationValue? (metadata : Entries) : Option Value :=
  (locationKeys.map metadata.get).find? Value.isTruthy

/-- Where a source is. -/
def location? (metadata : Entries) : Option String := (locationValue? metadata).map Value.display

end SchemaAtlas.Schema
