import SchemaAtlas.Document.Value

/-! # Merging documents

Several documents become one by joining their target groups, sources and mappings in order. The
first project that does not count as absent is kept; everything else is left out.
-/

namespace SchemaAtlas.Loading

open Document

/-- The sections that are joined. -/
def sections : List String := ["targets", "sources", "mappings"]

/-- The items of a section; anything but a list has none. -/
def sectionItems (document : Entries) (name : String) : List Value :=
  match document.get name with
  | .list items => items
  | _ => []

/-- The first project that does not count as absent. -/
def firstProject? (documents : List Entries) : Option Value :=
  (documents.map fun document => document.get "project").find? Value.isTruthy

/-- One document for several. -/
def merge (documents : List Entries) : Entries :=
  Entries.named ((sections.map fun name =>
      (name, .list (documents.flatMap fun document => sectionItems document name))) ++
    (firstProject? documents).elim [] fun project => [("project", project)])

end SchemaAtlas.Loading
