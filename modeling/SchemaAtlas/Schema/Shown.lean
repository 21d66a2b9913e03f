import SchemaAtlas.Document.Writable
import SchemaAtlas.Schema.Declaration

/-! # What reading shows

Names, types, notes and most other fields of a document are read as texts: whatever value stands
there is shown. Values are shown in the order in which the document is read, up to the obstacle that
stops the reading, if there is one. A value that is too long to be written stops the reading as well
when its turn comes.
-/

namespace SchemaAtlas.Schema

open Document

/-- What is shown after an attempt, which is nothing when the attempt fails. -/
def after {ε α : Type} (attempt : Except ε α) (shown : α → List Value) : List Value :=
  match attempt with
  | .ok a => shown a
  | .error _ => []

/-- What a sequence shows up to the first item whose reading fails. -/
def shownUntil {ε α β : Type} (shown : α → List Value) (read : α → Except ε β) :
    List α → List Value
  | [] => []
  | item :: items => shown item ++ after (read item) fun _ => shownUntil shown read items

/-- What the declaration of a source shows: its id, its engine, and its address when the engine is
not known. -/
def sourceShown (raw : Entries) : List Value :=
  [raw.get "id", raw.get "kind"] ++
    if (SourceKind.ofEngine? (raw.get "kind")).isSome then [] else [address (sourceMetadata raw)]

/-- What a foreign key shows. -/
def foreignKeyShown (raw : Value) : List Value :=
  match raw with
  | .dict entries =>
      if (referredTable entries).isTruthy then [referredTable entries, referredColumn entries]
      else []
  | other => [other]

/-- What the declaration of a column shows. -/
def columnShown (raw : Entries) : List Value :=
  [raw.get "name", raw.get "type"] ++ foreignKeyShown (raw.get "fk") ++
    [raw.get "default", raw.get "description"]

/-- Whether the columns of one table-level declaration come to one that takes a foreign key. -/
def takesForeignKey (referred : Value) (columns : List Column) : Nat → List Value → Bool
  | _, [] => false
  | position, name :: names =>
      name.isHashable &&
        if (openColumn? columns name).isSome then (itemAt referred position).isOk
        else takesForeignKey referred columns (position + 1) names

/-- What a table-level declaration shows: the table that it refers to, once a column takes it. -/
def declarationShown (columns : List Column) (declaration : Value) : List Value :=
  match declaration with
  | .dict entries =>
      let entries : Entries := entries
      match entries.get "references" with
      | .dict references =>
          let references : Entries := references
          let table := references.get "table"
          after (walk (entries.get "columns")) fun names =>
            if table.isTruthy &&
                takesForeignKey (orEmpty (references.get "columns")) columns 0 names then [table]
            else []
      | _ => []
  | _ => []

/-- What table-level declarations show, each following the one before it. -/
def declarationsShown (columns : List Column) : List Value → List Value
  | [] => []
  | declaration :: rest =>
      declarationShown columns declaration ++
        after (linkDeclaration columns declaration) fun linked => declarationsShown linked rest

/-- What the table-level declarations of a table show while its columns are marked and linked. -/
def keysShown (raw : Entries) (columns : List Column) : List Value :=
  after (walk (raw.get "primary_key")) fun names =>
    after (markKeys columns names) fun marked =>
      after (walk (raw.get "foreign_keys")) fun declarations => declarationsShown marked declarations

/-- What the declaration of a table shows behind its name. -/
def tableShown (raw : Entries) : List Value :=
  after (walk (raw.get "columns")) fun declared =>
    let named := namedEntries "name" declared
    let columns := Keyed.collect Column.name (named.map Column.ofEntries)
    named.flatMap columnShown ++ keysShown raw columns ++
      after (keyedColumns? raw columns) fun _ => [raw.get "description", raw.get "owner"]

/-- What a target group shows. -/
def groupShown (group : Entries) : List Value :=
  [group.get "db", group.get "schema"] ++ after (walk (group.get "tables")) fun declared =>
    shownUntil (fun raw => raw.get "name" :: tableShown raw) (Table.ofEntries? default)
      (namedEntries "name" declared)

/-- What the origin of a mapping shows. -/
def originShown (raw : Value) : List Value :=
  match raw with
  | .dict entries =>
      let entries : Entries := entries
      (entries.get "fields").entries.flatMap (fun entry => [.scalar entry.1, entry.2]) ++
        ["source_id", "path", "transform", "rule", "default"].map entries.get
  | _ => []

/-- What a mapping shows. -/
def mappingShown (raw : Value) : List Value :=
  let entries := mappingEntries raw
  originShown (entries.get "from") ++ entries.get "notes" :: after (walk (entries.get "tags")) id

/-- What an owner shows. -/
def ownerShown (owner : Value) : List Value :=
  match owner with
  | .dict entries => [Entries.get entries "name", Entries.get entries "email"]
  | other => [other]

/-- What the owners of a document show. -/
def ownersShown (document : Entries) : List Value := (ownersOf document).flatMap ownerShown

/-- What a document shows while it is read: sources, target groups, mappings, the project and its
owners. -/
def shown (document : Entries) : List Value :=
  (sourceEntries (document.get "sources")).flatMap sourceShown ++
  shownUntil groupShown groupTables (listedEntries (document.get "targets")) ++
  after (declaredTables (document.get "targets")) fun _ =>
    shownUntil mappingShown (Mapping.ofValue 0) (listedItems (document.get "mappings")) ++
    after (declaredMappings (document.get "mappings")) fun _ =>
      nameOfProject (document.get "project") :: ownersShown document

/-- Why a document is not read. -/
inductive Stop where
  | obstacle (obstacle : Obstacle)
  | tooLong
  deriving DecidableEq, Repr

/-- Read the schema graph that a document declares. -/
def Graph.read? (fallback : String) (document : Value) : Except Stop Graph :=
  if (shown document.entries).all Value.isWritable then
    (Graph.ofDocument? fallback document).mapError .obstacle
  else .error .tooLong

end SchemaAtlas.Schema
