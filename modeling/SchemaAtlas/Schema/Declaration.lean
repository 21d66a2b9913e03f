import SchemaAtlas.Attempt
import SchemaAtlas.Schema.Graph

/-! # From documents to schema graphs

A document is read tolerantly: an entry that is not a dictionary, or that lacks its name, is
skipped, and a target that is no path stays unresolved. Reading stops only where a value has to be
walked through, looked up or indexed and cannot be. A table declared again replaces the earlier
declaration in place and is recorded.
-/

namespace SchemaAtlas.Schema

open Document

/-- What keeps a document from being read. -/
inductive Obstacle where
  | notWalkable
  | unhashable
  | notIndexable
  | missingPosition
  deriving DecidableEq, Repr

/-- The items that a value yields when walked through; an absent value yields none. -/
def walk (value : Value) : Except Obstacle (List Value) :=
  if !value.isTruthy then .ok []
  else match value with
    | .list items => .ok items
    | .tuple items => .ok items
    | .set members => .ok (members.map .scalar)
    | .dict entries => .ok (entries.map fun entry => .scalar entry.1)
    | .text s => .ok (s.toList.map fun c => .text (String.ofList [c]))
    | .scalar (.bytes octets) => .ok (octets.map fun octet => .int octet.toNat)
    | _ => .error .notWalkable

/-- The item of a value at a position, null past its end. -/
def itemAt (value : Value) (position : Nat) : Except Obstacle Value :=
  match value with
  | .list items => .ok (items[position]?.getD .null)
  | .tuple items => .ok (items[position]?.getD .null)
  | .text s => .ok ((s.toList[position]?.map fun c => .text (String.ofList [c])).getD .null)
  | .scalar (.bytes octets) => .ok ((octets[position]?.map fun octet => .int octet.toNat).getD .null)
  | .set members => if position < members.length then .error .notIndexable else .ok .null
  | .dict entries =>
      if position < entries.length then
        match Entries.find? entries (.whole position) with
        | some item => .ok item
        | none => .error .missingPosition
      else .ok .null
  | .scalar _ => .error .notIndexable

/-- A value, or an empty list when it counts as absent. -/
def orEmpty (value : Value) : Value := if value.isTruthy then value else .list []

/-- Cut a dotted text at its last point. -/
def splitLastPoint? (cs : List Char) : Option (List Char × List Char) :=
  let behind := (cs.reverse.takeWhile (· != '.')).reverse
  if cs.contains '.' then some (cs.take (cs.length - behind.length - 1), behind) else none

/-- The value that names the table of a foreign key. -/
def referredTable (entries : Entries) : Value :=
  firstTruthy (entries.get "table") (firstTruthy (entries.get "table_name") (entries.get "ref"))

/-- The value that names the column of a foreign key. -/
def referredColumn (entries : Entries) : Value :=
  firstTruthy (entries.get "column") (entries.get "col")

/-- The foreign key that a value declares: a dictionary, or a dotted path to a column. -/
def ForeignKey.ofValue? (raw : Value) : Option ForeignKey :=
  if !raw.isTruthy then none
  else match raw with
    | .dict entries =>
        let table := referredTable entries
        let column := referredColumn entries
        if table.isTruthy then
          some ⟨table.display, if column.isTruthy then .text column.display else .null⟩
        else none
    | _ =>
        let text := Text.trim raw.display.toList
        match splitLastPoint? text with
        | none => some ⟨String.ofList text, .null⟩
        | some (table, column) =>
            some ⟨String.ofList table,
              if column.isEmpty then .null else .text (String.ofList column)⟩

/-- The column that a dictionary with a name declares. -/
def Column.ofEntries (raw : Entries) : Column where
  name := (raw.get "name").display
  type := displayOrEmpty (raw.get "type")
  pk := (raw.get "pk").isTruthy
  fk := ForeignKey.ofValue? (raw.get "fk")
  unique := (raw.get "unique").isTruthy
  notNull := (raw.get "not_null").isTruthy || raw.get "nullable" == .bool false
  default := (raw.get "default").displayField?
  description := (raw.get "description").displayField?

/-- The dictionaries among values that carry a name. -/
def namedEntries (key : String) (items : List Value) : List Entries :=
  items.filterMap fun item =>
    match item with
    | .dict entries => if (Entries.get entries key).isTruthy then some entries else none
    | _ => none

/-- Mark the columns that a list of key names names. -/
def markKeys (columns : List Column) : List Value → Except Obstacle (List Column)
  | [] => .ok columns
  | name :: names =>
      if !name.isHashable then .error .unhashable
      else match name with
      | .text s =>
          markKeys (Keyed.update Column.name s (fun c => { c with pk := true }) columns) names
      | _ => markKeys columns names

/-- The position of a column that may still take a foreign key from a table-level declaration. -/
def openColumn? (columns : List Column) (name : Value) : Option Column :=
  match name with
  | .text s => (Keyed.find? Column.name s columns).filter (·.fk.isNone)
  | _ => none

/-- Give the columns of one table-level declaration their foreign keys, position by position. -/
def linkColumns (table referred : Value) (columns : List Column) :
    Nat → List Value → Except Obstacle (List Column)
  | _, [] => .ok columns
  | position, name :: names =>
      if !name.isHashable then .error .unhashable
      else match openColumn? columns name with
      | some column =>
          if table.isTruthy then do
            let target ← itemAt referred position
            let linked := Keyed.update Column.name column.name
              (fun c => { c with fk := some ⟨table.display, target⟩ }) columns
            linkColumns table referred linked (position + 1) names
          else linkColumns table referred columns (position + 1) names
      | none => linkColumns table referred columns (position + 1) names

/-- Apply one table-level declaration; what is not well formed is passed over. -/
def linkDeclaration (columns : List Column) (declaration : Value) :
    Except Obstacle (List Column) :=
  match declaration with
  | .dict entries =>
      let entries : Entries := entries
      match entries.get "references" with
      | .dict references => do
          let references : Entries := references
          let names ← walk (entries.get "columns")
          linkColumns (references.get "table") (orEmpty (references.get "columns")) columns 0 names
      | _ => .ok columns
  | _ => .ok columns

/-- Mark and link the columns of a table by its table-level declarations. -/
def keyedColumns? (raw : Entries) (columns : List Column) : Except Obstacle (List Column) := do
  let columns ← markKeys columns (← walk (raw.get "primary_key"))
  (← walk (raw.get "foreign_keys")).foldlM linkDeclaration columns

theorem names_markKeys {columns marked : List Column} {names : List Value}
    (success : markKeys columns names = .ok marked) :
    marked.map Column.name = columns.map Column.name := by
  induction names generalizing columns with
  | nil => cases success; rfl
  | cons name names ih =>
    unfold markKeys at success
    split at success
    · cases success
    · split at success
      · rw [ih success, Keyed.map_update]
        exact fun _ => rfl
      · exact ih success

theorem names_linkColumns {table referred : Value} {columns linked : List Column}
    {position : Nat} {names : List Value}
    (success : linkColumns table referred columns position names = .ok linked) :
    linked.map Column.name = columns.map Column.name := by
  induction names generalizing columns position with
  | nil => cases success; rfl
  | cons name names ih =>
    unfold linkColumns at success
    split at success
    · cases success
    · split at success
      · split at success
        · obtain ⟨target, _, success⟩ := Attempt.bind_eq_ok_iff.mp success
          rw [ih success, Keyed.map_update]
          exact fun _ => rfl
        · exact ih success
      · exact ih success

theorem names_linkDeclaration {columns linked : List Column} {declaration : Value}
    (success : linkDeclaration columns declaration = .ok linked) :
    linked.map Column.name = columns.map Column.name := by
  unfold linkDeclaration at success
  split at success
  · simp only at success
    split at success
    · obtain ⟨names, _, success⟩ := Attempt.bind_eq_ok_iff.mp success
      exact names_linkColumns success
    · cases success; rfl
  · cases success; rfl

/-- Table-level declarations add no column and rename none. -/
theorem names_keyedColumns? {raw : Entries} {columns keyed : List Column}
    (success : keyedColumns? raw columns = .ok keyed) :
    keyed.map Column.name = columns.map Column.name := by
  obtain ⟨keys, _, success⟩ := Attempt.bind_eq_ok_iff.mp success
  obtain ⟨marked, marks, success⟩ := Attempt.bind_eq_ok_iff.mp success
  obtain ⟨declarations, _, success⟩ := Attempt.bind_eq_ok_iff.mp success
  refine Attempt.foldlM_preserves (P := fun linked => linked.map Column.name = _) ?_ success
    (names_markKeys marks)
  exact fun _ _ _ linked names => (names_linkDeclaration linked).trans names

/-- The table that a dictionary with a name declares. -/
def Table.ofEntries? (key : TableKey) (raw : Entries) : Except Obstacle Table := do
  let declared ← walk (raw.get "columns")
  let columns := Keyed.collect Column.name ((namedEntries "name" declared).map Column.ofEntries)
  match success : keyedColumns? raw columns with
  | .error obstacle => throw obstacle
  | .ok keyed => return {
      key := key
      columns := keyed
      description := (raw.get "description").displayField?
      owner := (raw.get "owner").displayField?
      names_nodup := names_keyedColumns? success ▸ Keyed.nodup_collect Column.name _ }

/-- The schema of a table whose group names none. -/
def defaultSchema : String := "public"

/-- The tables that a target group declares, in order. -/
def groupTables (group : Entries) : Except Obstacle (List Table) := do
  let db := displayOrEmpty (group.get "db")
  let schema := group.get "schema"
  let schema := if schema.isTruthy then schema.display else defaultSchema
  let declared ← walk (group.get "tables")
  (namedEntries "name" declared).mapM fun raw =>
    Table.ofEntries? ⟨db, schema, (raw.get "name").display⟩ raw

/-- The dictionaries among the items of a list; anything but a list has none. -/
def listedEntries (value : Value) : List Entries :=
  match value with
  | .list items => items.filterMap fun item =>
      match item with
      | .dict entries => some entries
      | _ => none
  | _ => []

/-- Every table that the target groups declare, repetitions included. -/
def declaredTables (targets : Value) : Except Obstacle (List Table) := do
  return (← (listedEntries targets).mapM groupTables).flatten

/-- The keys of declarations that repeat an earlier one. -/
def repeatedKeys (seen : List TableKey) : List TableKey → List TableKey
  | [] => []
  | key :: keys =>
      if seen.contains key then key :: repeatedKeys seen keys
      else repeatedKeys (key :: seen) keys

/-- Everything that a dictionary says about a source beside its id and its engine. -/
def sourceMetadata (raw : Entries) : Entries :=
  raw.filter fun entry => entry.1.key != .text "id" && entry.1.key != .text "kind"

/-- The source that a dictionary with an id declares. -/
def Source.ofEntries (raw : Entries) : Source :=
  let metadata := sourceMetadata raw
  let engine := raw.get "kind"
  { id := (raw.get "id").display
    kind := .resolve engine metadata
    engine := if engine.isTruthy then some engine.display else none
    metadata := metadata }

/-- The dictionaries of a list that carry an id. -/
def sourceEntries (sources : Value) : List Entries :=
  (listedEntries sources).filter fun raw => (raw.get "id").isTruthy

/-- Every source that a list declares, repetitions included. -/
def declaredSources (sources : Value) : List Source := (sourceEntries sources).map Source.ofEntries

/-- The origin that a value declares; anything but a dictionary declares nothing. -/
def Origin.ofValue (raw : Value) : Origin :=
  match raw with
  | .dict entries =>
      let entries : Entries := entries
      let fields := (entries.get "fields").entries.map fun entry =>
        (entry.1.display, entry.2.display)
      { sourceId := (entries.get "source_id").displayField?
        path := (entries.get "path").displayField?
        transform := (entries.get "transform").displayField?
        rule := (entries.get "rule").displayField?
        fields := Keyed.collect Prod.fst fields
        default := (entries.get "default").displayField? }
  | _ => {}

/-- A mapping as a dictionary; anything else is its target. -/
def mappingEntries (raw : Value) : Entries :=
  match raw with
  | .dict entries => entries
  | other => Entries.named [("target", other)]

/-- The mapping that a value declares. -/
def Mapping.ofValue (index : Nat) (raw : Value) : Except Obstacle Mapping := do
  let entries := mappingEntries raw
  let tags ← walk (entries.get "tags")
  let target := entries.get "target"
  return {
    index := index
    rawTarget := target
    target := .ofValue target
    origin := .ofValue (entries.get "from")
    notes := (entries.get "notes").displayField?
    tags := tags.map Value.display }

/-- The mappings of a list, numbered from a first index. -/
def numberedMappings (index : Nat) : List Value → Except Obstacle (List Mapping)
  | [] => .ok []
  | raw :: rest => do
      let mapping ← Mapping.ofValue index raw
      return mapping :: (← numberedMappings (index + 1) rest)

/-- The mappings that a list declares; anything but a list declares none. -/
def declaredMappings (mappings : Value) : Except Obstacle (List Mapping) :=
  match mappings with
  | .list items => numberedMappings 0 items
  | _ => .ok []

/-- The value that names a project: its name, or the project itself. -/
def nameOfProject (project : Value) : Value :=
  match project with
  | .dict entries => Entries.get entries "name"
  | other => other

/-- The project's name, or the fallback when the document gives none. -/
def projectName (fallback : String) (project : Value) : String :=
  let name := nameOfProject project
  if name.isTruthy then name.display else fallback

/-- An owner as one line: a name, an address, or a name with the address in angle brackets. -/
def ownerLabel (owner : Value) : String :=
  match owner with
  | .null => ""
  | .dict entries =>
      let name := Text.trimmed (displayOrEmpty (Entries.get entries "name"))
      let email := Text.trimmed (displayOrEmpty (Entries.get entries "email"))
      if name != "" && email != "" then name ++ " <" ++ email ++ ">"
      else if name != "" then name
      else email
  | other => Text.trimmed other.display

/-- The items of a list; anything but a list has none. -/
def listedItems : Value → List Value
  | .list items => items
  | _ => []

/-- The owners of a document, or of its project when the document has no such entry. -/
def ownersOf (document : Entries) : List Value :=
  listedItems <| match document.get "owners", document.get "project" with
    | .null, .dict project => Entries.get project "owners"
    | owners, _ => owners

/-- The labels of the owners of a document that are not empty. -/
def ownerLabels (document : Entries) : List String :=
  ((ownersOf document).map ownerLabel).filter (· != "")

/-- The schema graph that a document declares; anything but a dictionary declares nothing. -/
def Graph.ofDocument? (fallback : String) (document : Value) : Except Obstacle Graph := do
  let document : Entries := document.entries
  let tables ← declaredTables (document.get "targets")
  let mappings ← declaredMappings (document.get "mappings")
  return {
    project := projectName fallback (document.get "project")
    owners := ownerLabels document
    sources := Keyed.collect Source.id (declaredSources (document.get "sources"))
    tables := Keyed.collect Table.key tables
    mappings := mappings
    redeclared := repeatedKeys [] (tables.map (·.key))
    ids_nodup := Keyed.nodup_collect Source.id _
    keys_nodup := Keyed.nodup_collect Table.key _ }

end SchemaAtlas.Schema
