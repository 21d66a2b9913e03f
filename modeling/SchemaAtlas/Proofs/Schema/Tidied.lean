import SchemaAtlas.Proofs.Document.Entries
import SchemaAtlas.Proofs.Schema.Shown

/-! # Malformed entries make no difference

Entries that reading passes over can be taken out of a document beforehand, and a mapping that is no
dictionary can be written as one that has a target only: whatever can be read gives the same graph,
and shows the same values on the way. So a document either is readable and has the graph of what is
well formed in it, or it stops the reading, and so does a value that is too long to be written.
-/

namespace SchemaAtlas.Schema

open Document Structure

/-- Whether a table-level foreign key has a reference. -/
def hasReference (declaration : Value) : Bool :=
  match declaration with
  | .dict entries => match Entries.get entries "references" with | .dict _ => true | _ => false
  | _ => false

/-- A table without the columns and the foreign keys that are passed over. -/
def tidiedTable (raw : Entries) : Entries :=
  (raw.set "columns" (.list ((rawColumns raw).map .dict))).set "foreign_keys"
    (.list ((itemsOf (raw.get "foreign_keys")).filter hasReference))

/-- A group without the tables that are passed over. -/
def tidiedGroup (group : Entries) : Entries :=
  let tables := namedEntries "name" (itemsOf (group.get "tables"))
  group.set "tables" (.list (tables.map fun raw => .dict (tidiedTable raw)))

/-- A mapping as a dictionary. -/
def tidiedMapping : Value → Value
  | .dict entries => .dict entries
  | other => .dict (Entries.named [("target", other)])

/-- A document without the entries that are passed over. -/
def tidied (document : Entries) : Entries :=
  let targets := (listedEntries (document.get "targets")).map fun group => .dict (tidiedGroup group)
  let sources := sourceEntries (document.get "sources")
  let mappings := (listedItems (document.get "mappings")).map tidiedMapping
  ((document.set "targets" (.list targets)).set "sources" (.list (sources.map .dict))).set "mappings"
    (.list mappings)

section Tables

variable {raw : Entries} {key : TableKey} {table : Table}

theorem itemsOf_list (items : List Value) : itemsOf (.list items) = items := by
  cases items <;> rfl

theorem get_tidiedTable_of_ne {name : String} (columns : name ≠ "columns")
    (foreign : name ≠ "foreign_keys") : (tidiedTable raw).get name = raw.get name := by
  rw [tidiedTable, Entries.get_set, if_neg foreign.symm, Entries.get_set, if_neg columns.symm]

theorem get_tidiedTable_columns :
    (tidiedTable raw).get "columns" = .list ((rawColumns raw).map .dict) := by
  rw [tidiedTable, Entries.get_set, if_neg (by decide), Entries.get_set, if_pos rfl]

theorem get_tidiedTable_foreignKeys : (tidiedTable raw).get "foreign_keys" =
    .list ((itemsOf (raw.get "foreign_keys")).filter hasReference) := by
  rw [tidiedTable, Entries.get_set, if_pos rfl]

theorem rawColumns_tidiedTable : rawColumns (tidiedTable raw) = rawColumns raw := by
  rw [rawColumns, get_tidiedTable_columns, itemsOf_list]
  exact namedEntries_eq fun own member => (mem_namedEntries_iff.mp member).2

theorem declaredColumns_tidiedTable : declaredColumns (tidiedTable raw) = declaredColumns raw := by
  rw [declaredColumns, rawColumns_tidiedTable, declaredColumns]

theorem claimsOf_of_no_reference {declaration : Value} (none : hasReference declaration = false) :
    claimsOf declaration = [] := by
  cases declaration with
  | dict entries =>
    cases held : Entries.get entries "references" with
    | dict references => simp [hasReference, held] at none
    | _ => simp only [claimsOf, held]
  | _ => rfl

/-- A foreign key without a reference makes no claims. -/
theorem claims_tidiedTable : claims (tidiedTable raw) = claims raw := by
  rw [claims, claims, get_tidiedTable_foreignKeys, itemsOf_list]
  induction itemsOf (raw.get "foreign_keys") with
  | nil => rfl
  | cons declaration rest ih =>
    cases kept : hasReference declaration with
    | true => rw [List.filter_cons_of_pos kept, List.flatMap_cons, List.flatMap_cons, ih]
    | false =>
      rw [List.filter_cons_of_neg (by simp [kept]), ih, List.flatMap_cons,
        claimsOf_of_no_reference kept, List.nil_append]

theorem folded?_tidiedTable : Column.folded? (tidiedTable raw) = Column.folded? raw := by
  funext column
  rw [Column.folded?, Column.folded?, claims_tidiedTable,
    get_tidiedTable_of_ne (by decide) (by decide)]

theorem Followable.tidied (followable : Followable raw) : Followable (tidiedTable raw) := by
  refine ⟨?_, ?_, ?_⟩
  · rw [get_tidiedTable_of_ne (by decide) (by decide)]
    exact followable.keys
  · rw [get_tidiedTable_foreignKeys]
    exact ⟨_, walk_of_list rfl⟩
  · rw [get_tidiedTable_foreignKeys, itemsOf_list]
    exact fun declaration member => followable.links declaration (List.mem_of_mem_filter member)

/-- A table is read alike without what is passed over in it. -/
theorem table_of_tidied (success : Table.ofEntries? key raw = .ok table) :
    Table.ofEntries? key (tidiedTable raw) = .ok table := by
  have nodup : ((declaredColumns raw).map Column.name).Nodup := Keyed.nodup_collect Column.name _
  obtain ⟨_, known, own, description, owner⟩ := ofEntries?_eq_ok_iff.mp success
  obtain ⟨followable, folded⟩ := (keyedColumns?_eq_ok_iff nodup).mp known
  refine ofEntries?_eq_ok_iff.mpr ⟨?_, ?_, own, ?_, ?_⟩
  · rw [get_tidiedTable_columns]
    exact ⟨_, walk_of_list rfl⟩
  · rw [declaredColumns_tidiedTable]
    refine (keyedColumns?_eq_ok_iff nodup).mpr ⟨followable.tidied, ?_⟩
    rwa [folded?_tidiedTable]
  · rwa [get_tidiedTable_of_ne (by decide) (by decide)]
  · rwa [get_tidiedTable_of_ne (by decide) (by decide)]

end Tables

section Groups

variable {group : Entries}

/-- A table without what is passed over, in its group without the tables that are. -/
def tidiedRaw (raw : RawTable) : RawTable := ⟨tidiedGroup raw.group, tidiedTable raw.entries⟩

theorem get_tidiedGroup_of_ne {name : String} (other : name ≠ "tables") :
    (tidiedGroup group).get name = group.get name := by
  rw [tidiedGroup, Entries.get_set, if_neg other.symm]

theorem shownKey_tidiedRaw (raw : RawTable) : shownKey (tidiedRaw raw) = shownKey raw := by
  unfold shownKey tidiedRaw
  dsimp only
  rw [get_tidiedGroup_of_ne (by decide), get_tidiedGroup_of_ne (by decide),
    get_tidiedTable_of_ne (by decide) (by decide)]

theorem namedEntries_tidiedGroup :
    namedEntries "name" (itemsOf ((tidiedGroup group).get "tables")) =
      (namedEntries "name" (itemsOf (group.get "tables"))).map tidiedTable := by
  have named : ∀ raw ∈ (namedEntries "name" (itemsOf (group.get "tables"))).map tidiedTable,
      (raw.get "name").isTruthy = true := by
    intro raw member
    obtain ⟨own, inside, rfl⟩ := List.mem_map.mp member
    rw [get_tidiedTable_of_ne (by decide) (by decide)]
    exact (mem_namedEntries_iff.mp inside).2
  have tables : itemsOf ((tidiedGroup group).get "tables") =
      ((namedEntries "name" (itemsOf (group.get "tables"))).map tidiedTable).map .dict := by
    rw [tidiedGroup, Entries.get_set, if_pos rfl, itemsOf_list, List.map_map]
    rfl
  rw [tables, namedEntries_eq named]

theorem namedTablesIn_tidiedGroup :
    namedTablesIn (tidiedGroup group) = (namedTablesIn group).map tidiedRaw := by
  rw [namedTablesIn, namedEntries_tidiedGroup, namedTablesIn, List.map_map, List.map_map]
  rfl

/-- A group is read alike without what is passed over in it. -/
theorem groupTables_tidiedGroup {tables : List Table} (success : groupTables group = .ok tables) :
    groupTables (tidiedGroup group) = .ok tables := by
  obtain ⟨_, read⟩ := groupTables_eq_ok_iff.mp success
  refine groupTables_eq_ok_iff.mpr ⟨?_, ?_⟩
  · rw [tidiedGroup, Entries.get_set, if_pos rfl]
    rfl
  · rw [namedTablesIn_tidiedGroup, List.mapM_map]
    refine Attempt.mapM_eq_ok_iff.mpr ((Attempt.mapM_eq_ok_iff.mp read).imp fun raw table here => ?_)
    dsimp only [Function.comp_apply]
    rw [shownKey_tidiedRaw]
    exact table_of_tidied here

end Groups

section Documents

variable {document : Entries} {tables : List Table}

theorem get_tidied_of_ne {name : String} (known : name ∉ ["targets", "sources", "mappings"]) :
    (tidied document).get name = document.get name := by
  simp only [List.mem_cons, List.not_mem_nil, or_false, not_or] at known
  obtain ⟨targets, sources, mappings⟩ := known
  rw [tidied, Entries.get_set, if_neg (Ne.symm mappings), Entries.get_set,
    if_neg (Ne.symm sources), Entries.get_set, if_neg (Ne.symm targets)]

theorem listedEntries_list (raws : List Entries) : listedEntries (.list (raws.map .dict)) = raws := by
  rw [listedEntries, List.filterMap_map]
  exact List.filterMap_some

theorem listedEntries_tidied : listedEntries ((tidied document).get "targets") =
    (listedEntries (document.get "targets")).map tidiedGroup := by
  rw [tidied]
  simp only [Entries.get_set]
  rw [← listedEntries_list (List.map _ _), List.map_map]
  rfl

theorem declaredTables_tidied (success : declaredTables (document.get "targets") = .ok tables) :
    declaredTables ((tidied document).get "targets") = .ok tables := by
  obtain ⟨lists, read, same⟩ := Attempt.bind_eq_ok_iff.mp success
  refine Attempt.bind_eq_ok_iff.mpr ⟨lists, ?_, same⟩
  rw [listedEntries_tidied, List.mapM_map]
  exact Attempt.mapM_eq_ok_iff.mpr ((Attempt.mapM_eq_ok_iff.mp read).imp fun _ _ here =>
    groupTables_tidiedGroup here)

theorem sourceEntries_tidied :
    sourceEntries ((tidied document).get "sources") = sourceEntries (document.get "sources") := by
  have sources : (tidied document).get "sources" =
      .list ((sourceEntries (document.get "sources")).map .dict) := by
    rw [tidied]
    simp only [Entries.get_set]
    rfl
  rw [sources, sourceEntries, listedEntries_list, sourceEntries, List.filter_filter]
  simp only [Bool.and_self]

theorem ofValue_tidiedMapping (index : Nat) (item : Value) :
    Mapping.ofValue index (tidiedMapping item) = Mapping.ofValue index item := by
  cases item <;> rfl

theorem get_mappings_tidied : (tidied document).get "mappings" =
    .list ((listedItems (document.get "mappings")).map tidiedMapping) := by
  rw [tidied]
  simp only [Entries.get_set]
  rfl

theorem declaredMappings_tidied :
    declaredMappings ((tidied document).get "mappings") =
      declaredMappings (document.get "mappings") := by
  rw [get_mappings_tidied, declaredMappings_eq, listedItems, List.zipIdx_map, List.mapM_map,
    declaredMappings_eq]
  exact congrArg (List.mapM · _) (funext fun _ => ofValue_tidiedMapping _ _)

theorem ownersOf_tidied : ownersOf (tidied document) = ownersOf document := by
  rw [ownersOf, get_tidied_of_ne (by decide), get_tidied_of_ne (by decide), ownersOf]

/-- A document that can be read has the graph of what is well formed in it. -/
theorem graph_of_tidied {fallback : String} {graph : Graph}
    (success : Graph.ofDocument? fallback (.dict document) = .ok graph) :
    Graph.ofDocument? fallback (.dict (tidied document)) = .ok graph := by
  have owners : ownerLabels (tidied document) = ownerLabels document := by
    rw [ownerLabels, ownersOf_tidied, ownerLabels]
  have sources : declaredSources ((tidied document).get "sources") =
      declaredSources (document.get "sources") := by
    rw [declaredSources, sourceEntries_tidied, declaredSources]
  have project : (tidied document).get "project" = document.get "project" :=
    get_tidied_of_ne (by decide)
  obtain ⟨tables, tablesRead, success⟩ := Attempt.bind_eq_ok_iff.mp success
  obtain ⟨mappings, mappingsRead, success⟩ := Attempt.bind_eq_ok_iff.mp success
  cases success
  refine Attempt.bind_eq_ok_iff.mpr ⟨tables, declaredTables_tidied tablesRead, ?_⟩
  refine Attempt.bind_eq_ok_iff.mpr ⟨mappings, declaredMappings_tidied.trans mappingsRead, ?_⟩
  simp only [Value.entries, sources, owners, project]
  rfl

end Documents

section Shown

variable {raw group document : Entries} {columns : List Column}

/-- A foreign key without a reference shows nothing and changes no column. -/
theorem declarationsShown_filter (declarations : List Value) :
    declarationsShown columns (declarations.filter hasReference) =
      declarationsShown columns declarations := by
  induction declarations generalizing columns with
  | nil => rfl
  | cons declaration rest ih =>
    cases kept : hasReference declaration with
    | true =>
      rw [List.filter_cons_of_pos kept, declarationsShown, declarationsShown]
      simp only [ih]
    | false =>
      have nothing : declarationShown columns declaration = [] ∧
          linkDeclaration columns declaration = .ok columns := by
        cases declaration with
        | dict entries =>
          cases held : Entries.get entries "references" with
          | dict references => simp [hasReference, held] at kept
          | _ => simp [declarationShown, linkDeclaration, held]
        | _ => exact ⟨rfl, rfl⟩
      rw [List.filter_cons_of_neg (by simp [kept]), ih, declarationsShown, nothing.1,
        after_of_ok nothing.2, List.nil_append]

theorem keysShown_tidiedTable (walkable : isWalkable (raw.get "foreign_keys") = true) :
    keysShown (tidiedTable raw) columns = keysShown raw columns := by
  obtain ⟨declarations, walked⟩ := exists_walk_iff.mpr walkable
  have tidy : walk (.list ((itemsOf (raw.get "foreign_keys")).filter hasReference)) =
      .ok ((itemsOf (raw.get "foreign_keys")).filter hasReference) := walk_of_list rfl
  rw [itemsOf_of_walk walked] at tidy
  rw [keysShown, get_tidiedTable_of_ne (by decide) (by decide), get_tidiedTable_foreignKeys,
    itemsOf_of_walk walked, keysShown, walked, tidy]
  simp only [after, declarationsShown_filter]

/-- A table that can be read shows nothing of what is passed over in it. -/
theorem tableShown_tidiedTable (readable : ReadableTable raw) :
    tableShown (tidiedTable raw) = tableShown raw := by
  obtain ⟨table, success⟩ : ∃ table, Table.ofEntries? default raw = .ok table :=
    exists_table_iff_readable.mpr readable
  rw [tableShown_of_ok (table_of_tidied success), tableShown_of_ok success,
    declaredColumns_tidiedTable, rawColumns_tidiedTable, keysShown_tidiedTable readable.foreign,
    get_tidiedTable_of_ne (by decide) (by decide), get_tidiedTable_of_ne (by decide) (by decide)]

/-- A group that can be read shows nothing of what is passed over in it. -/
theorem groupShown_tidiedGroup {tables : List Table} (success : groupTables group = .ok tables)
    (tidy : groupTables (tidiedGroup group) = .ok tables) :
    groupShown (tidiedGroup group) = groupShown group := by
  have raws : ∀ raw ∈ namedEntries "name" (itemsOf (group.get "tables")), ReadableTable raw := by
    obtain ⟨_, each⟩ := groupTables_eq_ok_iff.mp success
    intro raw member
    exact exists_table_iff_readable.mp
      (Attempt.exists_mapM_iff.mp ⟨tables, each⟩ ⟨group, raw⟩ (List.mem_map_of_mem member))
  rw [groupShown_of_ok tidy, groupShown_of_ok success, get_tidiedGroup_of_ne (by decide),
    get_tidiedGroup_of_ne (by decide), namedEntries_tidiedGroup, List.flatMap_map]
  congr 1
  refine List.flatMap_congr fun raw member => ?_
  rw [get_tidiedTable_of_ne (by decide) (by decide), tableShown_tidiedTable (raws raw member)]

/-- A document that can be read shows nothing of what is passed over in it. -/
theorem shown_tidied {tables : List Table} {mappings : List Mapping}
    (tablesRead : declaredTables (document.get "targets") = .ok tables)
    (mappingsRead : declaredMappings (document.get "mappings") = .ok mappings) :
    shown (tidied document) = shown document := by
  have groups : ((listedEntries (document.get "targets")).map tidiedGroup).flatMap groupShown =
      (listedEntries (document.get "targets")).flatMap groupShown := by
    obtain ⟨lists, read, _⟩ := Attempt.bind_eq_ok_iff.mp tablesRead
    rw [List.flatMap_map]
    refine List.flatMap_congr fun group member => ?_
    obtain ⟨tables, success⟩ := Attempt.exists_mapM_iff.mp ⟨lists, read⟩ group member
    exact groupShown_tidiedGroup success (groupTables_tidiedGroup success)
  have mapped : (listedItems ((tidied document).get "mappings")).flatMap mappingShown =
      (listedItems (document.get "mappings")).flatMap mappingShown := by
    rw [get_mappings_tidied, listedItems, List.flatMap_map]
    refine List.flatMap_congr fun item _ => ?_
    cases item <;> rfl
  rw [shown_of_ok tablesRead mappingsRead, shown_of_ok (declaredTables_tidied tablesRead)
    (declaredMappings_tidied.trans mappingsRead), sourceEntries_tidied, listedEntries_tidied, groups,
    mapped, get_tidied_of_ne (by decide), ownersShown, ownersOf_tidied, ownersShown]

end Shown

/-- A document that is read is read alike without what is passed over in it. -/
theorem read?_tidied {fallback : String} {document : Value} {graph : Graph}
    (success : Graph.read? fallback document = .ok graph) :
    Graph.read? fallback (.dict (tidied document.entries)) = .ok graph := by
  obtain ⟨writable, read⟩ := read?_eq_ok_iff.mp success
  obtain ⟨tables, tablesRead, behind⟩ := Attempt.bind_eq_ok_iff.mp read
  obtain ⟨mappings, mappingsRead, _⟩ := Attempt.bind_eq_ok_iff.mp behind
  refine read?_eq_ok_iff.mpr ⟨?_, graph_of_tidied read⟩
  rwa [Value.entries, shown_tidied tablesRead mappingsRead]

/-- A document is readable, and malformed entries make no difference to its graph, or some value in
it stops the reading, unless a value that is shown before is too long to be written. -/
theorem read_or_stopped (fallback : String) (document : Value) :
    (Readable document.entries ∧ AllWritable (shown document.entries) ∧
      ∃ graph, Graph.read? fallback document = .ok graph ∧
        Graph.read? fallback (.dict (tidied document.entries)) = .ok graph) ∨
    (¬ Readable document.entries ∧ AllWritable (shown document.entries) ∧
      ∃ obstacle, Graph.read? fallback document = .error (.obstacle obstacle)) ∨
    (¬ AllWritable (shown document.entries) ∧
      Graph.read? fallback document = .error .tooLong) := by
  rw [← exists_graph_iff_readable fallback document]
  by_cases writable : AllWritable (shown document.entries)
  · cases read : Graph.ofDocument? fallback document with
    | ok graph =>
      have success := read?_eq_ok_iff.mpr ⟨writable, read⟩
      exact .inl ⟨⟨graph, rfl⟩, writable, graph, success, read?_tidied success⟩
    | error obstacle =>
      exact .inr (.inl ⟨by simp, writable, obstacle, read?_eq_obstacle_iff.mpr ⟨writable, read⟩⟩)
  · exact .inr (.inr ⟨writable, read?_eq_tooLong_iff.mpr writable⟩)

/-- A document with one table. -/
def documentOfTable (table : List (String × Value)) : Value :=
  .dict (Entries.named [("targets", .list [.dict (Entries.named [("db", .text "shop"),
    ("tables", .list [.dict (Entries.named (("name", .text "lines") :: table))])])])])

/-- Columns that are a number, a key name that is a list, and columns referred to that are a
dictionary or a number are not passed over. -/
theorem no_graph_of_malformed_tables :
    let column : Value := .dict (Entries.named [("name", .text "item")])
    let foreignKey (referred : Value) : Value := .dict (Entries.named [
      ("columns", .list [.text "item"]),
      ("references", .dict (Entries.named [("table", .text "items"), ("columns", referred)]))])
    Graph.read? "untitled" (documentOfTable [("columns", .int 5)]) =
      .error (.obstacle .notWalkable) ∧
    Graph.read? "untitled" (documentOfTable [("primary_key", .list [.list []])]) =
      .error (.obstacle .unhashable) ∧
    Graph.read? "untitled" (documentOfTable [("columns", .list [column]),
      ("foreign_keys", .list [foreignKey (.dict (Entries.named [("item", .text "id")]))])]) =
        .error (.obstacle .missingPosition) ∧
    Graph.read? "untitled" (documentOfTable [("columns", .list [column]),
      ("foreign_keys", .list [foreignKey (.int 5)])]) = .error (.obstacle .notIndexable) :=
  ⟨rfl, rfl, rfl, rfl⟩

end SchemaAtlas.Schema
