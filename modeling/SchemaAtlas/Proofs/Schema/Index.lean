import SchemaAtlas.Proofs.Document.Display
import SchemaAtlas.Proofs.Schema.Declared
import SchemaAtlas.Proofs.Schema.Readable

/-! # Tables under their keys

While the target groups are walked through, every table is stored under the key that its group and
its name give, and a key that is stored over is recorded. At any time the record counts each key one
time less than it was declared. When all groups are read every table stands under its own key, so the
graph that is built from the tables is never found corrupted.
-/

namespace SchemaAtlas.Schema

open Document Structure

/-- Tables under keys, and the keys that were stored over. -/
structure TableIndex where
  tables : List (TableKey × Table) := []
  redeclared : List TableKey := []

/-- Store a table under a key, and record the key when it is stored over. -/
def TableIndex.declare (index : TableIndex) (key : TableKey) (table : Table) : TableIndex where
  tables := Keyed.store Prod.fst (key, table) index.tables
  redeclared :=
    if Keyed.has Prod.fst key index.tables then index.redeclared ++ [key] else index.redeclared

/-- Read a table, and store it under the key that its group and its name give. -/
def TableIndex.read (index : TableIndex) (raw : RawTable) : Except Obstacle TableIndex :=
  (Table.ofEntries? (shownKey raw) raw.entries).map (index.declare (shownKey raw))

/-- Read the tables of a group that are not passed over. -/
def TableIndex.readGroup (index : TableIndex) (group : Entries) : Except Obstacle TableIndex := do
  ((namedEntries "name" (← walk (group.get "tables"))).map (RawTable.mk group)).foldlM
    TableIndex.read index

/-- The index of the tables that target groups declare. -/
def indexTables (targets : Value) : Except Obstacle TableIndex :=
  (listedEntries targets).foldlM TableIndex.readGroup {}

/-- The index of the sources that a list declares, each stored under the id that it shows. -/
def indexSources (sources : Value) : List (String × Source) :=
  Keyed.collect Prod.fst (((listedEntries sources).filter fun raw => (raw.get "id").isTruthy).map
    fun raw => ((raw.get "id").display, Source.ofEntries raw))

section Repetitions

theorem repeatedKeys_concat (seen keys : List TableKey) (last : TableKey) :
    repeatedKeys seen (keys ++ [last]) =
      repeatedKeys seen keys ++ if last ∈ seen ∨ last ∈ keys then [last] else [] := by
  induction keys generalizing seen with
  | nil => by_cases known : last ∈ seen <;> simp [repeatedKeys, known]
  | cons key keys ih =>
    rw [List.cons_append, repeatedKeys, repeatedKeys]
    by_cases known : seen.contains key = true
    · have same : last = key → last ∈ seen := fun equal => by simpa [equal] using known
      rw [if_pos known, if_pos known, ih, List.cons_append]
      by_cases equal : last = key
      · simp [same equal]
      · simp [equal]
    · rw [if_neg known, if_neg known, ih]
      simp only [List.mem_cons, or_assoc, or_left_comm]

/-- Every declaration of a key but its first repeats it. -/
theorem count_repeatedKeys (keys : List TableKey) (key : TableKey) :
    (repeatedKeys [] keys).count key = keys.count key - 1 := by
  induction keys using List.reverseRecOn with
  | nil => rfl
  | append_singleton keys last ih =>
    rw [repeatedKeys_concat, List.count_append, List.count_append, ih]
    by_cases same : last = key
    · subst same
      by_cases known : last ∈ keys
      · have declared : 0 < keys.count last := List.count_pos_iff.mpr known
        simp only [known, or_true, if_true, List.count_singleton_self]
        omega
      · simp [known, List.count_eq_zero_of_not_mem known]
    · have other (condition : Prop) [Decidable condition] :
          (if condition then [last] else []).count key = 0 := by
        split <;> simp [same]
      rw [other]
      simp [same]

theorem length_collect_add_repeated (tables : List Table) :
    (Keyed.collect Table.key tables).length + (repeatedKeys [] (tables.map Table.key)).length =
      tables.length := by
  have repeated := length_repeatedKeys [] (tables.map Table.key)
  simp only [List.contains_nil, Bool.not_false, List.filter_true] at repeated
  rw [← Keyed.map_collect, List.length_map, List.length_map] at repeated
  omega

end Repetitions

/-- An index holds the last of some tables under each of their keys, and its record is that of their
repetitions. -/
structure TableIndex.Holds (index : TableIndex) (declared : List Table) : Prop where
  tables : index.tables = (Keyed.collect Table.key declared).map fun table => (table.key, table)
  redeclared : index.redeclared = repeatedKeys [] (declared.map Table.key)

section Tables

variable {index next : TableIndex} {declared tables : List Table} {raws : List RawTable}

theorem TableIndex.holds_nil : TableIndex.Holds {} [] := ⟨rfl, rfl⟩

/-- Declaring one more table keeps the record in step with what is stored over. -/
theorem TableIndex.Holds.declare (holds : index.Holds declared) (table : Table) :
    (index.declare table.key table).Holds (declared ++ [table]) := by
  have known : Keyed.has Prod.fst table.key index.tables = true ↔
      table.key ∈ declared.map Table.key := by
    rw [holds.tables, Keyed.has_pair, Keyed.map_collect, List.mem_eraseDups]
  constructor
  · rw [TableIndex.declare, holds.tables, Keyed.store_pair, Keyed.collect_concat]
  · rw [List.map_append, List.map_cons, List.map_nil, repeatedKeys_concat, TableIndex.declare,
      holds.redeclared]
    by_cases repeated : table.key ∈ declared.map Table.key
    · rw [if_pos (known.mpr repeated), if_pos (.inr repeated)]
    · rw [if_neg (known.not.mpr repeated), if_neg (by simpa using repeated), List.append_nil]

/-- Reading tables one after the other declares each under its own key. -/
theorem TableIndex.Holds.read (holds : index.Holds declared)
    (success : raws.mapM (fun raw => Table.ofEntries? (shownKey raw) raw.entries) = .ok tables) :
    ∃ last, raws.foldlM TableIndex.read index = .ok last ∧ last.Holds (declared ++ tables) := by
  have paired := Attempt.mapM_eq_ok_iff.mp success
  clear success
  induction paired generalizing index declared with
  | nil => exact ⟨index, rfl, by rwa [List.append_nil]⟩
  | @cons raw table _ rest here _ ih =>
    have own : table.key = shownKey raw := key_of_table here
    obtain ⟨last, behind, result⟩ := ih (holds.declare table)
    refine ⟨last, ?_, ?_⟩
    · rw [List.foldlM_cons, TableIndex.read, here]
      rw [own] at behind
      exact behind
    · rwa [List.append_assoc] at result

theorem TableIndex.readGroup_eq_ok {group : Entries}
    (walkable : isWalkable (group.get "tables") = true)
    (success : (namedTablesIn group).foldlM TableIndex.read index = .ok next) :
    index.readGroup group = .ok next := by
  obtain ⟨items, walked⟩ := exists_walk_iff.mpr walkable
  rw [namedTablesIn, itemsOf_of_walk walked] at success
  exact Attempt.bind_eq_ok_iff.mpr ⟨items, walked, success⟩

theorem TableIndex.foldlM_readGroup_eq_ok {groups : List Entries}
    (walkable : ∀ group ∈ groups, isWalkable (group.get "tables") = true)
    (success : (groups.flatMap namedTablesIn).foldlM TableIndex.read index = .ok next) :
    groups.foldlM TableIndex.readGroup index = .ok next := by
  induction groups generalizing index with
  | nil => exact success
  | cons group rest ih =>
    obtain ⟨here, behind⟩ := List.forall_mem_cons.mp walkable
    rw [List.flatMap_cons, List.foldlM_append] at success
    obtain ⟨between, first, success⟩ := Attempt.bind_eq_ok_iff.mp success
    rw [List.foldlM_cons]
    exact Attempt.bind_eq_ok_iff.mpr ⟨between, readGroup_eq_ok here first, ih behind success⟩

/-- Groups whose tables can be read are indexed. -/
theorem exists_indexTables {document : Entries}
    (success : declaredTables (document.get "targets") = .ok tables) :
    ∃ index, indexTables (document.get "targets") = .ok index ∧ index.Holds tables := by
  obtain ⟨walkable, read⟩ := declaredTables_eq_ok_iff.mp success
  obtain ⟨index, indexed, holds⟩ := TableIndex.holds_nil.read read
  exact ⟨index, TableIndex.foldlM_readGroup_eq_ok walkable indexed, holds⟩

end Tables

/-- Indexes in which everything stands under its own key hold nothing corrupted. -/
theorem ofIndexes?_keyed (tables : List Table) (sources : List Source) :
    ofIndexes? (tables.map fun table => (table.key, table))
      (sources.map fun source => (source.id, source)) = .ok (tables, sources) := by
  have noTable : (tables.map fun table => (table.key, table)).find?
      (fun entry => entry.1 != entry.2.key) = none := by simp
  have noSource : (sources.map fun source => (source.id, source)).find?
      (fun entry => entry.1 != entry.2.id) = none := by simp
  rw [ofIndexes?, noTable, noSource]
  simp [Function.comp_def]

theorem shownKey_ne_empty {document : Entries} {raw : RawTable}
    (member : raw ∈ namedTables document) : (shownKey raw).schema ≠ "" ∧ (shownKey raw).table ≠ "" := by
  obtain ⟨group, _, member⟩ := List.mem_flatMap.mp member
  obtain ⟨entries, inside, rfl⟩ := List.mem_map.mp member
  constructor
  · rw [shownKey]
    dsimp only
    split
    · next present => exact Value.display_ne_empty present
    · simp [defaultSchema]
  · exact Value.display_ne_empty ((mem_namedEntries_iff.mp inside).2)

/-- A graph is what the indexes of its document hold. -/
structure Indexed (document : Entries) (index : TableIndex) (graph : Graph) : Prop where
  /-- Nothing is found corrupted. -/
  built : ofIndexes? index.tables (indexSources (document.get "sources")) =
    .ok (graph.tables, graph.sources)
  redeclared : graph.redeclared = index.redeclared
  /-- A table stands under its own key. -/
  own : ∀ entry ∈ index.tables, entry.1 = entry.2.key
  /-- A table is the last one declared under its key, and the names that its columns were stored
  under are their own. -/
  columns : ∀ table ∈ graph.tables, ∃ last,
    ((namedTables document).filter fun raw => decide (shownKey raw = table.key)).getLast? =
      some last ∧
    table.columns.map Column.name =
      ((rawColumns last.entries).map fun own => (own.get "name").display).eraseDups
  names : ∀ table ∈ graph.tables, table.key.schema ≠ "" ∧ table.key.table ≠ ""
  ids : ∀ source ∈ graph.sources, source.id ≠ ""
  /-- A declaration either brings a table or is counted as a repetition. -/
  count : (namedTables document).length = graph.tables.length + graph.redeclared.length
  /-- A key is recorded once for each declaration but the first. -/
  repetitions : ∀ key, graph.redeclared.count key =
    ((namedTables document).map shownKey).count key - 1
  known : ∀ key ∈ graph.redeclared, key ∈ graph.tables.map Table.key
  numbers : graph.mappings.map Mapping.index =
    List.range (listedItems (document.get "mappings")).length

section Documents

variable {fallback : String} {document : Value} {graph : Graph} {tables : List Table}

/-- Tables are read under the keys that their groups and their names give. -/
theorem keys_of_read {raws : List RawTable}
    (read : raws.mapM (fun raw => Table.ofEntries? (shownKey raw) raw.entries) = .ok tables) :
    tables.map Table.key = raws.map shownKey :=
  Attempt.map_eq_of_mapM read fun _ _ here => key_of_table here

theorem indexes_of_declaredMappings {mappings : Value} {read : List Mapping}
    (success : declaredMappings mappings = .ok read) :
    read.map Mapping.index = List.range (listedItems mappings).length := by
  rw [declaredMappings_eq] at success
  rw [List.range_eq_range', ← List.zipIdx_map_snd 0]
  refine Attempt.map_eq_of_mapM success ?_
  rintro ⟨item, index⟩ mapping here
  obtain ⟨tags, _, same⟩ := Attempt.bind_eq_ok_iff.mp here
  cases same
  rfl

/-- A table of a graph is read from the last declaration under its key. -/
theorem exists_last_of_read (success : Graph.ofDocument? fallback document = .ok graph)
    {table : Table} (member : table ∈ graph.tables) :
    ∃ last, ((namedTables document.entries).filter fun raw =>
        decide (shownKey raw = table.key)).getLast? = some last ∧
      Table.ofEntries? (shownKey last) last.entries = .ok table := by
  have whole : Graph.ofDocument? fallback (.dict document.entries) = .ok graph := success
  obtain ⟨tables, declared, _, stored, _⟩ := parts_of_ofDocument whole
  obtain ⟨_, read⟩ := declaredTables_eq_ok_iff.mp declared
  have same : List.Forall₂
      (fun raw (table : Table) => Table.ofEntries? (shownKey raw) raw.entries = .ok table)
      ((namedTables document.entries).filter fun raw => decide (shownKey raw = table.key))
      (tables.filter fun other => decide (other.key = table.key)) := by
    refine List.rel_filter (fun raw other here => ?_) (Attempt.mapM_eq_ok_iff.mp read)
    simp [key_of_table here]
  rw [stored] at member
  obtain ⟨last, found, here⟩ :=
    Keyed.getLast?_of_forall₂ same (Keyed.getLast?_of_mem_collect member)
  exact ⟨last, found, here⟩

/-- Whatever document a graph is read from, it is what the indexes hold. -/
theorem indexed_of_read (success : Graph.ofDocument? fallback document = .ok graph) :
    ∃ index, indexTables (document.entries.get "targets") = .ok index ∧
      Indexed document.entries index graph := by
  have whole : Graph.ofDocument? fallback (.dict document.entries) = .ok graph := success
  obtain ⟨tables, declared, mappings, stored, redeclared, sources⟩ := parts_of_ofDocument whole
  obtain ⟨index, indexed, holds⟩ := exists_indexTables declared
  obtain ⟨_, read⟩ := declaredTables_eq_ok_iff.mp declared
  have keys := keys_of_read read
  have length : (namedTables document.entries).length = tables.length := by
    rw [← List.length_map shownKey, ← keys, List.length_map]
  have shown : ∀ table ∈ graph.tables, table.key ∈ (namedTables document.entries).map shownKey := by
    intro table member
    have stands := List.mem_map_of_mem (f := Table.key) member
    rwa [stored, Keyed.map_collect, List.mem_eraseDups, keys] at stands
  refine ⟨index, indexed, ?_⟩
  constructor
  · have ids : indexSources (document.entries.get "sources") =
        graph.sources.map fun source => (source.id, source) := by
      rw [sources, ← Keyed.collect_pair, declaredSources, List.map_map]
      rfl
    rw [holds.tables, ← stored, ids, ofIndexes?_keyed]
  · rw [redeclared, holds.redeclared]
  · intro entry member
    rw [holds.tables] at member
    obtain ⟨table, _, rfl⟩ := List.mem_map.mp member
    rfl
  · intro table member
    obtain ⟨last, found, here⟩ := exists_last_of_read success member
    exact ⟨last, found, names_of_table here⟩
  · intro table member
    obtain ⟨raw, inside, same⟩ := List.mem_map.mp (shown table member)
    exact same ▸ shownKey_ne_empty inside
  · intro source member
    rw [sources] at member
    have declared := List.mem_filter.mp (List.mem_of_getLast? (Keyed.getLast?_of_mem_collect member))
    obtain ⟨raw, inside, rfl⟩ := List.mem_map.mp declared.1
    exact Value.display_ne_empty (List.mem_filter.mp inside).2
  · rw [length, ← length_collect_add_repeated, stored, redeclared]
  · intro key
    rw [redeclared, count_repeatedKeys, keys]
  · intro key member
    have recorded := List.count_pos_iff.mpr member
    rw [redeclared, count_repeatedKeys] at recorded
    rw [stored, Keyed.map_collect, List.mem_eraseDups, ← List.count_pos_iff]
    omega
  · exact indexes_of_declaredMappings mappings

/-- Three groups declare one table, by a number and by texts; entries without a name, and others that
are no dictionaries, stand between them. -/
def looseDocument : Value :=
  let record (entries : List (String × Value)) : Value := .dict (Entries.named entries)
  let table (name : Value) (columns : List Value) : Value :=
    record [("name", name),
      ("columns", .list (columns.map fun name => record [("name", name)]))]
  record [
    ("targets", .list [
      .int 5,
      record [("db", .int 7),
        ("tables", .list [table (.int 1) [.text "a"], .null, table (.text "") []])],
      record [("db", .text "7"), ("schema", .text "public"),
        ("tables", .list [table (.text "1") [.text "b"], table (.text "2") []])],
      record [("db", .int 7), ("schema", .null),
        ("tables", .list [table (.int 1) [.int 1, .text "c", .text "1"]])]]),
    ("sources", .list [record [("id", .bool true)], .text "crm", record [("id", .text "True")]]),
    ("mappings", .list [.text "7.public.1.c", .int 5, record []])]

/-- The declarations of the table are counted under one key, and the last one is kept. -/
theorem indexed_looseDocument :
    ∃ graph, Graph.ofDocument? "untitled" looseDocument = .ok graph ∧
      (∃ index, indexTables (looseDocument.entries.get "targets") = .ok index ∧
        Indexed looseDocument.entries index graph) ∧
      graph.tables.map (fun table => (table.key, table.columns.map Column.name)) =
        [(⟨"7", "public", "1"⟩, ["1", "c"]), (⟨"7", "public", "2"⟩, [])] ∧
      graph.redeclared = [⟨"7", "public", "1"⟩, ⟨"7", "public", "1"⟩] ∧
      graph.sources.map Source.id = ["True"] :=
  ⟨_, rfl, indexed_of_read rfl, rfl, rfl, rfl⟩

end Documents

end SchemaAtlas.Schema
