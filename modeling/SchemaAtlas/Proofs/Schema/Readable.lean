import SchemaAtlas.Proofs.Schema.Folds

/-! # Which documents can be read

Reading passes over what it cannot use, but it has to walk through some values, to look some up and
to index some. A document is readable when each of these values is of a kind that allows it, and
nothing else keeps it from being read. A column that several foreign keys of its table name asks for
one index only: that of the first claim on it, and none when it has a foreign key of its own.
-/

namespace SchemaAtlas.Schema

open Document Structure

/-- Whether a value can be walked through: it counts as absent, or it is a collection, a text or
octets. -/
def isWalkable : Value → Bool
  | .text _ => true
  | .scalar (.bytes _) => true
  | .scalar s => !(Value.scalar s).isTruthy
  | _ => true

/-- Whether a value has an item or null at a position. -/
def hasPosition : Value → Nat → Bool
  | .text _, _ => true
  | .scalar (.bytes _), _ => true
  | .scalar _, _ => false
  | .list _, _ => true
  | .tuple _, _ => true
  | .set members, position => decide (members.length ≤ position)
  | .dict entries, position =>
      decide (entries.length ≤ position) || (Entries.find? entries (.whole position)).isSome

/-- A table that can be read. -/
structure ReadableTable (raw : Entries) : Prop where
  columns : isWalkable (raw.get "columns") = true
  primary : isWalkable (raw.get "primary_key") = true
  keys : ∀ name ∈ itemsOf (raw.get "primary_key"), name.isHashable = true
  foreign : isWalkable (raw.get "foreign_keys") = true
  /-- The columns of a foreign key with a reference are walked through and looked up. -/
  named : ∀ entries references, .dict entries ∈ itemsOf (raw.get "foreign_keys") →
    Entries.get entries "references" = .dict references →
      isWalkable (Entries.get entries "columns") = true ∧
        ∀ name ∈ itemsOf (Entries.get entries "columns"), name.isHashable = true
  /-- A column without a foreign key of its own has its first claim indexed. -/
  referred : ∀ column ∈ declaredColumns raw, column.fk = none →
    ∀ claim, column.firstClaim? (claims raw) = some claim →
      hasPosition claim.referred claim.position = true

/-- The tables of a group that are not passed over: dictionaries with a name. -/
def namedTablesIn (group : Entries) : List RawTable :=
  (namedEntries "name" (itemsOf (group.get "tables"))).map (RawTable.mk group)

/-- The tables of a document that are not passed over, group by group. -/
def namedTables (document : Entries) : List RawTable :=
  (listedEntries (document.get "targets")).flatMap namedTablesIn

/-- A document that can be read. -/
structure Readable (document : Entries) : Prop where
  groups : ∀ group ∈ listedEntries (document.get "targets"),
    isWalkable (group.get "tables") = true
  tables : ∀ raw ∈ namedTables document, ReadableTable raw.entries
  mappings : ∀ entries, .dict entries ∈ listedItems (document.get "mappings") →
    isWalkable (Entries.get entries "tags") = true

section Values

theorem exists_walk_iff {value : Value} :
    (∃ items, walk value = .ok items) ↔ isWalkable value = true := by
  cases value with
  | scalar s =>
    cases s with
    | text s => by_cases empty : s = "" <;> simp [walk, isWalkable, Value.isTruthy, empty]
    | bytes octets => cases octets <;> simp [walk, isWalkable, Value.isTruthy]
    | bool b => cases b <;> simp [walk, isWalkable, Value.isTruthy]
    | int n => by_cases zero : n = 0 <;> simp [walk, isWalkable, Value.isTruthy, zero]
    | real x => cases zero : x.isZero <;> simp [walk, isWalkable, Value.isTruthy, zero]
    | _ => simp [walk, isWalkable, Value.isTruthy]
  | list items => cases items <;> simp [walk, isWalkable, Value.isTruthy]
  | tuple items => cases items <;> simp [walk, isWalkable, Value.isTruthy]
  | set members => cases members <;> simp [walk, isWalkable, Value.isTruthy]
  | dict entries => cases entries <;> simp [walk, isWalkable, Value.isTruthy]

theorem exists_itemAt_iff {value : Value} {position : Nat} :
    (∃ item, itemAt value position = .ok item) ↔ hasPosition value position = true := by
  cases value with
  | scalar s => cases s <;> simp [itemAt, hasPosition]
  | list items => simp [itemAt, hasPosition]
  | tuple items => simp [itemAt, hasPosition]
  | set members =>
    by_cases inside : position < members.length <;> simp [itemAt, hasPosition, inside]
    omega
  | dict entries =>
    by_cases inside : position < entries.length
    · cases found : Entries.find? entries (.whole position) <;>
        simp [itemAt, hasPosition, inside, found]
    · simp [itemAt, hasPosition, inside, Nat.le_of_not_lt inside]

theorem namesColumns_iff_walkable {value : Value} : namesColumns value = true ↔
    isWalkable value = true ∧ ∀ name ∈ itemsOf value, name.isHashable = true := by
  rw [namesColumns_iff, ← exists_walk_iff]
  constructor
  · rintro ⟨names, walked, hashable⟩
    exact ⟨⟨names, walked⟩, itemsOf_of_walk walked ▸ hashable⟩
  · rintro ⟨⟨names, walked⟩, hashable⟩
    exact ⟨names, walked, itemsOf_of_walk walked ▸ hashable⟩

end Values

section Tables

variable {raw : Entries}

theorem followable_iff : Followable raw ↔
    (isWalkable (raw.get "primary_key") = true ∧
      ∀ name ∈ itemsOf (raw.get "primary_key"), name.isHashable = true) ∧
    isWalkable (raw.get "foreign_keys") = true ∧
    ∀ entries references, .dict entries ∈ itemsOf (raw.get "foreign_keys") →
      Entries.get entries "references" = .dict references →
        isWalkable (Entries.get entries "columns") = true ∧
          ∀ name ∈ itemsOf (Entries.get entries "columns"), name.isHashable = true := by
  constructor
  · rintro ⟨keys, foreign, links⟩
    refine ⟨namesColumns_iff_walkable.mp keys, exists_walk_iff.mp foreign, ?_⟩
    intro entries references member held
    have followed := links _ member
    simp only [isFollowable, held] at followed
    exact namesColumns_iff_walkable.mp followed
  · rintro ⟨keys, foreign, named⟩
    refine ⟨namesColumns_iff_walkable.mpr keys, exists_walk_iff.mpr foreign, ?_⟩
    intro declaration member
    cases declaration with
    | dict entries =>
      cases held : Entries.get entries "references" with
      | dict references =>
        simp only [isFollowable, held]
        exact namesColumns_iff_walkable.mpr (named entries references member held)
      | _ => simp only [isFollowable, held]
    | _ => rfl

/-- A column can be settled when it has a foreign key, or its first claim can be indexed. -/
theorem exists_folded?_iff {column : Column} :
    (∃ folded, column.folded? raw = .ok folded) ↔
      (column.fk = none → ∀ claim, column.firstClaim? (claims raw) = some claim →
        hasPosition claim.referred claim.position = true) := by
  unfold Column.folded? Column.settled?
  split
  · next claim unlinked found =>
    have first : column.firstClaim? (claims raw) = some claim := found
    rw [first]
    constructor
    · rintro ⟨folded, given⟩ _ other same
      cases same
      cases indexed : itemAt claim.referred claim.position with
      | error obstacle =>
        rw [Claim.foreignKey?, indexed] at given
        cases given
      | ok item => exact exists_itemAt_iff.mp ⟨item, indexed⟩
    · intro indexed
      obtain ⟨item, there⟩ := exists_itemAt_iff.mpr (indexed unlinked claim rfl)
      rw [Claim.foreignKey?, there]
      exact ⟨_, rfl⟩
  · next claimless =>
    refine iff_of_true ⟨_, rfl⟩ ?_
    intro unlinked claim found
    exact (claimless claim unlinked found).elim

/-- A table can be read exactly when it is readable. -/
theorem exists_table_iff_readable {key : TableKey} :
    (∃ table, Table.ofEntries? key raw = .ok table) ↔ ReadableTable raw := by
  rw [exists_table_iff, exists_walk_iff, followable_iff]
  simp only [exists_folded?_iff]
  constructor
  · rintro ⟨columns, ⟨⟨primary, keys⟩, foreign, named⟩, referred⟩
    exact ⟨columns, primary, keys, foreign, named, referred⟩
  · rintro ⟨columns, primary, keys, foreign, named, referred⟩
    exact ⟨columns, ⟨⟨primary, keys⟩, foreign, named⟩, referred⟩

end Tables

section Documents

variable {targets mappings : Value} {tables : List Table}

/-- The key of a table, as reading shows the names of its group and its own. -/
def shownKey (raw : RawTable) : TableKey where
  db := displayOrEmpty (raw.group.get "db")
  schema := if (raw.group.get "schema").isTruthy then (raw.group.get "schema").display
    else defaultSchema
  table := (raw.entries.get "name").display

theorem groupTables_eq_ok_iff {group : Entries} :
    groupTables group = .ok tables ↔ isWalkable (group.get "tables") = true ∧
      (namedTablesIn group).mapM (fun raw => Table.ofEntries? (shownKey raw) raw.entries) =
        .ok tables := by
  rw [namedTablesIn, List.mapM_map, ← exists_walk_iff, groupTables, Attempt.bind_eq_ok_iff]
  constructor
  · rintro ⟨items, walked, success⟩
    rw [itemsOf_of_walk walked]
    exact ⟨⟨items, walked⟩, success⟩
  · rintro ⟨⟨items, walked⟩, success⟩
    rw [itemsOf_of_walk walked] at success
    exact ⟨items, walked, success⟩

/-- The tables that are declared are those that are not passed over, read one by one. -/
theorem declaredTables_eq_ok_iff {document : Entries} :
    declaredTables (document.get "targets") = .ok tables ↔
      (∀ group ∈ listedEntries (document.get "targets"),
        isWalkable (group.get "tables") = true) ∧
      (namedTables document).mapM (fun raw => Table.ofEntries? (shownKey raw) raw.entries) =
        .ok tables := by
  have groups (lists : List (List Table)) :
      (listedEntries (document.get "targets")).mapM groupTables = .ok lists ↔
        (∀ group ∈ listedEntries (document.get "targets"),
          isWalkable (group.get "tables") = true) ∧
        (listedEntries (document.get "targets")).mapM (fun group =>
          (namedTablesIn group).mapM fun raw => Table.ofEntries? (shownKey raw) raw.entries) =
            .ok lists := by
    rw [Attempt.mapM_eq_ok_iff, Attempt.mapM_eq_ok_iff, ← List.forall₂_and_left]
    simp only [groupTables_eq_ok_iff]
  rw [namedTables, Attempt.mapM_flatMap_eq_ok_iff, declaredTables, Attempt.bind_eq_ok_iff]
  constructor
  · rintro ⟨lists, read, whole⟩
    cases whole
    obtain ⟨walkable, success⟩ := (groups lists).mp read
    exact ⟨walkable, lists, success, rfl⟩
  · rintro ⟨walkable, lists, success, rfl⟩
    exact ⟨lists, (groups lists).mpr ⟨walkable, success⟩, rfl⟩

/-- The mapping of an item is the item's own, with its position. -/
theorem numberedMappings_eq (first : Nat) (items : List Value) :
    numberedMappings first items =
      (items.zipIdx first).mapM fun (item, index) => Mapping.ofValue index item := by
  induction items generalizing first with
  | nil => rfl
  | cons item items ih => rw [numberedMappings, List.zipIdx_cons, List.mapM_cons, ih]

theorem declaredMappings_eq (mappings : Value) :
    declaredMappings mappings =
      (listedItems mappings).zipIdx.mapM fun (item, index) => Mapping.ofValue index item := by
  cases mappings with
  | list items => exact numberedMappings_eq 0 items
  | _ => rfl

/-- A mapping can be read unless it has tags that cannot be walked through. -/
theorem exists_mapping_iff {item : Value} {index : Nat} :
    (∃ mapping, Mapping.ofValue index item = .ok mapping) ↔
      ∀ entries, item = .dict entries → isWalkable (Entries.get entries "tags") = true := by
  have tagged (raw : Entries) :
      (∃ mapping, Mapping.ofValue index (.dict raw) = .ok mapping) ↔
        isWalkable (raw.get "tags") = true := by
    rw [← exists_walk_iff]
    constructor
    · rintro ⟨mapping, success⟩
      obtain ⟨tags, walked, _⟩ := Attempt.bind_eq_ok_iff.mp success
      exact ⟨tags, walked⟩
    · rintro ⟨tags, walked⟩
      exact ⟨_, Attempt.bind_eq_ok_iff.mpr ⟨tags, walked, rfl⟩⟩
  cases item with
  | dict raw => simpa using tagged raw
  | _ => exact iff_of_true ⟨_, rfl⟩ (by simp)

theorem exists_declaredMappings_iff {mappings : Value} :
    (∃ found, declaredMappings mappings = .ok found) ↔
      ∀ entries, .dict entries ∈ listedItems mappings →
        isWalkable (Entries.get entries "tags") = true := by
  rw [declaredMappings_eq, Attempt.exists_mapM_iff]
  constructor
  · intro each entries member
    obtain ⟨position, inside, same⟩ := List.getElem_of_mem member
    have numbered : (Value.dict entries, position) ∈ (listedItems mappings).zipIdx :=
      List.mem_zipIdx_iff_getElem?.mpr (same ▸ List.getElem?_eq_getElem inside)
    exact exists_mapping_iff.mp (each _ numbered) entries rfl
  · rintro each ⟨item, index⟩ member
    refine exists_mapping_iff.mpr fun entries same => each entries ?_
    rw [← same]
    exact List.fst_mem_of_mem_zipIdx member

/-- A document can be read exactly when it is readable. -/
theorem exists_graph_iff_readable (fallback : String) (document : Value) :
    (∃ graph, Graph.ofDocument? fallback document = .ok graph) ↔ Readable document.entries := by
  have parts : (∃ graph, Graph.ofDocument? fallback document = .ok graph) ↔
      (∃ tables, declaredTables (document.entries.get "targets") = .ok tables) ∧
        ∃ mappings, declaredMappings (document.entries.get "mappings") = .ok mappings := by
    constructor
    · rintro ⟨graph, success⟩
      obtain ⟨tables, tablesRead, success⟩ := Attempt.bind_eq_ok_iff.mp success
      obtain ⟨mappings, mappingsRead, _⟩ := Attempt.bind_eq_ok_iff.mp success
      exact ⟨⟨tables, tablesRead⟩, ⟨mappings, mappingsRead⟩⟩
    · rintro ⟨⟨tables, tablesRead⟩, ⟨mappings, mappingsRead⟩⟩
      exact ⟨_, Attempt.bind_eq_ok_iff.mpr ⟨tables, tablesRead,
        Attempt.bind_eq_ok_iff.mpr ⟨mappings, mappingsRead, rfl⟩⟩⟩
  rw [parts, exists_declaredMappings_iff]
  simp only [declaredTables_eq_ok_iff, exists_and_left, Attempt.exists_mapM_iff,
    exists_table_iff_readable]
  constructor
  · rintro ⟨⟨groups, tables⟩, mappings⟩
    exact ⟨groups, tables, mappings⟩
  · rintro ⟨groups, tables, mappings⟩
    exact ⟨⟨groups, tables⟩, mappings⟩

end Documents

end SchemaAtlas.Schema
