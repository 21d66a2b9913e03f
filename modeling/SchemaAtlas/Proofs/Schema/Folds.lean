import SchemaAtlas.Proofs.Schema.Claims

/-! # Columns as they are read

A table has the columns that its dictionaries with a name declare, in order of first declaration and
each as it was declared last, with what the declarations for the whole table make of it.
-/

namespace SchemaAtlas.Schema

open Document Structure

section Tables

variable {raw : Entries} {key : TableKey} {table : Table}

/-- The columns of a table as they stand in a document: dictionaries with a name. -/
def rawColumns (raw : Entries) : List Entries := namedEntries "name" (itemsOf (raw.get "columns"))

/-- The columns of a table before its table-level declarations are applied. -/
def declaredColumns (raw : Entries) : List Column :=
  Keyed.collect Column.name ((rawColumns raw).map Column.ofEntries)

/-- What is read when a table is read. -/
theorem ofEntries?_eq_ok_iff : Table.ofEntries? key raw = .ok table ↔
    (∃ items, walk (raw.get "columns") = .ok items) ∧
      keyedColumns? raw (declaredColumns raw) = .ok table.columns ∧ table.key = key ∧
        table.description = (raw.get "description").displayField? ∧
        table.owner = (raw.get "owner").displayField? := by
  constructor
  · intro success
    obtain ⟨items, walked, success⟩ := Attempt.bind_eq_ok_iff.mp success
    dsimp only at success
    split at success
    · cases success
    · next keyed known =>
      cases success
      rw [declaredColumns, rawColumns, itemsOf_of_walk walked]
      exact ⟨⟨items, walked⟩, known, rfl, rfl, rfl⟩
  · rintro ⟨⟨items, walked⟩, known, rfl, description, owner⟩
    rw [declaredColumns, rawColumns, itemsOf_of_walk walked] at known
    rw [Table.ofEntries?, walked]
    dsimp only [bind, Except.bind]
    split
    · next failed =>
      rw [known] at failed
      cases failed
    · next keyed same =>
      rw [known] at same
      cases same
      rw [← description, ← owner]
      rfl

theorem key_of_table (success : Table.ofEntries? key raw = .ok table) : table.key = key :=
  (ofEntries?_eq_ok_iff.mp success).2.2.1

/-- A table can be read when its columns can be walked through, its table-level declarations be
followed, and each of its columns be settled. -/
theorem exists_table_iff : (∃ table, Table.ofEntries? key raw = .ok table) ↔
    (∃ items, walk (raw.get "columns") = .ok items) ∧ Followable raw ∧
      ∀ column ∈ declaredColumns raw, ∃ folded, column.folded? raw = .ok folded := by
  have nodup : ((declaredColumns raw).map Column.name).Nodup := Keyed.nodup_collect Column.name _
  rw [← Attempt.exists_mapM_iff]
  constructor
  · rintro ⟨table, success⟩
    obtain ⟨walked, known, _⟩ := ofEntries?_eq_ok_iff.mp success
    obtain ⟨followable, folded⟩ := (keyedColumns?_eq_ok_iff nodup).mp known
    exact ⟨walked, followable, _, folded⟩
  · rintro ⟨walked, followable, keyed, folded⟩
    have known := (keyedColumns?_eq_ok_iff nodup).mpr ⟨followable, folded⟩
    exact ⟨⟨key, keyed, _, _, names_keyedColumns? known ▸ nodup⟩,
      ofEntries?_eq_ok_iff.mpr ⟨walked, known, rfl, rfl, rfl⟩⟩

/-- How the table-level declarations of a table turn a column, as it was declared last, into the
column that is read. -/
structure Folds (raw own : Entries) (column : Column) : Prop where
  /-- The column is a key when it says so or the key names name it. -/
  pk : column.pk = true ↔ (own.get "pk").isTruthy = true ∨
    .text column.name ∈ itemsOf (raw.get "primary_key")
  /-- A foreign key of its own goes before every claim on the column. -/
  linked : ForeignKey.ofValue? (own.get "fk") ≠ none → column.fk = ForeignKey.ofValue? (own.get "fk")
  /-- Otherwise the first claim gives the foreign key, if there is any. -/
  claimed : ForeignKey.ofValue? (own.get "fk") = none →
    (column.firstClaim? (claims raw) = none ∧ column.fk = none) ∨
      ∃ claim fk, column.firstClaim? (claims raw) = some claim ∧ claim.foreignKey? = .ok fk ∧
        column.fk = some fk
  /-- Nothing else about the column is changed. -/
  rest : column = { Column.ofEntries own with pk := column.pk, fk := column.fk }

theorem folds_of_folded? {own : Entries} {column : Column}
    (success : (Column.ofEntries own).folded? raw = .ok column) : Folds raw own column := by
  have marked : ((Column.ofEntries own).markedBy (itemsOf (raw.get "primary_key"))).pk = true ↔
      (own.get "pk").isTruthy = true ∨
        .text (Column.ofEntries own).name ∈ itemsOf (raw.get "primary_key") := by
    rw [Column.markedBy, Bool.or_eq_true, List.any_eq_true]
    simp only [isNamedBy_iff, exists_eq_right]
    rfl
  unfold Column.folded? Column.settled? at success
  split at success
  · next claim unlinked found =>
    cases given : claim.foreignKey? with
    | error obstacle =>
      rw [given] at success
      cases success
    | ok fk =>
      rw [given] at success
      cases success
      exact ⟨marked, fun linked => (linked unlinked).elim,
        fun _ => .inr ⟨claim, fk, found, given, rfl⟩, rfl⟩
  · next claimless =>
    cases success
    refine ⟨marked, fun _ => rfl, fun unlinked => .inl ⟨?_, unlinked⟩, rfl⟩
    rw [Option.eq_none_iff_forall_ne_some]
    exact fun claim found => claimless claim unlinked found

/-- A column that is read comes from the last declaration of its name. -/
theorem folded_of_table (success : Table.ofEntries? key raw = .ok table) {column : Column}
    (member : column ∈ table.columns) :
    ∃ own, ((rawColumns raw).filter fun other =>
        decide ((other.get "name").display = column.name)).getLast? = some own ∧
      (Column.ofEntries own).folded? raw = .ok column := by
  obtain ⟨_, known, _⟩ := ofEntries?_eq_ok_iff.mp success
  obtain ⟨_, folded⟩ := (keyedColumns?_eq_ok_iff (Keyed.nodup_collect Column.name _)).mp known
  obtain ⟨declared, inside, here⟩ := (Attempt.mem_mapM_iff folded).mp member
  have last := Keyed.getLast?_of_mem_collect inside
  rw [List.filter_map, List.getLast?_map] at last
  obtain ⟨own, found, rfl⟩ := Option.map_eq_some_iff.mp last
  have same : column.name = (Column.ofEntries own).name := by rw [(folds_of_folded? here).rest]
  refine ⟨own, ?_, here⟩
  rw [same]
  exact found

theorem names_of_table (success : Table.ofEntries? key raw = .ok table) :
    table.columns.map Column.name =
      ((rawColumns raw).map fun own => (own.get "name").display).eraseDups := by
  obtain ⟨_, known, _⟩ := ofEntries?_eq_ok_iff.mp success
  rw [names_keyedColumns? known, declaredColumns, Keyed.map_collect, List.map_map]
  rfl

end Tables

end SchemaAtlas.Schema
