import SchemaAtlas.Proofs.Document.Writable
import SchemaAtlas.Proofs.Schema.Readable
import SchemaAtlas.Schema.Shown

/-! # What a document shows when it is read

A document is read exactly when no obstacle stops the reading and every value shown on the way can
be written. What is read to its end shows all its parts, one behind the other.
-/

namespace SchemaAtlas.Schema

open Document

section After

variable {ε α β : Type} {attempt : Except ε α} {value : α} {shown : α → List Value}
  {read : α → Except ε β} {items : List α}

theorem after_of_ok (success : attempt = .ok value) : after attempt shown = shown value := by
  rw [success, after]

/-- A sequence that is read to its end shows what its items show. -/
theorem shownUntil_of_ok (each : ∀ item ∈ items, ∃ value, read item = .ok value) :
    shownUntil shown read items = items.flatMap shown := by
  induction items with
  | nil => rfl
  | cons item items ih =>
    obtain ⟨⟨value, here⟩, behind⟩ := List.forall_mem_cons.mp each
    rw [shownUntil, after_of_ok here, ih behind, List.flatMap_cons]

end After

section Reading

variable {fallback : String} {document : Value} {graph : Graph}

theorem read?_eq : Graph.read? fallback document =
    if (shown document.entries).all Value.isWritable then
      (Graph.ofDocument? fallback document).mapError .obstacle
    else .error .tooLong := rfl

/-- A document is read when nothing stops the reading and everything it shows can be written. -/
theorem read?_eq_ok_iff : Graph.read? fallback document = .ok graph ↔
    AllWritable (shown document.entries) ∧ Graph.ofDocument? fallback document = .ok graph := by
  rw [read?_eq, AllWritable, ← List.all_eq_true]
  split
  · next writable => rw [and_iff_right writable, Attempt.mapError_eq_ok_iff]
  · next long =>
    refine iff_of_false ?_ fun both => long both.1
    rintro ⟨⟩

/-- What is shown is looked at before an obstacle is told. -/
theorem read?_eq_obstacle_iff {obstacle : Obstacle} :
    Graph.read? fallback document = .error (.obstacle obstacle) ↔
      AllWritable (shown document.entries) ∧
        Graph.ofDocument? fallback document = .error obstacle := by
  rw [read?_eq, AllWritable, ← List.all_eq_true]
  split
  · next writable =>
    rw [and_iff_right writable]
    cases Graph.ofDocument? fallback document <;> simp [Except.mapError]
  · next long =>
    refine iff_of_false ?_ fun both => long both.1
    rintro ⟨⟩

theorem read?_eq_tooLong_iff : Graph.read? fallback document = .error .tooLong ↔
    ¬ AllWritable (shown document.entries) := by
  rw [read?_eq, AllWritable, ← List.all_eq_true]
  split
  · next writable =>
    refine iff_of_false ?_ (not_not_intro writable)
    cases Graph.ofDocument? fallback document <;> rintro ⟨⟩
  · next long => exact iff_of_true rfl long

end Reading

section Parts

variable {document : Entries}

/-- A table that is read shows its columns, what its table-level declarations show, and its own
fields. -/
theorem tableShown_of_ok {raw : Entries} {key : TableKey} {table : Table}
    (success : Table.ofEntries? key raw = .ok table) :
    tableShown raw = (rawColumns raw).flatMap columnShown ++ keysShown raw (declaredColumns raw) ++
      [raw.get "description", raw.get "owner"] := by
  obtain ⟨⟨declared, walked⟩, keyed, _⟩ := ofEntries?_eq_ok_iff.mp success
  rw [declaredColumns, rawColumns, itemsOf_of_walk walked] at keyed ⊢
  rw [tableShown, after_of_ok walked]
  dsimp only
  rw [after_of_ok keyed]

/-- A group that is read shows its names and what its tables show. -/
theorem groupShown_of_ok {group : Entries} {tables : List Table}
    (success : groupTables group = .ok tables) :
    groupShown group = [group.get "db", group.get "schema"] ++
      (namedEntries "name" (itemsOf (group.get "tables"))).flatMap fun raw =>
        raw.get "name" :: tableShown raw := by
  obtain ⟨walkable, each⟩ := groupTables_eq_ok_iff.mp success
  obtain ⟨declared, walked⟩ := exists_walk_iff.mpr walkable
  rw [groupShown, after_of_ok walked, itemsOf_of_walk walked]
  congr 1
  refine shownUntil_of_ok fun raw member => ?_
  rw [exists_table_iff_readable]
  have readable := Attempt.exists_mapM_iff.mp ⟨tables, each⟩ ⟨group, raw⟩
    (by rw [namedTablesIn, itemsOf_of_walk walked]; exact List.mem_map_of_mem member)
  exact exists_table_iff_readable.mp readable

/-- A document that is read shows its sources, its groups, its mappings, the project and the
owners, and each of them to its end. -/
theorem shown_of_ok {tables : List Table} {mappings : List Mapping}
    (tablesRead : declaredTables (document.get "targets") = .ok tables)
    (mappingsRead : declaredMappings (document.get "mappings") = .ok mappings) :
    shown document =
      (sourceEntries (document.get "sources")).flatMap sourceShown ++
      (listedEntries (document.get "targets")).flatMap groupShown ++
      ((listedItems (document.get "mappings")).flatMap mappingShown ++
        nameOfProject (document.get "project") :: ownersShown document) := by
  obtain ⟨groups, each, _⟩ := Attempt.bind_eq_ok_iff.mp tablesRead
  have tags := exists_declaredMappings_iff.mp ⟨mappings, mappingsRead⟩
  rw [shown, after_of_ok tablesRead, after_of_ok mappingsRead,
    shownUntil_of_ok (Attempt.exists_mapM_iff.mp ⟨groups, each⟩), shownUntil_of_ok]
  intro item member
  refine exists_mapping_iff.mpr ?_
  rintro entries rfl
  exact tags entries member

/-- Whatever a document shows that is read can be written, part by part. -/
theorem allWritable_of_read? {fallback : String} {graph : Graph}
    (read : Graph.read? fallback (.dict document) = .ok graph) :
    AllWritable ((sourceEntries (document.get "sources")).flatMap sourceShown ++
      (listedEntries (document.get "targets")).flatMap groupShown) ∧
    AllWritable ((listedItems (document.get "mappings")).flatMap mappingShown) ∧
    (nameOfProject (document.get "project")).isWritable = true ∧
    AllWritable (ownersShown document) := by
  obtain ⟨writable, read⟩ := read?_eq_ok_iff.mp read
  obtain ⟨tables, tablesRead, behind⟩ := Attempt.bind_eq_ok_iff.mp read
  obtain ⟨mappings, mappingsRead, _⟩ := Attempt.bind_eq_ok_iff.mp behind
  have parts : shown document = _ := shown_of_ok tablesRead mappingsRead
  obtain ⟨sections, behind⟩ := allWritable_append.mp (parts ▸ writable)
  obtain ⟨mapped, behind⟩ := allWritable_append.mp behind
  exact ⟨sections, mapped, allWritable_cons.mp behind⟩

end Parts

end SchemaAtlas.Schema
