import SchemaAtlas.Proofs.Document.Legible
import SchemaAtlas.Proofs.Structure.Columns
import SchemaAtlas.Proofs.Structure.Defeat

/-! # What valid documents declare

A valid document is admitted by its rule, so its sections can be read off as lists of dictionaries:
target groups with their tables, tables with their columns and foreign keys, sources, mappings. Names
are texts that are not empty, and no two columns of one list share a name.
-/

namespace SchemaAtlas.Structure

open Document

/-- A document whose examination finds no errors. -/
def Valid (document : Value) : Prop :=
  ∃ verdict, examine document = .ok verdict ∧ verdict.valid = true

/-- The items of a list as dictionaries; an item of another kind counts as one without entries. -/
def listed (value : Value) : List Entries := (listItems value).map Value.entries

/-- A table as it stands in a document, with the group that it stands in. -/
structure RawTable where
  group : Entries
  entries : Entries

/-- Every table of a document, group by group. -/
def rawTables (document : Entries) : List RawTable :=
  (listed (document.get "targets")).flatMap fun group =>
    (listed (group.get "tables")).map (RawTable.mk group)

theorem mem_rawTables {document group entries : Entries}
    (inside : group ∈ listed (document.get "targets"))
    (below : entries ∈ listed (group.get "tables")) :
    RawTable.mk group entries ∈ rawTables document :=
  List.mem_flatMap.mpr ⟨group, inside, List.mem_map_of_mem below⟩

/-- Every source of a document. -/
def rawSources (document : Entries) : List Entries := listed (document.get "sources")

/-- Every mapping of a document. -/
def rawMappings (document : Entries) : List Entries := listed (document.get "mappings")

/-- Every column of a table. -/
def RawTable.columns (table : RawTable) : List Entries := listed (table.entries.get "columns")

/-- The text under a name, empty when there is none. -/
def textAt (entries : Entries) (name : String) : String :=
  match entries.get name with
  | .text s => s
  | _ => ""

/-- The names of a table's columns, in order. -/
def RawTable.columnNames (table : RawTable) : List String := table.columns.map (textAt · "name")

/-- Every table-level foreign key of a table. -/
def RawTable.foreignKeys (table : RawTable) : List Entries :=
  listed (table.entries.get "foreign_keys")

section Admitted

variable {entries : Entries} {name : String}

/-- The items of an admitted list of records are dictionaries, each admitted. -/
theorem listed_of_admits {fields : List (String × Bool × Rule)} {value : Value}
    (admitted : (Rule.listOf (.record fields)).Admits value) :
    listItems value = (listed value).map .dict ∧
      ∀ entries ∈ listed value, (Rule.record fields).Admits (.dict entries) := by
  obtain ⟨_, each⟩ := items_of_listOf admitted
  have dict : ∀ item ∈ listItems value, Value.dict item.entries = item := by
    intro item member
    obtain ⟨entries, rfl⟩ := entries_of_record (each item member)
    rfl
  constructor
  · rw [listed, List.map_map]
    exact ((List.map_congr_left dict).trans (List.map_id _)).symm
  · intro entries member
    obtain ⟨item, inside, rfl⟩ := List.mem_map.mp member
    rw [dict item inside]
    exact each item inside

/-- Optional sections are listed alike: a missing one lists nothing. -/
theorem listed_of_optional {fields : List (String × Bool × Rule)}
    (admitted : (Rule.listOf (.record fields)).Admits (entries.get name) ∨
      entries.get name = .null) :
    ∀ raw ∈ listed (entries.get name), (Rule.record fields).Admits (.dict raw) := by
  rcases admitted with there | missing
  · exact (listed_of_admits there).2
  · rw [missing]
    exact fun raw member => absurd member List.not_mem_nil

end Admitted

section Columns

end Columns

section Valid

variable {document : Entries}

/-- A document is valid exactly when its rule admits it and its columns are told apart: then nothing
keeps it from being examined. -/
theorem valid_iff : Valid (.dict document) ↔ documentRule.Admits (.dict document) ∧
    ∀ group ∈ plainItems (document.get "targets"), DistinguishedTables group := by
  constructor
  · rintro ⟨verdict, examined, good⟩
    exact (valid_iff_admits examined).mp good
  · rintro ⟨admitted, columns⟩
    have examined : examine (.dict document) = .ok (Verdict.on document []) := by
      rw [examine_dict, regular_documentRule.defeatedBy_eq_false admitted,
        (groupErrors_eq_nil_iff 0).mpr columns]
      rfl
    exact ⟨_, examined, (valid_iff_admits examined).mpr ⟨admitted, columns⟩⟩

theorem Valid.admitted (valid : Valid (.dict document)) : documentRule.Admits (.dict document) :=
  (valid_iff.mp valid).1

variable (valid : Valid (.dict document))

include valid

theorem Valid.targets :
    (Rule.listOf targetRule).Admits (document.get "targets") :=
  required_of_record valid.admitted (by simp)

theorem Valid.group {group : Entries} (member : group ∈ listed (document.get "targets")) :
    targetRule.Admits (.dict group) :=
  (listed_of_admits valid.targets).2 group member

/-- Every table stands in an admitted group and is admitted itself. -/
theorem Valid.table {raw : RawTable} (member : raw ∈ rawTables document) :
    targetRule.Admits (.dict raw.group) ∧ tableRule.Admits (.dict raw.entries) := by
  obtain ⟨group, inside, member⟩ := List.mem_flatMap.mp member
  obtain ⟨entries, listed, rfl⟩ := List.mem_map.mp member
  have tables : (Rule.listOf tableRule).Admits (group.get "tables") :=
    required_of_record (valid.group inside) (by simp)
  exact ⟨valid.group inside, (listed_of_admits tables).2 entries listed⟩

theorem Valid.source {raw : Entries} (member : raw ∈ rawSources document) :
    sourceRule.Admits (.dict raw) := by
  have sources : (Rule.listOf sourceRule).Admits (document.get "sources") ∨
      document.get "sources" = .null := optional_of_record valid.admitted (by simp)
  exact listed_of_optional sources raw member

theorem Valid.mapping {raw : Entries} (member : raw ∈ rawMappings document) :
    mappingRule.Admits (.dict raw) := by
  have mappings : (Rule.listOf mappingRule).Admits (document.get "mappings") ∨
      document.get "mappings" = .null := optional_of_record valid.admitted (by simp)
  exact listed_of_optional mappings raw member

end Valid

end SchemaAtlas.Structure
