import SchemaAtlas.Proofs.Report.Pass
import SchemaAtlas.Proofs.Schema.Index

/-! # What a reference matches

Sources and columns are declared under the text that their id or name shows. A mapping refers to a
source by text as well, but shows a truth value in capitals, so a source whose id is true is not
found under it. The key names of a table are not shown at all: a text names the column of that name,
and no other value names any.
-/

namespace SchemaAtlas.Schema

open Document Structure

section Sources

variable {graph : Graph} {mappings : Value} {read : List Mapping}

theorem unknownSource_not_mem_targetErrors {mapping : Mapping} {index : Nat} {source : String} :
    .unknownSource index source ∉ mapping.targetErrors graph := by
  intro target
  rcases Mapping.mem_targetErrors_iff.mp target with
    ⟨_, _, same⟩ | ⟨_, _, ⟨_, same⟩ | ⟨_, _, named⟩⟩
  · cases same
  · cases same
  · rcases Mapping.mem_columnErrors_iff.mp named with ⟨_, _, same⟩ | ⟨_, _, _, same⟩ <;> cases same

/-- A source is reported unknown for the mappings that refer to it while it is not declared. -/
theorem unknownSource_mem_errors_iff {strict : Bool} {index : Nat} {source : String} :
    .unknownSource index source ∈ graph.errors strict ↔
      ∃ mapping ∈ graph.mappings, mapping.index = index ∧
        given? mapping.origin.sourceId = some source ∧ source ∉ graph.sources.map Source.id := by
  rw [mem_errors_iff_of_mapping rfl]
  refine exists_congr fun mapping => and_congr_right fun _ => ?_
  have missing (id : String) : graph.source? id = none ↔ id ∉ graph.sources.map Source.id :=
    Keyed.find?_eq_none_iff
  rw [Mapping.errors, List.mem_append]
  constructor
  · rintro (origin | target)
    · rcases Mapping.mem_originErrors_iff.mp origin with
        ⟨id, refers, undeclared, same⟩ | ⟨_, same⟩ | ⟨_, _, _, _, same⟩
      · cases same
        exact ⟨rfl, refers, (missing source).mp undeclared⟩
      · cases same
      · cases same
    · exact absurd target unknownSource_not_mem_targetErrors
  · rintro ⟨rfl, refers, undeclared⟩
    exact .inl (Mapping.mem_originErrors_iff.mpr
      (.inl ⟨source, refers, (missing source).mpr undeclared, rfl⟩))

/-- The mappings of a list are those of its items, each at its position. -/
theorem mem_declaredMappings_iff (success : declaredMappings mappings = .ok read)
    {mapping : Mapping} :
    mapping ∈ read ↔ ∃ item, (listedItems mappings)[mapping.index]? = some item ∧
      Mapping.ofValue mapping.index item = .ok mapping := by
  rw [declaredMappings_eq] at success
  rw [Attempt.mem_mapM_iff success]
  constructor
  · rintro ⟨⟨item, index⟩, member, here⟩
    obtain ⟨tags, _, same⟩ := Attempt.bind_eq_ok_iff.mp here
    have own : mapping.index = index := by
      cases same
      rfl
    subst own
    exact ⟨item, List.mem_zipIdx_iff_getElem?.mp member, here⟩
  · rintro ⟨item, found, here⟩
    exact ⟨(item, mapping.index), List.mem_zipIdx_iff_getElem?.mpr found, here⟩

/-- A mapping refers to a source by the text of an optional field. -/
theorem sourceId_of_ofValue {index : Nat} {entries origin : Entries} {mapping : Mapping}
    (success : Mapping.ofValue index (.dict entries) = .ok mapping)
    (held : entries.get "from" = .dict origin) :
    mapping.origin.sourceId = (origin.get "source_id").displayField? := by
  obtain ⟨tags, _, same⟩ := Attempt.bind_eq_ok_iff.mp success
  cases same
  rw [mappingEntries, held]
  rfl

theorem exists_mapping_of_getElem? (success : declaredMappings mappings = .ok read) {index : Nat}
    {item : Value} (found : (listedItems mappings)[index]? = some item) :
    ∃ mapping ∈ read, mapping.index = index := by
  rw [declaredMappings_eq] at success
  have numbered : (item, index) ∈ (listedItems mappings).zipIdx :=
    List.mem_zipIdx_iff_getElem?.mpr found
  obtain ⟨mapping, here⟩ := Attempt.exists_mapM_iff.mp ⟨read, success⟩ _ numbered
  obtain ⟨tags, _, same⟩ := Attempt.bind_eq_ok_iff.mp here
  refine ⟨mapping, (Attempt.mem_mapM_iff success).mpr ⟨_, numbered, here⟩, ?_⟩
  cases same
  rfl

/-- What an optional field of a value that is present shows. -/
theorem given?_displayField? {value : Value} (present : value.isTruthy = true) :
    (value = .bool true ∧ given? value.displayField? = some "TRUE") ∨
      (value ≠ .bool true ∧ given? value.displayField? = some value.display) := by
  have shown : given? (some value.display) = some value.display :=
    Option.filter_eq_some_iff.mpr ⟨rfl, by simpa using Value.display_ne_empty present⟩
  cases value with
  | scalar s =>
    cases s with
    | null => cases present
    | bool b =>
      cases b with
      | true => exact .inl ⟨rfl, rfl⟩
      | false => cases present
    | _ => exact .inr ⟨by simp, shown⟩
  | _ => exact .inr ⟨by simp, shown⟩

end Sources

/-- How references by the raw value of an id or a name fare. -/
structure Matching (document : Entries) (graph : Graph) : Prop where
  /-- The source of a mapping that refers to it by the value of its id is reported unknown when this
  value is true, and no source is declared under the text `TRUE`. -/
  sources : ∀ own ∈ listedEntries (document.get "sources"), (own.get "id").isTruthy = true →
    ∀ index entries origin,
      (listedItems (document.get "mappings"))[index]? = some (.dict entries) →
      Entries.get entries "from" = .dict origin → Entries.get origin "source_id" = own.get "id" →
        ∀ strict, (∃ source, .unknownSource index source ∈ graph.errors strict) ↔
          own.get "id" = .bool true ∧ "TRUE" ∉ graph.sources.map Source.id
  /-- The key names and the table-level foreign keys of a table name a column by its text alone. -/
  columns : ∀ table ∈ graph.tables, ∃ raw,
    ((namedTables document).filter fun raw => decide (shownKey raw = table.key)).getLast? =
      some raw ∧
    ∀ own ∈ rawColumns raw.entries, ∃ column ∈ table.columns,
      column.name = (own.get "name").display ∧
      ∃ last, ((rawColumns raw.entries).filter fun other =>
          decide ((other.get "name").display = column.name)).getLast? = some last ∧
        (column.pk = true ↔ (last.get "pk").isTruthy = true ∨
          .text column.name ∈ itemsOf (raw.entries.get "primary_key")) ∧
        (column.fk.isSome = true ↔ (ForeignKey.ofValue? (last.get "fk")).isSome = true ∨
          .text column.name ∈ (claims raw.entries).map Claim.name)

section Documents

variable {fallback : String} {document : Value} {graph : Graph}

theorem fk_isSome_iff {raw own : Entries} {column : Column} (folds : Folds raw own column) :
    column.fk.isSome = true ↔ (ForeignKey.ofValue? (own.get "fk")).isSome = true ∨
      .text column.name ∈ (claims raw).map Claim.name := by
  have claimed : .text column.name ∈ (claims raw).map Claim.name ↔
      (column.firstClaim? (claims raw)).isSome = true := by
    rw [Column.firstClaim?, List.find?_isSome]
    simp only [isNamedBy_iff, List.mem_map]
  rw [claimed]
  cases own : ForeignKey.ofValue? (own.get "fk") with
  | some fk =>
    rw [folds.linked (by simp [own]), own]
    simp
  | none =>
    rcases folds.claimed own with ⟨none, unlinked⟩ | ⟨claim, fk, found, _, linked⟩
    · simp [none, unlinked]
    · simp [found, linked]

/-- A source is found under the value of its id but for true, and a column by its text alone. -/
theorem matching_of_read (success : Graph.ofDocument? fallback document = .ok graph) :
    Matching document.entries graph := by
  have whole : Graph.ofDocument? fallback (.dict document.entries) = .ok graph := success
  obtain ⟨_, _, mappings, _, _, sources⟩ := parts_of_ofDocument whole
  constructor
  · intro own member present index entries origin found held refers strict
    have known : (own.get "id").display ∈ graph.sources.map Source.id := by
      rw [sources, Keyed.map_collect, List.mem_eraseDups]
      exact List.mem_map_of_mem (List.mem_map_of_mem (List.mem_filter.mpr ⟨member, present⟩))
    have shown : ∀ mapping ∈ graph.mappings, mapping.index = index →
        mapping.origin.sourceId = (own.get "id").displayField? := by
      rintro mapping inside rfl
      obtain ⟨item, there, here⟩ := (mem_declaredMappings_iff mappings).mp inside
      rw [found] at there
      cases there
      rw [sourceId_of_ofValue here held, refers]
    simp only [unknownSource_mem_errors_iff]
    rcases given?_displayField? present with ⟨flag, given⟩ | ⟨other, given⟩
    · rw [and_iff_right flag]
      constructor
      · rintro ⟨source, mapping, inside, position, named, missing⟩
        rw [shown mapping inside position, given] at named
        cases named
        exact missing
      · intro missing
        obtain ⟨mapping, inside, position⟩ := exists_mapping_of_getElem? mappings found
        exact ⟨"TRUE", mapping, inside, position, shown mapping inside position ▸ given, missing⟩
    · constructor
      · rintro ⟨source, mapping, inside, position, named, missing⟩
        rw [shown mapping inside position, given] at named
        cases named
        exact absurd known missing
      · rintro ⟨flag, _⟩
        exact absurd flag other
  · intro table inside
    obtain ⟨raw, last, read⟩ := exists_last_of_read success inside
    refine ⟨raw, last, fun own declared => ?_⟩
    have stands : (own.get "name").display ∈ table.columns.map Column.name := by
      rw [names_of_table read, List.mem_eraseDups]
      exact List.mem_map_of_mem declared
    obtain ⟨column, member, same⟩ := List.mem_map.mp stands
    obtain ⟨settled, latest, folded⟩ := folded_of_table read member
    have folds := folds_of_folded? folded
    exact ⟨column, member, same, settled, latest, folds.pk, fk_isSome_iff folds⟩

/-- A document that uses one value as the id of a source and the name of a column, and refers to
both by it. -/
def documentNaming (value : Value) : Value :=
  let record (entries : List (String × Value)) : Value := .dict (Entries.named entries)
  let table : Value := record [
    ("name", .text "lines"),
    ("columns", .list [record [("name", value)], record [("name", .text "total")]]),
    ("primary_key", .list [value]),
    ("foreign_keys", .list [record [("columns", .list [value]),
      ("references", record [("table", .text "items"), ("columns", .list [.text "id"])])]])]
  record [
    ("targets", .list [record [("db", .text "shop"), ("tables", .list [table])]]),
    ("sources", .list [record [("id", value)]]),
    ("mappings", .list [record [("target", .text "shop.public.lines.total"),
      ("from", record [("source_id", value)])]])]

/-- A text matches. -/
theorem matching_of_documentNaming_text :
    ∃ graph, Graph.ofDocument? "untitled" (documentNaming (.text "yes")) = .ok graph ∧
      Matching (documentNaming (.text "yes")).entries graph ∧
      (graph.report false).errors = [] ∧
      graph.columns.map (fun (_, column) => (column.name, column.pk, column.fk.isSome)) =
        [("yes", true, true), ("total", false, false)] :=
  ⟨_, rfl, matching_of_read rfl, by decide +kernel, by decide +kernel⟩

/-- The source whose id is true is unknown to the mapping that refers to it by true, and a column
named by a number is neither marked nor linked by that number. -/
theorem unmatched_scalars :
    (∃ graph, Graph.ofDocument? "untitled" (documentNaming (.bool true)) = .ok graph ∧
      graph.sources.map Source.id = ["True"] ∧
      (graph.report false).errors = ["Mapping[0] references unknown source_id 'TRUE'"]) ∧
    ∃ graph, Graph.ofDocument? "untitled" (documentNaming (.int 1)) = .ok graph ∧
      (graph.report false).errors = [] ∧
      graph.columns.map (fun (_, column) => (column.name, column.pk, column.fk.isSome)) =
        [("1", false, false), ("total", false, false)] :=
  ⟨⟨_, rfl, rfl, by decide +kernel⟩, ⟨_, rfl, by decide +kernel, by decide +kernel⟩⟩

end Documents

end SchemaAtlas.Schema
