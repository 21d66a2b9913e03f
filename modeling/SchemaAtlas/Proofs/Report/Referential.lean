import SchemaAtlas.Proofs.Keyed
import SchemaAtlas.Report.Referential

/-! # What a report without errors says

A mapping has no errors when its source is declared, its origin says something, its transform is a
known call, and every column that it names is a column of a declared table. A report without errors
says this of every mapping, and that each column in need of a value is named by one.
-/

namespace SchemaAtlas.Schema

open Document

variable {graph : Graph} {mapping : Mapping} {finding : Finding}

theorem isWildcard_eq_false_iff {path : TargetPath} :
    path.isWildcard = false ↔ path.column ≠ wildcard := by
  simp [TargetPath.isWildcard]

theorem namedColumns_wildcard {path : TargetPath} (all : path.isWildcard = true) :
    mapping.namedColumns path = mapping.origin.fields.map Prod.fst := by
  rw [Mapping.namedColumns, if_pos all]

theorem namedColumns_column {path : TargetPath} (one : path.isWildcard = false) :
    mapping.namedColumns path = columnNames path.column := by
  rw [Mapping.namedColumns, one]
  rfl

/-- What is wrong with the origin of a mapping. -/
theorem Mapping.mem_originErrors_iff :
    finding ∈ mapping.originErrors graph ↔
      (∃ source, given? mapping.origin.sourceId = some source ∧ graph.source? source = none ∧
        finding = .unknownSource mapping.index source) ∨
      (mapping.origin.kind = .unknown ∧
        finding = .missingOrigin mapping.index mapping.rawTarget) ∨
      ∃ text problem, given? mapping.origin.transform = some text ∧
        Transform.problem? (.text text) = some problem ∧
        finding = .badTransform mapping.index mapping.rawTarget problem := by
  unfold Mapping.originErrors
  simp only [List.mem_append, or_assoc]
  refine or_congr ?_ (or_congr ?_ ?_)
  · cases given? mapping.origin.sourceId with
    | none => simp
    | some source => cases declared : graph.source? source <;> simp [declared]
  · split
    · next unknown => simp [unknown]
    · next known => simp [known]
  · cases given? mapping.origin.transform with
    | none => simp
    | some text => cases problem : Transform.problem? (.text text) <;> simp [problem]

/-- What is wrong with the columns that a mapping names. -/
theorem Mapping.mem_columnErrors_iff {path : TargetPath} {table : Table} :
    finding ∈ mapping.columnErrors path table ↔
      (path.isWildcard = false ∧ columnNames path.column = [] ∧
        finding = .noColumnNamed mapping.index mapping.rawTarget) ∨
      ∃ name ∈ mapping.namedColumns path, table.hasColumn name = false ∧
        finding = .unknownColumn mapping.index path.key name := by
  unfold Mapping.columnErrors
  rw [List.mem_append]
  refine or_congr ?_ ?_
  · cases path.isWildcard <;> cases columnNames path.column <;> simp
  · simp only [List.mem_map, List.mem_filter, Bool.not_eq_true', and_assoc,
      @eq_comm Finding _ finding]

/-- What is wrong with the target of a mapping. -/
theorem Mapping.mem_targetErrors_iff :
    finding ∈ mapping.targetErrors graph ↔
      (∃ raw, mapping.target = .unresolved raw ∧ finding = .badTarget mapping.index raw) ∨
      ∃ path, mapping.target = .path path ∧
        ((graph.table? path.key = none ∧ finding = .unknownTable mapping.index path.key) ∨
          ∃ table, graph.table? path.key = some table ∧
            finding ∈ mapping.columnErrors path table) := by
  unfold Mapping.targetErrors
  cases mapping.target with
  | unresolved raw => simp
  | path path => cases found : graph.table? path.key <;> simp [found]

/-- A mapping that refers to declared things only. -/
structure Mapping.Sound (graph : Graph) (mapping : Mapping) : Prop where
  source : ∀ id, given? mapping.origin.sourceId = some id → (graph.source? id).isSome
  origin : mapping.origin.kind ≠ .unknown
  transform : ∀ text, given? mapping.origin.transform = some text →
    Transform.problem? (.text text) = none
  target : ∃ path table, mapping.target = .path path ∧ graph.table? path.key = some table ∧
    (path.isWildcard = false → columnNames path.column ≠ []) ∧
    ∀ column ∈ mapping.namedColumns path, table.hasColumn column

theorem Mapping.originErrors_eq_nil_iff :
    mapping.originErrors graph = [] ↔
      (∀ id, given? mapping.origin.sourceId = some id → (graph.source? id).isSome) ∧
      mapping.origin.kind ≠ .unknown ∧
      ∀ text, given? mapping.origin.transform = some text →
        Transform.problem? (.text text) = none := by
  unfold Mapping.originErrors
  simp only [List.append_eq_nil_iff, and_assoc]
  refine and_congr ?_ (and_congr ?_ ?_)
  · cases given? mapping.origin.sourceId with
    | none => simp
    | some id => simp [Option.isSome_iff_ne_none]
  · simp
  · cases given? mapping.origin.transform with
    | none => simp
    | some text => cases problem : Transform.problem? (.text text) <;> simp [problem]

theorem Mapping.columnErrors_eq_nil_iff {path : TargetPath} {table : Table} :
    mapping.columnErrors path table = [] ↔
      (path.isWildcard = false → columnNames path.column ≠ []) ∧
      ∀ column ∈ mapping.namedColumns path, table.hasColumn column := by
  unfold Mapping.columnErrors
  simp only [List.append_eq_nil_iff]
  refine and_congr ?_ ?_
  · simp
  · simp

/-- A mapping has no errors exactly when it is sound. -/
theorem Mapping.errors_eq_nil_iff : mapping.errors graph = [] ↔ mapping.Sound graph := by
  rw [Mapping.errors, List.append_eq_nil_iff, Mapping.originErrors_eq_nil_iff]
  constructor
  · rintro ⟨⟨source, origin, transform⟩, target⟩
    refine ⟨source, origin, transform, ?_⟩
    unfold Mapping.targetErrors at target
    split at target
    · cases target
    · next path resolved =>
      split at target
      · cases target
      · next table found =>
        exact ⟨path, table, resolved, found, Mapping.columnErrors_eq_nil_iff.mp target⟩
  · rintro ⟨source, origin, transform, path, table, resolved, found, columns⟩
    refine ⟨⟨source, origin, transform⟩, ?_⟩
    unfold Mapping.targetErrors
    simp only [resolved, found]
    exact Mapping.columnErrors_eq_nil_iff.mpr columns

/-- A column that needs a value: not nullable, no key and no default. -/
def Column.NeedsValue (column : Column) : Prop :=
  column.notNull = true ∧ column.pk = false ∧ column.default = none

theorem Graph.mem_columns_iff {table : Table} {column : Column} :
    (table, column) ∈ graph.columns ↔ table ∈ graph.tables ∧ column ∈ table.columns := by
  simp [Graph.columns]

/-- The columns left without a value are those that need one and that no mapping covers. -/
theorem Graph.mem_uncovered_iff {finding : Finding} :
    finding ∈ graph.uncovered ↔ ∃ table ∈ graph.tables, ∃ column ∈ table.columns,
      column.NeedsValue ∧
      (∀ mapping ∈ graph.mappings, mapping.covers table.key column.name = false) ∧
      finding = .unmappedColumn table.key column.name := by
  unfold Graph.uncovered
  rw [List.mem_map]
  constructor
  · rintro ⟨⟨table, column⟩, left, rfl⟩
    obtain ⟨member, bare⟩ := List.mem_filter.mp left
    obtain ⟨here, there⟩ := Graph.mem_columns_iff.mp member
    simp only [Bool.and_eq_true, Bool.not_eq_true', Option.isNone_iff_eq_none,
      List.any_eq_false, Bool.not_eq_true] at bare
    obtain ⟨⟨⟨notNull, pk⟩, default⟩, unmapped⟩ := bare
    exact ⟨table, here, column, there, ⟨notNull, pk, default⟩, unmapped, rfl⟩
  · rintro ⟨table, here, column, there, ⟨notNull, pk, default⟩, unmapped, rfl⟩
    refine ⟨(table, column),
      List.mem_filter.mpr ⟨Graph.mem_columns_iff.mpr ⟨here, there⟩, ?_⟩, rfl⟩
    simpa [notNull, pk, default] using unmapped

/-- The finding on a column tells whether this column is left without a value. -/
theorem Graph.unmapped_mem_uncovered_iff {table : Table} {column : Column}
    (here : table ∈ graph.tables) (there : column ∈ table.columns) :
    .unmappedColumn table.key column.name ∈ graph.uncovered ↔
      column.NeedsValue ∧
        ∀ mapping ∈ graph.mappings, mapping.covers table.key column.name = false := by
  rw [Graph.mem_uncovered_iff]
  constructor
  · rintro ⟨table', here', column', there', needs, unmapped, same⟩
    obtain ⟨key, name⟩ := Finding.unmappedColumn.inj same
    obtain rfl : table = table' := List.inj_on_of_nodup_map graph.keys_nodup here here' key
    obtain rfl : column = column' := List.inj_on_of_nodup_map table.names_nodup there there' name
    exact ⟨needs, unmapped⟩
  · rintro ⟨needs, unmapped⟩
    exact ⟨table, here, column, there, needs, unmapped, rfl⟩

theorem Graph.uncovered_eq_nil_iff :
    graph.uncovered = [] ↔ ∀ table ∈ graph.tables, ∀ column ∈ table.columns, column.NeedsValue →
      ∃ mapping ∈ graph.mappings, mapping.covers table.key column.name = true := by
  rw [List.eq_nil_iff_forall_not_mem]
  constructor
  · intro none table here column there needs
    by_contra unmapped
    push Not at unmapped
    refine none _ ((Graph.unmapped_mem_uncovered_iff here there).mpr ⟨needs, ?_⟩)
    simpa using unmapped
  · intro covered finding left
    obtain ⟨table, here, column, there, needs, unmapped, _⟩ := Graph.mem_uncovered_iff.mp left
    obtain ⟨mapping, member, covers⟩ := covered table here column there needs
    simp [unmapped mapping member] at covers

/-- A valid report: every mapping is sound, and every column that needs a value is covered. -/
theorem Graph.report_valid {strict : Bool} (valid : (graph.report strict).valid = true) :
    (∀ mapping ∈ graph.mappings, mapping.Sound graph) ∧
      ∀ table ∈ graph.tables, ∀ column ∈ table.columns, column.NeedsValue →
        ∃ mapping ∈ graph.mappings, mapping.covers table.key column.name = true := by
  have none : graph.errors strict = [] := by
    simpa [Report.valid, Graph.report] using valid
  rw [Graph.errors, List.append_eq_nil_iff, List.append_eq_nil_iff] at none
  refine ⟨fun mapping member => ?_, Graph.uncovered_eq_nil_iff.mp none.1.2⟩
  exact Mapping.errors_eq_nil_iff.mp (List.flatMap_eq_nil_iff.mp none.1.1 mapping member)

end SchemaAtlas.Schema
