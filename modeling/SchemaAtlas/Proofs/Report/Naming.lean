import Mathlib.Data.List.Pairwise
import Mathlib.Data.List.SplitBy
import SchemaAtlas.Proofs.Report.Pass
import SchemaAtlas.Proofs.Schema.Index

/-! # Naming a column

The column part of a target is a list of names that commas, semicolons and blanks divide. A mapping
therefore reaches a declared column by its name when none of these stands in the name. The names of
all other columns are read as other names: nothing covers such a column but the fields of a mapping
to the whole table, and a mapping to it is reported for those parts that name no column.
-/

namespace SchemaAtlas

/-- Nothing in a column name divides it. -/
def Undivided (name : String) : Prop := ∀ c ∈ name.toList, isTokenDivider c = false

instance (name : String) : Decidable (Undivided name) :=
  decidable_of_iff ((name.toList.all fun c => !isTokenDivider c) = true) (by simp [Undivided])

section Tokens

/-- Both divide names, or neither does. -/
def Alike (a b : Char) : Prop := isTokenDivider a = isTokenDivider b

instance : Trans Alike Alike Alike := ⟨Eq.trans⟩

instance : Std.Symm Alike := ⟨fun _ _ => Eq.symm⟩

/-- The runs of dividers, and of other characters, that a text is cut into. -/
def runs (cs : List Char) : List (List Char) :=
  cs.splitBy fun a b => isTokenDivider a == isTokenDivider b

variable {cs run : List Char} {name : String}

theorem alike_of_mem_runs (member : run ∈ runs cs) {a b : Char} (first : a ∈ run)
    (second : b ∈ run) : Alike a b := by
  have chain : run.IsChain Alike :=
    (List.isChain_of_mem_splitBy member).imp fun a b same => beq_iff_eq.mp same
  -- to be alike is transitive, so that neighbours being alike is enough for all of a run
  have pairs := List.isChain_iff_pairwise.mp chain
  exact pairs.forall_of_forall (fun a _ => (rfl : Alike a a)) first second

/-- The tokens are the runs of characters that divide nothing. -/
theorem mem_columnTokens_iff :
    run ∈ columnTokens cs ↔ run ∈ runs cs ∧ ∀ c ∈ run, isTokenDivider c = false := by
  rw [columnTokens, List.mem_filter, ← runs]
  refine and_congr_right fun member => ?_
  rw [List.any_eq_true]
  constructor
  · rintro ⟨c, inside, plain⟩ d other
    have alike : isTokenDivider d = isTokenDivider c := alike_of_mem_runs member other inside
    simpa [alike] using plain
  · intro plain
    obtain ⟨c, inside⟩ := List.exists_mem_of_ne_nil run (List.ne_nil_of_mem_splitBy member)
    exact ⟨c, inside, by simpa using plain c inside⟩

/-- A text without dividers is its own only token. -/
theorem columnTokens_of_undivided (filled : cs ≠ [])
    (undivided : ∀ c ∈ cs, isTokenDivider c = false) : columnTokens cs = [cs] := by
  have alike : cs.Pairwise fun a b => (isTokenDivider a == isTokenDivider b) = true := by
    refine List.pairwise_of_forall_mem_list fun a first b second => ?_
    rw [undivided a first, undivided b second]
    rfl
  obtain ⟨c, inside⟩ := List.exists_mem_of_ne_nil cs filled
  have plain : (cs.any fun c => !isTokenDivider c) = true :=
    List.any_eq_true.mpr ⟨c, inside, by simpa using undivided c inside⟩
  rw [columnTokens, List.splitBy_of_isChain filled alike.isChain, List.filter_singleton, plain]
  rfl

/-- A text is cut into no token when it holds dividers only. -/
theorem columnTokens_eq_nil_iff : columnTokens cs = [] ↔ ∀ c ∈ cs, isTokenDivider c = true := by
  have whole : (runs cs).flatten = cs := List.flatten_splitBy _ cs
  constructor
  · intro none c member
    rw [← whole] at member
    obtain ⟨run, inside, member⟩ := List.mem_flatten.mp member
    have empty := List.filter_eq_nil_iff.mp none run inside
    have dividers : ∀ c ∈ run, isTokenDivider c = true := by simpa using empty
    exact dividers c member
  · intro dividers
    refine List.filter_eq_nil_iff.mpr fun run inside => ?_
    have within : ∀ c ∈ run, isTokenDivider c = true := fun c member =>
      dividers c (whole ▸ List.mem_flatten.mpr ⟨run, inside, member⟩)
    simpa using within

theorem columnNames_eq_nil_iff :
    columnNames name = [] ↔ ∀ c ∈ name.toList, isTokenDivider c = true := by
  rw [columnNames, List.map_eq_nil_iff, columnTokens_eq_nil_iff]

theorem columnNames_of_undivided (filled : name ≠ "") (undivided : Undivided name) :
    columnNames name = [name] := by
  have characters : name.toList ≠ [] := by simpa using filled
  rw [columnNames, columnTokens_of_undivided characters undivided, List.map_singleton,
    String.ofList_toList]

/-- No divided name is read as its own: the names that are read hold no divider. -/
theorem mem_columnNames_self_iff (filled : name ≠ "") :
    name ∈ columnNames name ↔ Undivided name := by
  constructor
  · intro member
    obtain ⟨run, token, same⟩ := List.mem_map.mp member
    have plain := (mem_columnTokens_iff.mp token).2
    rwa [← same, Undivided, String.toList_ofList]
  · intro undivided
    rw [columnNames_of_undivided filled undivided]
    exact List.mem_singleton_self name

end Tokens

namespace Schema

open Document

/-- A graph with one more mapping. -/
def Graph.withMapping (graph : Graph) (mapping : Mapping) : Graph :=
  { graph with mappings := graph.mappings ++ [mapping] }

/-- What is told of a further mapping to a column by its name, and of the column. -/
structure NamingErrors (graph : Graph) (table : Table) (column : Column) (mapping : Mapping)
    (own errors : List Finding) : Prop where
  nameless : ∀ index raw, .noColumnNamed index raw ∈ own ↔
    index = mapping.index ∧ raw = mapping.rawTarget ∧
      ∀ c ∈ column.name.toList, isTokenDivider c = true
  unknown : ∀ index key name, .unknownColumn index key name ∈ own ↔
    index = mapping.index ∧ key = table.key ∧
      name ∈ columnNames column.name ∧ name ∉ table.columns.map Column.name
  unmapped : .unmappedColumn table.key column.name ∈ errors ↔
    column.NeedsValue ∧ ¬ Undivided column.name ∧
      ∀ other ∈ graph.mappings, other.covers table.key column.name = false

/-- Nothing is told of the columns that a mapping names, nor of one that is left out. -/
structure NamesColumn (table : Table) (column : Column) (own errors : List Finding) : Prop where
  nameless : ∀ index raw, .noColumnNamed index raw ∉ own
  unknown : ∀ index key name, .unknownColumn index key name ∉ own
  unmapped : .unmappedColumn table.key column.name ∉ errors

section Further

variable {graph : Graph} {mapping : Mapping} {finding : Finding} {strict : Bool}

/-- A further mapping adds what is wrong with it to what is told of mappings. -/
theorem about_mapping_withMapping (graph : Graph) (mapping : Mapping) (strict : Bool) :
    about .mapping ((graph.withMapping mapping).errors strict) =
      about .mapping (graph.errors strict) ++ mapping.errors graph := by
  rw [(parted_errors _ strict).about_eq .mapping, (parted_errors graph strict).about_eq .mapping]
  exact List.flatMap_append.trans (congrArg _ (List.flatMap_singleton ..))

theorem unmapped_mem_errors_withMapping_iff {table : Table} {column : Column}
    (here : table ∈ graph.tables) (there : column ∈ table.columns) :
    .unmappedColumn table.key column.name ∈ (graph.withMapping mapping).errors strict ↔
      column.NeedsValue ∧ mapping.covers table.key column.name = false ∧
        ∀ other ∈ graph.mappings, other.covers table.key column.name = false := by
  rw [mem_errors_iff_of_column rfl]
  have needs : .unmappedColumn table.key column.name ∈ (graph.withMapping mapping).uncovered ↔
      column.NeedsValue ∧ ∀ other ∈ graph.mappings ++ [mapping],
        other.covers table.key column.name = false :=
    Graph.unmapped_mem_uncovered_iff here there
  rw [needs, List.forall_mem_append, List.forall_mem_singleton]
  exact and_congr_right fun _ => and_comm

theorem mem_errors_iff_of_found {path : TargetPath} {table : Table}
    (aimed : mapping.target = .path path) (found : graph.table? path.key = some table) :
    finding ∈ mapping.errors graph ↔
      finding ∈ mapping.originErrors graph ∨ finding ∈ mapping.columnErrors path table := by
  have target : mapping.targetErrors graph = mapping.columnErrors path table := by
    rw [Mapping.targetErrors, aimed]
    dsimp only
    rw [found]
  rw [Mapping.errors, List.mem_append, target]

/-- A mapping to a column by its name covers it just when nothing divides the name. -/
theorem covers_by_name_iff {key : TableKey} {name : String} (filled : name ≠ "")
    (single : name ≠ wildcard) (aimed : mapping.target = .path ⟨key, name⟩) :
    mapping.covers key name = true ↔ Undivided name := by
  rw [← mem_columnNames_self_iff filled, Mapping.covers, aimed]
  dsimp only
  rw [namedColumns_column (isWildcard_eq_false_iff.mpr single), beq_self_eq_true, Bool.true_and,
    List.contains_iff_mem]

/-- What a further mapping to a column by its name is reported for. -/
theorem namingErrors_withMapping {table : Table} {column : Column} (here : table ∈ graph.tables)
    (there : column ∈ table.columns) (filled : column.name ≠ "") (single : column.name ≠ wildcard)
    (aimed : mapping.target = .path ⟨table.key, column.name⟩) (strict : Bool) :
    NamingErrors graph table column mapping (mapping.errors graph)
      ((graph.withMapping mapping).errors strict) := by
  have found : graph.table? table.key = some table := Keyed.find?_of_mem graph.keys_nodup here
  have literal : (⟨table.key, column.name⟩ : TargetPath).isWildcard = false :=
    isWildcard_eq_false_iff.mpr single
  have names : mapping.namedColumns ⟨table.key, column.name⟩ = columnNames column.name :=
    namedColumns_column literal
  refine ⟨fun index raw => ?_, fun index key name => ?_, ?_⟩
  · rw [mem_errors_iff_of_found aimed found, Mapping.mem_originErrors_iff,
      Mapping.mem_columnErrors_iff, columnNames_eq_nil_iff]
    simp [literal, and_comm, and_assoc]
  · have missing : table.hasColumn name = false ↔ name ∉ table.columns.map Column.name := by
      rw [← Bool.not_eq_true]
      exact Keyed.isSome_find?_iff.not
    rw [mem_errors_iff_of_found aimed found, Mapping.mem_originErrors_iff,
      Mapping.mem_columnErrors_iff, names, ← missing]
    constructor
    · rintro ((⟨_, _, _, same⟩ | ⟨_, same⟩ | ⟨_, _, _, _, same⟩) | ⟨_, _, same⟩ |
        ⟨_, part, absent, same⟩)
      all_goals cases same
      exact ⟨rfl, rfl, part, absent⟩
    · rintro ⟨rfl, rfl, member, absent⟩
      exact .inr (.inr ⟨name, member, absent, rfl⟩)
  · rw [unmapped_mem_errors_withMapping_iff here there, ← Bool.not_eq_true,
      covers_by_name_iff filled single aimed]

theorem NamingErrors.namesColumn {table : Table} {column : Column} {own errors : List Finding}
    (told : NamingErrors graph table column mapping own errors) (there : column ∈ table.columns)
    (filled : column.name ≠ "") (undivided : Undivided column.name) :
    NamesColumn table column own errors := by
  refine ⟨fun index raw member => ?_, fun index key name member => ?_, fun member => ?_⟩
  · have dividers := ((told.nameless index raw).mp member).2.2
    have unnamed := columnNames_eq_nil_iff.mpr dividers
    rw [columnNames_of_undivided filled undivided] at unnamed
    cases unnamed
  · obtain ⟨_, _, token, absent⟩ := (told.unknown index key name).mp member
    rw [columnNames_of_undivided filled undivided, List.mem_singleton] at token
    exact absent (token ▸ List.mem_map_of_mem there)
  · exact (told.unmapped.mp member).2.1 undivided

end Further

section Documents

variable {fallback : String} {document : Value} {graph : Graph}

/-- No column of a document goes without a name. -/
theorem name_ne_empty_of_read (success : Graph.ofDocument? fallback document = .ok graph)
    {table : Table} {column : Column} (here : table ∈ graph.tables)
    (there : column ∈ table.columns) : column.name ≠ "" := by
  obtain ⟨raw, _, read⟩ := exists_last_of_read success here
  have shown : column.name ∈ table.columns.map Column.name := List.mem_map_of_mem there
  rw [names_of_table read, List.mem_eraseDups] at shown
  obtain ⟨own, declared, same⟩ := List.mem_map.mp shown
  rw [← same]
  exact Value.display_ne_empty (mem_namedEntries_iff.mp declared).2

/-- A further mapping that names a declared column is reported for the parts of the name that name
no column, and for a name without any part; a column whose name nothing divides is reached. -/
theorem declared_column_reached_by_name
    (success : Graph.ofDocument? fallback document = .ok graph) {table : Table} {column : Column}
    (here : table ∈ graph.tables) (there : column ∈ table.columns)
    (single : column.name ≠ wildcard) {mapping : Mapping}
    (aimed : mapping.target = .path ⟨table.key, column.name⟩) (strict : Bool) :
    about .mapping ((graph.withMapping mapping).errors strict) =
        about .mapping (graph.errors strict) ++ mapping.errors graph ∧
      NamingErrors graph table column mapping (mapping.errors graph)
        ((graph.withMapping mapping).errors strict) ∧
      (Undivided column.name → NamesColumn table column (mapping.errors graph)
        ((graph.withMapping mapping).errors strict)) := by
  have filled := name_ne_empty_of_read success here there
  have told := namingErrors_withMapping here there filled single aimed strict
  exact ⟨about_mapping_withMapping graph mapping strict, told, told.namesColumn there filled⟩

/-- A table of two columns that need a value, one of them mapped and the other of a given name. -/
def documentDeclaring (column : String) : Value :=
  let record (entries : List (String × Value)) : Value := .dict (Entries.named entries)
  let needed (name : String) : Value := record [("name", .text name), ("not_null", .bool true)]
  let table : Value := record [
    ("name", .text "people"), ("columns", .list [needed "code", needed column])]
  record [
    ("sources", .list [record [("id", .text "crm")]]),
    ("targets", .list [record [("db", .text "hr"), ("tables", .list [table])]]),
    ("mappings", .list [record [("target", .text "hr.public.people.code"),
      ("from", record [("source_id", .text "crm")])]])]

/-- A mapping to the other column by its name. -/
def mappingNaming (column : String) : Mapping where
  index := 1
  rawTarget := .text ("hr.public.people." ++ column)
  target := .path ⟨⟨"hr", "public", "people"⟩, column⟩
  origin := { sourceId := some "crm" }
  notes := none
  tags := []

/-- Points and other signs divide nothing. -/
theorem dotted_column_reached_by_name :
    ∃ graph table column, Graph.ofDocument? "untitled" (documentDeclaring "né.é-à") = .ok graph ∧
      table ∈ graph.tables ∧ column ∈ table.columns ∧ column.NeedsValue ∧
      column.name = "né.é-à" ∧ column.name ≠ wildcard ∧
      (mappingNaming column.name).target = .path ⟨table.key, column.name⟩ ∧
      Undivided column.name ∧
      NamesColumn table column ((mappingNaming column.name).errors graph)
        ((graph.withMapping (mappingNaming column.name)).errors true) := by
  have success : Graph.ofDocument? "untitled" (documentDeclaring "né.é-à") = .ok _ := rfl
  have plain : Undivided "né.é-à" := by decide
  refine ⟨_, _, _, success, List.mem_singleton_self _,
    List.mem_cons_of_mem _ (List.mem_singleton_self _), ⟨rfl, rfl, rfl⟩, rfl, by decide, rfl,
    plain, ?_⟩
  exact (declared_column_reached_by_name success (List.mem_singleton_self _)
    (List.mem_cons_of_mem _ (List.mem_singleton_self _)) (by decide) rfl true).2.2 plain

/-- A name of two words is read as two names, so its column is out of reach. -/
theorem divided_column_out_of_reach :
    ∃ graph, Graph.ofDocument? "untitled" (documentDeclaring "first name") = .ok graph ∧
      graph.columns.map (fun (table, column) => (table.key.dotted, column.name)) =
        [("hr.public.people", "code"), ("hr.public.people", "first name")] ∧
      (mappingNaming "first name").target = .path ⟨⟨"hr", "public", "people"⟩, "first name"⟩ ∧
      (graph.source? "crm").isSome = true ∧
      ((graph.withMapping (mappingNaming "first name")).report false).errors =
        ["Mapping[1] target column 'hr.public.people.first' does not exist",
          "Mapping[1] target column 'hr.public.people.name' does not exist",
          "Column 'hr.public.people.first name' is NOT NULL without a default " ++
            "and has no mapping"] :=
  ⟨_, rfl, by decide +kernel, rfl, by decide +kernel, by decide +kernel⟩

end Documents

end Schema

end SchemaAtlas
