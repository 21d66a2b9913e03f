import SchemaAtlas.Proofs.Report.Referential

/-! # Findings mapping by mapping

A report comes of one pass over the mappings, which keeps a store of the columns covered so far and
leaves it to the look at the columns behind it. No mapping sees what the pass found before: one more
mapping puts its own findings behind those of the others, and takes away the columns that it covers
and the source that it names. So the order of the mappings shows in the order of the findings only.
-/

namespace SchemaAtlas

open Schema Document

/-- What a finding is about. -/
inductive Topic where
  | mapping
  | column
  | source
  | table
  deriving DecidableEq, Repr

namespace Finding

/-- What a finding is about. -/
def topic : Finding → Topic
  | .unknownSource _ _ => .mapping
  | .missingOrigin _ _ => .mapping
  | .badTransform _ _ _ => .mapping
  | .badTarget _ _ => .mapping
  | .unknownTable _ _ => .mapping
  | .noColumnNamed _ _ => .mapping
  | .unknownColumn _ _ _ => .mapping
  | .wildcardWithoutFields _ _ => .mapping
  | .unmappedColumn _ _ => .column
  | .unusedSource _ => .source
  | .redeclaredTable _ => .table

/-- The index of the mapping that a finding is about. -/
def index? : Finding → Option Nat
  | .unknownSource index _ => some index
  | .missingOrigin index _ => some index
  | .badTransform index _ _ => some index
  | .badTarget index _ => some index
  | .unknownTable index _ => some index
  | .noColumnNamed index _ => some index
  | .unknownColumn index _ _ => some index
  | .wildcardWithoutFields index _ => some index
  | .unmappedColumn _ _ => none
  | .unusedSource _ => none
  | .redeclaredTable _ => none

theorem topic_of_index {finding : Finding} {index : Nat} (indexed : finding.index? = some index) :
    finding.topic = .mapping := by
  cases finding <;> first | rfl | cases indexed

/-- Whether a mapping does away with a finding: it covers the column, or names the source. -/
def settledBy (mapping : Mapping) : Finding → Bool
  | .unmappedColumn key column => mapping.covers key column
  | .unusedSource source => given? mapping.origin.sourceId == some source
  | _ => false

end Finding

/-- The findings on one topic, in their order. -/
def about (topic : Topic) (findings : List Finding) : List Finding :=
  findings.filter fun finding => finding.topic = topic

/-- Findings after one more mapping, told by those before it and those of the mapping alone. -/
structure Extends (mapping : Mapping) (before alone after : List Finding) : Prop where
  ordered : after =
    about .mapping after ++ about .column after ++ about .source after ++ about .table after
  mappings : about .mapping after = about .mapping before ++ about .mapping alone
  columns : about .column after =
    (about .column before).filter fun finding => !finding.settledBy mapping
  sources : about .source after =
    (about .source before).filter fun finding => !finding.settledBy mapping
  tables : about .table after = about .table before

/-- What a pass over mappings has found so far, and the columns covered so far by table. -/
structure Pass where
  errors : List Finding
  warnings : List Finding
  covered : List (TableKey × List String)

namespace Pass

/-- Nothing is found before the first mapping. -/
def start : Pass := ⟨[], [], []⟩

/-- The columns of a table that were covered so far. -/
def coveredIn (pass : Pass) (key : TableKey) : List String :=
  ((Keyed.find? Prod.fst key pass.covered).map Prod.snd).getD []

/-- Add columns of a table to those covered so far. -/
def cover (pass : Pass) (key : TableKey) (names : List String) : Pass :=
  { pass with covered := Keyed.store Prod.fst (key, pass.coveredIn key ++ names) pass.covered }

/-- Look at one more mapping. -/
def step (graph : Graph) (pass : Pass) (mapping : Mapping) : Pass :=
  let seen := match mapping.target with
    | .path path => pass.cover path.key (mapping.namedColumns path)
    | .unresolved _ => pass
  { seen with
    errors := seen.errors ++ mapping.errors graph
    warnings := seen.warnings ++ mapping.warnings }

/-- Look at the mappings of a graph one after the other. -/
def ofGraph (graph : Graph) : Pass := graph.mappings.foldl (step graph) start

/-- The columns that need a value and were not covered so far. -/
def uncovered (pass : Pass) (graph : Graph) : List Finding :=
  (graph.columns.filter fun (table, column) =>
    column.notNull && !column.pk && column.default.isNone &&
      !(pass.coveredIn table.key).contains column.name).map
    fun (table, column) => .unmappedColumn table.key column.name

/-- The report that follows from a pass and the declarations of a graph. -/
def report (pass : Pass) (graph : Graph) (strict : Bool) : Report where
  errors := (pass.errors ++ pass.uncovered graph ++
    if strict then graph.redeclarations else []).map Finding.message
  warnings := (pass.warnings ++ graph.unused ++
    if strict then [] else graph.redeclarations).map Finding.message

variable {pass : Pass} {graph : Graph} {mapping : Mapping} {key : TableKey} {name : String}

end Pass

section Topics

/-- Findings that come topic by topic. -/
structure Parted (findings mappings columns sources tables : List Finding) : Prop where
  ordered : findings = mappings ++ columns ++ sources ++ tables
  mappings : ∀ finding ∈ mappings, finding.topic = .mapping
  columns : ∀ finding ∈ columns, finding.topic = .column
  sources : ∀ finding ∈ sources, finding.topic = .source
  tables : ∀ finding ∈ tables, finding.topic = .table

variable {findings mappings columns sources tables : List Finding}

theorem about_of_all {topic : Topic} (all : ∀ finding ∈ findings, finding.topic = topic)
    (other : Topic) : about other findings = if topic = other then findings else [] := by
  unfold about
  split
  · next same =>
    exact List.filter_eq_self.mpr fun finding member =>
      decide_eq_true ((all finding member).trans same)
  · next differ =>
    exact List.filter_eq_nil_iff.mpr fun finding member same =>
      differ ((all finding member).symm.trans (of_decide_eq_true same))

/-- The findings on a topic are the part of that topic. -/
theorem Parted.about_eq (parted : Parted findings mappings columns sources tables)
    (topic : Topic) :
    about topic findings = match topic with
      | .mapping => mappings
      | .column => columns
      | .source => sources
      | .table => tables := by
  have split : about topic findings =
      about topic mappings ++ about topic columns ++ about topic sources ++ about topic tables := by
    rw [parted.ordered]
    simp only [about, List.filter_append]
  rw [split, about_of_all parted.mappings, about_of_all parted.columns,
    about_of_all parted.sources, about_of_all parted.tables]
  cases topic <;> simp

/-- Findings that change part by part, as one more mapping changes them. -/
theorem Parted.extends {mapping : Mapping} {alone after own others others' others'' : List Finding}
    (parted : Parted findings mappings columns sources tables)
    (single : Parted alone own others others' others'')
    (more : Parted after (mappings ++ own)
      (columns.filter fun finding => !finding.settledBy mapping)
      (sources.filter fun finding => !finding.settledBy mapping) tables) :
    Extends mapping findings alone after := by
  refine ⟨?_, ?_, ?_, ?_, ?_⟩
  · simp only [more.about_eq]
    exact more.ordered
  · simp only [more.about_eq, parted.about_eq, single.about_eq]
  · simp only [more.about_eq, parted.about_eq]
  · simp only [more.about_eq, parted.about_eq]
  · simp only [more.about_eq, parted.about_eq]

end Topics

section Mappings

variable {graph : Graph} {mapping : Mapping} {finding : Finding}

/-- Everything that is wrong with a mapping is told with its index. -/
theorem index_of_mem_errors (member : finding ∈ mapping.errors graph) :
    finding.index? = some mapping.index := by
  rcases List.mem_append.mp member with origin | target
  · rcases Mapping.mem_originErrors_iff.mp origin with ⟨_, _, _, rfl⟩ | ⟨_, rfl⟩ | ⟨_, _, _, _, rfl⟩
      <;> rfl
  · rcases Mapping.mem_targetErrors_iff.mp target with
      ⟨_, _, rfl⟩ | ⟨_, _, ⟨_, rfl⟩ | ⟨_, _, named⟩⟩
    · rfl
    · rfl
    · rcases Mapping.mem_columnErrors_iff.mp named with ⟨_, _, rfl⟩ | ⟨_, _, _, rfl⟩ <;> rfl

/-- What is wrong with mappings is about mappings. -/
theorem topic_of_mem_errors {mappings : List Mapping}
    (member : finding ∈ mappings.flatMap (·.errors graph)) : finding.topic = .mapping := by
  obtain ⟨mapping, _, inside⟩ := List.mem_flatMap.mp member
  exact Finding.topic_of_index (index_of_mem_errors inside)

/-- What is doubtful about mappings is about mappings. -/
theorem topic_of_mem_warnings {mappings : List Mapping}
    (member : finding ∈ mappings.flatMap (·.warnings)) : finding.topic = .mapping := by
  obtain ⟨mapping, _, inside⟩ := List.mem_flatMap.mp member
  unfold Mapping.warnings at inside
  split at inside
  · split at inside
    · obtain rfl := List.mem_singleton.mp inside
      rfl
    · cases inside
  · cases inside

theorem topic_of_mem_uncovered (member : finding ∈ graph.uncovered) : finding.topic = .column := by
  obtain ⟨_, _, rfl⟩ := List.mem_map.mp member
  rfl

theorem topic_of_mem_unused (member : finding ∈ graph.unused) : finding.topic = .source := by
  obtain ⟨_, _, rfl⟩ := List.mem_map.mp member
  rfl

theorem topic_of_mem_redeclarations (member : finding ∈ graph.redeclarations) :
    finding.topic = .table := by
  obtain ⟨_, _, rfl⟩ := List.mem_map.mp member
  rfl

/-- The errors of a graph come topic by topic. -/
theorem parted_errors (graph : Graph) (strict : Bool) :
    Parted (graph.errors strict) (graph.mappings.flatMap (·.errors graph)) graph.uncovered []
      (if strict then graph.redeclarations else []) := by
  refine ⟨?_, fun _ => topic_of_mem_errors, fun _ => topic_of_mem_uncovered, by simp, ?_⟩
  · rw [List.append_nil]
    rfl
  · cases strict with
    | true => exact fun _ => topic_of_mem_redeclarations
    | false => simp

theorem mem_errors_iff_of_mapping {strict : Bool} (topic : finding.topic = .mapping) :
    finding ∈ graph.errors strict ↔ ∃ mapping ∈ graph.mappings, finding ∈ mapping.errors graph := by
  have part : about .mapping (graph.errors strict) = graph.mappings.flatMap (·.errors graph) :=
    (parted_errors graph strict).about_eq .mapping
  rw [← List.mem_flatMap, ← part, about, List.mem_filter]
  simp [topic]

theorem mem_errors_iff_of_column {strict : Bool} (topic : finding.topic = .column) :
    finding ∈ graph.errors strict ↔ finding ∈ graph.uncovered := by
  have part : about .column (graph.errors strict) = graph.uncovered :=
    (parted_errors graph strict).about_eq .column
  rw [← part, about, List.mem_filter]
  simp [topic]

/-- The warnings of a graph come topic by topic. -/
theorem parted_warnings (graph : Graph) (strict : Bool) :
    Parted (graph.warnings strict) (graph.mappings.flatMap (·.warnings)) [] graph.unused
      (if strict then [] else graph.redeclarations) := by
  refine ⟨?_, fun _ => topic_of_mem_warnings, by simp, fun _ => topic_of_mem_unused, ?_⟩
  · rw [List.append_nil]
    rfl
  · cases strict with
    | true => simp
    | false => exact fun _ => topic_of_mem_redeclarations

end Mappings

section Extended

variable (graph : Graph) (mapping : Mapping)

end Extended

end SchemaAtlas
