import SchemaAtlas.Proofs.Lineage.Unknown
import SchemaAtlas.Proofs.Report.Told
import SchemaAtlas.Proofs.Site.Shown

/-! # Whether a source is used

The report, the sources page and lineage each tell in their own way whether a declared source is
used: the report warns of a source that no mapping names, the page counts the mappings that name
one, and lineage has nodes for what is read from one. They agree, except that lineage also reads
from the source called unknown where a mapping names none. There is lineage of every graph, but a
report and a page only where the values that they show can be written.
-/

namespace SchemaAtlas.Site

open Schema Document
open Lineage (Provenance provenances unknownName)

/-- A mapping of the graph names a source. -/
def Named (graph : Graph) (id : String) : Prop :=
  ∃ mapping ∈ graph.mappings, given? mapping.origin.sourceId = some id

/-- An origin leads to a source: it names that source, or it names nothing at all and the source is
the one called unknown. -/
def LeadsTo (origin : Origin) (id : String) : Prop :=
  given? origin.sourceId = some id ∨
    given? origin.sourceId = none ∧ given? origin.rule = none ∧ id = unknownName

section Warned

variable {graph : Graph} {id : String}

/-- How the message of a finding starts, by what the finding is about. -/
def initial : Topic → Char
  | .mapping => 'M'
  | .column => 'C'
  | .source => 'S'
  | .table => 'T'

theorem head?_message (finding : Finding) :
    finding.message.toList.head? = some (initial finding.topic) := by
  cases finding <;> simp [Finding.message, mappingLabel, initial, Finding.topic]

/-- No other finding has the message of an unused source. -/
theorem eq_of_message_eq {finding : Finding}
    (same : finding.message = (Finding.unusedSource id).message) : finding = .unusedSource id := by
  have starts : initial finding.topic = 'S' := by
    have told := head?_message finding
    rw [same, head?_message] at told
    exact (Option.some.inj told).symm
  cases finding with
  | unusedSource other =>
    have same : other = id := by simpa [Finding.message, String.append_assoc] using same
    rw [same]
  | _ => cases starts

/-- The report warns of the sources that are declared and that no mapping names. -/
theorem warned_iff {strict : Bool} :
    (Finding.unusedSource id).message ∈ (graph.report strict).warnings ↔
      id ∈ graph.sources.map Source.id ∧ ¬ Named graph id := by
  have unused : about .source (graph.warnings strict) = graph.unused :=
    (parted_warnings graph strict).about_eq .source
  have told : (Finding.unusedSource id).message ∈ (graph.report strict).warnings ↔
      Finding.unusedSource id ∈ graph.unused := by
    rw [← unused, about, List.mem_filter]
    constructor
    · intro told
      obtain ⟨finding, member, same⟩ := List.mem_map.mp told
      obtain rfl := eq_of_message_eq same
      exact ⟨member, rfl⟩
    · exact fun found => List.mem_map_of_mem found.1
  rw [told]
  simp only [Graph.unused, Named, List.mem_map, List.mem_filter, Finding.unusedSource.injEq,
    Bool.not_eq_true', List.any_eq_false, beq_iff_eq, not_exists, not_and]
  constructor
  · rintro ⟨source, ⟨member, unnamed⟩, rfl⟩
    exact ⟨⟨source, member, rfl⟩, unnamed⟩
  · rintro ⟨⟨source, member, rfl⟩, unnamed⟩
    exact ⟨source, ⟨member, unnamed⟩, rfl⟩

end Warned

/-- The page counts no mapping of a source that none names. -/
theorem mappingCount_eq_zero_iff {graph : Graph} {id : String} :
    mappingCount graph id = 0 ↔ ¬ Named graph id := by
  simp only [mappingCount, List.countP_eq_zero, beq_iff_eq, Named, not_exists, not_and]

section Read

variable {graph : Graph} {lineage : Lineage.Graph} {mapping : Mapping} {id : String}

/-- What a mapping reads from is a column of the source that its origin leads to. -/
theorem node_ofOrigin_iff {origin : Origin} {path : Option String} :
    (∃ column, (Provenance.ofOrigin origin path).node = .sourceColumn id column) ↔
      LeadsTo origin id := by
  unfold LeadsTo
  cases source : given? origin.sourceId with
  | some named =>
    obtain ⟨_, column, node⟩ := Provenance.ofOrigin_of_source source path
    simp [node]
  | none =>
    cases rule : given? origin.rule with
    | some text => simp [Provenance.ofOrigin, source, rule, Provenance.node]
    | none =>
      obtain ⟨_, column, node⟩ := Provenance.ofOrigin_of_nothing source rule path
      simp [node, eq_comm]

theorem provenances_ne_nil (mapping : Mapping) : provenances mapping ≠ [] := by
  unfold provenances
  cases target : mapping.target with
  | unresolved raw => simp
  | path path =>
    by_cases fields : mapping.origin.fields = []
    · simp [Lineage.flows_of_no_fields target fields]
    · simp [Lineage.flows_of_fields target fields, fields]

/-- Lineage has a column of a source exactly when the origin of some mapping leads there, whether or
not the mapping has a target. -/
theorem exists_column_iff (built : Lineage.Built graph lineage) :
    (∃ node ∈ lineage.nodes, ∃ column, node.StandsFor (.sourceColumn id column)) ↔
      ∃ mapping ∈ graph.mappings, LeadsTo mapping.origin id := by
  constructor
  · rintro ⟨node, member, column, stands⟩
    rcases built.mem_nodes member with declared | ⟨⟨mapping, here, needed⟩, _⟩
    · obtain ⟨ref, stands', declares, _⟩ := Lineage.declared_of_mem_declaredNodes declared
      obtain rfl := stands.unique stands'
      exact declares.elim
    · refine ⟨mapping, here, ?_⟩
      rcases Lineage.mem_mappingNodes needed with ⟨path, origin⟩ | ⟨flow, _, target⟩
      · rcases Provenance.stands_of_mem origin with root | start
        · -- The root of a provenance is a source or a rule.
          have root := stands.unique root
          unfold Provenance.root at root
          split at root <;> cases root
        · exact node_ofOrigin_iff.mp ⟨column, (stands.unique start).symm⟩
      · rcases (Lineage.Flow.stands_of_mem target).1 with table | aim
        · cases stands.unique table
        · have aim := stands.unique aim
          unfold Lineage.Flow.target at aim
          split at aim <;> cases aim
  · rintro ⟨mapping, here, leads⟩
    obtain ⟨provenance, member⟩ := List.exists_mem_of_ne_nil _ (provenances_ne_nil mapping)
    obtain ⟨path, rfl⟩ := Lineage.mem_provenances member
    obtain ⟨column, start⟩ := node_ofOrigin_iff.mpr leads
    obtain ⟨node, inside, stands⟩ := (built.startsFrom here member).node
    exact ⟨node, inside, column, start ▸ stands⟩

end Read

section Counted

variable {graph : Graph} {source : Source}

/-- The sources page of a site has the row of a source, and that row has the number of the mappings
that name it. -/
def CountedIn (graph : Graph) (source : Source) (site : List (String × String)) : Prop :=
  ∃ before after, ("sources.html", before ++ render (sourceRow graph source) ++ after) ∈ site

theorem exists_render_of_infix {part whole : List Piece} (inside : part <:+: whole) :
    ∃ before after, render whole = before ++ render part ++ after := by
  obtain ⟨before, after, rfl⟩ := inside
  exact ⟨render before, render after, by simp [render, String.append_assoc]⟩

/-- A page has its content as a whole, between its head and its foot. -/
theorem infix_page (frame : Frame) (title root : String) (content : List Piece) :
    content <:+: frame.page title root content := by
  unfold Frame.page
  iterate 4 apply List.infix_append_of_infix_left
  exact List.infix_append_right

theorem sourceRow_infix_sourceIndex (here : source ∈ graph.sources) :
    sourceRow graph source <:+: sourceIndex graph := by
  have rows : sourceRow graph source <:+: graph.sources.flatMap (sourceRow graph) :=
    List.infix_of_mem_flatten (List.mem_map_of_mem here)
  have declared : graph.sources.isEmpty = false := List.isEmpty_eq_false_iff_exists_mem.mpr ⟨_, here⟩
  rw [sourceIndex, declared, if_neg Bool.false_ne_true]
  exact rows.trans (List.infix_append _ _ _)

theorem countedIn_ofGraph (here : source ∈ graph.sources) (lineage : Lineage.Graph)
    (stamp : Moment) : CountedIn graph source (ofGraph graph lineage stamp) := by
  have inside := (sourceRow_infix_sourceIndex here).trans
    (infix_page ⟨graph.project, stamp.isoSeconds "T"⟩ "Sources" "" (sourceIndex graph))
  obtain ⟨before, after, whole⟩ := exists_render_of_infix inside
  refine ⟨before, after, whole ▸ ?_⟩
  exact List.mem_map_of_mem (List.mem_append_left _ (.tail _ (.tail _ (.head _))))

end Counted

/-- The report, the sources page and lineage agree on whether a declared source is used: there is a
warning exactly when no mapping is counted, and, but for the source called unknown, exactly when
lineage has no column of it. There is lineage in any case, a report unless the target of a mapping
has to be told and cannot be written, and a page with the count unless a value that the site shows
cannot be written. -/
theorem source_use_agrees (graph : Graph) (strict : Bool) (stamp : Moment) :
    ∃ lineage, Lineage.Graph.of? graph = .ok lineage ∧
      ((∃ report, graph.report? strict = .ok report) ↔
        ∀ mapping ∈ graph.mappings, mapping.IsTold graph) ∧
      ∀ source ∈ graph.sources,
        (∀ report, graph.report? strict = .ok report →
          ((Finding.unusedSource source.id).message ∈ report.warnings ↔
            mappingCount graph source.id = 0)) ∧
        Made (shown graph) (CountedIn graph source) (ofGraph? graph lineage stamp) ∧
        (source.id ≠ unknownName → (mappingCount graph source.id = 0 ↔
          ∀ node ∈ lineage.nodes, ∀ column,
            ¬ node.StandsFor (.sourceColumn source.id column))) := by
  obtain ⟨lineage, success, built⟩ := Lineage.exists_built graph
  refine ⟨lineage, success, exists_report?_iff,
    fun source here => ⟨fun report told => ?_, ?_, fun known => ?_⟩⟩
  · rw [← report_of_report? told, warned_iff, mappingCount_eq_zero_iff,
      and_iff_right (List.mem_map_of_mem here)]
  · exact made_showing (countedIn_ofGraph here lineage stamp)
  · have named : Named graph source.id ↔
        ∃ mapping ∈ graph.mappings, LeadsTo mapping.origin source.id := by
      simp [Named, LeadsTo, known]
    rw [mappingCount_eq_zero_iff, named, ← exists_column_iff built]
    simp only [not_exists, not_and]

/-- Two sources: one is named by a mapping without a target, beside a rule, the other by none. -/
def halfUsedGraph : Graph where
  project := ""
  owners := []
  sources := [⟨"shop", .file, none, []⟩, ⟨"bank", .file, none, []⟩]
  tables := []
  mappings := [
    ⟨0, .text "t", .unresolved (.text "t"), { sourceId := some "shop", rule := some "now" }, none,
      []⟩,
    ⟨1, .text "d.s.t.a", .path ⟨⟨"d", "s", "t"⟩, "a"⟩, {}, none, []⟩]
  redeclared := []
  keys_nodup := List.nodup_nil

theorem source_use_in_halfUsedGraph :
    ∃ report lineage, halfUsedGraph.report? false = .ok report ∧
      Lineage.Graph.of? halfUsedGraph = .ok lineage ∧
      ((Finding.unusedSource "shop").message ∉ report.warnings ∧
        ∃ node ∈ lineage.nodes, ∃ column, node.StandsFor (.sourceColumn "shop" column)) ∧
      (Finding.unusedSource "bank").message ∈ report.warnings ∧
        ∀ node ∈ lineage.nodes, ∀ column, ¬ node.StandsFor (.sourceColumn "bank" column) := by
  obtain ⟨lineage, success, _, agrees⟩ :=
    source_use_agrees halfUsedGraph false ⟨⟨2024, 1, 2⟩, 3, 4, 5, 0, some 0⟩
  have told : halfUsedGraph.report? false = .ok _ := rfl
  have shop := agrees ⟨"shop", .file, none, []⟩ (by simp [halfUsedGraph])
  have bank := agrees ⟨"bank", .file, none, []⟩ (by simp [halfUsedGraph])
  have used : mappingCount halfUsedGraph "shop" ≠ 0 := by decide
  have unused : mappingCount halfUsedGraph "bank" = 0 := by decide
  refine ⟨_, lineage, told, success, ⟨fun warned => used ((shop.1 _ told).mp warned), ?_⟩,
    (bank.1 _ told).mpr unused, (bank.2.2 (by decide)).mp unused⟩
  by_contra absent
  apply used
  exact (shop.2.2 (by decide)).mpr fun node member column stands =>
    absent ⟨node, member, column, stands⟩

/-- There is a warning of a source whose place cannot be written and no column of it in lineage, but
no page either that could count its mappings. -/
theorem warned_without_page :
    ∃ report lineage, overlongGraph.report? false = .ok report ∧
      Lineage.Graph.of? overlongGraph = .ok lineage ∧
      ∃ source ∈ overlongGraph.sources,
        (Finding.unusedSource source.id).message ∈ report.warnings ∧
        (∀ node ∈ lineage.nodes, ∀ column,
          ¬ node.StandsFor (.sourceColumn source.id column)) ∧
        ¬ ∃ site, ofGraph? overlongGraph lineage ⟨⟨2024, 1, 2⟩, 3, 4, 5, 0, some 0⟩ = .ok site ∧
          CountedIn overlongGraph source site := by
  obtain ⟨lineage, success, built⟩ := Lineage.exists_built overlongGraph
  refine ⟨_, lineage, rfl, success, _, .head _, ?_, fun node member column stands => ?_, ?_⟩
  · exact warned_iff.mpr ⟨.head _, fun ⟨_, here, _⟩ => absurd here List.not_mem_nil⟩
  · obtain ⟨mapping, here, _⟩ := (exists_column_iff built).mp ⟨node, member, column, stands⟩
    cases here
  · rintro ⟨site, made, _⟩
    exact not_allWritable_shown (showing_eq_ok_iff.mp made).1

end SchemaAtlas.Site
