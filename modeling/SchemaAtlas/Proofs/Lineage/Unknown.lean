import SchemaAtlas.Proofs.Lineage.Nodes
import SchemaAtlas.Report.Referential
import SchemaAtlas.Schema.Declaration

/-! # Mappings that name no source

A mapping that names neither a source nor a rule reads from a source called unknown. That is a name
like any other: what a document declares under it has the same node, and the same columns. So an
unknown provenance keeps apart from everything declared exactly when no declared source bears the
name, and a source that bears it takes over whatever comes from nowhere.
-/

namespace SchemaAtlas.Lineage

open Schema Document

/-- What a mapping reads from: the provenance of each of its flows, or its own without a target. -/
def provenances (mapping : Mapping) : List Provenance :=
  match mapping.target with
  | .unresolved _ => [.ofOrigin mapping.origin none]
  | .path _ => (flows mapping).map Flow.provenance

/-- A lineage starts from a provenance of a mapping: it has nodes for it and for its root, and, when
the mapping has a target, an edge from the one and a table edge from the other. -/
structure StartsFrom (lineage : Graph) (mapping : Mapping) (provenance : Provenance) : Prop where
  node : ∃ node ∈ lineage.nodes, node.StandsFor provenance.node
  root : ∃ node ∈ lineage.nodes, node.StandsFor provenance.root
  edges : mapping.target.path?.isSome →
    (∃ edge ∈ lineage.edges, edge.source = provenance.node.id) ∧
      ∃ edge ∈ lineage.tableEdges, edge.source = provenance.root.id

/-- A provenance that has no part in a declared source: neither it nor its root is the node of one,
and it shares its node with no mapping that names one. -/
structure Apart (graph : Schema.Graph) (provenance : Provenance) : Prop where
  sources : ∀ source ∈ graph.sources,
    (sourceNode source).id ≠ provenance.node.id ∧ (sourceNode source).id ≠ provenance.root.id
  columns : ∀ other ∈ graph.mappings, ∀ id, given? other.origin.sourceId = some id →
    Declares graph (.source id) → ∀ shared ∈ provenances other,
      shared.node.id ≠ provenance.node.id

section Provenances

variable {graph : Schema.Graph} {lineage : Graph} {mapping : Mapping} {provenance : Provenance}

/-- All provenances of a mapping come from its one origin. -/
theorem mem_provenances (member : provenance ∈ provenances mapping) :
    ∃ path, provenance = .ofOrigin mapping.origin path := by
  unfold provenances at member
  split at member
  · exact ⟨none, List.mem_singleton.mp member⟩
  · obtain ⟨flow, inside, rfl⟩ := List.mem_map.mp member
    obtain ⟨_, _, _, ⟨field, _, _, same⟩ | ⟨_, _, same⟩⟩ := flows_cases inside
    · exact ⟨some field.2, same⟩
    · exact ⟨none, same⟩

/-- An origin with a source reads from a column of that source, whatever rule it has. -/
theorem Provenance.ofOrigin_of_source {origin : Origin} {id : String}
    (given : given? origin.sourceId = some id) (path : Option String) :
    (ofOrigin origin path).root = .source id ∧
      ∃ column, (ofOrigin origin path).node = .sourceColumn id column := by
  unfold ofOrigin
  rw [given]
  cases given? origin.rule <;> exact ⟨rfl, _, rfl⟩

/-- An origin with neither a source nor a rule reads from a column of the source called unknown. -/
theorem Provenance.ofOrigin_of_nothing {origin : Origin} (noSource : given? origin.sourceId = none)
    (noRule : given? origin.rule = none) (path : Option String) :
    (ofOrigin origin path).root = .source unknownName ∧
      ∃ column, (ofOrigin origin path).node = .sourceColumn unknownName column := by
  unfold ofOrigin
  rw [noSource, noRule]
  exact ⟨rfl, _, rfl⟩

theorem nodes_subset_of_mem_provenances (member : provenance ∈ provenances mapping) :
    provenance.nodes ⊆ mappingNodes mapping := by
  unfold provenances at member
  split at member
  · next unresolved =>
    obtain rfl := List.mem_singleton.mp member
    simp [mappingNodes, unresolved]
  · obtain ⟨flow, inside, rfl⟩ := List.mem_map.mp member
    exact List.Subset.trans (List.subset_append_left _ _) (nodes_subset_mappingNodes inside)

/-- Every flow has an edge from its provenance, and a table edge from its root. -/
theorem Built.exists_edges (built : Built graph lineage) {flow : Flow}
    (member : flow ∈ graph.mappings.flatMap flows) :
    (∃ edge ∈ lineage.edges, edge.source = flow.provenance.node.id) ∧
      ∃ edge ∈ lineage.tableEdges, edge.source = flow.provenance.root.id := by
  constructor
  · obtain ⟨position, bound, rfl⟩ := List.mem_iff_getElem.mp member
    rw [built.edges]
    exact ⟨_, List.mem_mapIdx.mpr ⟨position, bound, rfl⟩, rfl⟩
  · obtain ⟨group, grouped, span⟩ : ∃ group ∈ Keyed.groups Flow.span (graph.mappings.flatMap flows),
        group.1 = flow.span := ⟨_, Keyed.mem_groups_iff.mpr ⟨flow, member, rfl⟩, rfl⟩
    obtain ⟨position, bound, rfl⟩ := List.mem_iff_getElem.mp grouped
    rw [built.tableEdges]
    exact ⟨_, List.mem_mapIdx.mpr ⟨position, bound, rfl⟩, congrArg Prod.fst span⟩

/-- The lineage of a graph starts from every provenance of its mappings. -/
theorem Built.startsFrom (built : Built graph lineage) (here : mapping ∈ graph.mappings)
    (member : provenance ∈ provenances mapping) : StartsFrom lineage mapping provenance := by
  have known {id : String} (needed : id ∈ provenance.nodes.map Node.id) :
      id ∈ lineage.nodes.map Node.id := by
    obtain ⟨node, inside, rfl⟩ := List.mem_map.mp needed
    apply built.nodes.known node
    exact List.mem_flatMap.mpr ⟨mapping, here, nodes_subset_of_mem_provenances member inside⟩
  refine ⟨built.exists_stands (known provenance.node_mem),
    built.exists_stands (known provenance.root_mem), fun resolved => ?_⟩
  unfold provenances at member
  split at member
  · next unresolved => simp [unresolved, Target.path?] at resolved
  · obtain ⟨flow, inside, rfl⟩ := List.mem_map.mp member
    exact built.exists_edges (List.mem_flatMap.mpr ⟨mapping, here, inside⟩)

end Provenances

section Unknown

variable {graph : Schema.Graph} {mapping : Mapping} {provenance : Provenance}

theorem declares_source_iff {id : String} :
    Declares graph (.source id) ↔ ∃ source ∈ graph.sources, source.id = id := by
  rw [Declares, Schema.Graph.source?, Keyed.isSome_find?_iff, List.mem_map]

/-- What reads from the source called unknown keeps apart from declared sources exactly when that
source is not declared. -/
theorem apart_iff_of_root {column : String} (root : provenance.root = .source unknownName)
    (node : provenance.node = .sourceColumn unknownName column) :
    Apart graph provenance ↔ ¬ Declares graph (.source unknownName) := by
  constructor
  · intro apart declares
    obtain ⟨source, here, named⟩ := declares_source_iff.mp declares
    apply (apart.sources source here).2
    rw [root, ← named]
    rfl
  · intro undeclared
    refine ⟨fun source here => ⟨fun same => ?_, fun same => ?_⟩,
      fun other _ id given declares shared member same => ?_⟩
    · have same : NodeRef.source source.id = .sourceColumn unknownName column :=
        NodeRef.id_injective (same.trans (congrArg NodeRef.id node))
      cases same
    · have same : NodeRef.source source.id = .source unknownName :=
        NodeRef.id_injective (same.trans (congrArg NodeRef.id root))
      exact undeclared (declares_source_iff.mpr ⟨source, here, NodeRef.source.inj same⟩)
    · obtain ⟨path, rfl⟩ := mem_provenances member
      obtain ⟨_, column', there⟩ := Provenance.ofOrigin_of_source given path
      rw [there, node] at same
      obtain ⟨rfl, _⟩ := NodeRef.sourceColumn.inj (NodeRef.id_injective same)
      exact undeclared declares

end Unknown

/-- A mapping that names neither a source nor a rule has provenances that lineage starts from. They
keep apart from the declared sources exactly when none of these is called unknown. -/
theorem unknown_provenance_apart_iff {graph : Schema.Graph} {mapping : Mapping}
    (here : mapping ∈ graph.mappings) (noSource : given? mapping.origin.sourceId = none)
    (noRule : given? mapping.origin.rule = none) :
    ∃ lineage, Graph.of? graph = .ok lineage ∧ ∀ provenance ∈ provenances mapping,
      StartsFrom lineage mapping provenance ∧
        (Apart graph provenance ↔ ¬ Declares graph (.source unknownName)) := by
  obtain ⟨lineage, success, built⟩ := exists_built graph
  refine ⟨lineage, success, fun provenance member => ⟨built.startsFrom here member, ?_⟩⟩
  obtain ⟨path, rfl⟩ := mem_provenances member
  obtain ⟨root, column, node⟩ := Provenance.ofOrigin_of_nothing noSource noRule path
  exact apart_iff_of_root root node

/-- A mapping whose fields come from nowhere. -/
def strayMapping : Mapping :=
  ⟨1, .text "d.s.t", .path ⟨⟨"d", "s", "t"⟩, wildcard⟩, { fields := [("a", "x"), ("b", "y")] },
    none, []⟩

/-- A declared source, and a column that comes from it under a name that the fields have too. -/
def strayGraph : Schema.Graph where
  project := ""
  owners := []
  sources := [⟨"hr", .file, none, []⟩]
  tables := []
  mappings := [
    ⟨0, .text "d.s.t.a", .path ⟨⟨"d", "s", "t"⟩, "a"⟩, { sourceId := some "hr", path := some "x" },
      none, []⟩,
    strayMapping]
  redeclared := []
  keys_nodup := List.nodup_nil

theorem strayMapping_apart :
    ∃ lineage, Graph.of? strayGraph = .ok lineage ∧
      (provenances strayMapping).map Provenance.node =
        [.sourceColumn unknownName "x", .sourceColumn unknownName "y"] ∧
      ∀ provenance ∈ provenances strayMapping,
        StartsFrom lineage strayMapping provenance ∧ Apart strayGraph provenance := by
  have here : strayMapping ∈ strayGraph.mappings :=
    List.mem_cons_of_mem _ (List.mem_singleton_self _)
  obtain ⟨lineage, success, apart⟩ := unknown_provenance_apart_iff here rfl rfl
  have undeclared : ¬ Declares strayGraph (.source unknownName) := by
    rw [declares_source_iff]
    simp [strayGraph, unknownName]
  refine ⟨lineage, success, by decide, fun provenance member => ?_⟩
  obtain ⟨starts, iff⟩ := apart provenance member
  exact ⟨starts, iff.mpr undeclared⟩

/-- A document with a source called unknown: one column comes from it, another from nowhere, both
under the same name. -/
def claimedDocument : Value :=
  let entries (items : List (String × Value)) : Value := .dict (Entries.named items)
  let column (name : String) : Value := entries [("name", .text name)]
  let table := entries [("name", .text "t"), ("columns", .list [column "a", column "b"])]
  let named := entries [("source_id", .text unknownName), ("path", .text "x")]
  let fields := entries [("fields", entries [("b", .text "x")])]
  entries [
    ("sources", .list [entries [("id", .text unknownName), ("kind", .text "file")]]),
    ("targets", .list
      [entries [("db", .text "d"), ("schema", .text "s"), ("tables", .list [table])]]),
    ("mappings", .list
      [entries [("target", .text "d.s.t.a"), ("from", named)],
        entries [("target", .text "d.s.t"), ("from", fields)]])]

/-- What that document declares. -/
def claimedGraph : Schema.Graph where
  project := ""
  owners := []
  sources := [⟨unknownName, .file, some "file", []⟩]
  tables := [{
    key := ⟨"d", "s", "t"⟩
    columns := [⟨"a", "", false, none, false, false, none, none⟩,
      ⟨"b", "", false, none, false, false, none, none⟩]
    description := none
    owner := none }]
  mappings := [
    ⟨0, .text "d.s.t.a", .path ⟨⟨"d", "s", "t"⟩, "a"⟩,
      { sourceId := some unknownName, path := some "x" }, none, []⟩,
    ⟨1, .text "d.s.t", .path ⟨⟨"d", "s", "t"⟩, wildcard⟩, { fields := [("b", "x")] }, none, []⟩]
  redeclared := []

/-- A source called unknown takes over what comes from nowhere: the report has nothing against it,
and lineage leads a column that no source was named for back to the declared one, by the node of a
column that is read from it. -/
theorem declared_source_takes_over :
    ∃ graph lineage, Schema.Graph.ofDocument? "" claimedDocument = .ok graph ∧
      (graph.report true).valid = true ∧ Graph.of? graph = .ok lineage ∧
      ∃ mapping ∈ graph.mappings, given? mapping.origin.sourceId = none ∧
        given? mapping.origin.rule = none ∧
        ∃ provenance ∈ provenances mapping, StartsFrom lineage mapping provenance ∧
          (∃ source ∈ graph.sources, (sourceNode source).id = provenance.root.id) ∧
          ∃ other ∈ graph.mappings, ∃ source ∈ graph.sources,
            given? other.origin.sourceId = some source.id ∧
            ∃ shared ∈ provenances other, shared.node.id = provenance.node.id := by
  obtain ⟨lineage, success, built⟩ := exists_built claimedGraph
  refine ⟨claimedGraph, lineage, rfl, by decide, success, _,
    List.mem_cons_of_mem _ (List.mem_singleton_self _), rfl, rfl, _, List.mem_singleton_self _,
    ?_, ?_, ?_⟩
  · exact built.startsFrom (List.mem_cons_of_mem _ (List.mem_singleton_self _))
      (List.mem_singleton_self _)
  · exact ⟨_, List.mem_singleton_self _, rfl⟩
  · exact ⟨_, List.mem_cons_self, _, List.mem_singleton_self _, rfl, _, List.mem_singleton_self _,
      rfl⟩

end SchemaAtlas.Lineage
