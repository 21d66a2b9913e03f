import SchemaAtlas.Site.Page
import SchemaAtlas.Proofs.Lineage.TableEdges

/-! # Where the content of a table comes from

A table's page has two lists of it: what mappings write to the table, read off the mappings, and
what lies upstream, read off the table edges of the lineage. Both go by the flows into the table. So
they name the same columns, there are as many written entries as edges into the table and its
columns, and everything upstream is a source or a rule that the lineage has a node for.
-/

namespace SchemaAtlas.Site

open Schema Document
open Lineage (Edge Flow NodeKind NodeRef flows)

/-- An edge ends at a table or at one of its columns. -/
def Enters (key : TableKey) (edge : Edge) : Prop :=
  edge.target = (NodeRef.table key).id ∨ ∃ name, edge.target = (NodeRef.column key name).id

/-- The flows of a graph's mappings into a table, in order. -/
def flowsInto (graph : Graph) (key : TableKey) : List Flow :=
  (graph.mappings.flatMap flows).filter fun flow => decide (flow.key = key)

section Written

variable {graph : Graph} {key : TableKey} {mapping : Mapping} {path : TargetPath}

/-- What a mapping writes to its table is what flows from it. -/
theorem map_column_incomingOf (target : mapping.target = .path path) :
    (incomingOf path mapping.origin).map Incoming.column =
      (flows mapping).map Flow.columnName := by
  by_cases fields : mapping.origin.fields = []
  · rw [Lineage.flows_of_no_fields target fields, incomingOf, if_pos (List.isEmpty_iff.mpr fields)]
    cases all : path.isWildcard with
    | true => simpa [Flow.columnName, TargetPath.isWildcard] using all
    | false => rfl
  · rw [Lineage.flows_of_fields target fields, incomingOf,
      if_neg fun empty => fields (List.isEmpty_iff.mp empty), List.map_map, List.map_map]
    rfl

theorem map_column_incoming (graph : Graph) (key : TableKey) :
    (incoming graph key).map Incoming.column = (flowsInto graph key).map Flow.columnName := by
  unfold incoming flowsInto
  rw [List.map_flatMap, List.filter_flatMap, List.map_flatMap]
  refine List.flatMap_congr fun mapping _ => ?_
  cases target : mapping.target with
  | unresolved raw => simp [flows, target]
  | path path =>
    have keys : ∀ flow ∈ flows mapping, flow.key = path.key := by
      intro flow member
      obtain ⟨path', target', same, _⟩ := Lineage.flows_cases member
      cases target.symm.trans target'
      exact same
    by_cases here : path.key = key
    · have kept : (flows mapping).filter (fun flow => decide (flow.key = key)) = flows mapping :=
        List.filter_eq_self.mpr fun flow member => decide_eq_true ((keys flow member).trans here)
      rw [kept, ← map_column_incomingOf target]
      simp only [here, if_true]
    · have none : (flows mapping).filter (fun flow => decide (flow.key = key)) = [] :=
        List.filter_eq_nil_iff.mpr fun flow member same =>
          here ((keys flow member).symm.trans (of_decide_eq_true same))
      rw [none]
      simp only [here, if_false, List.map_nil]

end Written

section Upstream

variable {graph : Graph} {lineage : Lineage.Graph} {key : TableKey} {name : String}

theorem enters_edge_iff {flow : Flow} {position : Nat} :
    Enters key (flow.edge position) ↔ flow.key = key := by
  have ends : (flow.edge position).target = flow.target.id := rfl
  unfold Enters
  rw [ends]
  simp only [Lineage.NodeRef.id_injective.eq_iff]
  unfold Flow.target
  cases flow.column <;> simp

open scoped Classical in
/-- There is an edge into a table for each flow into it. -/
theorem countP_enters (built : Lineage.Built graph lineage) (key : TableKey) :
    lineage.edges.countP (fun edge => decide (Enters key edge)) = (flowsInto graph key).length := by
  have targets : lineage.edges.map (fun edge => decide (Enters key edge)) =
      (graph.mappings.flatMap flows).map fun flow => decide (flow.key = key) := by
    rw [built.edges]
    exact Lineage.map_mapIdx Flow.edge _ (fun _ _ => by simp only [enters_edge_iff]) _
  rw [flowsInto, ← List.countP_eq_length_filter]
  simpa only [List.countP_map, Function.id_comp] using congrArg (List.countP id) targets

theorem columns_tableEdge (position : Nat) (group : (String × String) × List Flow) :
    (Lineage.tableEdge position group).columns =
      Lineage.sortedNames (group.2.map Flow.columnName) := by
  have shown : Value.display ∘ Value.text = id := rfl
  simp [Lineage.Edge.columns, Lineage.tableEdge, shown]

/-- Upstream of a table each group of flows into it lists the columns of the group. -/
theorem map_columns_upstream (built : Lineage.Built graph lineage) (key : TableKey) :
    (upstream lineage key).map Upstream.columns =
      ((Keyed.groups Flow.span (graph.mappings.flatMap flows)).filter
        fun group => group.1.2 == (NodeRef.table key).id).map
          fun group => Lineage.sortedNames (group.2.map Flow.columnName) := by
  let shown (edge : Edge) : String × List String := (edge.target, edge.columns)
  have edges : lineage.tableEdges.map shown =
      (Keyed.groups Flow.span (graph.mappings.flatMap flows)).map fun group =>
        (group.1.2, Lineage.sortedNames (group.2.map Flow.columnName)) := by
    rw [built.tableEdges]
    exact Lineage.map_mapIdx Lineage.tableEdge _
      (fun position group => Prod.ext rfl (columns_tableEdge position group)) _
  have rows : (upstream lineage key).map Upstream.columns =
      ((lineage.tableEdges.map shown).filter fun pair => pair.1 == (NodeRef.table key).id).map
        Prod.snd := by
    rw [upstream, List.filter_map, List.map_map, List.map_map]
    refine List.map_congr_left fun edge _ => ?_
    simp only [Function.comp_apply]
    split <;> rfl
  rw [rows, edges, List.filter_map, List.map_map]
  rfl

/-- A column is listed upstream of a table just when something flows into it. -/
theorem mem_columns_upstream_iff (built : Lineage.Built graph lineage) :
    name ∈ (upstream lineage key).flatMap Upstream.columns ↔
      name ∈ (flowsInto graph key).map Flow.columnName := by
  have into (flow : Flow) : flow.span.2 = (NodeRef.table key).id ↔ flow.key = key := by
    rw [Flow.span, Lineage.NodeRef.id_injective.eq_iff, NodeRef.table.injEq]
  rw [List.flatMap_def, map_columns_upstream built, ← List.flatMap_def, List.mem_flatMap, flowsInto]
  simp only [List.mem_filter, Keyed.mem_groups_iff, Lineage.mem_sortedNames, List.mem_map,
    beq_iff_eq, decide_eq_true_eq]
  constructor
  · rintro ⟨group, ⟨⟨flow, _, rfl⟩, target⟩, other, member, rfl⟩
    obtain ⟨inside, same⟩ := List.mem_filter.mp member
    exact ⟨other, ⟨inside, (into other).mp (of_decide_eq_true same ▸ target)⟩, rfl⟩
  · rintro ⟨flow, ⟨inside, same⟩, rfl⟩
    exact ⟨_, ⟨⟨flow, inside, rfl⟩, (into flow).mpr same⟩, flow,
      List.mem_filter.mpr ⟨inside, decide_eq_true rfl⟩, rfl⟩

/-- Everything upstream has a node, which is that of a source or of a rule. -/
theorem exists_node_of_upstream (built : Lineage.Built graph lineage) {entry : Upstream}
    (member : entry ∈ upstream lineage key) :
    ∃ edge ∈ lineage.tableEdges, edge.target = (NodeRef.table key).id ∧
      ∃ node, lineage.nodes.find? edge.source = some node ∧
        (node.kind = .source ∨ node.kind = .rule) ∧
        entry = ⟨node.label, node.kind.name, edge.columns⟩ := by
  obtain ⟨edge, inside, same⟩ := List.mem_map.mp member
  obtain ⟨here, target⟩ := List.mem_filter.mp inside
  obtain ⟨flow, flows, source, _⟩ := built.exists_flow_of_tableEdge here
  obtain ⟨node, known, id, kind⟩ := built.exists_stands (built.known flows flow.root_mem)
  have found : lineage.nodes.find? edge.source = some node := by
    rw [source, ← id]
    exact Keyed.find?_of_mem built.ids_nodup known
  refine ⟨edge, here, eq_of_beq target, node, found, ?_, ?_⟩
  · rw [kind]
    cases flow.provenance with
    | sourceColumn => exact .inl rfl
    | rule => exact .inr rfl
  · rw [← same, found]

end Upstream

open scoped Classical in
/-- The two lists of a table's page agree, whatever mappings read from and however names are
spelled: they name the same columns, there is an entry for every edge into the table or one of its
columns, and everything upstream is shown by its node, a source or a rule. -/
theorem provenance_sections_agree (graph : Graph) :
    ∃ lineage, Lineage.Graph.of? graph = .ok lineage ∧ ∀ key,
      (∀ name, name ∈ (incoming graph key).map Incoming.column ↔
        name ∈ (upstream lineage key).flatMap Upstream.columns) ∧
      (incoming graph key).length =
        lineage.edges.countP (fun edge => decide (Enters key edge)) ∧
      ∀ entry ∈ upstream lineage key, ∃ edge ∈ lineage.tableEdges,
        edge.target = (NodeRef.table key).id ∧
        ∃ node, lineage.nodes.find? edge.source = some node ∧
          (node.kind = .source ∨ node.kind = .rule) ∧
          entry = ⟨node.label, node.kind.name, edge.columns⟩ := by
  obtain ⟨lineage, success, built⟩ := Lineage.exists_built graph
  refine ⟨lineage, success, fun key => ⟨fun name => ?_, ?_, fun entry member => ?_⟩⟩
  · rw [map_column_incoming, mem_columns_upstream_iff built]
  · have lengths := congrArg List.length (map_column_incoming graph key)
    rw [List.length_map, List.length_map] at lengths
    rw [lengths, countP_enters built]
  · exact exists_node_of_upstream built member

end SchemaAtlas.Site
