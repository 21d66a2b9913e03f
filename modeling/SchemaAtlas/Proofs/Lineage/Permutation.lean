import SchemaAtlas.Proofs.Lineage.TableEdges
import Mathlib.Data.List.Sort

/-! # The order of mappings

The mapping that first needs a node decides what the node says about itself, but not its id, its
kind or its label: these three are told by what the node stands for. So the order of the mappings
shows in the order of the nodes, edges and table edges and in their numbers, and not in which of
them there are, which columns a table edge lists, or which mappings stay unresolved.
-/

namespace SchemaAtlas.Lineage

open Schema Document

/-- The label of the node that stands for something. -/
def NodeRef.label : NodeRef → String
  | .source name => name
  | .sourceColumn _ path => path
  | .rule text => ruleLabel text
  | .table key => key.dotted
  | .column _ name => name

/-- The id, the kind and the label of the node that stands for something. -/
def NodeRef.face (ref : NodeRef) : String × NodeKind × String := (ref.id, ref.kind, ref.label)

/-- The id, the kind and the label of a node. -/
def Node.face (node : Node) : String × NodeKind × String := (node.id, node.kind, node.label)

/-- What an edge says apart from its number. -/
def Edge.content (edge : Edge) : String × String × EdgeKind × Entries :=
  (edge.source, edge.target, edge.kind, edge.info)

/-- The nodes that a schema graph offers for registration, repetitions included. -/
def offeredNodes (graph : Schema.Graph) : List Node :=
  declaredNodes graph ++ graph.mappings.flatMap mappingNodes

section Faces

variable {graph : Schema.Graph} {node other : Node}

theorem map_face_declaredNodes (graph : Schema.Graph) :
    (declaredNodes graph).map Node.face = (declaredRefs graph).map NodeRef.face := by
  simp [declaredNodes, declaredRefs, tableNodes, sourceNode, List.map_flatMap, Node.face,
    NodeRef.face, NodeRef.kind, NodeRef.label, Function.comp_def]

theorem Provenance.exists_face {provenance : Provenance} (member : node ∈ provenance.nodes) :
    ∃ ref : NodeRef, node.face = ref.face := by
  cases provenance with
  | sourceColumn source named path =>
    rcases List.mem_cons.mp member with rfl | member
    · exact ⟨.source source, rfl⟩
    · obtain rfl := List.mem_singleton.mp member
      exact ⟨.sourceColumn source path, rfl⟩
  | rule text =>
    obtain rfl := List.mem_singleton.mp member
    exact ⟨.rule text, rfl⟩

theorem Flow.exists_face {flow : Flow} (member : node ∈ flow.targetNodes) :
    ∃ ref : NodeRef, node.face = ref.face := by
  unfold targetNodes at member
  rcases List.mem_cons.mp member with rfl | member
  · exact ⟨.table flow.key, rfl⟩
  · cases column : flow.column with
    | none => simp [column] at member
    | some name =>
      obtain rfl : node = _ := by simpa [column] using member
      exact ⟨.column flow.key name, rfl⟩

/-- Every offered node is labelled after what it stands for. -/
theorem exists_face (offered : node ∈ offeredNodes graph) :
    ∃ ref : NodeRef, node.face = ref.face := by
  rcases List.mem_append.mp offered with declared | mapped
  · have member : node.face ∈ (declaredRefs graph).map NodeRef.face := by
      rw [← map_face_declaredNodes]
      exact List.mem_map_of_mem declared
    obtain ⟨ref, _, same⟩ := List.mem_map.mp member
    exact ⟨ref, same.symm⟩
  · obtain ⟨mapping, _, inside⟩ := List.mem_flatMap.mp mapped
    rcases mem_mappingNodes inside with ⟨path, origin⟩ | ⟨flow, _, target⟩
    · exact Provenance.exists_face origin
    · exact Flow.exists_face target

/-- Whichever mapping offers a node of some id, the node shows the same kind and label. -/
theorem face_eq_of_id_eq (first : node ∈ offeredNodes graph) (second : other ∈ offeredNodes graph)
    (same : node.id = other.id) : node.face = other.face := by
  obtain ⟨ref, face⟩ := exists_face first
  obtain ⟨ref', face'⟩ := exists_face second
  have ids : ref.id = ref'.id :=
    (congrArg Prod.fst face).symm.trans (same.trans (congrArg Prod.fst face'))
  rw [face, face', NodeRef.id_injective ids]

end Faces

section Built

variable {graph : Schema.Graph} {lineage : Graph}

theorem Built.nodes_subset (built : Built graph lineage) : lineage.nodes ⊆ offeredNodes graph := by
  obtain ⟨added, nodes, taken⟩ := built.nodes.extends_by
  rw [nodes]
  exact List.append_subset.mpr ⟨List.subset_append_left _ _,
    fun node member => List.mem_append_right _ (taken.subset member)⟩

/-- The nodes of a lineage show what the offered nodes show. -/
theorem Built.mem_faces (built : Built graph lineage) (face : String × NodeKind × String) :
    face ∈ lineage.nodes.map Node.face ↔ face ∈ (offeredNodes graph).map Node.face := by
  constructor
  · exact fun shown => List.map_subset _ built.nodes_subset shown
  · intro shown
    obtain ⟨node, offered, rfl⟩ := List.mem_map.mp shown
    have known : node.id ∈ lineage.nodes.map Node.id := by
      rcases List.mem_append.mp offered with declared | mapped
      · obtain ⟨added, nodes, _⟩ := built.nodes.extends_by
        rw [nodes, List.map_append]
        exact List.mem_append_left _ (List.mem_map_of_mem declared)
      · exact built.nodes.known node mapped
    obtain ⟨held, member, same⟩ := List.mem_map.mp known
    rw [← face_eq_of_id_eq (built.nodes_subset member) offered same]
    exact List.mem_map_of_mem member

theorem Built.faces_nodup (built : Built graph lineage) : (lineage.nodes.map Node.face).Nodup := by
  apply List.Nodup.of_map Prod.fst
  rw [List.map_map]
  exact built.ids_nodup

theorem Built.contents_edges (built : Built graph lineage) :
    lineage.edges.map Edge.content =
      (graph.mappings.flatMap flows).map fun flow => (flow.edge 0).content := by
  rw [built.edges]
  exact map_mapIdx Flow.edge _ (fun _ _ => rfl) _

theorem Built.contents_tableEdges (built : Built graph lineage) :
    lineage.tableEdges.map Edge.content =
      (Keyed.groups Flow.span (graph.mappings.flatMap flows)).map
        fun group => (tableEdge 0 group).content := by
  rw [built.tableEdges]
  exact map_mapIdx tableEdge _ (fun _ _ => rfl) _

end Built

section Permuted

/-- Sorted names do not tell in which order the names came. -/
theorem sortedNames_perm {names others : List String} (perm : names.Perm others) :
    sortedNames names = sortedNames others := by
  refine List.Pairwise.eq_of_mem_iff (pairwise_sortedNames names) (pairwise_sortedNames others) ?_
  intro name
  rw [mem_sortedNames, mem_sortedNames, perm.mem_iff]

/-- Groups come in another order when their items do, each with the same items in another order. -/
theorem groups_perm {α β κ : Type} [DecidableEq κ] {key : α → κ} {items others : List α}
    (perm : items.Perm others) {observe : κ × List α → β}
    (same : ∀ k {members members' : List α}, members.Perm members' →
      observe (k, members) = observe (k, members')) :
    ((Keyed.groups key items).map observe).Perm ((Keyed.groups key others).map observe) := by
  rw [Keyed.groups_eq, Keyed.groups_eq, List.map_map, List.map_map]
  have keys : (items.map key).eraseDups.Perm (others.map key).eraseDups :=
    Keyed.eraseDups_perm (perm.map key)
  have alike : ((others.map key).eraseDups.map fun k =>
        observe (k, items.filter fun item => decide (key item = k))) =
      (others.map key).eraseDups.map fun k =>
        observe (k, others.filter fun item => decide (key item = k)) :=
    List.map_congr_left fun k _ => same k (perm.filter _)
  exact (keys.map _).trans (List.Perm.of_eq alike)

theorem tableEdge_content_perm (span : String × String) {flows others : List Flow}
    (perm : flows.Perm others) :
    (tableEdge 0 (span, flows)).content = (tableEdge 0 (span, others)).content := by
  simp only [Edge.content, tableEdge, sortedNames_perm (perm.map Flow.columnName)]

theorem offeredNodes_perm {graph : Schema.Graph} {mappings : List Mapping}
    (perm : graph.mappings.Perm mappings) :
    (offeredNodes graph).Perm (offeredNodes { graph with mappings := mappings }) :=
  List.Perm.append_left _ (perm.flatMap_right _)

/-- Mappings in another order, each with its own index, have the same lineage but for order and
numbers: the same ids with the same kinds and labels, the same edges, the same table edges with the
same sorted columns, and the same unresolved indexes. -/
theorem lineage_of_permuted_mappings (graph : Schema.Graph) (mappings : List Mapping)
    (perm : graph.mappings.Perm mappings) :
    ∃ lineage permuted, Graph.of? graph = .ok lineage ∧
      Graph.of? { graph with mappings := mappings } = .ok permuted ∧
      (lineage.nodes.map Node.face).Perm (permuted.nodes.map Node.face) ∧
      (lineage.edges.map Edge.content).Perm (permuted.edges.map Edge.content) ∧
      (lineage.tableEdges.map Edge.content).Perm (permuted.tableEdges.map Edge.content) ∧
      lineage.unresolved.Perm permuted.unresolved := by
  obtain ⟨lineage, success, built⟩ := exists_built graph
  obtain ⟨permuted, success', built'⟩ := exists_built { graph with mappings := mappings }
  have flowsPerm : (graph.mappings.flatMap flows).Perm (mappings.flatMap flows) :=
    perm.flatMap_right _
  refine ⟨lineage, permuted, success, success', ?_, ?_, ?_, ?_⟩
  · refine (List.perm_ext_iff_of_nodup built.faces_nodup built'.faces_nodup).mpr fun face => ?_
    rw [built.mem_faces, built'.mem_faces, ((offeredNodes_perm perm).map Node.face).mem_iff]
  · rw [built.contents_edges, built'.contents_edges]
    exact flowsPerm.map _
  · rw [built.contents_tableEdges, built'.contents_tableEdges]
    exact groups_perm flowsPerm tableEdge_content_perm
  · rw [built.unresolved, built'.unresolved]
    exact (perm.filter _).map _

/-- Mappings that meet in one source: one that calls it unknown, one that names none, and one that
has neither a source nor a target. -/
def meetingGraph : Schema.Graph where
  project := ""
  owners := []
  sources := []
  tables := []
  mappings := [
    ⟨0, .text "d.s.t.a", .path ⟨⟨"d", "s", "t"⟩, "a"⟩, { sourceId := some "unknown" }, none, []⟩,
    ⟨1, .text "d.s.t.b", .path ⟨⟨"d", "s", "t"⟩, "b"⟩, {}, none, []⟩,
    ⟨2, .null, .unresolved .null, {}, none, []⟩]
  redeclared := []

theorem lineage_of_reversed_meetingGraph :
    meetingGraph.mappings.Perm meetingGraph.mappings.reverse ∧
      ∃ lineage reversed, Graph.of? meetingGraph = .ok lineage ∧
        Graph.of? { meetingGraph with mappings := meetingGraph.mappings.reverse } = .ok reversed ∧
        (lineage.nodes.map Node.face).Perm (reversed.nodes.map Node.face) ∧
        (lineage.edges.map Edge.content).Perm (reversed.edges.map Edge.content) ∧
        (lineage.tableEdges.map Edge.content).Perm (reversed.tableEdges.map Edge.content) ∧
        lineage.unresolved.Perm reversed.unresolved := by
  have perm : meetingGraph.mappings.Perm meetingGraph.mappings.reverse :=
    (List.reverse_perm _).symm
  exact ⟨perm, lineage_of_permuted_mappings meetingGraph _ perm⟩

end Permuted

end SchemaAtlas.Lineage
