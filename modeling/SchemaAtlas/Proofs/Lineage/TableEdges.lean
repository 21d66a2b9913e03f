import SchemaAtlas.Proofs.Lineage.Nodes
import SchemaAtlas.Proofs.Sorting
import Mathlib.Data.String.Basic

/-! # Table edges aggregate column edges

The ends of an edge determine its root, its table and the column that it feeds, because ids
determine what they name. Table edges are the roots and tables of the edges, each pair once and in
order of its first edge, with the sorted names of the columns that the pair's edges feed. The edges
themselves are those of the mappings, one after the other.
-/

namespace SchemaAtlas.Lineage

open Schema Document

namespace NodeRef

/-- Where a table edge starts for an edge from a node: a source column belongs to its source. -/
def root : NodeRef → NodeRef
  | .sourceColumn name _ => .source name
  | ref => ref

/-- Where a table edge ends for an edge into a node: a column belongs to its table. -/
def owner : NodeRef → NodeRef
  | .column key _ => .table key
  | ref => ref

/-- The name under which a table edge lists an edge into a node. -/
def columnName : NodeRef → String
  | .column _ name => name
  | _ => wildcard

end NodeRef

/-- The ids of the nodes that an edge connects. -/
def Edge.ends (edge : Edge) : String × String := (edge.source, edge.target)

/-- An edge feeds a column of a span: its source belongs to the root, its target to the table. -/
def Edge.Feeds (edge : Edge) (span : String × String) (name : String) : Prop :=
  ∃ source target : NodeRef, edge.ends = (source.id, target.id) ∧
    span = (source.root.id, target.owner.id) ∧ name = target.columnName

/-- The edges of a mapping, and the index that it adds to the unresolved ones. A mapping with fields
has an edge for each, in order; any other one has a single edge, into the table for a wildcard. -/
def Contributes (mapping : Mapping) (edges : List Edge) (unresolved : List Nat) : Prop :=
  match mapping.target with
  | .unresolved _ => edges = [] ∧ unresolved = [mapping.index]
  | .path path =>
      unresolved = [] ∧
      if mapping.origin.fields = [] then
        ∃ edge, edges = [edge] ∧
          edge.source = (Provenance.ofOrigin mapping.origin none).node.id ∧
          edge.target = if path.isWildcard then (NodeRef.table path.key).id
            else (NodeRef.column path.key path.column).id
      else
        List.Forall₂ (fun field edge =>
          edge.source = (Provenance.ofOrigin mapping.origin (some field.2)).node.id ∧
          edge.target = (NodeRef.column path.key field.1).id) mapping.origin.fields edges

/-- Table edges that sum up edges: a table edge for each span of an edge, in order of first edges,
which lists in increasing order the names of exactly the columns that edges of the span feed. -/
structure Aggregates (edges tableEdges : List Edge) : Prop where
  distinct : (tableEdges.map Edge.ends).Nodup
  spans : ∃ spans, List.Forall₂ (fun edge span => ∃ name, edge.Feeds span name) edges spans ∧
    tableEdges.map Edge.ends = spans.eraseDups
  columns : ∀ tableEdge ∈ tableEdges, ∃ names : List String,
    tableEdge.info = Entries.named [("columns", .list (names.map .text))] ∧
    names.Pairwise (· < ·) ∧
    ∀ name, name ∈ names ↔ ∃ edge ∈ edges, edge.Feeds tableEdge.ends name
  kinds : (∀ edge ∈ edges, edge.kind = .columnLineage) ∧
    ∀ tableEdge ∈ tableEdges, tableEdge.kind = .tableLineage

section SortedNames

theorem mem_sortedNames {names : List String} {name : String} :
    name ∈ sortedNames names ↔ name ∈ names := by
  rw [sortedNames, List.mem_mergeSort, Keyed.distinct_eq, List.mem_eraseDups]

/-- Sorted names increase strictly by the code points of their characters. -/
theorem pairwise_sortedNames (names : List String) : (sortedNames names).Pairwise (· < ·) := by
  have sorted : (sortedNames names).Pairwise (· ≤ ·) :=
    Sorting.pairwise_mergeSort Sorting.comparesBy_id (Keyed.distinct names)
  have distinct : (sortedNames names).Nodup := by
    rw [sortedNames, (List.mergeSort_perm _ _).nodup_iff, Keyed.distinct_eq]
    exact Keyed.nodup_eraseDups names
  exact (sorted.and distinct).imp fun ⟨le, ne⟩ => lt_of_le_of_ne le ne

end SortedNames

section Numbered

variable {α β γ : Type}

/-- What does not depend on the position is the same for numbered items. -/
theorem map_mapIdx (number : Nat → α → β) {observe : β → γ} (value : α → γ)
    (same : ∀ position item, observe (number position item) = value item) (items : List α) :
    (items.mapIdx number).map observe = items.map value := by
  apply List.ext_getElem
  · simp
  · intro position _ _
    simp [same]

/-- Numbered ids count from one. -/
theorem map_mapIdx_range (number : Nat → α → β) {observe : β → γ} (written : Nat → γ)
    (same : ∀ position item, observe (number position item) = written position) (items : List α) :
    (items.mapIdx number).map observe = (List.range (items.mapIdx number).length).map written := by
  apply List.ext_getElem
  · simp
  · intro position _ _
    simp [same]

/-- Items relate to numbered values made of them when each does at every position. -/
theorem forall₂_mapIdx {R : α → γ → Prop} (make : α → β) {number : Nat → β → γ}
    (each : ∀ position item, R item (number position (make item))) (items : List α) :
    List.Forall₂ R items ((items.map make).mapIdx number) := by
  induction items generalizing number with
  | nil => exact .nil
  | cons item rest ih =>
    rw [List.map_cons, List.mapIdx_cons]
    exact .cons (each 0 item) (ih fun position => each (position + 1))

end Numbered

section Flows

theorem Provenance.root_node (provenance : Provenance) :
    provenance.node.root = provenance.root := by
  cases provenance <;> rfl

/-- The edge of a flow feeds the column of the flow, in the span of the flow, and nothing else. -/
theorem Flow.feeds_edge_iff {flow : Flow} {position : Nat} {span : String × String}
    {name : String} :
    (flow.edge position).Feeds span name ↔ flow.span = span ∧ flow.columnName = name := by
  have target : flow.target.owner = .table flow.key ∧ flow.target.columnName = flow.columnName := by
    unfold Flow.target Flow.columnName
    cases flow.column <;> exact ⟨rfl, rfl⟩
  constructor
  · rintro ⟨source, target', ends, rfl, rfl⟩
    obtain ⟨sources, targets⟩ := Prod.mk.inj ends
    obtain rfl := NodeRef.id_injective sources
    obtain rfl := NodeRef.id_injective targets
    rw [target.1, target.2, Provenance.root_node]
    exact ⟨rfl, rfl⟩
  · rintro ⟨rfl, rfl⟩
    refine ⟨flow.provenance.node, flow.target, rfl, ?_, target.2.symm⟩
    rw [target.1, Provenance.root_node]
    rfl

/-- The flows of a span feed the columns that their edges feed. -/
theorem mem_columnNames_iff {all : List Flow} {span : String × String} {name : String} :
    name ∈ (all.filter fun flow => decide (flow.span = span)).map Flow.columnName ↔
      ∃ edge ∈ all.mapIdx Flow.edge, edge.Feeds span name := by
  constructor
  · intro member
    obtain ⟨flow, inside, rfl⟩ := List.mem_map.mp member
    obtain ⟨here, same⟩ := List.mem_filter.mp inside
    obtain ⟨position, bound, rfl⟩ := List.mem_iff_getElem.mp here
    exact ⟨all[position].edge position, List.mem_mapIdx.mpr ⟨position, bound, rfl⟩,
      Flow.feeds_edge_iff.mpr ⟨of_decide_eq_true same, rfl⟩⟩
  · rintro ⟨edge, member, feeds⟩
    obtain ⟨position, bound, rfl⟩ := List.mem_mapIdx.mp member
    obtain ⟨same, rfl⟩ := Flow.feeds_edge_iff.mp feeds
    refine List.mem_map_of_mem (List.mem_filter.mpr ⟨List.getElem_mem bound, ?_⟩)
    exact decide_eq_true same

/-- The edges of flows are summed up by the table edges of their groups. -/
theorem aggregates_flows (all : List Flow) :
    Aggregates (all.mapIdx Flow.edge) ((Keyed.groups Flow.span all).mapIdx tableEdge) := by
  have ends : ((Keyed.groups Flow.span all).mapIdx tableEdge).map Edge.ends =
      (all.map Flow.span).eraseDups := by
    rw [map_mapIdx tableEdge Prod.fst (fun _ _ => rfl), Keyed.groups_eq, List.map_map]
    exact List.map_id _
  refine ⟨?_, ⟨all.map Flow.span, ?_, ends⟩, ?_, ?_, ?_⟩
  · rw [ends]
    exact Keyed.nodup_eraseDups _
  · have each (position : Nat) (flow : Flow) :
        ∃ name, (flow.edge position).Feeds flow.span name :=
      ⟨flow.columnName, Flow.feeds_edge_iff.mpr ⟨rfl, rfl⟩⟩
    have related := forall₂_mapIdx (R := fun (flow : Flow) (edge : Edge) =>
      ∃ name, edge.Feeds flow.span name) id each all
    rw [List.map_id] at related
    exact List.forall₂_map_right_iff.mpr related.flip
  · intro edge member
    rw [Keyed.groups_eq] at member
    obtain ⟨position, bound, rfl⟩ := List.mem_mapIdx.mp member
    obtain ⟨span, _, group⟩ := List.mem_map.mp (List.getElem_mem bound)
    rw [← group]
    refine ⟨_, rfl, pairwise_sortedNames _, fun name => ?_⟩
    rw [mem_sortedNames]
    exact mem_columnNames_iff
  · intro edge member
    obtain ⟨position, _, rfl⟩ := List.mem_mapIdx.mp member
    rfl
  · intro edge member
    obtain ⟨position, _, rfl⟩ := List.mem_mapIdx.mp member
    rfl

/-- The edges of one mapping, wherever their numbering starts. -/
theorem contributes_flows (mapping : Mapping) (first : Nat) :
    Contributes mapping ((flows mapping).mapIdx fun position => Flow.edge (position + first))
      (unresolvedIndexes [mapping]) := by
  unfold Contributes
  cases target : mapping.target with
  | unresolved raw => simp [flows, unresolvedIndexes, target, Target.path?]
  | path path =>
    refine ⟨by simp [unresolvedIndexes, target, Target.path?], ?_⟩
    by_cases fields : mapping.origin.fields = []
    · rw [if_pos fields, flows_of_no_fields target fields]
      refine ⟨_, rfl, rfl, ?_⟩
      cases all : path.isWildcard <;> simp [Flow.edge, Flow.target]
    · rw [if_neg fields, flows_of_fields target fields]
      exact forall₂_mapIdx _ (fun _ _ => ⟨rfl, rfl⟩) _

/-- Each mapping in turn adds its edges and its unresolved index. -/
theorem exists_parts (mappings : List Mapping) (first : Nat) :
    ∃ parts : List (List Edge × List Nat),
      List.Forall₂ (fun mapping part => Contributes mapping part.1 part.2) mappings parts ∧
      ((mappings.flatMap flows).mapIdx fun position => Flow.edge (position + first)) =
        parts.flatMap Prod.fst ∧
      unresolvedIndexes mappings = parts.flatMap Prod.snd := by
  induction mappings generalizing first with
  | nil => exact ⟨[], .nil, rfl, rfl⟩
  | cons mapping rest ih =>
    obtain ⟨parts, each, edges, unresolved⟩ := ih ((flows mapping).length + first)
    refine ⟨((flows mapping).mapIdx fun position => Flow.edge (position + first),
      unresolvedIndexes [mapping]) :: parts, .cons (contributes_flows mapping first) each, ?_, ?_⟩
    · rw [List.flatMap_cons, List.mapIdx_append, List.flatMap_cons, ← edges]
      simp only [Nat.add_assoc]
    · rw [List.flatMap_cons, ← unresolved]
      unfold unresolvedIndexes
      rw [← List.map_append, ← List.filter_append, List.singleton_append]

/-- The edges of a lineage are those of its mappings, and its table edges sum them up. -/
theorem tableEdges_aggregate (graph : Schema.Graph) :
    ∃ lineage, Graph.of? graph = .ok lineage ∧
      (∃ parts : List (List Edge × List Nat),
        List.Forall₂ (fun mapping part => Contributes mapping part.1 part.2) graph.mappings parts ∧
        lineage.edges = parts.flatMap Prod.fst ∧ lineage.unresolved = parts.flatMap Prod.snd) ∧
      Aggregates lineage.edges lineage.tableEdges ∧
      lineage.edges.map Edge.id =
        (List.range lineage.edges.length).map (fun n => "e" ++ toString (n + 1)) ∧
      lineage.tableEdges.map Edge.id =
        (List.range lineage.tableEdges.length).map (fun n => "te" ++ toString (n + 1)) := by
  obtain ⟨lineage, success, built⟩ := exists_built graph
  refine ⟨lineage, success, ?_, ?_, ?_, ?_⟩
  · rw [built.edges, built.unresolved]
    exact exists_parts graph.mappings 0
  · rw [built.edges, built.tableEdges]
    exact aggregates_flows _
  · rw [built.edges]
    exact map_mapIdx_range Flow.edge _ (fun _ _ => rfl) _
  · rw [built.tableEdges]
    exact map_mapIdx_range tableEdge _ (fun _ _ => rfl) _

end Flows

end SchemaAtlas.Lineage
