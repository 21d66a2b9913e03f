import SchemaAtlas.Lineage.Graph
import SchemaAtlas.Proofs.Lineage.NodeId
import SchemaAtlas.Proofs.Lineage.Registration

/-! # The nodes of a lineage graph

Every node of a lineage graph stands for a source, a source column, a rule, a table or a column, and
its id and kind are those of what it stands for. Ids determine what they name, so no registration is
ever refused and ids are pairwise distinct. The declared nodes come first, everything that an edge
names is a node, and a table or a column is marked as undeclared exactly when it is.
-/

namespace SchemaAtlas.Lineage

open Schema Document

/-- The kind of the node that stands for something. -/
def NodeRef.kind : NodeRef → NodeKind
  | .source _ => .source
  | .sourceColumn _ _ => .sourceColumn
  | .rule _ => .rule
  | .table _ => .table
  | .column _ _ => .column

/-- A node that bears the id and the kind of what it stands for. -/
def Node.StandsFor (node : Node) (ref : NodeRef) : Prop := node.id = ref.id ∧ node.kind = ref.kind

theorem Node.StandsFor.unique {node : Node} {ref other : NodeRef} (first : node.StandsFor ref)
    (second : node.StandsFor other) : ref = other :=
  NodeRef.id_injective (first.1.symm.trans second.1)

/-- Everything that a schema graph declares, in declaration order. -/
def declaredRefs (graph : Schema.Graph) : List NodeRef :=
  graph.sources.map (fun source => .source source.id) ++
    graph.tables.flatMap fun table =>
      .table table.key :: table.columns.map fun column => .column table.key column.name

/-- Whether a schema graph declares what a node stands for. -/
def Declares (graph : Schema.Graph) : NodeRef → Prop
  | .source id => (graph.source? id).isSome
  | .table key => (graph.table? key).isSome
  | .column key name => ∃ table, graph.table? key = some table ∧ table.hasColumn name
  | .sourceColumn _ _ => False
  | .rule _ => False

section Declared

variable {graph : Schema.Graph}

theorem table?_of_mem {table : Table} (member : table ∈ graph.tables) :
    graph.table? table.key = some table :=
  Keyed.find?_of_mem graph.keys_nodup member

theorem mem_declaredRefs {ref : NodeRef} : ref ∈ declaredRefs graph ↔ Declares graph ref := by
  cases ref with
  | source id =>
    simp [declaredRefs, Declares, Schema.Graph.source?, Keyed.isSome_find?_iff]
  | table key =>
    suffices (∃ table ∈ graph.tables, key = table.key) ↔ key ∈ graph.tables.map Table.key by
      simpa [declaredRefs, Declares, Schema.Graph.table?, Keyed.isSome_find?_iff] using this
    simp only [List.mem_map, eq_comm]
  | column key name =>
    suffices (∃ table ∈ graph.tables, ∃ column ∈ table.columns,
        table.key = key ∧ column.name = name) ↔ Declares graph (.column key name) by
      simpa [declaredRefs] using this
    constructor
    · rintro ⟨table, member, column, member', rfl, rfl⟩
      refine ⟨table, table?_of_mem member, ?_⟩
      exact Keyed.isSome_find?_iff.mpr (List.mem_map_of_mem member')
    · rintro ⟨table, found, has⟩
      obtain ⟨member, same⟩ := Keyed.key_of_find? found
      obtain ⟨column, member', name_eq⟩ := List.mem_map.mp (Keyed.isSome_find?_iff.mp has)
      exact ⟨table, member, column, member', same, name_eq⟩
  | sourceColumn source path => simp [declaredRefs, Declares]
  | rule text => simp [declaredRefs, Declares]

/-- Nothing is declared twice. -/
theorem declaredRefs_nodup (graph : Schema.Graph) : (declaredRefs graph).Nodup := by
  have sources : (graph.sources.map fun source => NodeRef.source source.id).Nodup := by
    have renamed := graph.ids_nodup.map (f := NodeRef.source)
      fun _ _ same => NodeRef.source.inj same
    rwa [List.map_map] at renamed
  have columns (table : Table) : (NodeRef.table table.key ::
      table.columns.map fun column => .column table.key column.name).Nodup := by
    have renamed := table.names_nodup.map (f := NodeRef.column table.key)
      fun _ _ same => (NodeRef.column.inj same).2
    rw [List.map_map] at renamed
    exact List.nodup_cons.mpr ⟨by simp, renamed⟩
  apply List.nodup_append'.mpr
  refine ⟨sources, List.nodup_flatMap.mpr ⟨fun table _ => columns table, ?_⟩, ?_⟩
  · apply (List.pairwise_map.mp graph.keys_nodup).imp
    intro table other differ
    simp [Function.onFun, List.disjoint_left, differ, Ne.symm differ]
  · simp [List.disjoint_left]

/-- The declared nodes bear the ids and the kinds of what is declared, in order. -/
theorem map_declaredNodes (graph : Schema.Graph) :
    (declaredNodes graph).map (fun node => (node.id, node.kind)) =
      (declaredRefs graph).map fun ref => (ref.id, ref.kind) := by
  simp [declaredNodes, declaredRefs, tableNodes, sourceNode, List.map_flatMap, NodeRef.kind,
    Function.comp_def]

/-- A declared table or column is not marked as undeclared. -/
theorem declared_of_mem_declaredNodes {node : Node} (member : node ∈ declaredNodes graph) :
    ∃ ref, node.StandsFor ref ∧ Declares graph ref ∧
      (ref.kind = .table ∨ ref.kind = .column → Entries.get node.info "declared" = .bool true) := by
  rcases List.mem_append.mp member with member | member
  · obtain ⟨source, here, rfl⟩ := List.mem_map.mp member
    refine ⟨.source source.id, ⟨rfl, rfl⟩, mem_declaredRefs.mp ?_, by simp [NodeRef.kind]⟩
    exact List.mem_append_left _ (List.mem_map_of_mem here)
  · obtain ⟨table, here, inside⟩ := List.mem_flatMap.mp member
    rcases List.mem_cons.mp inside with rfl | inside
    · refine ⟨.table table.key, ⟨rfl, rfl⟩, ?_, fun _ => by simp⟩
      exact Option.isSome_iff_exists.mpr ⟨table, table?_of_mem here⟩
    · obtain ⟨column, there, rfl⟩ := List.mem_map.mp inside
      refine ⟨.column table.key column.name, ⟨rfl, rfl⟩, ?_, fun _ => by simp [columnRecord]⟩
      exact ⟨table, table?_of_mem here, Keyed.isSome_find?_iff.mpr (List.mem_map_of_mem there)⟩

end Declared

section Mapped

theorem Provenance.stands_of_mem {provenance : Provenance} {node : Node}
    (member : node ∈ provenance.nodes) :
    node.StandsFor provenance.root ∨ node.StandsFor provenance.node := by
  cases provenance with
  | sourceColumn source named path =>
    rcases List.mem_cons.mp member with rfl | member
    · exact .inl ⟨rfl, rfl⟩
    · obtain rfl := List.mem_singleton.mp member
      exact .inr ⟨rfl, rfl⟩
  | rule text =>
    obtain rfl := List.mem_singleton.mp member
    exact .inl ⟨rfl, rfl⟩

theorem Provenance.root_mem (provenance : Provenance) :
    provenance.root.id ∈ provenance.nodes.map Node.id := by
  cases provenance <;> simp [nodes, root]

theorem Provenance.node_mem (provenance : Provenance) :
    provenance.node.id ∈ provenance.nodes.map Node.id := by
  cases provenance <;> simp [nodes, node]

theorem Flow.ids_nodes (flow : Flow) :
    flow.nodes.map Node.id =
      flow.provenance.nodes.map Node.id ++ flow.targetNodes.map Node.id :=
  List.map_append

theorem Flow.root_mem (flow : Flow) : flow.provenance.root.id ∈ flow.nodes.map Node.id := by
  rw [ids_nodes]
  exact List.mem_append_left _ flow.provenance.root_mem

theorem Flow.source_mem (flow : Flow) : flow.provenance.node.id ∈ flow.nodes.map Node.id := by
  rw [ids_nodes]
  exact List.mem_append_left _ flow.provenance.node_mem

theorem Flow.table_mem (flow : Flow) : (NodeRef.table flow.key).id ∈ flow.nodes.map Node.id := by
  rw [ids_nodes]
  apply List.mem_append_right
  simp [targetNodes]

theorem Flow.target_mem (flow : Flow) : flow.target.id ∈ flow.nodes.map Node.id := by
  rw [ids_nodes]
  apply List.mem_append_right
  unfold target targetNodes
  cases flow.column <;> simp

/-- The stand-ins for a target stand for its table and for itself, and are marked as undeclared. -/
theorem Flow.stands_of_mem {flow : Flow} {node : Node} (member : node ∈ flow.targetNodes) :
    (node.StandsFor (.table flow.key) ∨ node.StandsFor flow.target) ∧
      Entries.get node.info "declared" = .bool false := by
  unfold targetNodes at member
  rcases List.mem_cons.mp member with rfl | member
  · exact ⟨.inl ⟨rfl, rfl⟩, by simp⟩
  · unfold target
    cases column : flow.column with
    | none => simp [column] at member
    | some name =>
      obtain rfl : node = _ := by simpa [column] using member
      exact ⟨.inr ⟨rfl, rfl⟩, by simp⟩

variable {mapping : Mapping}

/-- A mapping with fields has a flow for each of them, in order. -/
theorem flows_of_fields {path : TargetPath} (target : mapping.target = .path path)
    (present : mapping.origin.fields ≠ []) :
    flows mapping = mapping.origin.fields.map fun field =>
      { provenance := .ofOrigin mapping.origin (some field.2)
        key := path.key
        column := some field.1
        info := edgeInfo mapping [("field_path", .text field.2)] } := by
  simp [flows, target, present]

/-- A mapping without fields has one flow, into its column or into the table as a whole. -/
theorem flows_of_no_fields {path : TargetPath} (target : mapping.target = .path path)
    (absent : mapping.origin.fields = []) :
    flows mapping =
      [{ provenance := .ofOrigin mapping.origin none
         key := path.key
         column := if path.isWildcard then none else some path.column
         info := edgeInfo mapping
          (if path.isWildcard then [("wildcard", .bool true)] else []) }] := by
  cases all : path.isWildcard <;> simp [flows, target, absent, all]

/-- A flow goes into the table of its mapping's target: into the column of a field, or, when there
are no fields, into the target itself. -/
theorem flows_cases {flow : Flow} (member : flow ∈ flows mapping) :
    ∃ path, mapping.target = .path path ∧ flow.key = path.key ∧
      ((∃ field ∈ mapping.origin.fields, flow.column = some field.1 ∧
          flow.provenance = .ofOrigin mapping.origin (some field.2)) ∨
        (mapping.origin.fields = [] ∧
          flow.column = (if path.isWildcard then none else some path.column) ∧
          flow.provenance = .ofOrigin mapping.origin none)) := by
  cases target : mapping.target with
  | unresolved raw => simp [flows, target] at member
  | path path =>
    refine ⟨path, rfl, ?_⟩
    by_cases fields : mapping.origin.fields = []
    · rw [flows_of_no_fields target fields, List.mem_singleton] at member
      obtain rfl := member
      exact ⟨rfl, .inr ⟨fields, rfl, rfl⟩⟩
    · rw [flows_of_fields target fields] at member
      obtain ⟨field, here, rfl⟩ := List.mem_map.mp member
      exact ⟨rfl, .inl ⟨field, here, rfl, rfl⟩⟩

theorem nodes_subset_mappingNodes {flow : Flow} (member : flow ∈ flows mapping) :
    flow.nodes ⊆ mappingNodes mapping := by
  unfold mappingNodes
  cases target : mapping.target with
  | unresolved raw => simp [flows, target] at member
  | path path => exact fun node inside => List.mem_flatMap.mpr ⟨flow, member, inside⟩

/-- A mapping needs the nodes of its origin and those of the targets of its flows. -/
theorem mem_mappingNodes {node : Node} (member : node ∈ mappingNodes mapping) :
    (∃ path, node ∈ (Provenance.ofOrigin mapping.origin path).nodes) ∨
      ∃ flow ∈ flows mapping, node ∈ flow.targetNodes := by
  unfold mappingNodes at member
  split at member
  · exact .inl ⟨none, member⟩
  · obtain ⟨flow, here, inside⟩ := List.mem_flatMap.mp member
    rcases List.mem_append.mp inside with origin | target
    · obtain ⟨_, _, _, ⟨field, _, _, same⟩ | ⟨_, _, same⟩⟩ := flows_cases here
      · exact .inl ⟨some field.2, same ▸ origin⟩
      · exact .inl ⟨none, same ▸ origin⟩
    · exact .inr ⟨flow, here, target⟩

end Mapped

section Built

variable {graph : Schema.Graph} {lineage : Graph}

/-- What the lineage of a schema graph consists of. -/
structure Built (graph : Schema.Graph) (lineage : Graph) : Prop where
  nodes : Nodes.Registered (declaredNodes graph) (graph.mappings.flatMap mappingNodes) lineage.nodes
  edges : lineage.edges = (graph.mappings.flatMap flows).mapIdx Flow.edge
  tableEdges : lineage.tableEdges =
    (Keyed.groups Flow.span (graph.mappings.flatMap flows)).mapIdx tableEdge
  unresolved : lineage.unresolved = unresolvedIndexes graph.mappings

theorem stands_of_mem {node : Node}
    (member : node ∈ declaredNodes graph ++ graph.mappings.flatMap mappingNodes) :
    ∃ ref, node.StandsFor ref := by
  rcases List.mem_append.mp member with declared | mapped
  · obtain ⟨ref, stands, _⟩ := declared_of_mem_declaredNodes declared
    exact ⟨ref, stands⟩
  · obtain ⟨mapping, _, inside⟩ := List.mem_flatMap.mp mapped
    rcases mem_mappingNodes inside with ⟨path, origin⟩ | ⟨flow, _, target⟩
    · rcases Provenance.stands_of_mem origin with stands | stands <;> exact ⟨_, stands⟩
    · rcases (Flow.stands_of_mem target).1 with stands | stands <;> exact ⟨_, stands⟩

/-- Ids determine kinds, so the nodes of a lineage never clash. -/
theorem coherent_nodes (graph : Schema.Graph) :
    Nodes.Coherent (declaredNodes graph ++ graph.mappings.flatMap mappingNodes) := by
  intro node member other member' same
  obtain ⟨ref, id, kind⟩ := stands_of_mem member
  obtain ⟨ref', id', kind'⟩ := stands_of_mem member'
  rw [kind, kind', NodeRef.id_injective (id.symm.trans (same.trans id'))]

theorem ids_declaredNodes (graph : Schema.Graph) :
    (declaredNodes graph).map Node.id = (declaredRefs graph).map NodeRef.id := by
  simpa [Function.comp_def] using congrArg (List.map Prod.fst) (map_declaredNodes graph)

theorem declaredNodes_nodup (graph : Schema.Graph) :
    ((declaredNodes graph).map Node.id).Nodup := by
  rw [ids_declaredNodes]
  exact (declaredRefs_nodup graph).map NodeRef.id_injective

/-- Registering the declared nodes adds all of them, so the nodes of the mappings extend them. -/
theorem registerAll_declared (graph : Schema.Graph) (more : List Node) :
    Nodes.registerAll [] (declaredNodes graph ++ more) =
      Nodes.registerAll (declaredNodes graph) more := by
  have declared : Nodes.registerAll [] (declaredNodes graph) = .ok (declaredNodes graph) :=
    Nodes.registerAll_of_nodup (declaredNodes_nodup graph)
  rw [Nodes.registerAll_append, declared]
  rfl

/-- Every schema graph has a lineage. -/
theorem exists_built (graph : Schema.Graph) :
    ∃ lineage, Graph.of? graph = .ok lineage ∧ Built graph lineage := by
  obtain ⟨nodes, success⟩ := Nodes.exists_registerAll (coherent_nodes graph)
  refine ⟨⟨nodes, _, _, _⟩, ?_, Nodes.registerAll_registered success, rfl, rfl, rfl⟩
  rw [Graph.of?, registerAll_declared, success]
  rfl

theorem Built.ids_nodup (built : Built graph lineage) : (lineage.nodes.map Node.id).Nodup :=
  built.nodes.nodup (declaredNodes_nodup graph)

/-- A node is declared, or a mapping needs it and nothing declared has its id. -/
theorem Built.mem_nodes (built : Built graph lineage) {node : Node}
    (member : node ∈ lineage.nodes) :
    node ∈ declaredNodes graph ∨
      (∃ mapping ∈ graph.mappings, node ∈ mappingNodes mapping) ∧
        node.id ∉ (declaredNodes graph).map Node.id := by
  have distinct := built.ids_nodup
  obtain ⟨added, nodes, taken⟩ := built.nodes.extends_by
  rw [nodes] at member distinct
  rcases List.mem_append.mp member with declared | new
  · exact .inl declared
  · rw [List.map_append, List.nodup_append'] at distinct
    exact .inr ⟨List.mem_flatMap.mp (taken.subset new),
      fun known => distinct.2.2 known (List.mem_map_of_mem new)⟩

theorem Built.stands (built : Built graph lineage) {node : Node} (member : node ∈ lineage.nodes) :
    ∃ ref, node.StandsFor ref := by
  rcases built.mem_nodes member with declared | ⟨mapped, _⟩
  · exact stands_of_mem (List.mem_append_left _ declared)
  · exact stands_of_mem (List.mem_append_right _ (List.mem_flatMap.mpr mapped))

/-- Whatever a flow needs is a node. -/
theorem Built.known (built : Built graph lineage) {flow : Flow} {id : String}
    (member : flow ∈ graph.mappings.flatMap flows) (needed : id ∈ flow.nodes.map Node.id) :
    id ∈ lineage.nodes.map Node.id := by
  obtain ⟨mapping, here, inside⟩ := List.mem_flatMap.mp member
  obtain ⟨node, within, rfl⟩ := List.mem_map.mp needed
  apply built.nodes.known node
  exact List.mem_flatMap.mpr ⟨mapping, here, nodes_subset_mappingNodes inside within⟩

/-- A node whose id is that of a thing stands for it. -/
theorem Built.exists_stands (built : Built graph lineage) {ref : NodeRef}
    (known : ref.id ∈ lineage.nodes.map Node.id) : ∃ node ∈ lineage.nodes, node.StandsFor ref := by
  obtain ⟨node, member, id⟩ := List.mem_map.mp known
  obtain ⟨other, stands⟩ := built.stands member
  obtain rfl : other = ref := NodeRef.id_injective (stands.1.symm.trans id)
  exact ⟨node, member, stands⟩

/-- Every edge is one of the flows. -/
theorem Built.exists_flow (built : Built graph lineage) {edge : Edge}
    (member : edge ∈ lineage.edges) :
    ∃ flow ∈ graph.mappings.flatMap flows, edge.source = flow.provenance.node.id ∧
      edge.target = flow.target.id := by
  rw [built.edges] at member
  obtain ⟨position, _, rfl⟩ := List.mem_mapIdx.mp member
  exact ⟨_, List.getElem_mem _, rfl, rfl⟩

/-- Every flow is one of the edges. -/
theorem Built.exists_edge (built : Built graph lineage) {flow : Flow}
    (member : flow ∈ graph.mappings.flatMap flows) :
    ∃ edge ∈ lineage.edges, edge.kind = .columnLineage ∧ edge.target = flow.target.id := by
  obtain ⟨position, bound, rfl⟩ := List.mem_iff_getElem.mp member
  rw [built.edges]
  exact ⟨_, List.mem_mapIdx.mpr ⟨position, bound, rfl⟩, rfl, rfl⟩

/-- Every table edge spans what some flow spans. -/
theorem Built.exists_flow_of_tableEdge (built : Built graph lineage) {edge : Edge}
    (member : edge ∈ lineage.tableEdges) :
    ∃ flow ∈ graph.mappings.flatMap flows, edge.source = flow.provenance.root.id ∧
      edge.target = (NodeRef.table flow.key).id := by
  rw [built.tableEdges, Keyed.groups_eq] at member
  obtain ⟨position, bound, rfl⟩ := List.mem_mapIdx.mp member
  obtain ⟨span, first, same⟩ := List.mem_map.mp (List.getElem_mem bound)
  obtain ⟨flow, here, rfl⟩ := List.mem_map.mp (List.mem_eraseDups.mp first)
  refine ⟨flow, here, ?_⟩
  rw [← same]
  exact ⟨rfl, rfl⟩

/-- Both ends of an edge are nodes. -/
theorem Built.ends_known (built : Built graph lineage) {edge : Edge}
    (member : edge ∈ lineage.edges ++ lineage.tableEdges) :
    edge.source ∈ lineage.nodes.map Node.id ∧ edge.target ∈ lineage.nodes.map Node.id := by
  rcases List.mem_append.mp member with columns | tables
  · obtain ⟨flow, inside, source, target⟩ := built.exists_flow columns
    rw [source, target]
    exact ⟨built.known inside flow.source_mem, built.known inside flow.target_mem⟩
  · obtain ⟨flow, inside, source, target⟩ := built.exists_flow_of_tableEdge tables
    rw [source, target]
    exact ⟨built.known inside flow.root_mem, built.known inside flow.table_mem⟩

/-- A table or a column is marked as undeclared exactly when it is undeclared. -/
theorem Built.marked_iff (built : Built graph lineage) {node : Node} {ref : NodeRef}
    (member : node ∈ lineage.nodes) (stands : node.StandsFor ref)
    (kind : ref.kind = .table ∨ ref.kind = .column) :
    Entries.get node.info "declared" = .bool false ↔ ¬ Declares graph ref := by
  rcases built.mem_nodes member with declared | ⟨⟨mapping, here, needed⟩, new⟩
  · obtain ⟨ref', stands', declares, marked⟩ := declared_of_mem_declaredNodes declared
    obtain rfl := stands.unique stands'
    simp [marked kind, declares]
  · have undeclared : ¬ Declares graph ref := by
      rw [ids_declaredNodes, stands.1] at new
      exact fun declares => new (List.mem_map_of_mem (mem_declaredRefs.mpr declares))
    rcases mem_mappingNodes needed with ⟨path, origin⟩ | ⟨flow, _, target⟩
    · -- What a mapping reads from is neither a table nor a column.
      rcases Provenance.stands_of_mem origin with stands' | stands' <;>
        obtain rfl := stands.unique stands' <;>
        cases h : Provenance.ofOrigin mapping.origin path <;>
        simp [h, Provenance.root, Provenance.node, NodeRef.kind] at kind
    · simp [(Flow.stands_of_mem target).2, undeclared]

/-- Ids cannot be forged: an id belongs to one node only, whatever the names are. So no lineage is
refused, and its nodes stand for pairwise different things. -/
theorem nodeIds_unforgeable :
    Function.Injective NodeRef.id ∧
      ∀ graph : Schema.Graph, ∃ lineage, Graph.of? graph = .ok lineage ∧
        (lineage.nodes.map Node.id).Nodup ∧
        ∀ node ∈ lineage.nodes, ∃ ref, node.StandsFor ref := by
  refine ⟨NodeRef.id_injective, fun graph => ?_⟩
  obtain ⟨lineage, success, built⟩ := exists_built graph
  exact ⟨lineage, success, built.ids_nodup, fun node member => built.stands member⟩

/-- No edge dangles, the declared nodes come first, and tables and columns are marked as undeclared
exactly when they are. -/
theorem lineage_closed (graph : Schema.Graph) :
    ∃ lineage, Graph.of? graph = .ok lineage ∧
      (∀ edge ∈ lineage.edges ++ lineage.tableEdges,
        edge.source ∈ lineage.nodes.map Node.id ∧ edge.target ∈ lineage.nodes.map Node.id) ∧
      (declaredRefs graph).map (fun ref => (ref.id, ref.kind)) <+:
        lineage.nodes.map (fun node => (node.id, node.kind)) ∧
      ∀ node ∈ lineage.nodes, ∃ ref, node.StandsFor ref ∧
        (ref.kind = .table ∨ ref.kind = .column →
          (Entries.get node.info "declared" = .bool false ↔ ¬ Declares graph ref)) := by
  obtain ⟨lineage, success, built⟩ := exists_built graph
  refine ⟨lineage, success, fun edge member => ?_, ?_, fun node member => ?_⟩
  · exact built.ends_known member
  · obtain ⟨added, nodes, _⟩ := built.nodes.extends_by
    rw [nodes, List.map_append, map_declaredNodes]
    exact List.prefix_append _ _
  · obtain ⟨ref, stands⟩ := built.stands member
    exact ⟨ref, stands, built.marked_iff member stands⟩

end Built

end SchemaAtlas.Lineage
