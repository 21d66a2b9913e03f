import SchemaAtlas.Proofs.Lineage.Nodes
import SchemaAtlas.Proofs.Report.Referential
import SchemaAtlas.Schema.Declaration

/-! # What a valid report says about lineage

The report and lineage read a mapping alike when its fields come with a wildcard and its column is
one name. Then a valid report leaves no stand-in for a table or a column, and every column that
needs a value has an edge into it. They part where fields stand beside a column, which the report
goes by, and where a column spells several names, which lineage takes for one. A mapping of fields
may also name no source, and its stand-in is then called unknown.
-/

namespace SchemaAtlas.Lineage

open Schema Document

/-- Fields beside a target that is a column. -/
def FieldsBesideColumn (mapping : Mapping) (key : TableKey) (column : String) : Prop :=
  mapping.origin.fields ≠ [] ∧ mapping.target = .path ⟨key, column⟩ ∧ column ≠ wildcard

/-- A target column, without fields, that is not its only name. -/
def CompositeColumn (mapping : Mapping) (key : TableKey) (column : String) : Prop :=
  mapping.origin.fields = [] ∧ mapping.target = .path ⟨key, column⟩ ∧ column ≠ wildcard ∧
    columnNames column ≠ [column]

/-- A column that lineage takes a mapping to write, and the report does not. -/
def OnlyTraced (mapping : Mapping) (key : TableKey) (name : String) : Prop :=
  CompositeColumn mapping key name ∨
    ∃ column, FieldsBesideColumn mapping key column ∧ name ∉ columnNames column ∧
      name ∈ mapping.origin.fields.map Prod.fst

/-- A column that the report takes a mapping to write, and lineage does not. -/
def OnlyReported (mapping : Mapping) (key : TableKey) (name : String) : Prop :=
  ∃ column, name ∈ columnNames column ∧
    (CompositeColumn mapping key column ∨
      FieldsBesideColumn mapping key column ∧ name ∉ mapping.origin.fields.map Prod.fst)

/-- Fields of no source and no rule. -/
def FieldsAlone (mapping : Mapping) : Prop :=
  mapping.origin.fields ≠ [] ∧ given? mapping.origin.sourceId = none ∧
    given? mapping.origin.rule = none

/-- What stands in the lineage of a graph with a valid report: what is declared, the unknown source
of fields alone, and columns that the report and lineage read differently. -/
def Grounded (graph : Schema.Graph) : NodeRef → Prop
  | .source name | .sourceColumn name _ => Declares graph (.source name) ∨
      name = unknownName ∧ ∃ mapping ∈ graph.mappings, FieldsAlone mapping
  | .rule _ => True
  | .table key => Declares graph (.table key)
  | .column key name => Declares graph (.column key name) ∨
      ∃ mapping ∈ graph.mappings, OnlyTraced mapping key name

section Grounded

variable {graph : Schema.Graph} {mapping : Mapping}

theorem grounded_of_declares {ref : NodeRef} (declares : Declares graph ref) :
    Grounded graph ref := by
  cases ref with
  | source name => exact .inl declares
  | sourceColumn name path => exact declares.elim
  | rule text => trivial
  | table key => exact declares
  | column key name => exact .inl declares

/-- A sound mapping reads from a rule, a declared source, or fields alone. -/
theorem grounded_origin (here : mapping ∈ graph.mappings) (sound : mapping.Sound graph)
    (path : Option String) :
    Grounded graph (Provenance.ofOrigin mapping.origin path).root ∧
      Grounded graph (Provenance.ofOrigin mapping.origin path).node := by
  have source {id : String} (given : given? mapping.origin.sourceId = some id) :
      Declares graph (.source id) := sound.source id given
  have alone (noSource : given? mapping.origin.sourceId = none)
      (noRule : given? mapping.origin.rule = none) : FieldsAlone mapping := by
    refine ⟨?_, noSource, noRule⟩
    intro empty
    apply sound.origin
    simp [Origin.kind, empty, noSource, noRule]
  unfold Provenance.ofOrigin
  cases givenSource : given? mapping.origin.sourceId with
  | some id =>
    cases given? mapping.origin.rule <;>
      exact ⟨.inl (source givenSource), .inl (source givenSource)⟩
  | none =>
    cases givenRule : given? mapping.origin.rule with
    | some text => exact ⟨trivial, trivial⟩
    | none =>
      have stands := alone givenSource givenRule
      exact ⟨.inr ⟨rfl, mapping, here, stands⟩, .inr ⟨rfl, mapping, here, stands⟩⟩

/-- A sound mapping names a declared table, and declared columns of it. -/
theorem declares_of_sound {path : TargetPath} (sound : mapping.Sound graph)
    (target : mapping.target = .path path) :
    Declares graph (.table path.key) ∧
      ∀ name ∈ mapping.namedColumns path, Declares graph (.column path.key name) := by
  obtain ⟨path', table, target', found, _, columns⟩ := sound.target
  obtain rfl : path = path' := Target.path.inj (target.symm.trans target')
  constructor
  · exact Option.isSome_iff_exists.mpr ⟨table, found⟩
  · intro name named
    exact ⟨table, found, columns name named⟩

/-- Fields write to declared columns, unless they stand beside a column. -/
theorem grounded_field {path : TargetPath} {name : String} (here : mapping ∈ graph.mappings)
    (sound : mapping.Sound graph) (target : mapping.target = .path path)
    (named : name ∈ mapping.origin.fields.map Prod.fst) :
    Grounded graph (.column path.key name) := by
  obtain ⟨_, declared⟩ := declares_of_sound sound target
  cases all : path.isWildcard with
  | true =>
    rw [namedColumns_wildcard all] at declared
    exact .inl (declared name named)
  | false =>
    rw [namedColumns_column all] at declared
    by_cases listed : name ∈ columnNames path.column
    · exact .inl (declared name listed)
    · have fields : mapping.origin.fields ≠ [] := by
        intro empty
        simp [empty] at named
      have beside : FieldsBesideColumn mapping path.key path.column :=
        ⟨fields, target, isWildcard_eq_false_iff.mp all⟩
      exact .inr ⟨mapping, here, .inr ⟨path.column, beside, listed, named⟩⟩

/-- A target column without fields is declared, unless it is composite. -/
theorem grounded_literal {path : TargetPath} (here : mapping ∈ graph.mappings)
    (sound : mapping.Sound graph) (target : mapping.target = .path path)
    (empty : mapping.origin.fields = []) (one : path.isWildcard = false) :
    Grounded graph (.column path.key path.column) := by
  obtain ⟨_, declared⟩ := declares_of_sound sound target
  rw [namedColumns_column one] at declared
  by_cases single : columnNames path.column = [path.column]
  · rw [single] at declared
    exact .inl (declared path.column (List.mem_singleton_self _))
  · have composite : CompositeColumn mapping path.key path.column :=
      ⟨empty, target, isWildcard_eq_false_iff.mp one, single⟩
    exact .inr ⟨mapping, here, .inl composite⟩

/-- A sound mapping writes to a declared table, and to declared columns where it is read alike. -/
theorem grounded_target (here : mapping ∈ graph.mappings) (sound : mapping.Sound graph)
    {flow : Flow} (member : flow ∈ flows mapping) :
    Grounded graph (.table flow.key) ∧ Grounded graph flow.target := by
  obtain ⟨path, target, key, column⟩ := flows_cases member
  have table : Grounded graph (.table path.key) := (declares_of_sound sound target).1
  unfold Flow.target
  rw [key]
  refine ⟨table, ?_⟩
  rcases column with ⟨field, inside, column, _⟩ | ⟨empty, column, _⟩
  · rw [column]
    exact grounded_field here sound target (List.mem_map_of_mem inside)
  · cases all : path.isWildcard with
    | true =>
      rw [column, if_pos all]
      exact table
    | false =>
      rw [column, if_neg (by simp [all])]
      exact grounded_literal here sound target empty all

/-- A field of a mapping with a path for its target has a flow into its column. -/
theorem exists_flow_of_field {path : TargetPath} {name : String}
    (target : mapping.target = .path path) (named : name ∈ mapping.origin.fields.map Prod.fst) :
    ∃ flow ∈ flows mapping, flow.target = .column path.key name := by
  obtain ⟨field, inside, rfl⟩ := List.mem_map.mp named
  rw [flows_of_fields target (List.ne_nil_of_mem inside)]
  exact ⟨_, List.mem_map_of_mem inside, rfl⟩

/-- What a mapping covers gets a flow, unless lineage reads the mapping differently. -/
theorem exists_flow_of_covers {key : TableKey} {name : String}
    (covers : mapping.covers key name = true) :
    (∃ flow ∈ flows mapping, flow.target = .column key name) ∨ OnlyReported mapping key name := by
  unfold Mapping.covers at covers
  split at covers
  · next path target =>
    rw [Bool.and_eq_true, beq_iff_eq, List.contains_iff_mem] at covers
    obtain ⟨rfl, named⟩ := covers
    by_cases field : name ∈ mapping.origin.fields.map Prod.fst
    · exact .inl (exists_flow_of_field target field)
    · cases all : path.isWildcard with
      | true =>
        rw [namedColumns_wildcard all] at named
        contradiction
      | false =>
        rw [namedColumns_column all] at named
        have column := isWildcard_eq_false_iff.mp all
        by_cases empty : mapping.origin.fields = []
        · by_cases single : columnNames path.column = [path.column]
          · rw [single, List.mem_singleton] at named
            left
            rw [flows_of_no_fields target empty, all, named]
            exact ⟨_, List.mem_singleton_self _, rfl⟩
          · exact .inr ⟨path.column, named, .inl ⟨empty, target, column, single⟩⟩
        · exact .inr ⟨path.column, named, .inr ⟨⟨empty, target, column⟩, field⟩⟩
  · cases covers

/-- A wildcard, or a single name without fields, is read alike. -/
theorem not_onlyReported {path : TargetPath} (target : mapping.target = .path path)
    (alike : path.isWildcard = true ∨
      mapping.origin.fields = [] ∧ columnNames path.column = [path.column])
    (key : TableKey) (name : String) : ¬ OnlyReported mapping key name := by
  rintro ⟨column, _, ⟨_, target', named, parts⟩ | ⟨⟨fields, target', named⟩, _⟩⟩ <;>
    obtain rfl : path = ⟨key, column⟩ := Target.path.inj (target.symm.trans target') <;>
    rcases alike with all | ⟨empty, single⟩
  · exact named (by simpa [TargetPath.isWildcard] using all)
  · exact parts single
  · exact named (by simpa [TargetPath.isWildcard] using all)
  · exact fields empty

end Grounded

/-- With a valid report, a lineage stands on what is declared: no table is a stand-in, and neither
is a source or a column unless fields stand alone or report and lineage read its mapping
differently. Every column that needs a value has an edge into it, with the same exception. -/
theorem valid_report_grounds_lineage (graph : Schema.Graph) (strict : Bool)
    (valid : (graph.report strict).valid = true) :
    ∃ lineage, Graph.of? graph = .ok lineage ∧
      (∀ node ∈ lineage.nodes, ∃ ref, node.StandsFor ref ∧ Grounded graph ref) ∧
      ∀ table ∈ graph.tables, ∀ column ∈ table.columns, column.NeedsValue →
        (∃ edge ∈ lineage.edges, edge.kind = .columnLineage ∧
          edge.target = (NodeRef.column table.key column.name).id) ∨
        ∃ mapping ∈ graph.mappings, OnlyReported mapping table.key column.name := by
  obtain ⟨lineage, success, built⟩ := exists_built graph
  obtain ⟨sound, covered⟩ := Schema.Graph.report_valid valid
  refine ⟨lineage, success, fun node member => ?_, fun table here column there needs => ?_⟩
  · rcases built.mem_nodes member with declared | ⟨⟨mapping, here, needed⟩, _⟩
    · obtain ⟨ref, stands, declares, _⟩ := declared_of_mem_declaredNodes declared
      exact ⟨ref, stands, grounded_of_declares declares⟩
    · rcases mem_mappingNodes needed with ⟨path, origin⟩ | ⟨flow, inside, target⟩
      · obtain ⟨root, source⟩ := grounded_origin here (sound mapping here) path
        rcases Provenance.stands_of_mem origin with stands | stands
        · exact ⟨_, stands, root⟩
        · exact ⟨_, stands, source⟩
      · obtain ⟨table, column⟩ := grounded_target here (sound mapping here) inside
        rcases (Flow.stands_of_mem target).1 with stands | stands
        · exact ⟨_, stands, table⟩
        · exact ⟨_, stands, column⟩
  · obtain ⟨mapping, member, covers⟩ := covered table here column there needs
    rcases exists_flow_of_covers covers with ⟨flow, inside, target⟩ | reported
    · obtain ⟨edge, known, same⟩ :=
        built.exists_edge (List.mem_flatMap.mpr ⟨mapping, member, inside⟩)
      exact .inl ⟨edge, known, same.1, same.2.trans (congrArg NodeRef.id target)⟩
    · exact .inr ⟨mapping, member, reported⟩

/-- Two columns in need of a value, one written by a field and one by a rule. -/
def alikeGraph : Schema.Graph where
  project := ""
  owners := []
  sources := [⟨"crm", .file, none, []⟩]
  tables := [{
    key := ⟨"d", "s", "t"⟩
    columns := [⟨"a", "", false, none, false, true, none, none⟩,
      ⟨"b", "", false, none, false, true, none, none⟩]
    description := none
    owner := none }]
  mappings := [
    ⟨0, .text "d.s.t", .path ⟨⟨"d", "s", "t"⟩, wildcard⟩,
      { sourceId := some "crm", fields := [("a", "x")] }, none, []⟩,
    ⟨1, .text "d.s.t.b", .path ⟨⟨"d", "s", "t"⟩, "b"⟩, { rule := some "now" }, none, []⟩]
  redeclared := []

theorem valid_report_grounds_alikeGraph :
    (alikeGraph.report true).valid = true ∧
      ∃ lineage, Graph.of? alikeGraph = .ok lineage ∧
        (∀ node ∈ lineage.nodes, ∃ ref, node.StandsFor ref ∧ Grounded alikeGraph ref) ∧
        ∀ table ∈ alikeGraph.tables, ∀ column ∈ table.columns, ∃ edge ∈ lineage.edges,
          edge.kind = .columnLineage ∧
            edge.target = (NodeRef.column table.key column.name).id := by
  have valid : (alikeGraph.report true).valid = true := by decide
  obtain ⟨lineage, success, grounded, covered⟩ := valid_report_grounds_lineage alikeGraph true valid
  refine ⟨valid, lineage, success, grounded, ?_⟩
  have alike : ∀ mapping ∈ alikeGraph.mappings, ∀ key name, ¬ OnlyReported mapping key name := by
    simp only [alikeGraph, List.forall_mem_cons, List.not_mem_nil, false_implies, implies_true,
      and_true]
    exact ⟨not_onlyReported rfl (.inl rfl), not_onlyReported rfl (.inr ⟨rfl, by decide⟩)⟩
  have needs : ∀ table ∈ alikeGraph.tables, ∀ column ∈ table.columns, column.NeedsValue := by
    simp [alikeGraph, Column.NeedsValue]
  intro table here column there
  rcases covered table here column there (needs table here column there) with edge | reported
  · exact edge
  · obtain ⟨mapping, member, only⟩ := reported
    exact (alike mapping member _ _ only).elim

/-- A document that the report and lineage read differently: it has a composite column, a field
beside a column, and fields alone. -/
def partedDocument : Value :=
  let entries (items : List (String × Value)) : Value := .dict (Entries.named items)
  let crm := ("source_id", Value.text "crm")
  let mapping (target : String) (origin : List (String × Value)) : Value :=
    entries [("target", .text target), ("from", entries origin)]
  let columns := [entries [("name", .text "a"), ("not_null", .bool true)],
    entries [("name", .text "b")], entries [("name", .text "c")]]
  let table := entries [("name", .text "t"), ("columns", .list columns)]
  entries [
    ("sources", .list [entries [("id", .text "crm")]]),
    ("targets", .list
      [entries [("db", .text "d"), ("schema", .text "s"), ("tables", .list [table])]]),
    ("mappings", .list
      [mapping "d.s.t.a,b" [crm],
        mapping "d.s.t.b" [crm, ("fields", entries [("z", .text "x")])],
        mapping "d.s.t" [("fields", entries [("c", .text "y")])]])]

/-- The table of that document. -/
def partedKey : TableKey := ⟨"d", "s", "t"⟩

/-- What that document declares. -/
def partedGraph : Schema.Graph where
  project := ""
  owners := []
  sources := [⟨"crm", .file, none, []⟩]
  tables := [{
    key := partedKey
    columns := [⟨"a", "", false, none, false, true, none, none⟩,
      ⟨"b", "", false, none, false, false, none, none⟩,
      ⟨"c", "", false, none, false, false, none, none⟩]
    description := none
    owner := none }]
  mappings := [
    ⟨0, .text "d.s.t.a,b", .path ⟨partedKey, "a,b"⟩, { sourceId := some "crm" }, none, []⟩,
    ⟨1, .text "d.s.t.b", .path ⟨partedKey, "b"⟩,
      { sourceId := some "crm", fields := [("z", "x")] }, none, []⟩,
    ⟨2, .text "d.s.t", .path ⟨partedKey, wildcard⟩, { fields := [("c", "y")] }, none, []⟩]
  redeclared := []

/-- A valid report alone does not ground a lineage: here the unknown source, the undivided column
and the field beside a column are stand-ins, and a column that needs a value has no edge into it. -/
theorem valid_report_with_stand_ins :
    ∃ graph lineage, Schema.Graph.ofDocument? "" partedDocument = .ok graph ∧
      (graph.report false).valid = true ∧ Graph.of? graph = .ok lineage ∧
      (∀ ref ∈ [NodeRef.source unknownName, .column partedKey "a,b", .column partedKey "z"],
        ¬ Declares graph ref ∧ ∃ node ∈ lineage.nodes, node.StandsFor ref) ∧
      ∃ table ∈ graph.tables, ∃ column ∈ table.columns, column.NeedsValue ∧
        ∀ edge ∈ lineage.edges, edge.target ≠ (NodeRef.column table.key column.name).id := by
  obtain ⟨lineage, success, built⟩ := exists_built partedGraph
  refine ⟨partedGraph, lineage, rfl, by decide, success, ?_, ?_⟩
  · intro ref member
    constructor
    · rw [← mem_declaredRefs]
      revert ref
      decide
    · have roots : NodeRef.source unknownName ∈
          (partedGraph.mappings.flatMap flows).map fun flow => flow.provenance.root := by decide
      have targets : ∀ ref ∈ [NodeRef.column partedKey "a,b", .column partedKey "z"],
          ref ∈ (partedGraph.mappings.flatMap flows).map Flow.target := by decide
      apply built.exists_stands
      rcases List.mem_cons.mp member with rfl | member
      · obtain ⟨flow, inside, root⟩ := List.mem_map.mp roots
        exact root ▸ built.known inside flow.root_mem
      · obtain ⟨flow, inside, rfl⟩ := List.mem_map.mp (targets ref member)
        exact built.known inside flow.target_mem
  · refine ⟨_, List.mem_singleton_self _, _, List.mem_cons_self, ⟨rfl, rfl, rfl⟩, ?_⟩
    intro edge member same
    have untouched : NodeRef.column partedKey "a" ∉
        (partedGraph.mappings.flatMap flows).map Flow.target := by decide
    obtain ⟨flow, inside, _, target⟩ := built.exists_flow member
    apply untouched
    exact List.mem_map.mpr ⟨flow, inside, NodeRef.id_injective (target.symm.trans same)⟩

end SchemaAtlas.Lineage
