import SchemaAtlas.Proofs.Document.Writable
import SchemaAtlas.Proofs.Report.Pass

/-! # Reports that can be told

Only findings about mappings show a value of the document: the target as it was written. So there is
a report on a graph exactly when the findings about each mapping can be told, and whether they can
depends on that mapping and the declarations only.
-/

namespace SchemaAtlas

open Schema Document

/-- The findings about a mapping show no value that is too long to be written. -/
def Schema.Mapping.IsTold (graph : Graph) (mapping : Mapping) : Prop :=
  AllWritable ((mapping.errors graph ++ mapping.warnings).flatMap Finding.shown)

section Told

variable {graph : Graph} {mapping : Mapping} {strict : Bool} {report : Report}

/-- A finding that shows something is about a mapping. -/
theorem Finding.shown_eq_nil {finding : Finding} (other : finding.topic ≠ .mapping) :
    finding.shown = [] := by
  cases finding <;> first | rfl | exact absurd rfl other

theorem shown_of_all {topic : Topic} (other : topic ≠ .mapping) {findings : List Finding}
    (all : ∀ finding ∈ findings, finding.topic = topic) : findings.flatMap Finding.shown = [] :=
  List.flatMap_eq_nil_iff.mpr fun finding member =>
    Finding.shown_eq_nil (all finding member ▸ other)

/-- What findings that come topic by topic show are the values that those about mappings show. -/
theorem Parted.shown_eq {findings mappings columns sources tables : List Finding}
    (parted : Parted findings mappings columns sources tables) :
    findings.flatMap Finding.shown = mappings.flatMap Finding.shown := by
  rw [parted.ordered, List.flatMap_append, List.flatMap_append, List.flatMap_append,
    shown_of_all (by decide) parted.columns, shown_of_all (by decide) parted.sources,
    shown_of_all (by decide) parted.tables]
  simp only [List.append_nil]

/-- There is a report exactly when the findings about each mapping can be told. -/
theorem exists_report?_iff : (∃ report, graph.report? strict = .ok report) ↔
    ∀ mapping ∈ graph.mappings, mapping.IsTold graph := by
  rw [Graph.report?, exists_showing_iff, List.flatMap_append, (parted_errors graph strict).shown_eq,
    (parted_warnings graph strict).shown_eq, List.flatMap_assoc, List.flatMap_assoc,
    allWritable_append, allWritable_flatMap, allWritable_flatMap, ← forall₂_and]
  simp only [Mapping.IsTold, List.flatMap_append, allWritable_append]

/-- A report that there is tells every finding. -/
theorem report_of_report? (told : graph.report? strict = .ok report) :
    graph.report strict = report :=
  (showing_eq_ok_iff.mp told).2

/-- A mapping whose targets can be written has findings that can be told. -/
theorem Schema.Mapping.isTold_of_writable (given : mapping.rawTarget.isWritable = true)
    (unresolved : ∀ raw, mapping.target = .unresolved raw → raw.isWritable = true) :
    mapping.IsTold graph := by
  have one {value : Value} (writable : value.isWritable = true) : AllWritable [value] :=
    allWritable_cons.mpr ⟨writable, allWritable_nil⟩
  rw [Mapping.IsTold, allWritable_flatMap]
  intro finding member
  rcases List.mem_append.mp member with error | warning
  · rcases List.mem_append.mp error with origin | target
    · rcases Mapping.mem_originErrors_iff.mp origin with
        ⟨_, _, _, rfl⟩ | ⟨_, rfl⟩ | ⟨_, _, _, _, rfl⟩
      · exact allWritable_nil
      · exact one given
      · exact one given
    · rcases Mapping.mem_targetErrors_iff.mp target with
        ⟨raw, kept, rfl⟩ | ⟨_, _, ⟨_, rfl⟩ | ⟨_, _, named⟩⟩
      · exact one (unresolved raw kept)
      · exact allWritable_nil
      · rcases Mapping.mem_columnErrors_iff.mp named with ⟨_, _, rfl⟩ | ⟨_, _, _, rfl⟩
        · exact one given
        · exact allWritable_nil
  · unfold Mapping.warnings at warning
    split at warning
    · split at warning
      · obtain rfl := List.mem_singleton.mp warning
        exact one given
      · cases warning
    · cases warning

end Told

end SchemaAtlas
