import SchemaAtlas.Compilation.Text
import SchemaAtlas.Proofs.Loading.Outcome
import SchemaAtlas.Proofs.Report.Told

/-! # Failures are explained

Reading a text goes by the verdict on its document, while the success of a compilation goes by the
lists of errors. The two agree: nothing is missing from a result without errors, and whatever is
missing has an error for it.
-/

namespace SchemaAtlas.Compilation

open Document

section Stages

variable {settings : Settings} {request : Request} {stamp : Moment}

/-- A compiled document has everything, no errors of its structure, and the report on its graph. -/
theorem compiled_of_ofDocument {document : Value} {result : Result}
    (success : ofDocument settings request stamp document = .ok result) :
    ∃ compiled, result =
      ⟨some compiled, compiled.graph.report settings.strictRedeclarations, []⟩ := by
  obtain ⟨graph, _, success⟩ := Attempt.bind_eq_ok_iff.mp success
  obtain ⟨report, told, success⟩ := Attempt.bind_eq_ok_iff.mp success
  obtain ⟨lineage, _, success⟩ := Attempt.bind_eq_ok_iff.mp success
  obtain ⟨made, _, success⟩ := Attempt.bind_eq_ok_iff.mp success
  refine ⟨⟨graph, lineage, made⟩, ?_⟩
  rw [report_of_report? (Attempt.mapError_eq_ok_iff.mp told)]
  exact (Except.ok.inj success).symm

/-- A compiled text was read without errors and has everything, or it has nothing but errors. -/
theorem ofText_cases {text : String} {name : Option String} {result : Result}
    (success : ofText settings request stamp text name = .ok result) :
    (∃ compiled, result.compiled = some compiled ∧ result.parseErrors = [] ∧
      result.report.errors = (compiled.graph.report settings.strictRedeclarations).errors) ∨
    result.compiled = none ∧ result.parseErrors ≠ [] := by
  obtain ⟨outcome, read, success⟩ := Attempt.bind_eq_ok_iff.mp success
  have explained := Loading.explained_of_ofText (Attempt.mapError_eq_ok_iff.mp read)
  unfold ofOutcome at success
  split at success
  · obtain ⟨inner, made, success⟩ := Attempt.bind_eq_ok_iff.mp success
    obtain ⟨compiled, rfl⟩ := compiled_of_ofDocument (Attempt.mapError_eq_ok_iff.mp made)
    cases success
    exact .inl ⟨compiled, rfl, rfl, rfl⟩
  · next other =>
    cases success
    refine .inr ⟨rfl, fun none => ?_⟩
    have good := explained.errors.mpr none
    obtain ⟨document, handed⟩ := Option.isSome_iff_exists.mp (explained.document.mp good)
    exact other document good handed

end Stages

end SchemaAtlas.Compilation
