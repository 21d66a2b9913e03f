import SchemaAtlas.Proofs.Structure.Rule
import SchemaAtlas.Structure.Examination

/-! # Admitted values do not defeat the examination

The examination is defeated only by dictionaries that stand where they must not: in place of a list,
or inside a list that stands in place of a record. A rule that speaks of items or of fields admits
neither, as long as it admits nothing but lists in the first case and nothing but dictionaries in
the second. The rules for documents are of this kind.
-/

namespace SchemaAtlas.Structure

open Document

/-- A rule speaks of items only where lists stand, and of fields only where dictionaries stand. -/
inductive Rule.Regular : Rule → Prop where
  | plain {kinds : List Kind} {nullable nonempty : Bool} :
      Regular (.mk kinds nullable nonempty none [])
  | listOf {items : Rule} : Regular items → Regular (.listOf items)
  | record {fields : List (String × Bool × Rule)} :
      (∀ field ∈ fields, Regular field.2.2) → Regular (.record fields)

section Regular

variable {rule : Rule} {value : Value}

theorem fieldsDefeat_eq_false_iff {fields : List (String × Bool × Rule)} {entries : Entries} :
    fieldsDefeat fields entries = false ↔ ∀ field ∈ fields,
      ∀ value, entries.get? field.1 = some value → field.2.2.defeatedBy value = false := by
  induction fields with
  | nil => simp [fieldsDefeat]
  | cons field fields ih =>
    obtain ⟨name, required, rule⟩ := field
    rw [List.forall_mem_cons, ← ih, fieldsDefeat, Bool.or_eq_false_iff]
    cases entries.get? name <;> simp

/-- A list in place of a record is not admitted, so nothing in it defeats the examination. -/
theorem Rule.Regular.nestedDefeat_eq_false (regular : rule.Regular) (admitted : rule.Admits value) :
    nestedDefeat rule (listItems value) = false := by
  cases regular with
  | plain => rfl
  | listOf => rfl
  | record =>
    obtain ⟨entries, rfl⟩ := entries_of_record admitted
    unfold nestedDefeat
    split <;> rfl

/-- What a regular rule admits can be examined by it. -/
theorem Rule.Regular.defeatedBy_eq_false (regular : rule.Regular) (admitted : rule.Admits value) :
    rule.defeatedBy value = false := by
  induction regular generalizing value with
  | plain =>
    unfold Rule.defeatedBy
    split <;> rfl
  | @listOf items inner ih =>
    obtain ⟨kind, each⟩ := items_of_listOf admitted
    rw [Rule.listOf, Rule.defeatedBy, itemsDefeat, List.any_eq_false]
    · intro item inside
      rw [ih (each item inside), inner.nestedDefeat_eq_false (each item inside)]
      simp
    · rintro entries rfl
      cases kind
  | @record fields _ ih =>
    obtain ⟨entries, rfl⟩ := entries_of_record admitted
    rw [Rule.record, Rule.defeatedBy, keysDefeat, Bool.false_or, fieldsDefeat_eq_false_iff]
    intro field member found there
    have kept := admits_record_iff.mp admitted field.1 field.2.1 field.2.2 member
    rcases kept with ⟨other, same, good⟩ | ⟨missing, _⟩
    · cases same.symm.trans there
      exact ih field member good
    · cases missing.symm.trans there

end Regular

section Rules

theorem regular_columnRule : columnRule.Regular := by
  apply Rule.Regular.record
  simp only [List.forall_mem_cons]
  exact ⟨.plain, .plain, .plain, .plain, .plain, .plain, .plain, .plain, .plain, by simp⟩

theorem regular_tableRule : tableRule.Regular := by
  apply Rule.Regular.record
  simp only [List.forall_mem_cons]
  exact ⟨.listOf regular_columnRule, .plain, .listOf .plain, .plain, .plain, .listOf .plain,
    by simp⟩

theorem regular_targetRule : targetRule.Regular := by
  apply Rule.Regular.record
  simp only [List.forall_mem_cons]
  exact ⟨.plain, .plain, .plain, .listOf regular_tableRule, by simp⟩

theorem regular_sourceRule : sourceRule.Regular := by
  apply Rule.Regular.record
  simp only [List.forall_mem_cons]
  exact ⟨.plain, .plain, .plain, by simp⟩

theorem regular_mappingRule : mappingRule.Regular := by
  apply Rule.Regular.record
  simp only [List.forall_mem_cons]
  exact ⟨.plain, .plain, .listOf .plain, .plain, by simp⟩

theorem regular_documentRule : documentRule.Regular := by
  apply Rule.Regular.record
  simp only [List.forall_mem_cons]
  exact ⟨.plain, .listOf regular_mappingRule, .plain, .plain, .listOf regular_sourceRule,
    .listOf regular_targetRule, .plain, by simp⟩

end Rules

end SchemaAtlas.Structure
