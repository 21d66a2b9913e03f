import SchemaAtlas.Proofs.Loading.Merge
import SchemaAtlas.Proofs.Structure.Examination

/-! # The structure of merged documents

Several documents are examined once, after they are merged. Whatever is wrong with an item of one of
their sections is found then, whichever document it stands in and whatever the others look like. But
merging keeps items only: what stands in place of a list has none, so that it stood there is never
found.
-/

namespace SchemaAtlas.Structure

open Document Loading

section Sections

variable {documents : List Entries} {name : String}

/-- The items of a document's sections keep the rules for target groups, sources and mappings. -/
structure ItemsAdmitted (document : Entries) : Prop where
  targets : ∀ group ∈ sectionItems document "targets", targetRule.Admits group
  sources : ∀ source ∈ sectionItems document "sources", sourceRule.Admits source
  mappings : ∀ mapping ∈ sectionItems document "mappings", mappingRule.Admits mapping

/-- Nothing is wrong with the items of a document's sections. -/
structure SoundItems (document : Entries) : Prop extends ItemsAdmitted document where
  columns : ∀ group ∈ sectionItems document "targets", DistinguishedTables group

/-- A section of a merged document keeps its rule when the items of all documents do. -/
theorem keepsField_section_iff {rule : Rule} {required : Bool} (known : name ∈ sections) :
    KeepsField (merge documents) name required (.listOf rule) ↔
      ∀ document ∈ documents, ∀ item ∈ sectionItems document name, rule.Admits item := by
  have kept : KeepsField (merge documents) name required (.listOf rule) ↔
      (Rule.listOf rule).Admits (.list (documents.flatMap (sectionItems · name))) := by
    simp [KeepsField, get?_merge known]
  rw [kept, admits_list_iff]
  exact List.forall_mem_flatMap

theorem keepsField_project_iff {rule : Rule} :
    KeepsField (merge documents) "project" false rule ↔
      ∀ project, firstProject? documents = some project → rule.Admits project := by
  rw [KeepsField, get_merge_project]
  cases firstProject? documents <;> simp

/-- A merged document keeps the rules when the items of all documents and the project do. -/
theorem admits_merge_iff : documentRule.Admits (.dict (merge documents)) ↔
    (∀ document ∈ documents, ItemsAdmitted document) ∧
      ∀ project, firstProject? documents = some project →
        (Rule.nullable [.string, .dict]).Admits project := by
  rw [documentRule, admits_record_iff]
  constructor
  · intro kept
    have targets := (keepsField_section_iff (by simp [sections])).mp
      (kept "targets" true (.listOf targetRule) (by simp))
    have sources := (keepsField_section_iff (by simp [sections])).mp
      (kept "sources" false (.listOf sourceRule) (by simp))
    have mappings := (keepsField_section_iff (by simp [sections])).mp
      (kept "mappings" false (.listOf mappingRule) (by simp))
    refine ⟨fun document here => ?_, keepsField_project_iff.mp (kept "project" false _ (by simp))⟩
    exact ⟨targets document here, sources document here, mappings document here⟩
  · rintro ⟨items, project⟩ name required rule member
    have absent (unknown : name ∉ sections) (other : name ≠ "project") :
        KeepsField (merge documents) name false rule :=
      .inr ⟨get?_merge_of_unknown unknown other, rfl⟩
    simp only [List.mem_cons, Prod.mk.injEq, List.not_mem_nil, or_false] at member
    -- description, mappings, owners, project, sources, targets and version
    rcases member with ⟨rfl, rfl, rfl⟩ | ⟨rfl, rfl, rfl⟩ | ⟨rfl, rfl, rfl⟩ | ⟨rfl, rfl, rfl⟩ |
      ⟨rfl, rfl, rfl⟩ | ⟨rfl, rfl, rfl⟩ | ⟨rfl, rfl, rfl⟩
    · exact absent (by simp [sections]) (by simp)
    · apply (keepsField_section_iff (by simp [sections])).mpr
      exact fun document here => (items document here).mappings
    · exact absent (by simp [sections]) (by simp)
    · exact keepsField_project_iff.mpr project
    · apply (keepsField_section_iff (by simp [sections])).mpr
      exact fun document here => (items document here).sources
    · apply (keepsField_section_iff (by simp [sections])).mpr
      exact fun document here => (items document here).targets
    · exact absent (by simp [sections]) (by simp)

end Sections

/-- A merged document is valid exactly when there is nothing wrong with any item of any document, nor
with the first project. So no item hides another, but whatever a document has in place of a list is
lost with all that is wrong with it. -/
theorem valid_merge_iff (documents : List Entries) :
    Valid (.dict (merge documents)) ↔
      (∀ document ∈ documents, SoundItems document) ∧
        ∀ project, firstProject? documents = some project →
          (Rule.nullable [.string, .dict]).Admits project := by
  have targets : plainItems ((merge documents).get "targets") =
      documents.flatMap (sectionItems · "targets") := by
    rw [get_merge (by simp [sections]), plainItems]
  rw [valid_iff, admits_merge_iff, targets, List.forall_mem_flatMap]
  constructor
  · rintro ⟨⟨items, project⟩, columns⟩
    exact ⟨fun document here => ⟨items document here, columns document here⟩, project⟩
  · rintro ⟨sound, project⟩
    refine ⟨⟨fun document here => ?_, project⟩, fun document here => ?_⟩
    · exact (sound document here).toItemsAdmitted
    · exact (sound document here).columns

/-- A document with one source in place of a list of sources. -/
def unlistedDocument : Entries :=
  Entries.named [("targets", .list []),
    ("sources", .dict (Entries.named [("id", .text "crm"), ("kind", .text "file")]))]

/-- A document with a source that lacks its kind. -/
def kindlessDocument : Entries :=
  Entries.named [("sources", .list [.dict (Entries.named [("id", .text "erp")])])]

theorem kindless_found_beside_unlisted :
    Valid (.dict (merge [unlistedDocument])) ∧ SoundItems unlistedDocument ∧
      ¬ Valid (.dict (merge [unlistedDocument, kindlessDocument])) ∧
      ¬ SoundItems kindlessDocument := by
  have alone : Valid (.dict (merge [unlistedDocument])) := ⟨_, rfl, rfl⟩
  have together : ¬ Valid (.dict (merge [unlistedDocument, kindlessDocument])) := by
    rintro ⟨verdict, examined, good⟩
    cases examined
    cases good
  have sound : SoundItems unlistedDocument :=
    ((valid_merge_iff [unlistedDocument]).mp alone).1 unlistedDocument (by simp)
  refine ⟨alone, sound, together, fun kindless => together ?_⟩
  apply (valid_merge_iff [unlistedDocument, kindlessDocument]).mpr
  refine ⟨by simp [sound, kindless], fun project held => ?_⟩
  cases held

/-- What stands in place of a list is an error of its document, and no error once that is merged. -/
theorem unlisted_lost_by_merge :
    (unlistedDocument.get "sources" ≠ .null ∧
        ∀ items, unlistedDocument.get "sources" ≠ .list items) ∧
      examine (.dict unlistedDocument) = .ok ⟨false, ["sources: must be of list type"],
        ["targets: document declares no target groups"]⟩ ∧
      ∃ verdict, examine (.dict (merge [unlistedDocument])) = .ok verdict ∧
        verdict.valid = true ∧ verdict.errors = [] := by
  refine ⟨⟨?_, ?_⟩, rfl, _, rfl, rfl, rfl⟩
  · simp [unlistedDocument, Entries.named]
  · simp [unlistedDocument, Entries.named]

end SchemaAtlas.Structure
