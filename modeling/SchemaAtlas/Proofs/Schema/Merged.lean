import SchemaAtlas.Proofs.Loading.Merge
import SchemaAtlas.Proofs.Schema.Shown
import Mathlib.Data.List.Basic

/-! # Reading a merged document

A graph is read from five entries of a document. Merging hands on four of them: the three sections,
less what is not a list and is read as nothing anyway, and the project, unless it counts as absent
and gives neither a name nor owners. The owners that stand beside the project are left behind, so a
merged document has the owners of its project and no others. These were not looked at before if they
were not the owners of the document, so one of them may be too long to be written.
-/

namespace SchemaAtlas.Schema

open Document Loading

section Sections

variable {name : String}

/-- A section of a merged document declares what the sections of the documents declare. -/
theorem listedEntries_merge (known : name ∈ sections) (documents : List Entries) :
    listedEntries ((merge documents).get name) =
      documents.flatMap fun document => listedEntries (document.get name) := by
  rw [get_merge known, listedEntries, List.filterMap_flatMap]
  refine List.flatMap_congr fun document _ => ?_
  cases held : document.get name <;> simp [sectionItems, listedEntries, held]

/-- A section of a single document keeps its items when the document is merged. -/
theorem listedItems_merge (known : name ∈ sections) (document : Entries) :
    listedItems ((merge [document]).get name) = listedItems (document.get name) := by
  rw [get_merge known, List.flatMap_singleton]
  rfl

/-- The mappings of a single document keep their numbers when it is merged. -/
theorem declaredMappings_merge (document : Entries) :
    declaredMappings ((merge [document]).get "mappings") =
      declaredMappings (document.get "mappings") := by
  rw [declaredMappings_eq, listedItems_merge (by decide), declaredMappings_eq]

end Sections

section Project

variable {document : Entries} {project : Value}

/-- What is left of a document when only its project is kept. -/
def projectAlone (document : Entries) : Entries :=
  Entries.named [("project", document.get "project")]

/-- The owners that a document has when it has no entry for them but in its project. -/
def projectOwners (document : Entries) : List String := ownerLabels (projectAlone document)

/-- The project of a merged document is that of the document, or null if that counts as absent. -/
theorem get_project_merge :
    (merge [document]).get "project" =
      if (document.get "project").isTruthy then document.get "project" else .null := by
  rw [Entries.get, get_merge_project, firstProject?, List.map_singleton, List.find?_singleton]
  split <;> rfl

theorem eq_nil_of_absent {entries : Entries}
    (absent : (Value.dict entries).isTruthy = false) : entries = [] := by
  simpa [Value.isTruthy] using absent

theorem projectName_of_absent (fallback : String) (absent : project.isTruthy = false) :
    projectName fallback project = fallback := by
  cases project with
  | dict entries =>
    rw [eq_nil_of_absent absent]
    rfl
  | _ => simp [projectName, nameOfProject, absent]

theorem projectName_merge (fallback : String) :
    projectName fallback ((merge [document]).get "project") =
      projectName fallback (document.get "project") := by
  rw [get_project_merge]
  split
  case isTrue => rfl
  case isFalse absent =>
    rw [projectName_of_absent fallback (Bool.eq_false_iff.mpr absent)]
    rfl

/-- Without owners of its own, a document has the owners of its project. -/
theorem ownersOf_of_null (missing : document.get "owners" = .null) :
    ownersOf document = ownersOf (projectAlone document) := by
  simp only [projectAlone, ownersOf, missing, Entries.named_cons, Entries.named_nil,
    Entries.get_text_cons, Entries.get_nil]
  rfl

/-- A project that counts as absent has no owners. -/
theorem ownersOf_of_absent (absent : (document.get "project").isTruthy = false) :
    ownersOf (projectAlone document) = [] := by
  rw [projectAlone]
  generalize document.get "project" = project at absent
  cases project with
  | dict entries =>
    rw [eq_nil_of_absent absent]
    rfl
  | _ => rfl

theorem get_owners_merge (documents : List Entries) : (merge documents).get "owners" = .null := by
  cases held : firstProject? documents with
  | none => simp [merge, sections, held]
  | some project => simp [merge, sections, held]

/-- A merged document has the owners of its project. -/
theorem ownersOf_merge : ownersOf (merge [document]) = ownersOf (projectAlone document) := by
  rw [ownersOf_of_null (get_owners_merge _), projectAlone, get_project_merge]
  split
  case isTrue => rfl
  case isFalse absent =>
    rw [ownersOf_of_absent (Bool.eq_false_iff.mpr absent)]
    rfl

theorem ownerLabels_merge : ownerLabels (merge [document]) = projectOwners document := by
  rw [ownerLabels, ownersOf_merge, projectOwners, ownerLabels]

theorem ownersShown_merge : ownersShown (merge [document]) = ownersShown (projectAlone document) := by
  rw [ownersShown, ownersOf_merge, ownersShown]

/-- The name of a merged document's project can be written when that of the document can. -/
theorem isWritable_nameOfProject_merge
    (writable : (nameOfProject (document.get "project")).isWritable = true) :
    (nameOfProject ((merge [document]).get "project")).isWritable = true := by
  rw [get_project_merge]
  split
  · exact writable
  · rfl

end Project

section Graphs

variable {fallback : String} {document : Entries}

/-- Two documents whose sections and project are read alike fail alike, or have graphs that differ
in their owners only. -/
theorem ofDocument?_congr {other : Entries}
    (targets : listedEntries (other.get "targets") = listedEntries (document.get "targets"))
    (sources : listedEntries (other.get "sources") = listedEntries (document.get "sources"))
    (mappings :
      declaredMappings (other.get "mappings") = declaredMappings (document.get "mappings"))
    (project : projectName fallback (other.get "project") =
      projectName fallback (document.get "project")) :
    Graph.ofDocument? fallback (.dict other) =
      (Graph.ofDocument? fallback (.dict document)).map fun graph =>
        { graph with owners := ownerLabels other } := by
  simp only [Graph.ofDocument?, Value.entries, declaredTables, declaredSources, sourceEntries,
    targets, sources, mappings, project]
  cases (listedEntries (document.get "targets")).mapM groupTables with
  | error obstacle => rfl
  | ok tables =>
    cases declaredMappings (document.get "mappings") with
    | error obstacle => rfl
    | ok mappings => rfl

/-- The target groups, sources and mappings of a merged document are listed as those of the document
were. -/
theorem listedEntries_merge_self {name : String} (known : name ∈ sections) :
    listedEntries ((merge [document]).get name) = listedEntries (document.get name) := by
  rw [listedEntries_merge known, List.flatMap_singleton]

/-- Merging a single document changes nothing but the owners of its graph. -/
theorem ofDocument?_merge :
    Graph.ofDocument? fallback (.dict (merge [document])) =
      (Graph.ofDocument? fallback (.dict document)).map fun graph =>
        { graph with owners := projectOwners document } := by
  rw [← ownerLabels_merge]
  apply ofDocument?_congr
  · exact listedEntries_merge_self (by decide)
  · exact listedEntries_merge_self (by decide)
  · exact declaredMappings_merge document
  · exact projectName_merge fallback

/-- A graph has the owners of the document that it was read from. -/
theorem owners_of_read {graph : Graph}
    (read : Graph.ofDocument? fallback (.dict document) = .ok graph) :
    graph.owners = ownerLabels document := by
  obtain ⟨tables, -, rest⟩ := Attempt.bind_eq_ok_iff.mp read
  obtain ⟨mappings, -, made⟩ := Attempt.bind_eq_ok_iff.mp rest
  cases made
  rfl

/-- A merged document shows what the document shows, but for the owners: those of its project. -/
theorem allWritable_shown_merge {graph : Graph}
    (read : Graph.read? fallback (.dict document) = .ok graph) :
    AllWritable (shown (merge [document])) ↔ AllWritable (ownersShown (projectAlone document)) := by
  obtain ⟨sections, items, name, _⟩ := allWritable_of_read? read
  obtain ⟨tables, tablesRead, behind⟩ := Attempt.bind_eq_ok_iff.mp (read?_eq_ok_iff.mp read).2
  obtain ⟨mappings, mappingsRead, _⟩ := Attempt.bind_eq_ok_iff.mp behind
  have tablesMerged : declaredTables ((merge [document]).get "targets") = .ok tables := by
    rw [declaredTables, listedEntries_merge_self (by decide)]
    exact tablesRead
  have mappingsMerged : declaredMappings ((merge [document]).get "mappings") = .ok mappings :=
    (declaredMappings_merge document).trans mappingsRead
  have same : shown (merge [document]) =
      (sourceEntries (document.get "sources")).flatMap sourceShown ++
      (listedEntries (document.get "targets")).flatMap groupShown ++
      ((listedItems (document.get "mappings")).flatMap mappingShown ++
        nameOfProject ((merge [document]).get "project") ::
          ownersShown (projectAlone document)) := by
    rw [shown_of_ok tablesMerged mappingsMerged, sourceEntries, listedEntries_merge_self (by decide),
      listedEntries_merge_self (by decide), listedItems_merge (by decide), ownersShown_merge,
      sourceEntries]
  rw [same]
  constructor
  · intro all
    exact (allWritable_cons.mp (allWritable_append.mp (allWritable_append.mp all).2).2).2
  · intro owners
    exact sections.append (items.append
      (allWritable_cons.mpr ⟨isWritable_nameOfProject_merge name, owners⟩))

/-- A merged document is read as the graph of the document with the owners of its project, unless
one of these is too long to be written. Where the document has no owners that stand beside its
project, these are the owners it had. -/
theorem merged_but_for_owners {graph : Graph}
    (read : Graph.read? fallback (.dict document) = .ok graph) :
    (AllWritable (ownersShown (projectAlone document)) →
      Graph.read? fallback (.dict (merge [document])) =
        .ok { graph with owners := projectOwners document }) ∧
    (¬ AllWritable (ownersShown (projectAlone document)) →
      Graph.read? fallback (.dict (merge [document])) = .error .tooLong) ∧
    (document.get "owners" = .null →
      Graph.read? fallback (.dict (merge [document])) = .ok graph) := by
  have alone := (read?_eq_ok_iff.mp read).2
  have merged : Graph.ofDocument? fallback (.dict (merge [document])) =
      .ok { graph with owners := projectOwners document } := by
    rw [ofDocument?_merge, alone]
    rfl
  have short (owners : AllWritable (ownersShown (projectAlone document))) :
      Graph.read? fallback (.dict (merge [document])) =
        .ok { graph with owners := projectOwners document } :=
    read?_eq_ok_iff.mpr ⟨(allWritable_shown_merge read).mpr owners, merged⟩
  refine ⟨short, fun long => ?_, fun missing => ?_⟩
  · exact read?_eq_tooLong_iff.mpr fun all => long ((allWritable_shown_merge read).mp all)
  · have same : projectOwners document = graph.owners := by
      rw [owners_of_read alone, projectOwners, ownerLabels, ← ownersOf_of_null missing, ownerLabels]
    have owners : AllWritable (ownersShown (projectAlone document)) := by
      rw [ownersShown, ← ownersOf_of_null missing]
      exact (allWritable_of_read? read).2.2.2
    rw [short owners, same]

/-- A document whose project has an owner. -/
def ownedProject : Entries :=
  Entries.named [("project", .dict (Entries.named [("name", .text "shop"),
      ("owners", .list [.text "data team"])])),
    ("targets", .list [.dict (Entries.named [("db", .text "shop"),
      ("tables", .list [.dict (Entries.named [("name", .text "orders")])])])])]

theorem ownedProject_merged :
    ∃ graph, Graph.read? "database" (.dict ownedProject) = .ok graph ∧
      Graph.read? "database" (.dict (merge [ownedProject])) = .ok graph ∧
      graph.owners = ["data team"] :=
  ⟨_, rfl, (merged_but_for_owners rfl).2.2 rfl, rfl⟩

/-- A document with an owner beside its sections. -/
def ownedDocument : Entries :=
  Entries.named [("owners", .list [.text "data team"]), ("targets", .list [])]

theorem ownedDocument_changed :
    ∃ graph, Graph.read? "database" (.dict ownedDocument) = .ok graph ∧
      Graph.read? "database" (.dict (merge [ownedDocument])) ≠ .ok graph := by
  refine ⟨_, rfl, ?_⟩
  intro same
  -- The two graphs differ in their owners: none after merging, one before.
  have owners := congrArg (Except.map Graph.owners) same
  exact absurd (Except.ok.inj owners) (by decide)

end Graphs

end SchemaAtlas.Schema
