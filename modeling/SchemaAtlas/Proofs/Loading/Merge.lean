import SchemaAtlas.Loading.Merge
import Mathlib.Data.List.Induction

/-! # Merging in batches

A merged document is told by the items of its sections and by its project. Both carry over from a
list of documents to a list of batches, each merged before: the items are joined in the same order,
and the first project of the first batch that has one is the first project of all. So documents may
be merged in any grouping.
-/

namespace SchemaAtlas.Loading

open Document

section Parts

variable {documents : List Entries} {name : String}

/-- A section of a merged document is a list of the items of that section. -/
theorem get?_merge (known : name ∈ sections) : (merge documents).get? name =
    some (.list (documents.flatMap (sectionItems · name))) := by
  simp only [sections, List.mem_cons, List.not_mem_nil, or_false] at known
  rcases known with rfl | rfl | rfl <;>
    simp [merge, sections, Entries.get?, Entries.find?, Scalar.key]

theorem get_merge (known : name ∈ sections) :
    (merge documents).get name = .list (documents.flatMap (sectionItems · name)) := by
  rw [Entries.get, get?_merge known]
  rfl

theorem sectionItems_merge (known : name ∈ sections) :
    sectionItems (merge documents) name = documents.flatMap (sectionItems · name) := by
  rw [sectionItems, get_merge known]

theorem get_merge_project :
    (merge documents).get? "project" = firstProject? documents := by
  cases held : firstProject? documents with
  | none => simp [merge, sections, held, Entries.get?, Entries.find?, Scalar.key]
  | some project => simp [merge, sections, held, Entries.get?, Entries.find?, Scalar.key]

/-- What is not merged is not there. -/
theorem get?_merge_of_unknown (unknown : name ∉ sections) (other : name ≠ "project") :
    (merge documents).get? name = none := by
  have named : ∀ entry ∈ merge documents, ∃ given ∈ "project" :: sections,
      entry.1 = .text given := by
    intro entry member
    obtain ⟨pair, inside, rfl⟩ := List.mem_map.mp member
    refine ⟨pair.1, ?_, rfl⟩
    rcases List.mem_append.mp inside with joined | headed
    · obtain ⟨given, known, rfl⟩ := List.mem_map.mp joined
      exact List.mem_cons_of_mem _ known
    · cases held : firstProject? documents with
      | none => simp [held] at headed
      | some project =>
        obtain rfl : pair = ("project", project) := by simpa [held] using headed
        exact List.mem_cons_self
  rw [Entries.get?, Entries.find?, Option.map_eq_none_iff, List.find?_eq_none]
  intro entry member same
  obtain ⟨given, known, key⟩ := named entry member
  obtain rfl : given = name := by simpa [key, Scalar.key] using same
  rcases List.mem_cons.mp known with rfl | known
  · exact other rfl
  · exact unknown known

theorem firstProject?_append (first second : List Entries) :
    firstProject? (first ++ second) = (firstProject? first).or (firstProject? second) := by
  rw [firstProject?, List.map_append, List.find?_append]
  rfl

/-- A merged document has the project that it was given, as that one does not count as absent. -/
theorem firstProject?_merge : firstProject? [merge documents] = firstProject? documents := by
  rw [firstProject?, List.map_singleton, Entries.get, get_merge_project]
  cases held : firstProject? documents with
  | none => rfl
  | some project =>
    have present : project.isTruthy = true := List.find?_some held
    simp [present]

/-- Documents with the same items and the same project are merged into the same document. -/
theorem merge_congr {others : List Entries}
    (items : ∀ name ∈ sections,
      documents.flatMap (sectionItems · name) = others.flatMap (sectionItems · name))
    (project : firstProject? documents = firstProject? others) :
    merge documents = merge others := by
  have pairs : (sections.map fun name =>
        (name, Value.list (documents.flatMap fun document => sectionItems document name))) =
      sections.map fun name =>
        (name, Value.list (others.flatMap fun document => sectionItems document name)) :=
    List.map_congr_left fun name known => by rw [items name known]
  rw [merge, merge, pairs, project]

end Parts

section Batches

theorem flatMap_batches {name : String} (known : name ∈ sections) (batches : List (List Entries)) :
    (batches.map merge).flatMap (sectionItems · name) =
      batches.flatten.flatMap (sectionItems · name) := by
  induction batches with
  | nil => rfl
  | cons batch batches ih =>
    rw [List.map_cons, List.flatMap_cons, sectionItems_merge known, ih, List.flatten_cons,
      List.flatMap_append]

theorem firstProject?_batches (batches : List (List Entries)) :
    firstProject? (batches.map merge) = firstProject? batches.flatten := by
  induction batches with
  | nil => rfl
  | cons batch batches ih =>
    rw [List.map_cons, ← List.singleton_append, firstProject?_append, firstProject?_merge, ih,
      List.flatten_cons, firstProject?_append]

/-- Merging what was merged in batches comes to merging all at once. -/
theorem merge_batches (batches : List (List Entries)) :
    merge (batches.map merge) = merge batches.flatten :=
  merge_congr (fun _ known => flatMap_batches known batches) (firstProject?_batches batches)

end Batches

/-- Documents may be merged in any grouping: two parts of a list, a list that was merged already, or
any number of batches. The first project that does not count as absent is kept in each case. -/
theorem merge_of_batches :
    (∀ first second : List Entries, merge (first ++ second) = merge [merge first, merge second]) ∧
    (∀ documents : List Entries, merge [merge documents] = merge documents) ∧
    ∀ batches : List (List Entries),
      merge (batches.map merge) = merge batches.flatten ∧
      (merge (batches.map merge)).get? "project" =
        (batches.flatten.map fun document => document.get "project").find? Value.isTruthy := by
  refine ⟨?_, ?_, ?_⟩
  · intro first second
    simpa using (merge_batches [first, second]).symm
  · intro documents
    simpa using merge_batches [documents]
  · intro batches
    refine ⟨merge_batches batches, ?_⟩
    rw [get_merge_project, firstProject?_batches]
    rfl

end SchemaAtlas.Loading
