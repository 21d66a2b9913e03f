import SchemaAtlas.Proofs.Schema.Writable
import SchemaAtlas.Site.Page

/-! # What the summary and the pages show

The summary shows where the sources are. The pages show that as well, what is said about the sources,
the targets that are no paths, and the columns that foreign keys name. All of this can be written
when the document can that the graph was read from. A document that can be read need not be one that
can be written, though: nobody has to look at where a source is before the summary does.
-/

namespace SchemaAtlas.Site

open Schema Document

section Writable

variable {graph : Graph} (writable : WritableGraph graph)

include writable

theorem allWritable_rowShown {mapping : Mapping} (member : mapping ∈ graph.mappings) :
    AllWritable (Matrix.rowShown mapping) := by
  unfold Matrix.rowShown
  split
  · exact allWritable_nil
  · next raw unresolved =>
    exact allWritable_cons.mpr ⟨writable.unresolved mapping member raw unresolved, allWritable_nil⟩

theorem allWritable_locations : AllWritable (locations graph) := by
  intro value member
  obtain ⟨source, inside, located⟩ := List.mem_filterMap.mp member
  obtain ⟨key, _, rfl⟩ := List.mem_map.mp (List.mem_of_find?_eq_some located)
  exact isWritable_get (writable.metadata source inside) key

theorem allWritable_siteShown : AllWritable (shown graph) := by
  refine AllWritable.append (AllWritable.append (AllWritable.append ?_ ?_) ?_) writable.referred
  · exact allWritable_locations writable
  · exact List.forall_mem_map.mpr fun source member =>
      isWritable_get (writable.metadata source member) _
  · exact allWritable_flatMap.mpr fun mapping member => allWritable_rowShown writable member

end Writable

/-- What is said about a source whose place is a number of too many digits. -/
def overlongPlace : Entries := [(.text "path", .int overlong)]

/-- A graph with one source, and its place cannot be written. -/
def overlongGraph : Graph where
  project := ""
  owners := []
  sources := [⟨"archive", .file, none, overlongPlace⟩]
  tables := []
  mappings := []
  redeclared := []
  keys_nodup := List.nodup_nil

theorem locationValue?_overlongPlace : locationValue? overlongPlace = some (.int overlong) := by
  have said : locationKeys.map overlongPlace.get =
      [.null, .null, .null, .int overlong, .null] := rfl
  have absent : ¬ Value.null.isTruthy = true := Bool.false_ne_true
  rw [locationValue?, said, List.find?_cons_of_neg absent, List.find?_cons_of_neg absent,
    List.find?_cons_of_neg absent, List.find?_cons_of_pos isTruthy_overlong]

theorem locations_overlongGraph : locations overlongGraph = [.int overlong] :=
  List.filterMap_cons_some locationValue?_overlongPlace

/-- Where the source is cannot be told. -/
theorem not_allWritable_locations : ¬ AllWritable (locations overlongGraph) := by
  rw [locations_overlongGraph, allWritable_cons, not_isWritable_overlong]
  exact fun short => Bool.false_ne_true short.1

theorem not_allWritable_shown : ¬ AllWritable (shown overlongGraph) := by
  intro writable
  have sources := (allWritable_append.mp (allWritable_append.mp (allWritable_append.mp writable).1).1).1
  exact not_allWritable_locations sources

end SchemaAtlas.Site
