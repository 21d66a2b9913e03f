import SchemaAtlas.Proofs.Schema.Linkable
import SchemaAtlas.Proofs.Schema.Shown

/-! # Reading a document that can be written

A document that can be written shows nothing that cannot when it is read, and so does the graph that
is read from it: the targets as they stand in the document, what the sources say about themselves,
and the columns that foreign keys refer to are parts of the document, or characters and octets of
such parts.
-/

namespace SchemaAtlas.Schema

open Document

section Values

variable {value first second : Value} {items : List Value}

/-- The items of a value that can be written can be written: characters and octets always can. -/
theorem isWritable_of_walk (writable : value.isWritable = true) (walked : walk value = .ok items) :
    AllWritable items := by
  unfold walk at walked
  split at walked
  · cases walked
    exact allWritable_nil
  · split at walked
    · cases walked
      exact Value.allWritable_iff.mp writable
    · cases walked
      exact Value.allWritable_iff.mp writable
    · next members =>
      cases walked
      refine List.forall_mem_map.mpr fun member inside => ?_
      exact List.all_eq_true.mp writable member inside
    · next entries =>
      cases walked
      refine List.forall_mem_map.mpr fun entry inside => ?_
      exact (Value.entriesWritable_iff.mp writable entry inside).1
    · cases walked
      exact List.forall_mem_map.mpr fun _ _ => rfl
    · cases walked
      exact List.forall_mem_map.mpr fun octet _ => isWritable_octet octet
    · cases walked

theorem isWritable_of_mem_itemsOf (writable : value.isWritable = true) {item : Value}
    (member : item ∈ itemsOf value) : item.isWritable = true := by
  cases walked : walk value with
  | ok items => exact isWritable_of_walk writable walked item (itemsOf_of_walk walked ▸ member)
  | error obstacle =>
    rw [itemsOf, walked] at member
    cases member

theorem isWritable_getD {position : Nat} (each : AllWritable items) :
    (items[position]?.getD .null).isWritable = true := by
  cases held : items[position]? with
  | none => rfl
  | some item => exact each item (List.mem_of_getElem? held)

/-- What stands at a position of a value that can be written can be written. -/
theorem isWritable_itemAt {position : Nat} {item : Value} (writable : value.isWritable = true)
    (found : itemAt value position = .ok item) : item.isWritable = true := by
  unfold itemAt at found
  split at found
  · cases found
    exact isWritable_getD (Value.allWritable_iff.mp writable)
  · cases found
    exact isWritable_getD (Value.allWritable_iff.mp writable)
  · cases found
    cases (‹String›).toList[position]? <;> rfl
  · next octets =>
    cases found
    cases octets[position]? with
    | none => rfl
    | some octet => exact isWritable_octet octet
  · split at found
    · cases found
    · cases found
      rfl
  · split at found
    · split at found
      · next there =>
        cases found
        exact isWritable_find? writable there
      · cases found
    · cases found
      rfl
  · cases found

theorem isWritable_firstTruthy (here : first.isWritable = true) (there : second.isWritable = true) :
    (firstTruthy first second).isWritable = true := by
  unfold firstTruthy
  split
  · exact here
  · exact there

theorem isWritable_orEmpty (writable : value.isWritable = true) :
    (orEmpty value).isWritable = true := by
  unfold orEmpty
  split
  · exact writable
  · rfl

theorem isWritable_of_mem_listedEntries {entries : Entries} (writable : value.isWritable = true)
    (member : entries ∈ listedEntries value) : (Value.dict entries).isWritable = true := by
  unfold listedEntries at member
  split at member
  · obtain ⟨item, inside, same⟩ := List.mem_filterMap.mp member
    split at same
    · cases same
      exact isWritable_of_mem_list writable inside
    · cases same
  · cases member

theorem isWritable_of_mem_listedItems {item : Value} (writable : value.isWritable = true)
    (member : item ∈ listedItems value) : item.isWritable = true := by
  unfold listedItems at member
  split at member
  · exact isWritable_of_mem_list writable member
  · cases member

theorem isWritable_of_mem_namedEntries {key : String} {entries : Entries} (each : AllWritable items)
    (member : entries ∈ namedEntries key items) : (Value.dict entries).isWritable = true :=
  each _ (mem_namedEntries_iff.mp member).1

end Values

section After

variable {ε α β : Type} {attempt : Except ε α} {shown : α → List Value} {read : α → Except ε β}
  {items : List α}

/-- What is shown after an attempt can be written when it can after a success. -/
theorem allWritable_after (each : ∀ value, attempt = .ok value → AllWritable (shown value)) :
    AllWritable (after attempt shown) := by
  cases attempt with
  | ok value => exact each value rfl
  | error _ => exact allWritable_nil

theorem allWritable_shownUntil (each : ∀ item ∈ items, AllWritable (shown item)) :
    AllWritable (shownUntil shown read items) := by
  induction items with
  | nil => exact allWritable_nil
  | cons item items ih =>
    obtain ⟨here, behind⟩ := List.forall_mem_cons.mp each
    exact here.append (allWritable_after fun _ _ => ih behind)

end After

section Parts

variable {value : Value}

theorem allWritable_foreignKeyShown (writable : value.isWritable = true) :
    AllWritable (foreignKeyShown value) := by
  cases value with
  | dict entries =>
    have table := isWritable_firstTruthy (isWritable_get writable "table")
      (isWritable_firstTruthy (isWritable_get writable "table_name") (isWritable_get writable "ref"))
    have column := isWritable_firstTruthy (isWritable_get writable "column")
      (isWritable_get writable "col")
    unfold foreignKeyShown
    dsimp only
    split
    · exact allWritable_cons.mpr ⟨table, allWritable_cons.mpr ⟨column, allWritable_nil⟩⟩
    · exact allWritable_nil
  | _ => exact allWritable_cons.mpr ⟨writable, allWritable_nil⟩

theorem allWritable_declarationShown {columns : List Column} {declaration : Value}
    (writable : declaration.isWritable = true) :
    AllWritable (declarationShown columns declaration) := by
  unfold declarationShown
  split
  · next entries =>
    dsimp only
    split
    · next references held =>
      have inside : (Value.dict references).isWritable = true := held ▸ isWritable_get writable _
      refine allWritable_after fun names _ => ?_
      split
      · exact allWritable_cons.mpr ⟨isWritable_get inside _, allWritable_nil⟩
      · exact allWritable_nil
    · exact allWritable_nil
  · exact allWritable_nil

theorem allWritable_declarationsShown {columns : List Column} {declarations : List Value}
    (each : AllWritable declarations) : AllWritable (declarationsShown columns declarations) := by
  induction declarations generalizing columns with
  | nil => exact allWritable_nil
  | cons declaration rest ih =>
    obtain ⟨here, behind⟩ := allWritable_cons.mp each
    exact (allWritable_declarationShown here).append (allWritable_after fun _ _ => ih behind)

theorem isWritable_mappingEntries (writable : value.isWritable = true) :
    (Value.dict (mappingEntries value)).isWritable = true := by
  have target (other : Value) (writable : other.isWritable = true) :
      (Value.dict (Entries.named [("target", other)])).isWritable = true :=
    Value.entriesWritable_iff.mpr fun entry member => by
      obtain rfl := List.mem_singleton.mp member
      exact ⟨rfl, writable⟩
  cases value with
  | dict entries => exact writable
  | _ => exact target _ writable

theorem allWritable_originShown (writable : value.isWritable = true) :
    AllWritable (originShown value) := by
  cases value with
  | dict entries =>
    have fields := isWritable_entries (isWritable_get writable "fields")
    refine AllWritable.append ?_ ?_
    · refine allWritable_flatMap.mpr fun entry member => ?_
      obtain ⟨key, path⟩ := Value.entriesWritable_iff.mp fields entry member
      exact allWritable_cons.mpr ⟨key, allWritable_cons.mpr ⟨path, allWritable_nil⟩⟩
    · exact List.forall_mem_map.mpr fun name _ => isWritable_get writable name
  | _ => exact allWritable_nil

theorem allWritable_mappingShown (writable : value.isWritable = true) :
    AllWritable (mappingShown value) := by
  have field (name : String) := isWritable_get (isWritable_mappingEntries writable) name
  refine (allWritable_originShown (field "from")).append ?_
  exact allWritable_cons.mpr ⟨field "notes", allWritable_after fun _ walked =>
    isWritable_of_walk (field "tags") walked⟩

theorem allWritable_ownerShown (writable : value.isWritable = true) :
    AllWritable (ownerShown value) := by
  cases value with
  | dict entries => exact allWritable_cons.mpr ⟨isWritable_get writable _,
      allWritable_cons.mpr ⟨isWritable_get writable _, allWritable_nil⟩⟩
  | _ => exact allWritable_cons.mpr ⟨writable, allWritable_nil⟩

end Parts

section Documents

variable {raw : Entries} (writable : (Value.dict raw).isWritable = true)

include writable

theorem allWritable_sourceShown : AllWritable (sourceShown raw) := by
  have metadata := isWritable_filter writable fun entry =>
    entry.1.key != .text "id" && entry.1.key != .text "kind"
  refine AllWritable.append ?_ ?_
  · exact allWritable_cons.mpr ⟨isWritable_get writable _,
      allWritable_cons.mpr ⟨isWritable_get writable _, allWritable_nil⟩⟩
  · split
    · exact allWritable_nil
    · exact allWritable_cons.mpr ⟨isWritable_firstTruthy (isWritable_get metadata _)
        (isWritable_get metadata _), allWritable_nil⟩

theorem allWritable_columnShown : AllWritable (columnShown raw) := by
  have field (name : String) := isWritable_get writable name
  refine AllWritable.append (AllWritable.append ?_ (allWritable_foreignKeyShown (field "fk"))) ?_
  · exact allWritable_cons.mpr ⟨field _, allWritable_cons.mpr ⟨field _, allWritable_nil⟩⟩
  · exact allWritable_cons.mpr ⟨field _, allWritable_cons.mpr ⟨field _, allWritable_nil⟩⟩

theorem allWritable_tableShown : AllWritable (tableShown raw) := by
  have field (name : String) := isWritable_get writable name
  refine allWritable_after fun declared walked => ?_
  refine AllWritable.append (AllWritable.append ?_ ?_) ?_
  · refine allWritable_flatMap.mpr fun own member => allWritable_columnShown ?_
    exact isWritable_of_mem_namedEntries (isWritable_of_walk (field "columns") walked) member
  · refine allWritable_after fun _ _ => allWritable_after fun _ _ => ?_
    exact allWritable_after fun declarations walked =>
      allWritable_declarationsShown (isWritable_of_walk (field "foreign_keys") walked)
  · exact allWritable_after fun _ _ =>
      allWritable_cons.mpr ⟨field _, allWritable_cons.mpr ⟨field _, allWritable_nil⟩⟩

theorem allWritable_groupShown : AllWritable (groupShown raw) := by
  have field (name : String) := isWritable_get writable name
  refine AllWritable.append ?_ ?_
  · exact allWritable_cons.mpr ⟨field _, allWritable_cons.mpr ⟨field _, allWritable_nil⟩⟩
  · refine allWritable_after fun declared walked => allWritable_shownUntil fun own member => ?_
    have inside := isWritable_of_mem_namedEntries (isWritable_of_walk (field "tables") walked) member
    exact allWritable_cons.mpr ⟨isWritable_get inside _, allWritable_tableShown inside⟩

theorem allWritable_ownersShown : AllWritable (ownersShown raw) := by
  refine allWritable_flatMap.mpr fun owner member => allWritable_ownerShown ?_
  refine isWritable_of_mem_listedItems ?_ member
  have project := isWritable_get writable "project"
  split
  · next held => exact isWritable_get (held ▸ project) _
  · exact isWritable_get writable _

theorem isWritable_nameOfProject : (nameOfProject (raw.get "project")).isWritable = true := by
  have project := isWritable_get writable "project"
  unfold nameOfProject
  split
  · next held => exact isWritable_get (held ▸ project) _
  · exact project

/-- A document that can be written shows nothing that cannot. -/
theorem allWritable_shown : AllWritable (shown raw) := by
  have field (name : String) := isWritable_get writable name
  refine AllWritable.append (AllWritable.append ?_ ?_) ?_
  · exact allWritable_flatMap.mpr fun own member => allWritable_sourceShown
      (isWritable_of_mem_listedEntries (field "sources") (List.mem_of_mem_filter member))
  · exact allWritable_shownUntil fun own member => allWritable_groupShown
      (isWritable_of_mem_listedEntries (field "targets") member)
  · refine allWritable_after fun _ _ => AllWritable.append ?_ ?_
    · exact allWritable_shownUntil fun own member => allWritable_mappingShown
        (isWritable_of_mem_listedItems (field "mappings") member)
    · exact allWritable_after fun _ _ => allWritable_cons.mpr
        ⟨isWritable_nameOfProject writable, allWritable_ownersShown writable⟩

end Documents

/-- Every value that a graph holds can be written: the targets as they stand in the document, what
the sources say about themselves, and the columns that foreign keys refer to. -/
structure WritableGraph (graph : Graph) : Prop where
  targets : ∀ mapping ∈ graph.mappings, mapping.rawTarget.isWritable = true
  unresolved : ∀ mapping ∈ graph.mappings, ∀ raw, mapping.target = .unresolved raw →
    raw.isWritable = true
  metadata : ∀ source ∈ graph.sources, (Value.dict source.metadata).isWritable = true
  referred : AllWritable graph.referredColumns

section Graphs

variable {document : Entries}

theorem eq_of_unresolved {value raw : Value} (unresolved : Target.ofValue value = .unresolved raw) :
    raw = value := by
  unfold Target.ofValue at unresolved
  split at unresolved
  · split at unresolved
    · cases unresolved
    · cases unresolved
      rfl
  · cases unresolved
    rfl

/-- The foreign key that a column declares itself refers to a text, or to nothing. -/
theorem isWritable_ofValue? {value : Value} {fk : ForeignKey}
    (declared : ForeignKey.ofValue? value = some fk) : fk.column.isWritable = true := by
  unfold ForeignKey.ofValue? at declared
  split at declared
  · cases declared
  · split at declared
    · dsimp only at declared
      split at declared
      · cases declared
        dsimp only
        split <;> rfl
      · cases declared
    · dsimp only at declared
      split at declared
      · cases declared
        rfl
      · cases declared
        dsimp only
        split <;> rfl

/-- The foreign keys of a table that is read refer to columns that can be written. -/
theorem isWritable_of_table {raw : Entries} (writable : (Value.dict raw).isWritable = true)
    {key : TableKey} {table : Table} (success : Table.ofEntries? key raw = .ok table)
    {column : Column} (member : column ∈ table.columns) {fk : ForeignKey} (linked : column.fk = some fk) :
    fk.column.isWritable = true := by
  obtain ⟨own, _, folded⟩ := folded_of_table success member
  have folds := folds_of_folded? folded
  cases declared : ForeignKey.ofValue? (own.get "fk") with
  | some other =>
    have kept := folds.linked (by simp [declared])
    rw [linked, declared] at kept
    cases kept
    exact isWritable_ofValue? declared
  | none =>
    rcases folds.claimed declared with ⟨_, unlinked⟩ | ⟨claim, other, first, given, taken⟩
    · rw [linked] at unlinked
      cases unlinked
    · rw [linked] at taken
      cases taken
      obtain ⟨item, found, rfl⟩ := Attempt.map_eq_ok_iff.mp given
      obtain ⟨entries, references, inside, held, referred⟩ :=
        exists_reference_of_claim (List.mem_of_find?_eq_some first)
      have declaration := isWritable_of_mem_itemsOf (isWritable_get writable "foreign_keys") inside
      have reference : (Value.dict references).isWritable = true :=
        held ▸ isWritable_get declaration "references"
      refine isWritable_itemAt ?_ found
      rw [referred]
      exact isWritable_orEmpty (isWritable_get reference "columns")

section Declared

variable (writable : (Value.dict document).isWritable = true)

include writable

/-- The target of a mapping is read from a value that can be written. -/
theorem isWritable_of_mapping {mappings : List Mapping}
    (read : declaredMappings (document.get "mappings") = .ok mappings) {mapping : Mapping}
    (member : mapping ∈ mappings) :
    mapping.target = Target.ofValue mapping.rawTarget ∧ mapping.rawTarget.isWritable = true := by
  rw [declaredMappings_eq] at read
  obtain ⟨⟨item, index⟩, inside, here⟩ := (Attempt.mem_mapM_iff read).mp member
  obtain ⟨tags, _, here⟩ := Attempt.bind_eq_ok_iff.mp here
  cases here
  have given := isWritable_of_mem_listedItems (isWritable_get writable "mappings")
    (List.fst_mem_of_mem_zipIdx inside)
  exact ⟨rfl, isWritable_get (isWritable_mappingEntries given) "target"⟩

/-- The foreign keys of a declared table refer to columns that can be written. -/
theorem isWritable_of_declaredTables {tables : List Table}
    (read : declaredTables (document.get "targets") = .ok tables) {table : Table}
    (member : table ∈ tables) {column : Column} (inside : column ∈ table.columns) {fk : ForeignKey}
    (linked : column.fk = some fk) : fk.column.isWritable = true := by
  obtain ⟨raw, named, success⟩ :=
    (Attempt.mem_mapM_iff (declaredTables_eq_ok_iff.mp read).2).mp member
  obtain ⟨group, listed, named⟩ := List.mem_flatMap.mp named
  obtain ⟨entries, below, rfl⟩ := List.mem_map.mp named
  have items := isWritable_get
    (isWritable_of_mem_listedEntries (isWritable_get writable "targets") listed) "tables"
  exact isWritable_of_table (isWritable_of_mem_namedEntries
    (fun _ => isWritable_of_mem_itemsOf items) below) success inside linked

/-- The graph of a document that can be written holds nothing that cannot. -/
theorem writableGraph_of_ofDocument {fallback : String} {graph : Graph}
    (success : Graph.ofDocument? fallback (.dict document) = .ok graph) : WritableGraph graph := by
  obtain ⟨tables, tablesRead, success⟩ := Attempt.bind_eq_ok_iff.mp success
  obtain ⟨mappings, mappingsRead, success⟩ := Attempt.bind_eq_ok_iff.mp success
  cases success
  constructor
  case targets =>
    exact fun mapping member => (isWritable_of_mapping writable mappingsRead member).2
  case unresolved =>
    intro mapping member raw unresolved
    obtain ⟨same, short⟩ := isWritable_of_mapping writable mappingsRead member
    rw [same] at unresolved
    rwa [eq_of_unresolved unresolved]
  case metadata =>
    intro source member
    have declared := List.mem_of_mem_filter (List.mem_of_getLast?
      (Keyed.getLast?_of_mem_collect member))
    obtain ⟨raw, inside, rfl⟩ := List.mem_map.mp declared
    exact isWritable_filter (isWritable_of_mem_listedEntries (isWritable_get writable "sources")
      (List.mem_of_mem_filter inside)) _
  case referred =>
    rintro value member
    obtain ⟨⟨table, column⟩, placed, referring⟩ := List.mem_filterMap.mp member
    obtain ⟨fk, linked, rfl⟩ := Option.map_eq_some_iff.mp referring
    obtain ⟨other, inside, placed⟩ := List.mem_flatMap.mp placed
    obtain ⟨_, there, ⟨⟩⟩ := List.mem_map.mp placed
    have declared := List.mem_of_mem_filter (List.mem_of_getLast?
      (Keyed.getLast?_of_mem_collect inside))
    exact isWritable_of_declaredTables writable tablesRead declared there linked

end Declared

end Graphs

end SchemaAtlas.Schema
