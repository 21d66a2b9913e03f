import SchemaAtlas.Matrix.Mapping
import SchemaAtlas.Proofs.Attempt
import SchemaAtlas.Proofs.Document.Writable
import Mathlib.Tactic.Common

/-! # Reading records back

The reader goes over a text one character at a time and keeps what it has read: the records behind
it, the fields of the record that it is in, and the field that it is in. A comma ends a field and a
line feed a record, unless they stand between quotes; a quote between quotes is written twice; every
other character is data. Quotes that open in the middle of a field or close before its end are
refused, and so is a text that ends inside a record.

What a written field leads to is stated from any state in front of a field, so written records
follow from written fields and the whole matrix from its records.
-/

namespace SchemaAtlas.Matrix

open Schema Document

/-- Where in a field a reader stands. -/
inductive Place where
  | opening
  | plain
  | quoted
  | closing
  deriving DecidableEq, Repr

/-- What a reader has read: whole records, the whole fields of the next record, and the part of the
next field that it is in. -/
structure Scan where
  records : List (List String) := []
  fields : List String := []
  field : List Char := []
  place : Place := .opening
  deriving DecidableEq, Repr

namespace Scan

/-- A further character of the field. -/
def push (scan : Scan) (c : Char) (place : Place) : Scan :=
  { scan with field := scan.field ++ [c], place }

/-- The end of the field. -/
def endField (scan : Scan) : Scan :=
  { scan with fields := scan.fields ++ [String.ofList scan.field], field := [], place := .opening }

/-- The end of the record that the last field closes. -/
def endRecord (scan : Scan) : Scan :=
  { records := scan.records ++ [scan.endField.fields] }

/-- The state behind a character, unless the character cannot stand there. -/
def step? (scan : Scan) (c : Char) : Option Scan :=
  match scan.place with
  | .quoted => if c = '"' then some { scan with place := .closing } else some (scan.push c .quoted)
  | place =>
      if c = ',' then some scan.endField
      else if c = '\n' then some scan.endRecord
      else if c = '"' then
        match place with
        | .opening => some { scan with place := .quoted }
        | .closing => some (scan.push '"' .quoted)
        | _ => none
      else if place = .closing then none
      else some (scan.push c .plain)

/-- The records that were read, when the last one is whole. -/
def finish? (scan : Scan) : Option (List (List String)) :=
  if scan.fields = [] ∧ scan.place = .opening then some scan.records else none

end Scan

/-- The records of a text, when the text is nothing but records. -/
def read (text : String) : Option (List (List String)) :=
  (text.toList.foldlM Scan.step? {}).bind Scan.finish?

namespace Scan

variable {scan : Scan}

theorem step?_comma (outside : scan.place ≠ .quoted) : scan.step? ',' = some scan.endField := by
  unfold step?
  split
  · next quoted => exact absurd quoted outside
  · rfl

theorem step?_lineFeed (outside : scan.place ≠ .quoted) :
    scan.step? '\n' = some scan.endRecord := by
  unfold step?
  split
  · next quoted => exact absurd quoted outside
  · rfl

theorem step?_plain {c : Char} (plain : needsQuotes c = false)
    (inside : scan.place = .opening ∨ scan.place = .plain) :
    scan.step? c = some (scan.push c .plain) := by
  simp only [needsQuotes, Bool.or_eq_false_iff, beq_eq_false_iff_ne] at plain
  obtain ⟨⟨comma, quote⟩, lineFeed⟩ := plain
  rcases inside with place | place <;> simp [step?, place, comma, quote, lineFeed]

/-- Characters that need no quotes join the field, wherever in a plain field they stand. -/
theorem foldlM_plain {cs : List Char} (plain : ∀ c ∈ cs, needsQuotes c = false)
    (inside : scan.place = .opening ∨ scan.place = .plain) :
    ∃ place, place ≠ .quoted ∧
      cs.foldlM step? scan = some { scan with field := scan.field ++ cs, place } := by
  induction cs generalizing scan with
  | nil =>
    refine ⟨scan.place, ?_, by simp⟩
    rcases inside with place | place <;> simp [place]
  | cons c rest ih =>
    obtain ⟨here, rest_plain⟩ := List.forall_mem_cons.mp plain
    have pushed : (scan.push c .plain).place = .plain := rfl
    obtain ⟨place, outside, read⟩ := ih rest_plain (.inr pushed)
    refine ⟨place, outside, ?_⟩
    rw [List.foldlM_cons, step?_plain here inside, Option.bind_eq_bind, Option.bind_some, read]
    simp [push]

/-- Between quotes every character joins the field, a doubled quote as a single one. -/
theorem foldlM_doubled (cs : List Char) (quoted : scan.place = .quoted) :
    (doubled cs).foldlM step? scan = some { scan with field := scan.field ++ cs } := by
  induction cs generalizing scan with
  | nil => simp [doubled]
  | cons c rest ih =>
    have pushed : (scan.push c .quoted).place = .quoted := rfl
    have behind := ih pushed
    have here : (if c = '"' then ['"', '"'] else [c]).foldlM step? scan =
        some (scan.push c .quoted) := by
      split
      · next quote => simp [step?, quoted, push, quote]
      · next quote => simp [step?, quoted, push, quote]
    rw [doubled, List.flatMap_cons, List.foldlM_append, here]
    change (doubled rest).foldlM step? (scan.push c .quoted) = _
    rw [behind]
    simp [push, quoted]

/-- A written field is read as its characters and leaves the reader at its end. -/
theorem foldlM_writeField (cs : List Char) (opening : scan.place = .opening)
    (empty : scan.field = []) :
    ∃ place, place ≠ .quoted ∧
      (writeField cs).foldlM step? scan = some { scan with field := cs, place } := by
  unfold writeField
  split
  · refine ⟨.closing, by simp, ?_⟩
    have opens : scan.step? '"' = some { scan with place := .quoted } := by
      simp [step?, opening]
    rw [List.cons_append, List.foldlM_cons, opens, Option.bind_eq_bind, Option.bind_some,
      List.foldlM_append, foldlM_doubled cs rfl]
    simp [step?, empty]
  · next plain =>
    have plain : ∀ c ∈ cs, needsQuotes c = false := by simpa using plain
    obtain ⟨place, outside, read⟩ := foldlM_plain plain (.inl opening)
    exact ⟨place, outside, by simpa [empty] using read⟩

/-- A written record is read as its fields behind those that were read before. -/
theorem foldlM_writeRecord {record : List String} (nonempty : record ≠ [])
    (opening : scan.place = .opening) (empty : scan.field = []) :
    (writeRecord (record.map String.toList)).foldlM step? scan =
      some { records := scan.records ++ [scan.fields ++ record] } := by
  induction record generalizing scan with
  | nil => exact absurd rfl nonempty
  | cons field rest ih =>
    obtain ⟨place, outside, read⟩ := foldlM_writeField field.toList opening empty
    cases rest with
    | nil =>
      simp only [List.map_cons, List.map_nil, writeRecord, List.foldlM_append, read,
        Option.bind_eq_bind, Option.bind_some, List.foldlM_cons, List.foldlM_nil]
      rw [step?_lineFeed outside]
      simp [endRecord, endField]
    | cons next others =>
      simp only [List.map_cons, writeRecord, List.foldlM_append, read, Option.bind_eq_bind,
        Option.bind_some, List.foldlM_cons]
      rw [step?_comma outside, Option.bind_some, ← List.map_cons, ih (by simp) rfl rfl]
      simp [endField]

/-- Written records are read one after the other. -/
theorem foldlM_writeRecords {records : List (List String)} (nonempty : ∀ record ∈ records, record ≠ [])
    (before : List (List String)) :
    (writeRecords (records.map (·.map String.toList))).foldlM step? { records := before } =
      some { records := before ++ records } := by
  induction records generalizing before with
  | nil => simp [writeRecords]
  | cons record rest ih =>
    obtain ⟨here, behind⟩ := List.forall_mem_cons.mp nonempty
    rw [List.map_cons, writeRecords, List.flatMap_cons, List.foldlM_append,
      foldlM_writeRecord here rfl rfl, Option.bind_eq_bind, Option.bind_some]
    simpa [writeRecords] using ih behind (before ++ [record])

end Scan

/-- Records that have fields are read back as they were written. -/
theorem read_write {records : List (List String)} (nonempty : ∀ record ∈ records, record ≠ []) :
    read (write records) = some records := by
  rw [read, write, String.toList_ofList, Scan.foldlM_writeRecords nonempty [], Option.bind_some]
  simp [Scan.finish?]

example : read "a,\"b\"\"\n\",\r\n" = some [["a", "b\"\n", "\r"]] := by decide

theorem row_ne_nil (graph : Graph) (mapping : Mapping) : row graph mapping ≠ [] := by
  simp [row]

/-- A record is made unless it would show a target that is too long. -/
theorem row?_eq_ok_iff {graph : Graph} {mapping : Mapping} {record : List String} :
    row? graph mapping = .ok record ↔
      AllWritable (rowShown mapping) ∧ row graph mapping = record :=
  showing_eq_ok_iff

theorem ne_nil_of_mem_rows {graph : Graph} {rows : List (List String)}
    (made : graph.mappings.mapM (row? graph) = .ok rows) : ∀ record ∈ rows, record ≠ [] := by
  intro record member
  obtain ⟨mapping, _, here⟩ := (Attempt.mem_mapM_iff made).mp member
  obtain ⟨_, rfl⟩ := row?_eq_ok_iff.mp here
  exact row_ne_nil graph mapping

/-- The mapping matrix is made exactly when every record is, and it is read back as its header and
one record for every mapping, in order. -/
theorem read_ofGraph (graph : Graph) :
    (ofGraph? graph).map read =
        (graph.mappings.mapM (row? graph)).map (fun rows => some (header :: rows)) ∧
      ((∃ text, ofGraph? graph = .ok text) ↔
        ∀ mapping ∈ graph.mappings, ∃ record, row? graph mapping = .ok record) := by
  rw [← Attempt.exists_mapM_iff, ofGraph?]
  cases made : graph.mappings.mapM (row? graph) with
  | error long => simp [bind, Except.bind, Except.map]
  | ok rows =>
    refine ⟨congrArg Except.ok (read_write ?_), iff_of_true ⟨_, rfl⟩ ⟨_, rfl⟩⟩
    exact List.forall_mem_cons.mpr ⟨by simp [header], ne_nil_of_mem_rows made⟩

end SchemaAtlas.Matrix
