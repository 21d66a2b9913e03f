import SchemaAtlas.Lineage.Node
import SchemaAtlas.Lineage.NodeId
import Mathlib.Data.List.Basic

/-! # Ids determine nodes

The escapes of the dividing characters form a prefix code, so an escaped segment can be read back,
and no escaped segment holds a divider. An id is therefore cut at its dividers in one way only, and
says which kind of node it names and which names it was made of.
-/

namespace SchemaAtlas.Lineage

open Schema

section Escape

variable {dotted : Bool}

/-- A character stands for itself unless it divides segments or opens an escape. -/
theorem escapeDivider_cases (dotted : Bool) (c : Char) :
    (c = '%' ∧ escapeDivider dotted c = ['%', '2', '5']) ∨
    (c = ':' ∧ escapeDivider dotted c = ['%', '3', 'A']) ∨
    (dotted = true ∧ c = '.' ∧ escapeDivider dotted c = ['%', '2', 'E']) ∨
    ('%' ≠ c ∧ ':' ≠ c ∧ (dotted = true → '.' ≠ c) ∧ escapeDivider dotted c = [c]) := by
  unfold escapeDivider
  split_ifs with percent colon point
  · exact .inl ⟨percent, rfl⟩
  · exact .inr (.inl ⟨colon, rfl⟩)
  · obtain ⟨dots, point⟩ := Bool.and_eq_true_iff.mp point
    exact .inr (.inr (.inl ⟨dots, of_decide_eq_true point, rfl⟩))
  · refine .inr (.inr (.inr ⟨Ne.symm percent, Ne.symm colon, fun dots same => point ?_, rfl⟩))
    exact Bool.and_eq_true_iff.mpr ⟨dots, decide_eq_true same.symm⟩

theorem escapeDivider_ne_nil (c : Char) : escapeDivider dotted c ≠ [] := by
  rcases escapeDivider_cases dotted c with ⟨_, e⟩ | ⟨_, e⟩ | ⟨_, _, e⟩ | ⟨_, _, _, e⟩ <;> simp [e]

/-- No escape continues another: a text starts with the escape of one character at most. -/
theorem escapeDivider_append_inj {c d : Char} {cs ds : List Char}
    (same : escapeDivider dotted c ++ cs = escapeDivider dotted d ++ ds) : c = d ∧ cs = ds := by
  rcases escapeDivider_cases dotted c with ⟨rfl, e⟩ | ⟨rfl, e⟩ | ⟨_, rfl, e⟩ | ⟨pc, _, _, e⟩ <;>
    rcases escapeDivider_cases dotted d with ⟨rfl, f⟩ | ⟨rfl, f⟩ | ⟨_, rfl, f⟩ | ⟨pd, _, _, f⟩ <;>
    simp_all [Ne.symm]

/-- An escaped text can be read back. -/
theorem escape_injective (dotted : Bool) :
    Function.Injective fun cs : List Char => cs.flatMap (escapeDivider dotted) := by
  intro cs ds same
  simp only at same
  induction cs generalizing ds with
  | nil =>
    cases ds with
    | nil => rfl
    | cons d ds => simp [escapeDivider_ne_nil] at same
  | cons c cs ih =>
    cases ds with
    | nil => simp [escapeDivider_ne_nil] at same
    | cons d ds =>
      obtain ⟨rfl, rest⟩ := escapeDivider_append_inj same
      rw [ih rest]

theorem escapeSegment_injective (dotted : Bool) : Function.Injective (escapeSegment dotted) :=
  fun _ _ same => String.toList_injective (escape_injective dotted (String.ofList_injective same))

theorem toList_escapeSegment (segment : String) :
    (escapeSegment dotted segment).toList = segment.toList.flatMap (escapeDivider dotted) :=
  String.toList_ofList

theorem colon_not_mem_escapeSegment (segment : String) :
    ':' ∉ (escapeSegment dotted segment).toList := by
  rw [toList_escapeSegment, List.mem_flatMap]
  rintro ⟨c, _, member⟩
  rcases escapeDivider_cases dotted c with ⟨_, e⟩ | ⟨_, e⟩ | ⟨_, _, e⟩ | ⟨_, colon, _, e⟩ <;>
    simp_all

theorem point_not_mem_escapeSegment (segment : String) :
    '.' ∉ (escapeSegment true segment).toList := by
  rw [toList_escapeSegment, List.mem_flatMap]
  rintro ⟨c, _, member⟩
  rcases escapeDivider_cases true c with ⟨_, e⟩ | ⟨_, e⟩ | ⟨_, _, e⟩ | ⟨_, _, point, e⟩ <;>
    simp_all

end Escape

/-- Texts that are equal as a whole are equal up to their first divider, and behind it. -/
theorem append_cons_inj {divider : Char} {cs ds cs' ds' : List Char} (left : divider ∉ cs)
    (right : divider ∉ ds) (same : cs ++ divider :: cs' = ds ++ divider :: ds') :
    cs = ds ∧ cs' = ds' := by
  induction cs generalizing ds with
  | nil =>
    cases ds with
    | nil => exact ⟨rfl, (List.cons.inj same).2⟩
    | cons d ds => exact absurd ((List.cons.inj same).1 ▸ List.mem_cons_self) right
  | cons c cs ih =>
    cases ds with
    | nil => exact absurd ((List.cons.inj same).1 ▸ List.mem_cons_self) left
    | cons d ds =>
      obtain ⟨heads, tails⟩ := List.cons.inj same
      obtain ⟨before, behind⟩ := ih (fun member => left (List.mem_cons_of_mem _ member))
        (fun member => right (List.mem_cons_of_mem _ member)) tails
      exact ⟨by rw [heads, before], behind⟩

/-- The characters of an escaped key: three segments divided by points. -/
theorem toList_escapedKey (key : TableKey) :
    (escapedKey key).toList = (escapeSegment true key.db).toList ++
      '.' :: ((escapeSegment true key.schema).toList ++
        '.' :: (escapeSegment true key.table).toList) := by
  simp [escapedKey]

/-- Keys with more behind them agree on the database and the schema when they spell one text. -/
theorem escapedKey_append_inj {key other : TableKey} {rest more : List Char}
    (same : (escapedKey key).toList ++ rest = (escapedKey other).toList ++ more) :
    key.db = other.db ∧ key.schema = other.schema ∧
      (escapeSegment true key.table).toList ++ rest =
        (escapeSegment true other.table).toList ++ more := by
  simp only [toList_escapedKey, List.append_assoc, List.cons_append] at same
  obtain ⟨dbs, same⟩ := append_cons_inj (point_not_mem_escapeSegment _)
    (point_not_mem_escapeSegment _) same
  obtain ⟨schemas, same⟩ := append_cons_inj (point_not_mem_escapeSegment _)
    (point_not_mem_escapeSegment _) same
  exact ⟨escapeSegment_injective true (String.toList_injective dbs),
    escapeSegment_injective true (String.toList_injective schemas), same⟩

theorem escapedKey_injective : Function.Injective escapedKey := by
  intro key other same
  have chars : (escapedKey key).toList ++ [] = (escapedKey other).toList ++ [] := by rw [same]
  obtain ⟨dbs, schemas, tables⟩ := escapedKey_append_inj chars
  simp only [List.append_nil] at tables
  exact TableKey.ext dbs schemas (escapeSegment_injective true (String.toList_injective tables))

/-- A point behind a key is no part of another key. -/
theorem escapedKey_ne_append_point (key other : TableKey) (rest : List Char) :
    (escapedKey key).toList ≠ (escapedKey other).toList ++ '.' :: rest := by
  intro same
  rw [← List.append_nil (escapedKey key).toList] at same
  obtain ⟨_, _, tables⟩ := escapedKey_append_inj same
  have absent := point_not_mem_escapeSegment key.table
  rw [List.append_nil] at tables
  rw [tables] at absent
  exact absent (by simp)

theorem escapedKey_append_point_inj {key other : TableKey} {rest more : List Char}
    (same : (escapedKey key).toList ++ '.' :: rest = (escapedKey other).toList ++ '.' :: more) :
    key = other ∧ rest = more := by
  obtain ⟨dbs, schemas, same⟩ := escapedKey_append_inj same
  obtain ⟨tables, rests⟩ := append_cons_inj (point_not_mem_escapeSegment _)
    (point_not_mem_escapeSegment _) same
  exact ⟨TableKey.ext dbs schemas (escapeSegment_injective true (String.toList_injective tables)),
    rests⟩

/-- The characters of an id, with the mark of its family in front. -/
theorem NodeRef.toList_id (ref : NodeRef) :
    ref.id.toList = match ref with
      | .source name => 's' :: 'r' :: 'c' :: ':' :: (escapeSegment false name).toList
      | .sourceColumn name path => 's' :: 'r' :: 'c' :: ':' :: ((escapeSegment false name).toList ++
          ':' :: (escapeSegment false path).toList)
      | .rule text => 'r' :: 'u' :: 'l' :: 'e' :: ':' :: text.toList
      | .table key => 't' :: ':' :: (escapedKey key).toList
      | .column key name => 't' :: ':' :: ((escapedKey key).toList ++
          '.' :: (escapeSegment true name).toList) := by
  cases ref <;> simp [NodeRef.id]

/-- A divider behind a source's segment is no part of another source's segment. -/
theorem escapeSegment_ne_append_colon (name other : String) (rest : List Char) :
    (escapeSegment false name).toList ≠ (escapeSegment false other).toList ++ ':' :: rest := by
  intro same
  have absent : ':' ∉ (escapeSegment false name).toList := colon_not_mem_escapeSegment name
  rw [same] at absent
  exact absent (by simp)

/-- An id belongs to one node only: the same id means the same kind and the same names. -/
theorem NodeRef.id_injective : Function.Injective NodeRef.id := by
  intro a b same
  have chars := congrArg String.toList same
  rw [NodeRef.toList_id, NodeRef.toList_id] at chars
  -- The mark of a family tells its ids from those of the other families.
  cases a <;> cases b <;>
    simp only [List.cons.injEq, true_and, Char.reduceEq, false_and] at chars
  case source.source name other =>
    rw [escapeSegment_injective false (String.toList_injective chars)]
  case source.sourceColumn name other path =>
    exact absurd chars (escapeSegment_ne_append_colon name other _)
  case sourceColumn.source name path other =>
    exact absurd chars.symm (escapeSegment_ne_append_colon other name _)
  case sourceColumn.sourceColumn name path other path' =>
    obtain ⟨names, paths⟩ := append_cons_inj (colon_not_mem_escapeSegment _)
      (colon_not_mem_escapeSegment _) chars
    rw [escapeSegment_injective false (String.toList_injective names),
      escapeSegment_injective false (String.toList_injective paths)]
  case rule.rule text other =>
    rw [String.toList_injective chars]
  case table.table key other =>
    rw [escapedKey_injective (String.toList_injective chars)]
  case table.column key other name =>
    exact absurd chars (escapedKey_ne_append_point key other _)
  case column.table key name other =>
    exact absurd chars.symm (escapedKey_ne_append_point other key _)
  case column.column key name other name' =>
    obtain ⟨rfl, names⟩ := escapedKey_append_point_inj chars
    rw [escapeSegment_injective true (String.toList_injective names)]

end SchemaAtlas.Lineage
