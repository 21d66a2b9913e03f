import SchemaAtlas.Schema.Mapping
import SchemaAtlas.Proofs.Text.Split

/-! # Targets and their text

A text spells a target when it has at least three parts between its points and none of them is
blank. Written out in full, with the wildcard where it names no column, a target reads back as
itself. The full text is the text that was read, but for three parts, which the wildcard follows.
-/

namespace SchemaAtlas.Schema

namespace TargetPath

/-- A path in full: the key of its table with its column behind it. -/
def dotted (path : TargetPath) : String := path.key.dottedColumn path.column

/-- What a path has to be to be told from its text: no part is blank, and only the column may hold
points. -/
structure Legible (path : TargetPath) : Prop where
  key : ∀ part ∈ [path.key.db, path.key.schema, path.key.table],
    '.' ∉ part.toList ∧ Text.isBlankText part = false
  column : ∀ part ∈ Text.pieces '.' path.column, Text.isBlankText part = false

variable {path : TargetPath} {s : String}

/-- Three parts name a table, and the parts behind them a column of it. -/
theorem ofParts?_eq_some_iff {parts : List String} : ofParts? parts = some path ↔
    ∃ column, parts = path.key.db :: path.key.schema :: path.key.table :: column ∧
      path.column = if column = [] then wildcard else Text.joined "." column := by
  constructor
  · intro read
    unfold ofParts? at read
    split at read
    · cases read
      exact ⟨[], rfl, rfl⟩
    · next db schema table column long =>
      cases read
      have more : column ≠ [] := fun none => long (none ▸ rfl)
      exact ⟨column, rfl, (if_neg more).symm⟩
    · cases read
  · obtain ⟨key, name⟩ := path
    rintro ⟨column, rfl, rfl⟩
    cases column <;> rfl

theorem parse?_eq_some_iff : parse? s = some path ↔
    (∀ part ∈ Text.pieces '.' s, Text.isBlankText part = false) ∧
      ofParts? (Text.pieces '.' s) = some path := by
  have filled : ¬ (Text.pieces '.' s).any Text.isBlankText = true ↔
      ∀ part ∈ Text.pieces '.' s, Text.isBlankText part = false := by simp
  rw [← filled, parse?]
  split
  · next blank => simp [blank]
  · next blank => simp [blank]

/-- A text spells a path just when it has three parts or more and none of them is blank. -/
theorem exists_parse?_iff : (∃ path, parse? s = some path) ↔
    3 ≤ (Text.pieces '.' s).length ∧
      ∀ part ∈ Text.pieces '.' s, Text.isBlankText part = false := by
  simp only [parse?_eq_some_iff, exists_and_left]
  rw [and_comm]
  refine and_congr_left fun _ => ?_
  constructor
  · rintro ⟨path, read⟩
    obtain ⟨column, parts, _⟩ := ofParts?_eq_some_iff.mp read
    simp [parts]
  · intro enough
    match parts : Text.pieces '.' s with
    | [] | [_] | [_, _] => simp [parts] at enough
    | db :: schema :: table :: column =>
      exact ⟨⟨⟨db, schema, table⟩, _⟩, ofParts?_eq_some_iff.mpr ⟨column, rfl, rfl⟩⟩

/-- The full text of a path that was read: only three parts are not the whole of it. -/
theorem dotted_of_parse? (read : parse? s = some path) :
    path.dotted = if (Text.pieces '.' s).length = 3 then s ++ ".*" else s := by
  obtain ⟨column, parts, named⟩ := ofParts?_eq_some_iff.mp (parse?_eq_some_iff.mp read).2
  have whole := Text.joined_pieces '.' s
  rw [parts] at whole ⊢
  rw [dotted, TableKey.dottedColumn, TableKey.dotted, named]
  cases column with
  | nil => simp [← whole, Text.joined, wildcard, String.append_assoc]
  | cons part more => simp [← whole, Text.joined, String.append_assoc]

theorem pieces_dotted (legible : path.Legible) : Text.pieces '.' path.dotted =
    path.key.db :: path.key.schema :: path.key.table :: Text.pieces '.' path.column := by
  have pointless (part : String) (member : part ∈ [path.key.db, path.key.schema, path.key.table]) :
      '.' ∉ part.toList := (legible.key part member).1
  have nested : path.dotted = path.key.db ++ String.singleton '.' ++
      (path.key.schema ++ String.singleton '.' ++
        (path.key.table ++ String.singleton '.' ++ path.column)) := by
    simp only [dotted, TableKey.dottedColumn, TableKey.dotted, String.append_assoc]
    rfl
  rw [nested, Text.pieces_append (pointless _ (by simp)), Text.pieces_append (pointless _ (by simp)),
    Text.pieces_append (pointless _ (by simp))]

/-- A path in full is read as the path that it was written for. -/
theorem parse?_dotted (legible : path.Legible) : parse? path.dotted = some path := by
  rw [parse?_eq_some_iff, ofParts?_eq_some_iff, pieces_dotted legible]
  constructor
  · simp only [List.forall_mem_cons]
    obtain ⟨db, schema, table, _⟩ := by simpa only [List.forall_mem_cons] using legible.key
    exact ⟨db.2, schema.2, table.2, legible.column⟩
  · refine ⟨_, rfl, ?_⟩
    rw [if_neg (Text.pieces_ne_nil '.' path.column)]
    exact (Text.joined_pieces '.' path.column).symm

/-- What is read from a text can be told from its own. -/
theorem legible_of_parse? (read : parse? s = some path) : path.Legible := by
  obtain ⟨filled, read⟩ := parse?_eq_some_iff.mp read
  obtain ⟨column, parts, named⟩ := ofParts?_eq_some_iff.mp read
  have part (part : String) (member : part ∈ Text.pieces '.' s) :
      '.' ∉ part.toList ∧ Text.isBlankText part = false :=
    ⟨Text.not_mem_of_mem_pieces member, filled part member⟩
  simp only [parts, List.forall_mem_cons] at part
  obtain ⟨db, schema, table, rest⟩ := part
  constructor
  · simp only [List.forall_mem_cons]
    exact ⟨db, schema, table, by simp⟩
  · rw [named]
    split
    · decide
    · next more =>
      rw [show "." = String.singleton '.' from rfl,
        Text.pieces_joined more fun part member => (rest part member).1]
      exact fun part member => (rest part member).2

end TargetPath

theorem Target.ofValue_text (s : String) :
    Target.ofValue (.text s) = (TargetPath.parse? s).elim (.unresolved (.text s)) .path := by
  rw [ofValue]
  cases TargetPath.parse? s <;> rfl

theorem Target.ofValue_text_eq_path_iff {s : String} {path : TargetPath} :
    Target.ofValue (.text s) = .path path ↔ TargetPath.parse? s = some path := by
  rw [ofValue_text]
  cases TargetPath.parse? s <;> simp

/-- A text names a target just when it has three parts or more and none is blank; any other text is
kept as it is. The full text of a target is the text that it was read from, with the wildcard behind
it where that has three parts, and reads back as the target, as does the full text of any target
whose parts can be told from it. -/
theorem targets_read_back :
    (∀ s : String,
      ((∃ path, Target.ofValue (.text s) = .path path) ↔
        3 ≤ (Text.pieces '.' s).length ∧
          ∀ part ∈ Text.pieces '.' s, Text.isBlankText part = false) ∧
      ((¬ ∃ path, Target.ofValue (.text s) = .path path) →
        Target.ofValue (.text s) = .unresolved (.text s)) ∧
      ∀ path, Target.ofValue (.text s) = .path path →
        Target.ofValue (.text path.dotted) = .path path ∧
          path.dotted = if (Text.pieces '.' s).length = 3 then s ++ ".*" else s) ∧
    ∀ path : TargetPath, path.Legible → Target.ofValue (.text path.dotted) = .path path := by
  constructor
  · intro s
    refine ⟨?_, fun unread => ?_, fun path read => ?_⟩
    · simp only [Target.ofValue_text_eq_path_iff]
      exact TargetPath.exists_parse?_iff
    · simp only [Target.ofValue_text_eq_path_iff, not_exists, ← ne_eq,
        ← Option.eq_none_iff_forall_ne_some] at unread
      rw [Target.ofValue_text, unread]
      rfl
    · rw [Target.ofValue_text_eq_path_iff] at read ⊢
      exact ⟨TargetPath.parse?_dotted (TargetPath.legible_of_parse? read),
        TargetPath.dotted_of_parse? read⟩
  · intro path legible
    exact Target.ofValue_text_eq_path_iff.mpr (TargetPath.parse?_dotted legible)

/-- A target without a column gets the wildcard, and a column may hold points. -/
theorem targets_read_back_of_orders :
    Target.ofValue (.text "shop.public.orders") =
        .path ⟨⟨"shop", "public", "orders"⟩, wildcard⟩ ∧
      Target.ofValue (.text "shop.public.orders.*") =
        .path ⟨⟨"shop", "public", "orders"⟩, wildcard⟩ ∧
      TargetPath.Legible ⟨⟨"shop", "public", "orders"⟩, "line.total"⟩ ∧
      Target.ofValue (.text "shop.public.orders.line.total") =
        .path ⟨⟨"shop", "public", "orders"⟩, "line.total"⟩ := by
  have whole : Target.ofValue (.text "shop.public.orders") =
      .path ⟨⟨"shop", "public", "orders"⟩, wildcard⟩ := by rfl
  have legible : TargetPath.Legible ⟨⟨"shop", "public", "orders"⟩, "line.total"⟩ :=
    ⟨by decide, by decide⟩
  exact ⟨whole, ((targets_read_back.1 _).2.2 _ whole).1, legible, targets_read_back.2 _ legible⟩

end SchemaAtlas.Schema
