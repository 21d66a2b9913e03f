import SchemaAtlas.Proofs.Schema.Folds

/-! # Keys declared for a whole table

When columns are named by texts, and the declarations for the whole table name and refer to columns
by lists of texts, a table can always be read, and every foreign key that is given to a column can
be listed beforehand. The first one that is given to a column counts, unless it has its own.
-/

namespace SchemaAtlas.Schema

open Document Structure

section Textual

/-- A list of texts; a missing list has none. -/
def AreTexts (value : Value) : Prop :=
  value = .null ∨ ∃ texts : List String, value = .list (texts.map .text)

/-- A table whose columns are named by texts, and whose table-level declarations name and refer to
columns by lists of texts. -/
structure Textual (raw : Entries) : Prop where
  columns : ∃ items, walk (raw.get "columns") = .ok items
  named : ∀ own ∈ rawColumns raw, ∃ s, own.get "name" = .text s
  primary : AreTexts (raw.get "primary_key")
  foreign : ∃ declarations, walk (raw.get "foreign_keys") = .ok declarations
  linked : ∀ entries references, .dict entries ∈ itemsOf (raw.get "foreign_keys") →
    Entries.get entries "references" = .dict references →
      AreTexts (Entries.get entries "columns") ∧ AreTexts (Entries.get references "columns")

/-- The texts of a list. -/
def textsOf (value : Value) : List String :=
  (listItems value).filterMap fun item =>
    match item with
    | .text s => some s
    | _ => none

/-- The foreign keys that the table-level declarations of a table give, each with the name of its
column: declaration by declaration and position by position, with the referred column at the same
position, or null past the last one. -/
def givenKeys (raw : Entries) : List (String × ForeignKey) :=
  (itemsOf (raw.get "foreign_keys")).flatMap fun declaration =>
    match declaration with
    | .dict entries =>
        match Entries.get entries "references" with
        | .dict references =>
            if (Entries.get references "table").isTruthy then
              (textsOf (Entries.get entries "columns")).zipIdx.map fun (name, position) =>
                (name, ⟨(Entries.get references "table").display,
                  ((textsOf (Entries.get references "columns"))[position]?).elim .null .text⟩)
            else []
        | _ => []
    | _ => []

variable {value : Value} {raw : Entries}

theorem textsOf_list (texts : List String) : textsOf (.list (texts.map .text)) = texts := by
  rw [textsOf, listItems, List.filterMap_map]
  exact List.filterMap_some

theorem walk_of_texts (texts : AreTexts value) : walk value = .ok ((textsOf value).map .text) := by
  rcases texts with rfl | ⟨texts, rfl⟩
  · rfl
  · rw [walk_of_list rfl, listItems, textsOf_list]

theorem orEmpty_of_texts (texts : AreTexts value) :
    orEmpty value = .list ((textsOf value).map .text) := by
  rcases texts with rfl | ⟨texts, rfl⟩
  · rfl
  · rw [textsOf_list]
    cases texts <;> rfl

theorem namesColumns_of_texts (texts : AreTexts value) : namesColumns value = true := by
  refine namesColumns_iff.mpr ⟨_, walk_of_texts texts, fun name member => ?_⟩
  obtain ⟨s, _, rfl⟩ := List.mem_map.mp member
  rfl

/-- Texts mark the columns that they name. -/
theorem markedBy_of_texts (texts : AreTexts value) (column : Column) :
    column.markedBy (itemsOf value) =
      { column with pk := column.pk || (textsOf value).contains column.name } := by
  have named : column.isNamedBy ∘ Value.text = fun s => column.name == s := by
    funext s
    exact BEq.comm
  rw [Column.markedBy, itemsOf_of_walk (walk_of_texts texts), List.any_map, named,
    ← List.contains_eq_any_beq]

/-- A claim names a column and gives it a foreign key. -/
structure Grants (claim : Claim) (given : String × ForeignKey) : Prop where
  name : claim.name = .text given.1
  foreignKey : claim.foreignKey? = .ok given.2

/-- Under claims that all can be taken, a column without a foreign key takes the first one given to
it. -/
theorem settled?_of_grants {claims : List Claim} {given : List (String × ForeignKey)}
    (grants : List.Forall₂ Grants claims given) (column : Column) :
    column.settled? claims = .ok { column with
      fk := column.fk.or ((Keyed.find? Prod.fst column.name given).map Prod.snd) } := by
  cases held : column.fk with
  | some fk =>
    rw [settled?_of_linked (by simp [held]), Option.some_or, ← held]
  | none =>
    rw [Option.none_or]
    induction grants with
    | nil =>
      have same : { column with fk := none } = column := by rw [← held]
      exact (settled?_nil column).trans (congrArg Except.ok same.symm)
    | @cons claim pair rest others grant _ ih =>
      by_cases same : pair.1 = column.name
      · have named : column.isNamedBy claim.name = true := by rw [isNamedBy_iff, grant.name, same]
        rw [settled?_cons_of_open named held, grant.foreignKey, Keyed.find?,
          List.find?_cons_of_pos (by simp [same])]
        rfl
      · have unnamed : column.isNamedBy claim.name = false := by
          rw [grant.name]
          exact beq_false_of_ne same
        rw [settled?_cons_of_unnamed unnamed, ih, Keyed.find?, Keyed.find?,
          List.find?_cons_of_neg (by simp [same])]

/-- The claims of a foreign key that names and refers to columns by texts can all be taken. -/
theorem grants_claimsFrom {table names referred : Value} (named : AreTexts names)
    (refers : AreTexts referred) :
    List.Forall₂ Grants (claimsFrom table (orEmpty referred) 0 (itemsOf names))
      (if table.isTruthy then (textsOf names).zipIdx.map fun (name, position) =>
        (name, ⟨table.display, ((textsOf referred)[position]?).elim .null .text⟩) else []) := by
  rw [itemsOf_of_walk (walk_of_texts named), orEmpty_of_texts refers, claimsFrom]
  split
  · rw [List.zipIdx_map, List.map_map, List.forall₂_map_left_iff, List.forall₂_map_right_iff,
      List.forall₂_same]
    rintro ⟨name, position⟩ _
    refine ⟨rfl, ?_⟩
    simp only [Claim.foreignKey?, itemAt, List.getElem?_map, Function.comp_apply, Prod.map, id]
    cases (textsOf referred)[position]? <;> rfl
  · exact .nil

theorem grants_claims (textual : Textual raw) :
    List.Forall₂ Grants (claims raw) (givenKeys raw) := by
  rw [claims, givenKeys, List.flatMap_def, List.flatMap_def]
  refine List.rel_flatten ?_
  rw [List.forall₂_map_left_iff, List.forall₂_map_right_iff, List.forall₂_same]
  intro declaration member
  cases declaration with
  | dict entries =>
    cases held : Entries.get entries "references" with
    | dict references =>
      obtain ⟨named, refers⟩ := textual.linked entries references member held
      simp only [claimsOf, held]
      exact grants_claimsFrom named refers
    | _ =>
      simp only [claimsOf, held]
      exact .nil
  | _ => exact .nil

/-- What becomes of a column under textual declarations. -/
theorem folded?_of_textual (textual : Textual raw) (column : Column) :
    column.folded? raw = .ok { column with
      pk := column.pk || (textsOf (raw.get "primary_key")).contains column.name
      fk := column.fk.or ((Keyed.find? Prod.fst column.name (givenKeys raw)).map Prod.snd) } := by
  rw [Column.folded?, markedBy_of_texts textual.primary, settled?_of_grants (grants_claims textual)]

theorem followable_of_textual (textual : Textual raw) : Followable raw := by
  refine ⟨namesColumns_of_texts textual.primary, textual.foreign, fun declaration member => ?_⟩
  cases declaration with
  | dict entries =>
    cases held : Entries.get entries "references" with
    | dict references =>
      simp only [isFollowable, held]
      exact namesColumns_of_texts (textual.linked entries references member held).1
    | _ => simp only [isFollowable, held]
  | _ => rfl

/-- The columns of a table named by texts are shown by these. -/
theorem display_of_textual (textual : Textual raw) :
    ∀ own ∈ rawColumns raw, (own.get "name").display = textAt own "name" := by
  intro own member
  obtain ⟨s, text⟩ := textual.named own member
  rw [textAt, text]
  rfl

/-- Keys are folded into columns by a fixed precedence. A table whose declarations are textual can
be read; it has its columns in order of first declaration, each as it was declared last, but that it
is also a key when the primary key names it, and that without a foreign key of its own it has the
first one given to it. -/
theorem keys_of_textual (textual : Textual raw) (key : TableKey) :
    ∃ table, Table.ofEntries? key raw = .ok table ∧
      table.columns.map Column.name = ((rawColumns raw).map (textAt · "name")).eraseDups ∧
      ∀ column ∈ table.columns, ∃ own,
        ((rawColumns raw).filter fun other =>
          decide (textAt other "name" = column.name)).getLast? = some own ∧
        column = { Column.ofEntries own with
          pk := (own.get "pk").isTruthy ||
            (textsOf (raw.get "primary_key")).contains column.name
          fk := (ForeignKey.ofValue? (own.get "fk")).or
            ((Keyed.find? Prod.fst column.name (givenKeys raw)).map Prod.snd) } := by
  have display := display_of_textual textual
  obtain ⟨table, success⟩ : ∃ table, Table.ofEntries? key raw = .ok table :=
    exists_table_iff.mpr ⟨textual.columns, followable_of_textual textual,
      fun column _ => ⟨_, folded?_of_textual textual column⟩⟩
  refine ⟨table, success, ?_, ?_⟩
  · rw [names_of_table success]
    exact congrArg List.eraseDups (List.map_congr_left display)
  · intro column member
    obtain ⟨own, last, folded⟩ := folded_of_table success member
    refine ⟨own, ?_, ?_⟩
    · rw [← last]
      exact congrArg List.getLast? (List.filter_congr fun other inside => by rw [display other inside])
    · rw [folded?_of_textual textual] at folded
      cases folded
      rfl

/-- A table that declares a column again, gives one a foreign key without a table and one a foreign
key of its own, and lists foreign keys that overlap: one without a table, and one that refers to
fewer columns than it names. -/
def overlappingTable : Entries :=
  let record (entries : List (String × Value)) : Value := .dict (Entries.named entries)
  let texts (names : List String) : Value := .list (names.map .text)
  Entries.named [
    ("name", .text "lines"),
    ("columns", .list [
      record [("name", .text "order"), ("pk", .bool true), ("fk", .text "old.id")],
      record [("name", .text "item"), ("fk", record [("column", .text "id")])],
      record [("name", .text "place"), ("fk", .text "places.id")],
      record [("name", .text "order")]]),
    ("primary_key", texts ["item", "item"]),
    ("foreign_keys", .list [
      record [("columns", texts ["order", "item"]), ("references", record [])],
      record [("columns", texts ["item", "place", "order"]),
        ("references", record [("table", .text "items"), ("columns", texts ["code"])])],
      record [("columns", texts ["order"]),
        ("references", record [("table", .text "orders"), ("columns", texts ["id"])])]])]

/-- The last declaration of a repeated column counts, then the first table-level foreign key that
names it. -/
theorem keys_of_overlappingTable :
    Textual overlappingTable ∧
      ∃ table, Table.ofEntries? ⟨"shop", "sales", "lines"⟩ overlappingTable = .ok table ∧
        table.columns.map (fun column => (column.name, column.pk,
            column.fk.map fun fk => (fk.table, fk.column?))) =
          [("order", false, some ("items", none)), ("item", true, some ("items", some "code")),
            ("place", false, some ("places", some "id"))] := by
  have texts (names : List String) : AreTexts (.list (names.map .text)) := .inr ⟨names, rfl⟩
  have textual : Textual overlappingTable := by
    refine ⟨⟨_, rfl⟩, ?_, texts ["item", "item"], ⟨_, rfl⟩, ?_⟩
    · change ∀ own ∈ [_, _, _, _], _
      simp
    · change ∀ entries references, Value.dict entries ∈ [_, _, _] → _
      simp only [List.mem_cons, List.not_mem_nil, or_false]
      rintro _ _ (⟨⟨⟩⟩ | ⟨⟨⟩⟩ | ⟨⟨⟩⟩) ⟨⟩
      · exact ⟨texts ["order", "item"], .inl rfl⟩
      · exact ⟨texts ["item", "place", "order"], texts ["code"]⟩
      · exact ⟨texts ["order"], texts ["id"]⟩
  obtain ⟨table, read, _, _⟩ := keys_of_textual textual ⟨"shop", "sales", "lines"⟩
  refine ⟨textual, table, read, ?_⟩
  have seen : (Table.ofEntries? ⟨"shop", "sales", "lines"⟩ overlappingTable).map
      (fun table => table.columns.map fun column => (column.name, column.pk,
        column.fk.map fun fk => (fk.table, fk.column?))) =
      .ok [("order", false, some ("items", none)), ("item", true, some ("items", some "code")),
        ("place", false, some ("places", some "id"))] := rfl
  rw [read] at seen
  exact Except.ok.inj seen

end Textual

end SchemaAtlas.Schema
