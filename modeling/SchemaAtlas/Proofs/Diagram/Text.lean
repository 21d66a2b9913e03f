import SchemaAtlas.Diagram.EntityRelation
import SchemaAtlas.Proofs.Diagram.Token
import SchemaAtlas.Proofs.Text.Split
import Mathlib.Data.List.Forall2
import Mathlib.Data.List.Sublists

/-! # The text of a diagram

A diagram is a heading, a block of lines for each table and a line for each relationship, the
declared relationships in front of the suggested ones. Names, types and labels stand in it as tokens,
so where a line ends, and where a quote or a brace stands, is settled by the tables, by which of their
columns have flags, and by the number of relationships alone.
-/

namespace SchemaAtlas.Diagram

open Schema

/-- The flags of a column: each one that holds for it, in a fixed order. -/
structure IsFlags (column : Column) (flags : List String) : Prop where
  order : flags.Sublist ["PK", "FK", "UNIQUE", "NOT_NULL"]
  pk : "PK" ∈ flags ↔ column.pk = true
  fk : "FK" ∈ flags ↔ column.fk.isSome = true
  unique : "UNIQUE" ∈ flags ↔ column.unique = true
  notNull : "NOT_NULL" ∈ flags ↔ column.notNull = true

/-- A line about a column: its name, its type and, if it has flags, these in quotes. -/
inductive IsRow (column : Column) : String → Prop where
  | plain {name type : String} (shown : Shows column.name name) (kind : IsTypeToken type)
      (flags : IsFlags column []) : IsRow column ("    " ++ name ++ " " ++ type)
  | flagged {name type : String} {flags : List String} (shown : Shows column.name name)
      (kind : IsTypeToken type) (given : IsFlags column flags) (nonempty : flags ≠ []) :
      IsRow column ("    " ++ name ++ " " ++ type ++ " \"" ++ Text.joined "," flags ++ "\"")

/-- The lines about a table: an empty one, its name in front of a brace, its columns, and the brace
that closes it. -/
inductive IsBlock (table : Table) : List String → Prop where
  | mk {name : String} {rows : List String} (shown : Shows table.key.table name)
      (columns : List.Forall₂ IsRow table.columns rows) :
      IsBlock table (["", "  " ++ name ++ " \x7b"] ++ rows ++ ["  \x7d"])

/-- A line about a relationship of a parent and a child. -/
inductive IsRelation (parent child label : String) : String → Prop where
  | mk {one many role : String} (above : Shows parent one) (below : Shows child many)
      (called : Shows label role) :
      IsRelation parent child label ("  " ++ one ++ " ||--o\x7b " ++ many ++ " : \"" ++ role ++ "\"")

/-- The columns of tables, each with its table. -/
def places (tables : List Table) : List (Table × Column) :=
  tables.flatMap fun table => table.columns.map (table, ·)

/-- A line tells what the foreign key of a column refers to. -/
def Declares (graph : Graph) (place : Table × Column) (line : String) : Prop :=
  ∃ fk, place.2.fk = some fk ∧
    IsRelation (referredName graph place.1.key fk.table) place.1.key.table
      (fk.column?.getD "fk") line

/-- A line tells which other table a column without a foreign key is called after. -/
def Suggests (graph : Graph) (place : Table × Column) (line : String) : Prop :=
  place.2.fk = none ∧ ∃ base parent, place.2.base? = some base ∧
    graph.inferParent? place.1.key base = some parent ∧ parent ≠ place.1.key ∧
    IsRelation parent.table place.1.key.table place.2.name line

/-- The lines of relationships: with none there are no lines, else an empty one and a comment come
first. -/
def relationLines (related : List String) : List String :=
  if related = [] then [] else ["", "  %% Relationships"] ++ related

/-- The line ends, quotes and braces of a text. -/
def marks (s : String) : List Char := s.toList.filter fun c => c ∈ ['\n', '"', '\x7b', '\x7d']

/-- The quotes around the flags of a column. -/
def flagMarks (column : Column) : List Char :=
  if column.pk || column.fk.isSome || column.unique || column.notNull then ['"', '"'] else []

/-- The marks that a table brings along: those of its block, line by line. -/
def tableMarks (table : Table) : List Char :=
  ['\n', '\x7b', '\n'] ++ table.columns.flatMap (fun column => flagMarks column ++ ['\n']) ++
    ['\x7d', '\n']

/-- The marks that a number of relationships bring along, with the lines in front of them. -/
def relationMarks (count : Nat) : List Char :=
  if count = 0 then []
  else ['\n', '\n'] ++ (List.replicate count ['\x7b', '"', '"', '\n']).flatten

section Lines

variable {column : Column} {table : Table} {parent child label line : String}

theorem isFlags_flags (column : Column) : IsFlags column column.flags := by
  obtain ⟨_, _, pk, fk, unique, notNull, _, _⟩ := column
  constructor <;> cases pk <;> cases fk <;> cases unique <;> cases notNull <;> simp [Column.flags]

theorem isRow_columnLine (column : Column) : IsRow column (columnLine column) := by
  have flags := isFlags_flags column
  unfold columnLine
  dsimp only
  cases given : column.flags with
  | nil =>
    rw [given] at flags
    rw [List.isEmpty_nil, if_pos rfl, String.append_empty]
    exact .plain (shows_nameOf _) (isTypeToken_typeOf _) flags
  | cons flag rest =>
    rw [given] at flags
    rw [List.isEmpty_cons, if_neg Bool.false_ne_true, ← String.append_assoc, ← String.append_assoc]
    exact .flagged (shows_nameOf _) (isTypeToken_typeOf _) flags (List.cons_ne_nil _ _)

theorem isBlock_tableLines (table : Table) : IsBlock table (tableLines table) := by
  refine .mk (shows_nameOf _) ?_
  rw [List.forall₂_map_right_iff, List.forall₂_same]
  exact fun column _ => isRow_columnLine column

theorem isRelation_relationLine (parent child label : String) :
    IsRelation parent child label (relationLine parent child label) :=
  .mk (shows_nameOf _) (shows_nameOf _) (shows_nameOf _)

end Lines

section Marks

variable {column : Column} {table : Table} {parent child label line s : String}

theorem marks_append (s t : String) : marks (s ++ t) = marks s ++ marks t := by
  simp [marks]

theorem marks_of_token (token : IsToken s) : marks s = [] := by
  have apart : ∀ c ∈ ['\n', '"', '\x7b', '\x7d'], isTokenChar c = false := by simp [isTokenChar]
  refine List.filter_eq_nil_iff.mpr fun c member mark => ?_
  have other := apart c (of_decide_eq_true mark)
  rw [token c member] at other
  cases other

theorem marks_of_flags {flags : List String} (given : IsFlags column flags) :
    marks (Text.joined "," flags) = [] := by
  have each : ∀ flags ∈ ["PK", "FK", "UNIQUE", "NOT_NULL"].sublists,
      marks (Text.joined "," flags) = [] := by decide
  exact each flags (List.mem_sublists.mpr given.order)

theorem lineFeed_not_mem (unmarked : '\n' ∉ marks line) : '\n' ∉ line.toList :=
  fun member => unmarked (List.mem_filter.mpr ⟨member, by decide⟩)

theorem flagMarks_of_flags {flags : List String} (given : IsFlags column flags) :
    flagMarks column = if flags = [] then [] else ['"', '"'] := by
  unfold flagMarks
  by_cases none : flags = []
  · subst none
    have pk := given.pk
    have fk := given.fk
    have unique := given.unique
    have notNull := given.notNull
    simp only [List.not_mem_nil, false_iff, Bool.not_eq_true] at pk fk unique notNull
    simp [pk, fk, unique, notNull]
  · obtain ⟨flag, member⟩ := List.exists_mem_of_ne_nil flags none
    have known := given.order.subset member
    simp only [List.mem_cons, List.not_mem_nil, or_false] at known
    rw [if_neg none]
    refine if_pos ?_
    rcases known with rfl | rfl | rfl | rfl
    · simp [given.pk.mp member]
    · simp [given.fk.mp member]
    · simp [given.unique.mp member]
    · simp [given.notNull.mp member]

theorem IsRow.marks_eq (row : IsRow column line) : marks line = flagMarks column := by
  have indent : marks "    " = [] := rfl
  have blank : marks " " = [] := rfl
  have opening : marks " \"" = ['"'] := rfl
  have closing : marks "\"" = ['"'] := rfl
  cases row with
  | plain shown kind flags =>
    rw [flagMarks_of_flags flags, if_pos rfl]
    simp only [marks_append, marks_of_token shown.token, marks_of_token kind.token, indent, blank,
      List.append_nil]
  | flagged shown kind given nonempty =>
    rw [flagMarks_of_flags given, if_neg nonempty]
    simp only [marks_append, marks_of_token shown.token, marks_of_token kind.token,
      marks_of_flags given, indent, blank, opening, closing]
    rfl

theorem IsRelation.marks_eq (relation : IsRelation parent child label line) :
    marks line = ['\x7b', '"', '"'] := by
  cases relation with
  | mk above below called =>
    simp only [marks_append, marks_of_token above.token, marks_of_token below.token,
      marks_of_token called.token]
    rfl

/-- The marks of lines that each end with a line feed. -/
def lineMarks (lines : List String) : List Char := lines.flatMap fun line => marks line ++ ['\n']

theorem lineMarks_append (lines more : List String) :
    lineMarks (lines ++ more) = lineMarks lines ++ lineMarks more := List.flatMap_append

theorem lineMarks_rows {columns : List Column} {rows : List String}
    (shown : List.Forall₂ IsRow columns rows) :
    lineMarks rows = columns.flatMap fun column => flagMarks column ++ ['\n'] := by
  induction shown with
  | nil => rfl
  | cons row _ ih =>
    rw [List.flatMap_cons, ← ih, ← row.marks_eq]
    rfl

theorem IsBlock.lineMarks_eq {block : List String} (shown : IsBlock table block) :
    lineMarks block = tableMarks table := by
  cases shown with
  | @mk name rows shown columns =>
    have opening : lineMarks ["", "  " ++ name ++ " \x7b"] = ['\n', '\x7b', '\n'] := by
      simp only [lineMarks, List.flatMap_cons, List.flatMap_nil, marks_append,
        marks_of_token shown.token]
      rfl
    rw [lineMarks_append, lineMarks_append, opening, lineMarks_rows columns]
    rfl

theorem lineMarks_blocks {tables : List Table} {blocks : List (List String)}
    (shown : List.Forall₂ IsBlock tables blocks) :
    lineMarks blocks.flatten = tables.flatMap tableMarks := by
  induction shown with
  | nil => rfl
  | cons block _ ih =>
    rw [List.flatten_cons, lineMarks_append, block.lineMarks_eq, ih, List.flatMap_cons]

theorem lineMarks_relations {related : List String}
    (shown : ∀ line ∈ related, marks line = ['\x7b', '"', '"']) :
    lineMarks related = (List.replicate related.length ['\x7b', '"', '"', '\n']).flatten := by
  induction related with
  | nil => rfl
  | cons line rest ih =>
    obtain ⟨here, shown⟩ := List.forall_mem_cons.mp shown
    rw [List.length_cons, List.replicate_succ, List.flatten_cons, ← ih shown, lineMarks,
      List.flatMap_cons, here]
    rfl

theorem marks_join (lines : List String) :
    marks (String.join (lines.map (· ++ "\n"))) = lineMarks lines := by
  induction lines with
  | nil => rfl
  | cons line rest ih =>
    rw [List.map_cons, String.join_cons, marks_append, marks_append, ih]
    rfl

end Marks

section Relations

variable {graph : Graph} {place : Table × Column} {line : String}

theorem declares_of_declaredRelation?
    (success : declaredRelation? graph place.1.key place.2 = some line) :
    Declares graph place line := by
  obtain ⟨fk, linked, rfl⟩ := Option.map_eq_some_iff.mp success
  exact ⟨fk, linked, isRelation_relationLine _ _ _⟩

theorem suggests_of_suggestedRelation?
    (success : suggestedRelation? graph place.1.key place.2 = some line) :
    Suggests graph place line := by
  unfold suggestedRelation? at success
  split at success
  · cases success
  · next unlinked =>
    simp only [Option.bind_eq_bind] at success
    obtain ⟨base, called, success⟩ := Option.bind_eq_some_iff.mp success
    obtain ⟨parent, inferred, success⟩ := Option.bind_eq_some_iff.mp success
    split at success
    · cases success
    · next apart =>
      cases success
      exact ⟨by simpa using unlinked, base, parent, called, inferred, apart,
        isRelation_relationLine _ _ _⟩

theorem isSome_declaredRelation? :
    (declaredRelation? graph place.1.key place.2).isSome = place.2.fk.isSome := Option.isSome_map

/-- What is found for some items stands in the order of these items. -/
theorem forall₂_filterMap {α β : Type} {R : α → β → Prop} {f : α → Option β}
    (relates : ∀ {a b}, f a = some b → R a b) (items : List α) :
    List.Forall₂ R (items.filter fun item => (f item).isSome) (items.filterMap f) := by
  induction items with
  | nil => exact .nil
  | cons item rest ih =>
    cases found : f item with
    | none => simpa [found] using ih
    | some result => simpa [found] using ⟨relates found, ih⟩

theorem forall₂_declares (graph : Graph) (places : List (Table × Column)) :
    List.Forall₂ (Declares graph) (places.filter fun place => place.2.fk.isSome)
      (places.filterMap fun place => declaredRelation? graph place.1.key place.2) := by
  have all := forall₂_filterMap (R := Declares graph)
    (f := fun place => declaredRelation? graph place.1.key place.2)
    declares_of_declaredRelation? places
  rwa [List.filter_congr fun place _ => isSome_declaredRelation?] at all

theorem exists_forall₂_suggests (graph : Graph) (places : List (Table × Column)) :
    ∃ named, List.Sublist named (places.filter fun place => place.2.fk.isNone) ∧
      List.Forall₂ (Suggests graph) named
        (places.filterMap fun place => suggestedRelation? graph place.1.key place.2) := by
  refine ⟨_, List.monotone_filter_right places fun place found => ?_,
    forall₂_filterMap (R := Suggests graph)
      (f := fun place => suggestedRelation? graph place.1.key place.2)
      suggests_of_suggestedRelation? places⟩
  obtain ⟨line, suggested⟩ := Option.isSome_iff_exists.mp found
  rw [(suggests_of_suggestedRelation? suggested).1, Option.isNone_none]

theorem flatMap_filterMap_eq (tables : List Table) (f : TableKey → Column → Option String) :
    (tables.flatMap fun table => table.columns.filterMap (f table.key)) =
      (places tables).filterMap fun place => f place.1.key place.2 := by
  rw [places, List.filterMap_flatMap]
  simp only [List.filterMap_map]
  rfl

end Relations

section Assembly

variable {graph : Graph} {column : Column} {table : Table} {place : Table × Column}
  {parent child label line : String}

/-- What follows from a relation to the items of a list holds of all that are related to them. -/
theorem forall_of_forall₂ {α β : Type} {R : α → β → Prop} {p : β → Prop} {as : List α}
    {bs : List β} (holds : ∀ {a b}, R a b → p b) (related : List.Forall₂ R as bs) :
    ∀ b ∈ bs, p b :=
  ((List.forall₂_and_left (R := flip R) bs as).mp
    ((List.Forall₂.flip related).imp fun _ _ here => ⟨holds here, here⟩)).1

theorem IsRow.unbroken (row : IsRow column line) : '\n' ∉ line.toList := by
  refine lineFeed_not_mem ?_
  rw [row.marks_eq, flagMarks]
  split <;> decide

theorem IsBlock.unbroken {block : List String} (shown : IsBlock table block) :
    ∀ line ∈ block, '\n' ∉ line.toList := by
  cases shown with
  | @mk name rows shown columns =>
    intro line member
    simp only [List.cons_append, List.nil_append, List.mem_cons, List.mem_append, List.not_mem_nil,
      or_false] at member
    rcases member with rfl | rfl | inside | rfl
    · decide
    · refine lineFeed_not_mem ?_
      rw [marks_append, marks_append, marks_of_token shown.token]
      decide
    · exact forall_of_forall₂ (fun row => IsRow.unbroken row) columns line inside
    · decide

theorem Declares.marks_eq (declares : Declares graph place line) :
    marks line = ['\x7b', '"', '"'] := by
  obtain ⟨_, _, relation⟩ := declares
  exact relation.marks_eq

theorem Suggests.marks_eq (suggests : Suggests graph place line) :
    marks line = ['\x7b', '"', '"'] := by
  obtain ⟨_, _, _, _, _, _, relation⟩ := suggests
  exact relation.marks_eq

theorem unbroken_of_marks (relation : marks line = ['\x7b', '"', '"']) : '\n' ∉ line.toList := by
  refine lineFeed_not_mem ?_
  rw [relation]
  decide

theorem lineMarks_relationLines {related : List String}
    (shown : ∀ line ∈ related, marks line = ['\x7b', '"', '"']) :
    lineMarks (relationLines related) = relationMarks related.length := by
  cases related with
  | nil => rfl
  | cons line rest =>
    rw [relationLines, if_neg (List.cons_ne_nil _ _), lineMarks_append, lineMarks_relations shown,
      relationMarks, if_neg (by simp : (line :: rest).length ≠ 0)]
    rfl

theorem mem_relationLines {related : List String} (member : line ∈ relationLines related) :
    line = "" ∨ line = "  %% Relationships" ∨ line ∈ related := by
  unfold relationLines at member
  split at member
  · cases member
  · simpa using member

theorem lines_eq (graph : Graph) (tables : List Table) :
    lines graph tables = "erDiagram" :: (tables.map tableLines).flatten ++
      relationLines
        (((places tables).filterMap fun place => declaredRelation? graph place.1.key place.2) ++
          (places tables).filterMap fun place => suggestedRelation? graph place.1.key place.2) := by
  simp only [lines, relations, flatMap_filterMap_eq]
  simp only [List.flatMap_def, relationLines, List.isEmpty_iff]

end Assembly

/-- Every diagram is the heading, a block for each table in order and, if there are any
relationships, an empty line, a comment and a line for each of them. A column makes at most one of
these lines, those of the foreign keys are the first, and the line ends, quotes and braces of the text
are the ones that belong to these lines. -/
theorem render_layout (graph : Graph) (tables : List Table) :
    ∃ (blocks : List (List String)) (declared suggested : List String),
      Text.pieces '\n' (render graph tables) =
        "erDiagram" :: blocks.flatten ++ relationLines (declared ++ suggested) ++ [""] ∧
      List.Forall₂ IsBlock tables blocks ∧
      List.Forall₂ (Declares graph)
        ((places tables).filter fun place => place.2.fk.isSome) declared ∧
      (∃ named, List.Sublist named ((places tables).filter fun place => place.2.fk.isNone) ∧
        List.Forall₂ (Suggests graph) named suggested) ∧
      marks (render graph tables) =
        '\n' :: tables.flatMap tableMarks ++ relationMarks (declared.length + suggested.length) := by
  have blocks : List.Forall₂ IsBlock tables (tables.map tableLines) := by
    rw [List.forall₂_map_right_iff, List.forall₂_same]
    exact fun table _ => isBlock_tableLines table
  have declared := forall₂_declares graph (places tables)
  obtain ⟨named, order, suggested⟩ := exists_forall₂_suggests graph (places tables)
  have marked := List.forall_mem_append.mpr
    ⟨forall_of_forall₂ (fun here => Declares.marks_eq here) declared,
      forall_of_forall₂ (fun here => Suggests.marks_eq here) suggested⟩
  refine ⟨_, _, _, ?_, blocks, declared, ⟨named, order, suggested⟩, ?_⟩
  · rw [render, lines_eq, Text.pieces_lines]
    intro line member
    rw [List.cons_append, List.mem_cons, List.mem_append, List.mem_flatten] at member
    rcases member with rfl | ⟨block, inside, member⟩ | member
    · decide
    · exact forall_of_forall₂ (fun shown => IsBlock.unbroken shown) blocks block inside line member
    · rcases mem_relationLines member with rfl | rfl | member
      · decide
      · decide
      · exact unbroken_of_marks (marked line member)
  · rw [render, lines_eq, marks_join, lineMarks_append, lineMarks_relationLines marked,
      List.length_append, ← lineMarks_blocks blocks]
    rfl

end SchemaAtlas.Diagram
