import SchemaAtlas.Proofs.Attempt
import SchemaAtlas.Proofs.Keyed
import SchemaAtlas.Proofs.Schema.Reading

/-! # Claims on columns

Beside its columns a table may list its key columns and its foreign keys. These declarations are
applied one after the other, each to the columns that the ones before it left. What becomes of a
column can be told without the others all the same: it is a key when it says so or the list names
it, and its foreign key is its own, or else comes from the first place at which a foreign key of the
table names it.
-/

namespace SchemaAtlas.Schema

open Document Structure

/-- The items that a value yields when it is walked through, none when it cannot be. -/
def itemsOf (value : Value) : List Value := (walk value).toOption.getD []

/-- Whether a value is the name of a column. -/
def Column.isNamedBy (column : Column) : Value → Bool
  | .text s => s == column.name
  | _ => false

/-- A column that is also a key when some of the key names name it. -/
def Column.markedBy (names : List Value) (column : Column) : Column :=
  { column with pk := column.pk || names.any column.isNamedBy }

/-- A place at which a table-level foreign key names a column. -/
structure Claim where
  name : Value
  table : Value
  referred : Value
  position : Nat

/-- The foreign key that a claim gives, if the columns it refers to can be indexed. -/
def Claim.foreignKey? (claim : Claim) : Except Obstacle ForeignKey :=
  (itemAt claim.referred claim.position).map fun target => ⟨claim.table.display, target⟩

/-- The claims on columns that are named from a position on; without a table to refer to there are
none. -/
def claimsFrom (table referred : Value) (position : Nat) (names : List Value) : List Claim :=
  if table.isTruthy then
    (names.zipIdx position).map fun (name, position) => ⟨name, table, referred, position⟩
  else []

/-- The claims of a table-level foreign key. -/
def claimsOf (declaration : Value) : List Claim :=
  match declaration with
  | .dict entries =>
      match Entries.get entries "references" with
      | .dict references =>
          claimsFrom (Entries.get references "table") (orEmpty (Entries.get references "columns")) 0
            (itemsOf (Entries.get entries "columns"))
      | _ => []
  | _ => []

/-- The claims of all foreign keys of a table, in document order. -/
def claims (raw : Entries) : List Claim := (itemsOf (raw.get "foreign_keys")).flatMap claimsOf

/-- The first claim on a column. -/
def Column.firstClaim? (column : Column) (claims : List Claim) : Option Claim :=
  claims.find? fun claim => column.isNamedBy claim.name

/-- What becomes of a column under claims: without a foreign key of its own it takes that of the
first claim on it. -/
def Column.settled? (claims : List Claim) (column : Column) : Except Obstacle Column :=
  match column.fk, column.firstClaim? claims with
  | none, some claim => claim.foreignKey?.map fun fk => { column with fk := some fk }
  | _, _ => .ok column

/-- Let a claim give its foreign key to the column it names, if that has none yet. -/
def takeClaim (columns : List Column) (claim : Claim) : Except Obstacle (List Column) :=
  match openColumn? columns claim.name with
  | some column => claim.foreignKey?.map fun fk =>
      Keyed.update Column.name column.name (fun column => { column with fk := some fk }) columns
  | none => .ok columns

/-- Whether a value can be walked through and yields only items that can be looked up. -/
def namesColumns (value : Value) : Bool :=
  match walk value with
  | .ok names => Value.allHashable names
  | .error _ => false

/-- Whether the columns that a table-level foreign key names can be looked up; without a reference
they are not looked at. -/
def isFollowable (declaration : Value) : Bool :=
  match declaration with
  | .dict entries =>
      match Entries.get entries "references" with
      | .dict _ => namesColumns (Entries.get entries "columns")
      | _ => true
  | _ => true

section Walking

theorem itemsOf_of_walk {value : Value} {items : List Value} (walked : walk value = .ok items) :
    itemsOf value = items := by
  rw [itemsOf, walked]
  rfl

theorem allHashable_iff {names : List Value} :
    Value.allHashable names = true ↔ ∀ name ∈ names, name.isHashable = true := by
  induction names with
  | nil => simp [Value.allHashable]
  | cons name names ih => simp [Value.allHashable, ih]

theorem namesColumns_iff {value : Value} :
    namesColumns value = true ↔
      ∃ names, walk value = .ok names ∧ ∀ name ∈ names, name.isHashable = true := by
  unfold namesColumns
  cases walk value with
  | ok names => simp [allHashable_iff]
  | error obstacle => simp

theorem mem_namedEntries_iff {key : String} {items : List Value} {entries : Entries} :
    entries ∈ namedEntries key items ↔
      .dict entries ∈ items ∧ (entries.get key).isTruthy = true := by
  rw [namedEntries, List.mem_filterMap]
  constructor
  · rintro ⟨item, member, same⟩
    split at same
    · split at same
      · next named =>
        cases same
        exact ⟨member, named⟩
      · cases same
    · cases same
  · rintro ⟨member, named⟩
    exact ⟨.dict entries, member, if_pos named⟩

end Walking

section Marking

variable {columns marked : List Column} {name : Value} {names : List Value}

theorem markedBy_nil (column : Column) : column.markedBy [] = column := by
  rw [Column.markedBy, List.any_nil, Bool.or_false]

theorem markedBy_cons (column : Column) (name : Value) (names : List Value) :
    (column.markedBy [name]).markedBy names = column.markedBy (name :: names) := by
  change { column with
    pk := (column.pk || [name].any column.isNamedBy) || names.any column.isNamedBy } = _
  rw [Bool.or_assoc, ← List.any_append]
  rfl

/-- A key name that names none of some columns marks none of them. -/
theorem map_markedBy_of_unnamed (unnamed : ∀ column ∈ columns, column.isNamedBy name = false) :
    columns.map (Column.markedBy [name]) = columns := by
  refine (List.map_congr_left fun column member => ?_).trans (List.map_id' columns)
  rw [Column.markedBy, List.any_cons, unnamed column member]
  exact markedBy_nil column

/-- A text marks the column of that name. -/
theorem map_markedBy_text (s : String) :
    columns.map (Column.markedBy [.text s]) =
      Keyed.update Column.name s (fun column => { column with pk := true }) columns := by
  refine List.map_congr_left fun column _ => ?_
  by_cases same : column.name = s
  · simp [Column.markedBy, Column.isNamedBy, same]
  · have unnamed : column.isNamedBy (.text s) = false := beq_false_of_ne (Ne.symm same)
    rw [if_neg same, Column.markedBy, List.any_cons, unnamed]
    exact markedBy_nil column

theorem markKeys_cons (columns : List Column) (name : Value) (names : List Value) :
    markKeys columns (name :: names) =
      if name.isHashable then markKeys (columns.map (Column.markedBy [name])) names
      else .error .unhashable := by
  cases name with
  | scalar scalar =>
    cases scalar with
    | text s =>
      rw [map_markedBy_text]
      rfl
    | _ =>
      rw [map_markedBy_of_unnamed fun _ _ => rfl]
      rfl
  | tuple items =>
    rw [map_markedBy_of_unnamed fun _ _ => rfl]
    change (if !(Value.tuple items).isHashable then _ else markKeys columns names) = _
    cases (Value.tuple items).isHashable <;> rfl
  | _ => rfl

/-- Marking succeeds when every key name can be looked up, and then marks what they name. -/
theorem markKeys_eq_ok_iff : markKeys columns names = .ok marked ↔
    (∀ name ∈ names, name.isHashable = true) ∧ columns.map (Column.markedBy names) = marked := by
  induction names generalizing columns with
  | nil =>
    have same : columns.map (Column.markedBy []) = columns := by
      rw [funext markedBy_nil, List.map_id']
    simp [markKeys, same]
  | cons name names ih =>
    have behind : (columns.map (Column.markedBy [name])).map (Column.markedBy names) =
        columns.map (Column.markedBy (name :: names)) := by
      rw [List.map_map]
      exact List.map_congr_left fun column _ => markedBy_cons column name names
    rw [List.forall_mem_cons, and_assoc, markKeys_cons, ← behind]
    by_cases hashable : name.isHashable = true
    · rw [if_pos hashable, and_iff_right hashable, ih]
    · rw [if_neg hashable]
      simp [hashable]

end Marking

section Claims

variable {columns linked : List Column} {rest : List Claim} {claim : Claim}

theorem isNamedBy_iff {column : Column} {name : Value} :
    column.isNamedBy name = true ↔ name = .text column.name := by
  constructor
  · intro named
    cases name with
    | scalar scalar =>
      cases scalar with
      | text s => rw [beq_iff_eq.mp named]
      | _ => cases named
    | _ => cases named
  · rintro rfl
    exact beq_self_eq_true column.name

theorem openColumn?_eq_some_iff (nodup : (columns.map Column.name).Nodup) {name : Value}
    {column : Column} : openColumn? columns name = some column ↔
      column ∈ columns ∧ column.isNamedBy name = true ∧ column.fk = none := by
  rw [isNamedBy_iff]
  constructor
  · intro found
    unfold openColumn? at found
    split at found
    · next s =>
      obtain ⟨held, unlinked⟩ := Option.filter_eq_some_iff.mp found
      obtain ⟨member, same⟩ := Keyed.key_of_find? held
      exact ⟨member, by rw [same], Option.isNone_iff_eq_none.mp unlinked⟩
    · cases found
  · rintro ⟨member, rfl, unlinked⟩
    refine Option.filter_eq_some_iff.mpr ⟨Keyed.find?_of_mem nodup member, ?_⟩
    rw [unlinked]
    rfl

theorem settled?_of_linked {column : Column} (linked : column.fk ≠ none) (claims : List Claim) :
    column.settled? claims = .ok column := by
  unfold Column.settled?
  split
  · next unlinked _ => exact (linked unlinked).elim
  · rfl

theorem settled?_nil (column : Column) : column.settled? [] = .ok column := by
  unfold Column.settled?
  split
  · next found => cases found
  · rfl

theorem settled?_cons_of_unnamed {column : Column}
    (unnamed : column.isNamedBy claim.name = false) :
    column.settled? (claim :: rest) = column.settled? rest := by
  unfold Column.settled? Column.firstClaim?
  rw [List.find?_cons_of_neg (by simp [unnamed])]

theorem settled?_cons_of_open {column : Column} (named : column.isNamedBy claim.name = true)
    (unlinked : column.fk = none) :
    column.settled? (claim :: rest) =
      claim.foreignKey?.map fun fk => { column with fk := some fk } := by
  unfold Column.settled? Column.firstClaim?
  rw [List.find?_cons_of_pos (by simp [named]), unlinked]

/-- Claims settle a column one after the other: what the first one gives stays. -/
theorem settled?_cons (column : Column) :
    column.settled? (claim :: rest) = column.settled? [claim] >>= Column.settled? rest := by
  cases held : column.fk with
  | some fk =>
    have linked : column.fk ≠ none := by simp [held]
    rw [settled?_of_linked linked, settled?_of_linked linked]
    exact (settled?_of_linked linked rest).symm
  | none =>
    cases named : column.isNamedBy claim.name with
    | false =>
      rw [settled?_cons_of_unnamed named, settled?_cons_of_unnamed named, settled?_nil]
      rfl
    | true =>
      rw [settled?_cons_of_open named held, settled?_cons_of_open named held]
      cases claim.foreignKey? with
      | error obstacle => rfl
      | ok fk => exact (settled?_of_linked (Option.some_ne_none fk) rest).symm

theorem settled?_of_open (nodup : (columns.map Column.name).Nodup) {column : Column}
    (opened : openColumn? columns claim.name = some column) :
    column.settled? [claim] = claim.foreignKey?.map fun fk => { column with fk := some fk } := by
  obtain ⟨_, named, unlinked⟩ := (openColumn?_eq_some_iff nodup).mp opened
  exact settled?_cons_of_open named unlinked

/-- A claim leaves every column alone but the one that is open to it. -/
theorem settled?_of_not_open (nodup : (columns.map Column.name).Nodup) {column : Column}
    (closed : openColumn? columns claim.name ≠ some column) (member : column ∈ columns) :
    column.settled? [claim] = .ok column := by
  by_cases unlinked : column.fk = none
  · have unnamed : column.isNamedBy claim.name = false := by
      by_contra named
      apply closed
      exact (openColumn?_eq_some_iff nodup).mpr ⟨member, by simpa using named, unlinked⟩
    rw [settled?_cons_of_unnamed unnamed]
    exact settled?_nil column
  · exact settled?_of_linked unlinked [claim]

/-- Among columns of different names a claim works on each as on that column alone. -/
theorem takeClaim_eq_ok_iff (nodup : (columns.map Column.name).Nodup) :
    takeClaim columns claim = .ok linked ↔
      columns.mapM (Column.settled? [claim]) = .ok linked := by
  unfold takeClaim
  cases found : openColumn? columns claim.name with
  | none =>
    have same : columns.mapM (Column.settled? [claim]) = .ok (columns.map id) :=
      Attempt.mapM_of_ok fun column member => settled?_of_not_open nodup (by simp [found]) member
    rw [same, List.map_id]
  | some column =>
    have member := ((openColumn?_eq_some_iff nodup).mp found).1
    have here := settled?_of_open nodup found
    cases given : claim.foreignKey? with
    | error obstacle =>
      rw [given] at here
      constructor
      · intro success
        cases success
      · intro success
        obtain ⟨_, settled⟩ := Attempt.exists_mapM_iff.mp ⟨linked, success⟩ column member
        rw [here] at settled
        cases settled
    | ok fk =>
      rw [given] at here
      have each : columns.mapM (Column.settled? [claim]) = .ok (Keyed.update Column.name column.name
          (fun column => { column with fk := some fk }) columns) := by
        refine Attempt.mapM_of_ok fun other inside => ?_
        by_cases same : other.name = column.name
        · rw [List.inj_on_of_nodup_map nodup inside member same, if_pos rfl]
          exact here
        · rw [if_neg same]
          apply settled?_of_not_open nodup _ inside
          intro opened
          rw [found] at opened
          cases opened
          exact same rfl
      rw [each]
      rfl

theorem name_of_settled {claims : List Claim} {column settled : Column}
    (success : column.settled? claims = .ok settled) : settled.name = column.name := by
  unfold Column.settled? at success
  split at success
  · next claim _ _ =>
    cases given : claim.foreignKey? with
    | error obstacle =>
      rw [given] at success
      cases success
    | ok fk =>
      rw [given] at success
      cases success
      rfl
  · cases success
    rfl

/-- Claims taken one after the other settle each column on its own. -/
theorem foldlM_takeClaim_eq_ok_iff (nodup : (columns.map Column.name).Nodup)
    {claims : List Claim} : claims.foldlM takeClaim columns = .ok linked ↔
      columns.mapM (Column.settled? claims) = .ok linked := by
  induction claims generalizing columns with
  | nil =>
    have same : columns.mapM (Column.settled? []) = .ok (columns.map id) :=
      Attempt.mapM_of_ok fun column _ => settled?_nil column
    rw [same, List.map_id]
    rfl
  | cons claim rest ih =>
    rw [List.foldlM_cons, Attempt.bind_eq_ok_iff, funext settled?_cons,
      Attempt.mapM_bind_eq_ok_iff]
    refine exists_congr fun between => ?_
    rw [takeClaim_eq_ok_iff nodup]
    refine and_congr_right fun settled => ih ?_
    rwa [Attempt.map_eq_of_mapM settled fun _ _ => name_of_settled]

end Claims

section Declarations

variable {columns linked keyed : List Column} {table referred : Value} {names : List Value}

theorem claimsFrom_cons (name : Value) (position : Nat) :
    claimsFrom table referred position (name :: names) =
      (if table.isTruthy then [⟨name, table, referred, position⟩] else []) ++
        claimsFrom table referred (position + 1) names := by
  unfold claimsFrom
  split <;> rfl

theorem linkColumns_cons (columns : List Column) (position : Nat) (name : Value) :
    linkColumns table referred columns position (name :: names) =
      if name.isHashable then
        (if table.isTruthy then [⟨name, table, referred, position⟩] else []).foldlM takeClaim
          columns >>= fun next => linkColumns table referred next (position + 1) names
      else .error .unhashable := by
  rw [linkColumns]
  by_cases hashable : name.isHashable = true
  · rw [if_neg (by simp [hashable]), if_pos hashable]
    by_cases refers : table.isTruthy = true
    · simp only [if_pos refers, List.foldlM_cons, List.foldlM_nil]
      unfold takeClaim
      cases openColumn? columns name with
      | none => rfl
      | some column =>
        unfold Claim.foreignKey?
        cases itemAt referred position <;> rfl
    · simp only [if_neg refers, List.foldlM_nil]
      cases openColumn? columns name <;> rfl
  · rw [if_pos (by simp [hashable]), if_neg hashable]

/-- Linking succeeds when every column can be looked up and every claim be taken. -/
theorem linkColumns_eq_ok_iff {position : Nat} :
    linkColumns table referred columns position names = .ok linked ↔
      (∀ name ∈ names, name.isHashable = true) ∧
        (claimsFrom table referred position names).foldlM takeClaim columns = .ok linked := by
  induction names generalizing columns position with
  | nil =>
    have none : claimsFrom table referred position [] = [] := by simp [claimsFrom]
    rw [none, linkColumns, List.foldlM_nil]
    simp [pure, Except.pure]
  | cons name names ih =>
    rw [List.forall_mem_cons, and_assoc, linkColumns_cons, claimsFrom_cons, List.foldlM_append]
    by_cases hashable : name.isHashable = true
    · rw [if_pos hashable, and_iff_right hashable]
      simp only [Attempt.bind_eq_ok_iff, ih]
      constructor
      · rintro ⟨next, here, behind, success⟩
        exact ⟨behind, next, here, success⟩
      · rintro ⟨behind, next, here, success⟩
        exact ⟨next, here, behind, success⟩
    · rw [if_neg hashable]
      simp [hashable]

/-- A table-level foreign key is applied when its columns can be looked up and its claims be
taken. -/
theorem linkDeclaration_eq_ok_iff {declaration : Value} :
    linkDeclaration columns declaration = .ok linked ↔
      isFollowable declaration = true ∧
        (claimsOf declaration).foldlM takeClaim columns = .ok linked := by
  cases declaration with
  | dict entries =>
    cases held : Entries.get entries "references" with
    | dict references =>
      simp only [linkDeclaration, isFollowable, claimsOf, held]
      rw [Attempt.bind_eq_ok_iff, namesColumns_iff]
      constructor
      · rintro ⟨names, walked, success⟩
        obtain ⟨hashable, success⟩ := linkColumns_eq_ok_iff.mp success
        exact ⟨⟨names, walked, hashable⟩, itemsOf_of_walk walked ▸ success⟩
      · rintro ⟨⟨names, walked, hashable⟩, success⟩
        rw [itemsOf_of_walk walked] at success
        exact ⟨names, walked, linkColumns_eq_ok_iff.mpr ⟨hashable, success⟩⟩
    | _ => simp [linkDeclaration, isFollowable, claimsOf, held, pure, Except.pure]
  | _ => simp [linkDeclaration, isFollowable, claimsOf, pure, Except.pure]

/-- Foreign keys applied one after the other take all their claims one after the other. -/
theorem foldlM_linkDeclaration_eq_ok_iff {declarations : List Value} :
    declarations.foldlM linkDeclaration columns = .ok linked ↔
      (∀ declaration ∈ declarations, isFollowable declaration = true) ∧
        (declarations.flatMap claimsOf).foldlM takeClaim columns = .ok linked := by
  induction declarations generalizing columns with
  | nil => simp
  | cons declaration rest ih =>
    rw [List.foldlM_cons, List.forall_mem_cons, List.flatMap_cons, List.foldlM_append]
    simp only [Attempt.bind_eq_ok_iff, linkDeclaration_eq_ok_iff, ih]
    constructor
    · rintro ⟨next, ⟨here, taken⟩, behind, success⟩
      exact ⟨⟨here, behind⟩, next, taken, success⟩
    · rintro ⟨⟨here, behind⟩, next, taken, success⟩
      exact ⟨next, ⟨here, taken⟩, behind, success⟩

/-- The table-level declarations of a table can be followed: they can be walked through, and what
they name can be looked up. -/
structure Followable (raw : Entries) : Prop where
  keys : namesColumns (raw.get "primary_key") = true
  foreign : ∃ declarations, walk (raw.get "foreign_keys") = .ok declarations
  links : ∀ declaration ∈ itemsOf (raw.get "foreign_keys"), isFollowable declaration = true

/-- What the table-level declarations of a table make of a column. -/
def Column.folded? (raw : Entries) (column : Column) : Except Obstacle Column :=
  (column.markedBy (itemsOf (raw.get "primary_key"))).settled? (claims raw)

/-- The declarations for a whole table work on each column as on that column alone. -/
theorem keyedColumns?_eq_ok_iff {raw : Entries} (nodup : (columns.map Column.name).Nodup) :
    keyedColumns? raw columns = .ok keyed ↔
      Followable raw ∧ columns.mapM (Column.folded? raw) = .ok keyed := by
  have marked (names : List Value) :
      ((columns.map (Column.markedBy names)).map Column.name).Nodup := by
    rw [List.map_map]
    exact nodup
  have split : columns.mapM (Column.folded? raw) =
      (columns.map (Column.markedBy (itemsOf (raw.get "primary_key")))).mapM
        (Column.settled? (claims raw)) := by
    rw [List.mapM_map]
    rfl
  rw [split, ← foldlM_takeClaim_eq_ok_iff (marked _), keyedColumns?]
  simp only [Attempt.bind_eq_ok_iff, markKeys_eq_ok_iff, foldlM_linkDeclaration_eq_ok_iff]
  constructor
  · rintro ⟨names, keys, _, ⟨hashable, rfl⟩, declarations, foreign, links, success⟩
    rw [claims, itemsOf_of_walk keys, itemsOf_of_walk foreign]
    refine ⟨⟨namesColumns_iff.mpr ⟨names, keys, hashable⟩, ⟨declarations, foreign⟩, ?_⟩, success⟩
    rwa [itemsOf_of_walk foreign]
  · rintro ⟨⟨keys, ⟨declarations, foreign⟩, links⟩, success⟩
    obtain ⟨names, keys, hashable⟩ := namesColumns_iff.mp keys
    rw [claims, itemsOf_of_walk keys, itemsOf_of_walk foreign] at success
    rw [itemsOf_of_walk foreign] at links
    exact ⟨names, keys, _, ⟨hashable, rfl⟩, declarations, foreign, links, success⟩

end Declarations

end SchemaAtlas.Schema
