import SchemaAtlas.Structure.Rule

/-! # What values without findings look like

A rule admits a value when it finds nothing about it. A record is then a dictionary with a value for
each required field, and each field that it has is admitted by the field's own rule; a list is then
of the list kind, and each of its items is admitted.
-/

namespace SchemaAtlas.Structure

open Document

/-- A rule finds nothing about a value. -/
def Rule.Admits (rule : Rule) (value : Value) : Prop := rule.check value = []

theorem findInItems_eq_nil_iff {check : Value → List Finding} {position : Nat}
    {items : List Value} :
    findInItems check position items = [] ↔ ∀ item ∈ items, check item = [] := by
  induction items generalizing position with
  | nil => simp [findInItems]
  | cons item items ih => simp [findInItems, ih]

/-- A field keeps its rule: it is there and admitted, or missing and not required. -/
def KeepsField (entries : Entries) (name : String) (required : Bool) (rule : Rule) : Prop :=
  (∃ field, entries.get? name = some field ∧ rule.Admits field) ∨
    entries.get? name = none ∧ required = false

theorem checkFields_eq_nil_iff {fields : List (String × Bool × Rule)} {value : Value} :
    checkFields fields value = [] ↔ ∀ name required rule, (name, required, rule) ∈ fields →
      KeepsField value.entries name required rule := by
  induction fields with
  | nil => simp [checkFields]
  | cons field fields ih =>
    obtain ⟨name, required, rule⟩ := field
    have split : checkFields ((name, required, rule) :: fields) value = [] ↔
        KeepsField value.entries name required rule ∧ checkFields fields value = [] := by
      rw [checkFields, List.append_eq_nil_iff, KeepsField]
      cases Entries.get? value.entries name <;> simp [Rule.Admits]
    rw [split, ih]
    constructor
    · rintro ⟨first, others⟩ name' required' rule' member
      rcases List.mem_cons.mp member with same | member
      · cases same
        exact first
      · exact others name' required' rule' member
    · intro each
      exact ⟨each name required rule List.mem_cons_self,
        fun name' required' rule' member =>
          each name' required' rule' (List.mem_cons_of_mem _ member)⟩

/-- A value other than null is admitted when it is of an admitted kind, not empty where it must not
be, and nothing is found about what it contains. -/
theorem admits_mk_iff {kinds : List Kind} {nullable nonempty : Bool} {items : Option Rule}
    {fields : List (String × Bool × Rule)} {value : Value} (present : value ≠ .null) :
    (Rule.mk kinds nullable nonempty items fields).Admits value ↔
      kinds.any (·.holds value) = true ∧ (nonempty = true → value.isTruthy = true) ∧
        checkItems items value = [] ∧ checkFields fields value = [] := by
  have check : (Rule.mk kinds nullable nonempty items fields).check value =
      if !kinds.any (·.holds value) then [⟨[], .kind kinds⟩]
      else if nonempty && !value.isTruthy then [⟨[], .empty⟩]
      else checkItems items value ++ checkFields fields value := by
    unfold Rule.check
    split
    · contradiction
    · rfl
  rw [Rule.Admits, check]
  cases kinds.any (·.holds value) <;> cases nonempty <;> cases value.isTruthy <;> simp

theorem not_admits_null {kinds : List Kind} {nonempty : Bool} {items : Option Rule}
    {fields : List (String × Bool × Rule)} :
    ¬ (Rule.mk kinds false nonempty items fields).Admits .null := by
  simp [Rule.Admits, Rule.check]

/-- What is admitted where null is not is of an admitted kind. -/
theorem holds_of_admits {kinds : List Kind} {nonempty : Bool} {items : Option Rule}
    {fields : List (String × Bool × Rule)} {value : Value}
    (admitted : (Rule.mk kinds false nonempty items fields).Admits value) :
    value ≠ .null ∧ kinds.any (·.holds value) = true := by
  have present : value ≠ .null := by
    rintro rfl
    exact not_admits_null admitted
  exact ⟨present, ((admits_mk_iff present).mp admitted).1⟩

theorem exists_text_of_string {value : Value} (kind : Kind.string.holds value = true) :
    ∃ s, value = .text s := by
  unfold Kind.holds at kind
  split at kind <;> first | exact ⟨_, rfl⟩ | contradiction

theorem exists_entries_of_dict {value : Value} (kind : Kind.dict.holds value = true) :
    ∃ entries, value = .dict entries := by
  unfold Kind.holds at kind
  split at kind <;> first | exact ⟨_, rfl⟩ | contradiction

theorem exists_text_of_of {value : Value} (admitted : (Rule.of [.string]).Admits value) :
    ∃ s, value = .text s := by
  obtain ⟨_, kind⟩ := holds_of_admits admitted
  exact exists_text_of_string (by simpa using kind)

/-- The items of an admitted list are admitted. -/
theorem items_of_listOf {items : Rule} {value : Value}
    (admitted : (Rule.listOf items).Admits value) :
    Kind.list.holds value = true ∧ ∀ item ∈ listItems value, items.Admits item := by
  obtain ⟨present, kind⟩ := holds_of_admits admitted
  have each := ((admits_mk_iff present).mp admitted).2.2.1
  rw [checkItems] at each
  exact ⟨by simpa using kind, findInItems_eq_nil_iff.mp each⟩

/-- An ordinary list is admitted when each of its items is. -/
theorem admits_list_iff {items : Rule} {values : List Value} :
    (Rule.listOf items).Admits (.list values) ↔ ∀ value ∈ values, items.Admits value := by
  constructor
  · exact fun admitted => (items_of_listOf admitted).2
  · intro each
    have present : Value.list values ≠ .null := by simp
    exact (admits_mk_iff present).mpr ⟨rfl, by simp, findInItems_eq_nil_iff.mpr each, rfl⟩

section Record

variable {fields : List (String × Bool × Rule)} {value : Value} {entries : Entries}
  {name : String} {rule : Rule}

theorem entries_of_record (admitted : (Rule.record fields).Admits value) :
    ∃ entries, value = .dict entries := by
  obtain ⟨_, kind⟩ := holds_of_admits admitted
  exact exists_entries_of_dict (by simpa using kind)

/-- A dictionary is admitted as a record when it keeps the rules of the fields. -/
theorem admits_record_iff : (Rule.record fields).Admits (.dict entries) ↔
    ∀ name required rule, (name, required, rule) ∈ fields →
      KeepsField entries name required rule := by
  have present : Value.dict entries ≠ .null := by simp
  have contents : checkFields fields (.dict entries) = [] ↔
      ∀ name required rule, (name, required, rule) ∈ fields →
        KeepsField entries name required rule := checkFields_eq_nil_iff
  rw [← contents, Rule.record, admits_mk_iff present]
  simp [Kind.holds, checkItems]

/-- A required field of an admitted record is there and admitted. -/
theorem required_of_record (admitted : (Rule.record fields).Admits (.dict entries))
    (field : (name, true, rule) ∈ fields) : rule.Admits (entries.get name) := by
  have kept := admits_record_iff.mp admitted name true rule field
  rcases kept with ⟨value, found, good⟩ | ⟨_, optional⟩
  · rwa [Entries.get, found]
  · contradiction

/-- An optional field of an admitted record is admitted, or missing and reads as null. -/
theorem optional_of_record (admitted : (Rule.record fields).Admits (.dict entries))
    (field : (name, false, rule) ∈ fields) :
    rule.Admits (entries.get name) ∨ entries.get name = .null := by
  have kept := admits_record_iff.mp admitted name false rule field
  rcases kept with ⟨value, found, good⟩ | ⟨missing, _⟩
  · left
    rwa [Entries.get, found]
  · right
    rw [Entries.get, missing]
    rfl

end Record

end SchemaAtlas.Structure
