import SchemaAtlas.Document.Writable
import SchemaAtlas.Proofs.Document.Entries
import Mathlib.Algebra.Ring.Nat

/-! # What is inside a value that can be written

A value that can be written holds nothing that cannot: its items, its members, and the keys and
values of its entries can be written too. A value that counts as absent is short enough in any case.
-/

namespace SchemaAtlas.Decimal

/-- A number has at most so many digits exactly when it is below that power of ten. -/
theorem fits_iff {digits n : Nat} : fits digits n = true ↔ n < 10 ^ digits := by
  induction digits generalizing n with
  | zero => simp [fits]
  | succ digits ih =>
    rw [fits, Bool.or_eq_true, ih, beq_iff_eq, Nat.div_lt_iff_lt_mul (by decide), ← Nat.pow_succ]
    have positive : 0 < 10 ^ (digits + 1) := Nat.pow_pos (by decide)
    omega

end SchemaAtlas.Decimal

namespace SchemaAtlas.Document

/-- Every value of a list can be written. -/
def AllWritable (values : List Value) : Prop := ∀ value ∈ values, value.isWritable = true

theorem AllWritable.append {first second : List Value} (here : AllWritable first)
    (there : AllWritable second) : AllWritable (first ++ second) :=
  List.forall_mem_append.mpr ⟨here, there⟩

theorem allWritable_cons {value : Value} {values : List Value} :
    AllWritable (value :: values) ↔ value.isWritable = true ∧ AllWritable values :=
  List.forall_mem_cons

theorem allWritable_append {first second : List Value} :
    AllWritable (first ++ second) ↔ AllWritable first ∧ AllWritable second :=
  List.forall_mem_append

theorem allWritable_nil : AllWritable [] := fun _ member => absurd member List.not_mem_nil

theorem allWritable_flatMap {α : Type} {shown : α → List Value} {items : List α} :
    AllWritable (items.flatMap shown) ↔ ∀ item ∈ items, AllWritable (shown item) :=
  List.forall_mem_flatMap

section Showing

variable {α : Type} {shown : List Value} {made result : α}

/-- What shows values is made exactly when each of them can be written. -/
theorem showing_eq_ok_iff :
    showing shown made = .ok result ↔ AllWritable shown ∧ made = result := by
  rw [AllWritable, ← List.all_eq_true, showing]
  cases shown.all Value.isWritable <;> simp

theorem showing_of_writable (writable : AllWritable shown) : showing shown made = .ok made :=
  showing_eq_ok_iff.mpr ⟨writable, rfl⟩

/-- Otherwise nothing is made. -/
theorem showing_of_not_writable (long : ¬ AllWritable shown) : showing shown made = .error ⟨⟩ := by
  rw [AllWritable, ← List.all_eq_true] at long
  rw [showing, if_neg long]

/-- An attempt at something that shows values: what is made when each of them can be written has a
property, and nothing is made otherwise. -/
inductive Made (shown : List Value) (property : α → Prop) : Except TooLong α → Prop where
  | made {result : α} (writable : AllWritable shown) (holds : property result) :
    Made shown property (.ok result)
  | unmade (long : ¬ AllWritable shown) : Made shown property (.error ⟨⟩)

theorem made_showing {property : α → Prop} (holds : property made) :
    Made shown property (showing shown made) := by
  by_cases writable : AllWritable shown
  · exact showing_of_writable writable ▸ .made writable holds
  · exact showing_of_not_writable writable ▸ .unmade writable

theorem exists_showing_iff : (∃ result, showing shown made = .ok result) ↔ AllWritable shown := by
  simp only [showing_eq_ok_iff, exists_and_left, exists_eq', and_true]

end Showing

section Parts

variable {value : Value} {entries : Entries}

theorem Value.allWritable_iff {items : List Value} :
    Value.allWritable items = true ↔ AllWritable items := by
  induction items with
  | nil => simp [Value.allWritable, AllWritable]
  | cons item items ih => rw [Value.allWritable, Bool.and_eq_true, ih, allWritable_cons]

theorem Value.entriesWritable_iff : Value.entriesWritable entries = true ↔
    ∀ entry ∈ entries, entry.1.isWritable = true ∧ entry.2.isWritable = true := by
  induction entries with
  | nil => simp [Value.entriesWritable]
  | cons entry entries ih =>
    rw [Value.entriesWritable, Bool.and_eq_true, Bool.and_eq_true, ih, List.forall_mem_cons]

theorem isWritable_find? (writable : (Value.dict entries).isWritable = true) {key : Key}
    (found : entries.find? key = some value) : value.isWritable = true := by
  obtain ⟨entry, here, rfl⟩ := Option.map_eq_some_iff.mp found
  exact (Value.entriesWritable_iff.mp writable entry (List.mem_of_find?_eq_some here)).2

/-- What a dictionary that can be written has under a name can be written, a missing value too. -/
theorem isWritable_get (writable : (Value.dict entries).isWritable = true) (name : String) :
    (entries.get name).isWritable = true := by
  rw [Entries.get, Entries.get?]
  cases found : entries.find? (.text name) with
  | none => rfl
  | some value => exact isWritable_find? writable found

theorem isWritable_entries (writable : value.isWritable = true) :
    (Value.dict value.entries).isWritable = true := by
  cases value with
  | dict entries => exact writable
  | _ => rfl

theorem isWritable_of_mem_list {items : List Value} (writable : (Value.list items).isWritable = true)
    (member : value ∈ items) : value.isWritable = true :=
  Value.allWritable_iff.mp writable value member

/-- Entries that are left of a dictionary that can be written can be written. -/
theorem isWritable_filter (writable : (Value.dict entries).isWritable = true)
    (keeps : Scalar × Value → Bool) : (Value.dict (entries.filter keeps)).isWritable = true :=
  Value.entriesWritable_iff.mpr fun entry member =>
    Value.entriesWritable_iff.mp writable entry (List.mem_of_mem_filter member)

/-- A number of few digits can be written. -/
theorem isWritable_ofNat {n : Nat} (small : n < 1000) : (Value.int n).isWritable = true := by
  refine Decimal.fits_iff.mpr (Nat.lt_of_lt_of_le small ?_)
  exact Nat.pow_le_pow_right (show 0 < 10 by decide) (show 3 ≤ Decimal.mostDigits by decide)

theorem isWritable_octet (octet : UInt8) : (Value.int octet.toNat).isWritable = true :=
  isWritable_ofNat (Nat.lt_trans octet.toNat_lt (by decide))

end Parts

section Limit

/-- The least whole number of too many digits. -/
def overlong : Nat := 10 ^ Decimal.mostDigits

theorem overlong_ne_zero : overlong ≠ 0 := Nat.ne_of_gt (Nat.pow_pos (by decide))

theorem not_isWritable_overlong : (Value.int overlong).isWritable = false :=
  Bool.eq_false_iff.mpr fun short => Nat.lt_irrefl overlong (Decimal.fits_iff.mp short)

theorem isTruthy_overlong : (Value.int overlong).isTruthy = true :=
  bne_iff_ne.mpr (Int.natCast_ne_zero.mpr overlong_ne_zero)

end Limit

end SchemaAtlas.Document
