import SchemaAtlas.Document.Value
import Mathlib.Data.List.Nodup

/-! # Entries under different names

Storing entries one after the other keeps them all, in their order, when no two share a key. Whether
they do or not, a dictionary holds no keys and no values but those that were stored.
-/

namespace SchemaAtlas.Document.Entries

theorem insert_of_new {entries : Entries} {key : Scalar} {value : Value}
    (new : key.key ∉ entries.map fun entry => entry.1.key) :
    entries.insert key value = entries ++ [(key, value)] := by
  induction entries with
  | nil => rfl
  | cons entry entries ih =>
    obtain ⟨differs, behind⟩ := not_or.mp (List.mem_cons.not.mp new)
    rw [insert, if_neg (Ne.symm differs), ih behind]
    rfl

/-- A dictionary built from entries under different keys holds just these. -/
theorem ofList_of_nodup {entries : Entries}
    (nodup : (entries.map fun entry => entry.1.key).Nodup) : ofList entries = entries := by
  suffices ∀ stored : Entries, ((stored ++ entries).map fun entry => entry.1.key).Nodup →
      stored.override entries = stored ++ entries from this [] nodup
  clear nodup
  induction entries with
  | nil => exact fun stored _ => (List.append_nil stored).symm
  | cons entry entries ih =>
    intro stored nodup
    have apart : stored ++ entry :: entries = (stored ++ [entry]) ++ entries := by simp
    have new : entry.1.key ∉ stored.map fun entry => entry.1.key := by
      rw [List.map_append, List.nodup_append] at nodup
      exact fun member => nodup.2.2 _ member _ List.mem_cons_self rfl
    rw [apart] at nodup ⊢
    rw [← ih _ nodup, override, List.foldl_cons, insert_of_new new]
    rfl

/-- Storing a value changes what is found under its key alone. -/
theorem find?_insert (entries : Entries) (key : Scalar) (value : Value) (wanted : Key) :
    (entries.insert key value).find? wanted =
      if key.key = wanted then some value else entries.find? wanted := by
  induction entries with
  | nil => by_cases same : key.key = wanted <;> simp [insert, find?, same]
  | cons entry entries ih =>
    obtain ⟨other, old⟩ := entry
    unfold find? at ih ⊢
    rw [insert]
    split
    · next replaced => by_cases same : key.key = wanted <;> simp [replaced, same]
    · next differs =>
      by_cases found : other.key = wanted
      · have apart : ¬ key.key = wanted := fun same => differs (found.trans same.symm)
        simp [found, apart]
      · simp [found, ih]

theorem get_set (entries : Entries) (name : String) (value : Value) (wanted : String) :
    (entries.set name value).get wanted = if name = wanted then value else entries.get wanted := by
  rw [get, get?, set, find?_insert]
  by_cases same : name = wanted
  · simp [Scalar.key, same]
  · simp [Scalar.key, same, get, get?]

/-- What holds of the keys and of the values of a dictionary holds after one more is stored. -/
theorem forall_mem_insert {P : Scalar → Prop} {Q : Value → Prop} {entries : Entries} {key : Scalar}
    {value : Value} (each : ∀ entry ∈ entries, P entry.1 ∧ Q entry.2) (new : P key ∧ Q value) :
    ∀ entry ∈ entries.insert key value, P entry.1 ∧ Q entry.2 := by
  induction entries with
  | nil =>
    intro entry member
    rw [List.mem_singleton.mp member]
    exact new
  | cons first rest ih =>
    obtain ⟨here, behind⟩ := List.forall_mem_cons.mp each
    rw [insert]
    split
    · exact List.forall_mem_cons.mpr ⟨⟨here.1, new.2⟩, behind⟩
    · exact List.forall_mem_cons.mpr ⟨here, ih behind⟩

/-- What holds of the keys and of the values of entries holds of the dictionary built from them. -/
theorem forall_mem_ofList {P : Scalar → Prop} {Q : Value → Prop} {members : List (Scalar × Value)}
    (each : ∀ member ∈ members, P member.1 ∧ Q member.2) :
    ∀ entry ∈ ofList members, P entry.1 ∧ Q entry.2 := by
  suffices ∀ stored : Entries, (∀ entry ∈ stored, P entry.1 ∧ Q entry.2) →
      ∀ entry ∈ stored.override members, P entry.1 ∧ Q entry.2 from this [] (by simp)
  induction members with
  | nil => exact fun _ held => held
  | cons member members ih =>
    obtain ⟨here, behind⟩ := List.forall_mem_cons.mp each
    exact fun stored held => ih behind _ (forall_mem_insert held here)

theorem ofList_named {pairs : List (String × Value)} (nodup : (pairs.map Prod.fst).Nodup) :
    ofList (named pairs) = named pairs := by
  refine ofList_of_nodup ?_
  rw [named, List.map_map]
  have keys : (fun entry : Scalar × Value => entry.1.key) ∘
      (fun pair : String × Value => (Scalar.text pair.1, pair.2)) = Key.text ∘ Prod.fst := rfl
  rw [keys, ← List.map_map]
  exact nodup.map fun _ _ same => Key.text.inj same

/-- Among pairs of different names, a name reads as the value that it is paired with. -/
theorem get_named_of_mem {pairs : List (String × Value)} (nodup : (pairs.map Prod.fst).Nodup)
    {name : String} {value : Value} (member : (name, value) ∈ pairs) :
    (named pairs).get name = value := by
  induction pairs with
  | nil => cases member
  | cons pair pairs ih =>
    obtain ⟨other, held⟩ := pair
    obtain ⟨new, nodup⟩ := List.nodup_cons.mp nodup
    rw [named_cons, get_text_cons]
    rcases List.mem_cons.mp member with same | member
    · cases same
      rw [if_pos rfl]
    · have differs : other ≠ name := by
        rintro rfl
        exact new (List.mem_map.mpr ⟨_, member, rfl⟩)
      rw [if_neg differs, ih nodup member]

end SchemaAtlas.Document.Entries
