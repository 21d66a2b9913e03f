import SchemaAtlas.Proofs.Structure.Examination
import SchemaAtlas.Schema.Declaration

/-! # Reading what a rule has admitted

Reading walks through anything and skips what it cannot use. Of an admitted list nothing is skipped:
it can be walked through, its items are dictionaries, and those that need a name have one.
-/

namespace SchemaAtlas.Schema

open Document Structure

theorem walk_of_list {value : Value} (kind : Kind.list.holds value = true) :
    walk value = .ok (listItems value) := by
  cases value with
  | list items => cases items <;> rfl
  | tuple items => cases items <;> rfl
  | scalar s =>
    cases s with
    | bytes octets => cases octets <;> rfl
    | _ => cases kind
  | _ => cases kind

/-- Optional sections can be walked through alike. -/
theorem walk_of_optional {items : Rule} {value : Value}
    (admitted : (Rule.listOf items).Admits value ∨ value = .null) :
    walk value = .ok (listItems value) := by
  rcases admitted with admitted | rfl
  · exact walk_of_list (items_of_listOf admitted).1
  · rfl

/-- What an admitted list of records yields when it is walked through. -/
theorem walk_of_admits {fields : List (String × Bool × Rule)} {value : Value}
    (admitted : (Rule.listOf (.record fields)).Admits value) :
    walk value = .ok ((listed value).map .dict) := by
  rw [walk_of_list (items_of_listOf admitted).1, (listed_of_admits admitted).1]

/-- No dictionary is skipped when each has a name. -/
theorem namedEntries_eq {key : String} {raws : List Entries}
    (named : ∀ raw ∈ raws, (raw.get key).isTruthy = true) :
    namedEntries key (raws.map .dict) = raws := by
  induction raws with
  | nil => rfl
  | cons raw raws ih =>
    obtain ⟨here, behind⟩ := List.forall_mem_cons.mp named
    have rest := ih behind
    rw [namedEntries] at rest ⊢
    simp only [List.map_cons, List.filterMap_cons, here, if_true, rest]

theorem mem_listed_of_mem_listedEntries {entries : Entries} {value : Value}
    (member : entries ∈ listedEntries value) : entries ∈ listed value := by
  unfold listedEntries at member
  split at member
  · next items =>
    obtain ⟨item, inside, same⟩ := List.mem_filterMap.mp member
    refine List.mem_map.mpr ⟨item, inside, ?_⟩
    split at same
    · exact Option.some.inj same
    · cases same
  · cases member

end SchemaAtlas.Schema
