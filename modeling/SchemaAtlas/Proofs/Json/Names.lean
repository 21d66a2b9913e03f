import SchemaAtlas.Attempt
import SchemaAtlas.Json.Reader
import SchemaAtlas.Proofs.Attempt
import SchemaAtlas.Proofs.Document.Entries

/-! # Names in JSON

The members of a JSON object are named by strings, so a dictionary that was read from JSON has no
keys but texts. What is neither a string nor a collection is read as a scalar.
-/

namespace SchemaAtlas.Json

open Document

theorem exists_scalar_of_value {numeral : Numeral} {value : Value}
    (success : numeral.value = .ok value) : ∃ s, value = .scalar s := by
  rw [Numeral.value] at success
  split at success
  · split at success
    · cases success
    · cases success
      exact ⟨_, rfl⟩
  · cases success
    exact ⟨_, rfl⟩

theorem exists_scalar_of_readAtom {cs : List Char} {found : Read Value cs}
    (success : readAtom cs = .ok found) : ∃ s, found.value = .scalar s := by
  rw [readAtom] at success
  split at success
  · next value rest known =>
    have scalars : ∀ entry ∈ words, ∃ s, entry.2 = .scalar s := by simp [words]
    obtain ⟨entry, member, opened⟩ := List.exists_of_findSome?_eq_some known
    obtain ⟨_, _, same⟩ := Option.map_eq_some_iff.mp opened
    split at success
    · cases success
      cases same
      exact scalars entry member
    · cases success
  · split at success
    · cases success
    · split at success
      · obtain ⟨value, read, success⟩ := Attempt.bind_eq_ok_iff.mp success
        cases success
        exact exists_scalar_of_value read
      · cases success

/-- A key is a text. -/
def IsName (key : Scalar) : Prop := ∃ s, key = .text s

end SchemaAtlas.Json
