import SchemaAtlas.Attempt
import SchemaAtlas.Settings.Basic

/-! # Dialects in settings

Settings are loaded only when every dialect that they name is a known one, so scripts can be written
for the dialects of any settings.
-/

namespace SchemaAtlas.Settings

open Document

/-- Every one of some names is the name of a dialect. -/
def AllKnown (names : List String) : Prop := ∀ name ∈ names, name ∈ Dialect.all.map Dialect.name

theorem pick_cases {α : Type} (given : Entries) (name : String) (default : α)
    (read : Value → Option α) (refused : List String) :
    ((pick given name default read).run refused).1 = default ∨
      ∃ value, read value = some ((pick given name default read).run refused).1 := by
  unfold pick
  cases given.get? name with
  | none => exact .inl rfl
  | some value =>
    dsimp only
    cases known : read value with
    | none => exact .inl rfl
    | some setting => exact .inr ⟨value, known⟩

theorem allKnown_of_readDialects {value : Value} {items : List String}
    (read : readDialects value = .ok (some items)) : AllKnown items := by
  obtain ⟨values, _, read⟩ := Attempt.bind_eq_ok_iff.mp read
  obtain ⟨names, _, read⟩ := Attempt.bind_eq_ok_iff.mp read
  split at read
  · next known =>
    cases read
    intro name member
    simpa using List.all_eq_true.mp known name member
  · cases read

theorem allKnown_of_assemble (given : Entries) {dialects : Option (List String)}
    (known : ∀ items, dialects = some items → AllKnown items) (refused : List String) :
    AllKnown ((assemble given dialects).run refused).1.defaultDialects := by
  have picked (before : List String) : AllKnown
      ((pick given "default_dialects" ({} : Settings).defaultDialects fun _ => dialects).run
        before).1 := by
    rcases pick_cases given "default_dialects" ({} : Settings).defaultDialects
      (fun _ => dialects) before with default | ⟨_, read⟩
    · rw [default]
      exact fun name member => member
    · exact known _ read
  exact picked _

theorem allKnown_of_ofValues {given : Entries} {settings : Settings}
    (success : ofValues given = .ok settings) : AllKnown settings.defaultDialects := by
  have assembled (dialects : Option (List String))
      (known : ∀ items, dialects = some items → AllKnown items) :=
    allKnown_of_assemble given known (unknownNames given)
  unfold ofValues at success
  split at success
  · have known := assembled none (by simp)
    dsimp only [bind, Except.bind, pure, Except.pure] at success
    generalize (assemble given none).run (unknownNames given) = outcome at known success
    obtain ⟨settled, refused⟩ := outcome
    dsimp only at success
    split at success
    · cases success
      exact known
    · cases success
  · obtain ⟨dialects, read, success⟩ := Attempt.bind_eq_ok_iff.mp success
    have known := assembled dialects fun items same =>
      allKnown_of_readDialects (read.trans (congrArg Except.ok same))
    dsimp only at success
    generalize (assemble given dialects).run (unknownNames given) = outcome at known success
    obtain ⟨settled, refused⟩ := outcome
    dsimp only at success
    split at success
    · cases success
      exact known
    · cases success

/-- Loaded settings name only known dialects. -/
theorem allKnown_of_load {given : Entries} {assigned : List (String × String)}
    {settings : Settings} (loaded : load given assigned = .ok settings) :
    AllKnown settings.defaultDialects := by
  obtain ⟨values, _, loaded⟩ := Attempt.bind_eq_ok_iff.mp loaded
  exact allKnown_of_ofValues loaded

end SchemaAtlas.Settings
