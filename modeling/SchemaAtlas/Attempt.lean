/-! # Attempts that may be refused

An attempt yields a value or a refusal. Attempts made one after the other yield a value exactly when
each of them does, and what every single attempt preserves, a whole run of attempts preserves.
-/

namespace SchemaAtlas.Attempt

variable {ε α β : Type}

/-- Two attempts in a row succeed when the first does and the second does on its value. -/
theorem bind_eq_ok_iff {attempt : Except ε α} {next : α → Except ε β} {b : β} :
    attempt >>= next = .ok b ↔ ∃ a, attempt = .ok a ∧ next a = .ok b := by
  cases attempt with
  | error refusal =>
    constructor
    · intro success
      cases success
    · rintro ⟨_, success, _⟩
      cases success
  | ok a =>
    constructor
    · exact fun success => ⟨a, rfl, success⟩
    · rintro ⟨_, same, success⟩
      cases same
      exact success

/-- What each step of a run preserves, the run preserves. -/
theorem foldlM_preserves {P : β → Prop} {step : β → α → Except ε β} {items : List α}
    (preserves : ∀ state item state', step state item = .ok state' → P state → P state')
    {first last : β} (success : items.foldlM step first = .ok last) (holds : P first) : P last := by
  induction items generalizing first with
  | nil => cases success; exact holds
  | cons item rest ih =>
    rw [List.foldlM_cons] at success
    obtain ⟨next, stepped, remaining⟩ := bind_eq_ok_iff.mp success
    exact ih remaining (preserves _ _ _ stepped holds)

end SchemaAtlas.Attempt
