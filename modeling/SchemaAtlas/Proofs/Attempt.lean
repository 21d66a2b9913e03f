import SchemaAtlas.Attempt
import Mathlib.Data.List.Forall2

/-! # Attempts over lists

Attempts made for every item of a list yield the values of the single attempts in order, and yield
values at all exactly when no single attempt is refused. Otherwise they are refused as the first of
the refused attempts.
-/

namespace SchemaAtlas.Attempt

variable {ε α β : Type}

theorem mapError_eq_ok_iff {δ : Type} {attempt : Except ε α} {change : ε → δ} {value : α} :
    attempt.mapError change = .ok value ↔ attempt = .ok value := by
  cases attempt <;> simp [Except.mapError]

theorem map_eq_ok_iff {attempt : Except ε α} {change : α → β} {value : β} :
    attempt.map change = .ok value ↔ ∃ a, attempt = .ok a ∧ change a = value := by
  cases attempt <;> simp [Except.map]

/-- Attempts over a list pair every item with its value. -/
theorem mapM_eq_ok_iff {attempt : α → Except ε β} {items : List α} {values : List β} :
    items.mapM attempt = .ok values ↔
      List.Forall₂ (fun item value => attempt item = .ok value) items values := by
  induction items generalizing values with
  | nil =>
    rw [List.mapM_nil, List.forall₂_nil_left_iff]
    exact ⟨fun success => (Except.ok.inj success).symm, fun empty => empty ▸ rfl⟩
  | cons item rest ih =>
    rw [List.mapM_cons, bind_eq_ok_iff, List.forall₂_cons_left_iff]
    constructor
    · rintro ⟨value, here, success⟩
      obtain ⟨others, there, success⟩ := bind_eq_ok_iff.mp success
      exact ⟨value, others, here, ih.mp there, (Except.ok.inj success).symm⟩
    · rintro ⟨value, others, here, there, rfl⟩
      exact ⟨value, here, bind_eq_ok_iff.mpr ⟨others, ih.mpr there, rfl⟩⟩

/-- Attempts over a list yield values when each of them does. -/
theorem exists_mapM {attempt : α → Except ε β} {items : List α}
    (each : ∀ item ∈ items, ∃ value, attempt item = .ok value) :
    ∃ values, items.mapM attempt = .ok values := by
  induction items with
  | nil => exact ⟨[], rfl⟩
  | cons item rest ih =>
    obtain ⟨value, here⟩ := each item List.mem_cons_self
    obtain ⟨values, there⟩ := ih fun other member => each other (List.mem_cons_of_mem _ member)
    refine ⟨value :: values, ?_⟩
    rw [List.mapM_cons, here, there]
    rfl

/-- Attempts over a list yield values exactly when each of them does. -/
theorem exists_mapM_iff {attempt : α → Except ε β} {items : List α} :
    (∃ values, items.mapM attempt = .ok values) ↔
      ∀ item ∈ items, ∃ value, attempt item = .ok value := by
  refine ⟨?_, exists_mapM⟩
  rintro ⟨values, success⟩
  have paired := mapM_eq_ok_iff.mp success
  clear success
  induction paired with
  | nil => simp
  | cons here _ ih => exact List.forall_mem_cons.mpr ⟨⟨_, here⟩, ih⟩

/-- An item of a list is reached when all items in front of it are done. -/
def Reached (done : α → Prop) (items : List α) (item : α) : Prop :=
  ∃ before behind, items = before ++ item :: behind ∧ ∀ other ∈ before, done other

theorem not_reached_nil {done : α → Prop} {item : α} : ¬ Reached done [] item := by
  rintro ⟨before, behind, none, _⟩
  cases before <;> cases none

theorem reached_cons_iff {done : α → Prop} {first item : α} {rest : List α} :
    Reached done (first :: rest) item ↔ item = first ∨ done first ∧ Reached done rest item := by
  constructor
  · rintro ⟨before, behind, split, passed⟩
    cases before with
    | nil =>
      cases split
      exact .inl rfl
    | cons _ before =>
      cases split
      obtain ⟨here, passed⟩ := List.forall_mem_cons.mp passed
      exact .inr ⟨here, before, behind, rfl, passed⟩
  · rintro (rfl | ⟨here, before, behind, rfl, passed⟩)
    · exact ⟨[], rest, rfl, by simp⟩
    · exact ⟨first :: before, behind, rfl, List.forall_mem_cons.mpr ⟨here, passed⟩⟩

/-- Two attempts in a row are refused by the first, or by the second on the value of the first. -/
theorem bind_eq_error_iff {attempt : Except ε α} {next : α → Except ε β} {refusal : ε} :
    attempt >>= next = .error refusal ↔
      attempt = .error refusal ∨ ∃ value, attempt = .ok value ∧ next value = .error refusal := by
  cases attempt with
  | error reason => simp [bind, Except.bind]
  | ok value => simp [bind, Except.bind]

/-- Attempts over a list are refused as the first attempt that is refused. -/
theorem mapM_eq_error_iff {attempt : α → Except ε β} {items : List α} {refusal : ε} :
    items.mapM attempt = .error refusal ↔
      ∃ item, Reached (fun other => ∃ value, attempt other = .ok value) items item ∧
        attempt item = .error refusal := by
  induction items with
  | nil =>
    constructor
    · intro success
      cases success
    · rintro ⟨item, reached, _⟩
      exact absurd reached not_reached_nil
  | cons first rest ih =>
    rw [List.mapM_cons, bind_eq_error_iff]
    constructor
    · rintro (refused | ⟨value, here, behind⟩)
      · exact ⟨first, reached_cons_iff.mpr (.inl rfl), refused⟩
      · rcases bind_eq_error_iff.mp behind with behind | ⟨others, _, last⟩
        · obtain ⟨item, reached, refused⟩ := ih.mp behind
          exact ⟨item, reached_cons_iff.mpr (.inr ⟨⟨value, here⟩, reached⟩), refused⟩
        · cases last
    · rintro ⟨item, reached, refused⟩
      rcases reached_cons_iff.mp reached with rfl | ⟨⟨value, here⟩, reached⟩
      · exact .inl refused
      · exact .inr ⟨value, here, bind_eq_error_iff.mpr (.inl (ih.mpr ⟨item, reached, refused⟩))⟩

/-- Attempts over a list yield nothing but the values of single attempts. -/
theorem mem_mapM_iff {attempt : α → Except ε β} {items : List α} {values : List β} {value : β}
    (success : items.mapM attempt = .ok values) :
    value ∈ values ↔ ∃ item ∈ items, attempt item = .ok value := by
  have paired := mapM_eq_ok_iff.mp success
  clear success
  induction paired with
  | nil => simp
  | @cons item first _ _ here _ ih =>
    have only : attempt item = .ok value ↔ value = first := by
      rw [here, Except.ok.injEq, eq_comm]
    rw [List.mem_cons, List.exists_mem_cons_iff, only]
    exact or_congr_right ih

/-- What every single attempt carries over to its value, attempts over a list carry over. -/
theorem map_eq_of_mapM {γ : Type} {before : α → γ} {after : β → γ} {attempt : α → Except ε β}
    {items : List α} {values : List β} (success : items.mapM attempt = .ok values)
    (keeps : ∀ item value, attempt item = .ok value → after value = before item) :
    values.map after = items.map before := by
  rw [← List.forall₂_eq_eq_eq, List.forall₂_map_left_iff, List.forall₂_map_right_iff]
  exact (mapM_eq_ok_iff.mp success).flip.imp fun value item here => keeps item value here

/-- Attempts that all succeed yield what they succeed with. -/
theorem mapM_of_ok {attempt : α → Except ε β} {value : α → β} {items : List α}
    (each : ∀ item ∈ items, attempt item = .ok (value item)) :
    items.mapM attempt = .ok (items.map value) := by
  rw [mapM_eq_ok_iff, List.forall₂_map_right_iff, List.forall₂_same]
  exact each

/-- Attempts in two passes over a list succeed as attempts one after the other for each item. -/
theorem mapM_bind_eq_ok_iff {γ : Type} {first : α → Except ε β} {second : β → Except ε γ}
    {items : List α} {values : List γ} :
    items.mapM (fun item => first item >>= second) = .ok values ↔
      ∃ between, items.mapM first = .ok between ∧ between.mapM second = .ok values := by
  simp only [mapM_eq_ok_iff, bind_eq_ok_iff]
  constructor
  · intro paired
    induction paired with
    | nil => exact ⟨[], .nil, .nil⟩
    | cons here _ ih =>
      obtain ⟨value, there, last⟩ := here
      obtain ⟨between, before, behind⟩ := ih
      exact ⟨value :: between, .cons there before, .cons last behind⟩
  · rintro ⟨between, before, behind⟩
    induction before generalizing values with
    | nil =>
      cases behind
      exact .nil
    | cons there _ ih =>
      cases behind with
      | cons last behind => exact .cons ⟨_, there, last⟩ (ih behind)

/-- Attempts over the parts of items, list by list, are attempts over all parts in a row. -/
theorem mapM_flatMap_eq_ok_iff {γ : Type} {parts : α → List β} {attempt : β → Except ε γ}
    {items : List α} {values : List γ} :
    (items.flatMap parts).mapM attempt = .ok values ↔
      ∃ lists, items.mapM (fun item => (parts item).mapM attempt) = .ok lists ∧
        lists.flatten = values := by
  induction items generalizing values with
  | nil =>
    rw [List.flatMap_nil, List.mapM_nil, List.mapM_nil]
    constructor
    · intro empty
      cases empty
      exact ⟨[], rfl, rfl⟩
    · rintro ⟨lists, empty, rfl⟩
      cases empty
      rfl
  | cons item rest ih =>
    rw [List.flatMap_cons, List.mapM_append, List.mapM_cons]
    simp only [bind_eq_ok_iff, ih]
    constructor
    · rintro ⟨here, first, others, ⟨lists, behind, rfl⟩, whole⟩
      cases whole
      exact ⟨here :: lists, ⟨here, first, lists, behind, rfl⟩, rfl⟩
    · rintro ⟨_, ⟨here, first, lists, behind, whole⟩, rfl⟩
      cases whole
      exact ⟨here, first, lists.flatten, ⟨lists, behind, rfl⟩, rfl⟩

end SchemaAtlas.Attempt
