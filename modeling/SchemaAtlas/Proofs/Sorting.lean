import Mathlib.Data.List.Nodup
import Mathlib.Data.List.Sort

/-! # Sorting by a key

Items that are sorted by a key come in the order of their keys, and items of one key in the order in
which they stood before. So where no two items share a key, the sorted list does not tell in which
order the items came.
-/

namespace SchemaAtlas.Sorting

section Pairs

variable {α : Type} {first second : α} {items : List α}

/-- Of two different items of a list, one stands before the other. -/
theorem pair_sublist_or (here : first ∈ items) (there : second ∈ items) (apart : first ≠ second) :
    [first, second].Sublist items ∨ [second, first].Sublist items := by
  induction items with
  | nil => cases here
  | cons item rest ih =>
    rcases List.mem_cons.mp here with rfl | here' <;>
      rcases List.mem_cons.mp there with rfl | there'
    · exact absurd rfl apart
    · exact .inl ((List.singleton_sublist.mpr there').cons_cons first)
    · exact .inr ((List.singleton_sublist.mpr here').cons_cons second)
    · exact (ih here' there').imp (.cons item) (.cons item)

/-- Without repetitions no two items stand before each other. -/
theorem pair_sublist_asymm (nodup : items.Nodup) (before : [first, second].Sublist items) :
    ¬ [second, first].Sublist items := by
  intro behind
  induction items with
  | nil => cases before
  | cons item rest ih =>
    obtain ⟨new, nodup⟩ := List.nodup_cons.mp nodup
    cases before with
    | cons _ before =>
      cases behind with
      | cons _ behind => exact ih nodup before behind
      | cons_cons _ _ => exact new (before.subset (by simp))
    | cons_cons _ _ =>
      cases behind with
      | cons _ behind => exact new (behind.subset (by simp))
      | cons_cons _ before => exact new (before.subset (by simp))

end Pairs

section Keys

variable {α κ : Type} [LinearOrder κ] {le : α → α → Bool} {key : α → κ} {items others : List α}

/-- A comparison of items is the comparison of their keys. -/
def ComparesBy (le : α → α → Bool) (key : α → κ) : Prop := ∀ a b, le a b = true ↔ key a ≤ key b

theorem comparesBy_id [∀ a b : κ, Decidable (a ≤ b)] :
    ComparesBy (fun a b : κ => decide (a ≤ b)) id :=
  fun _ _ => decide_eq_true_iff

theorem ComparesBy.trans (compares : ComparesBy le key) (a b c : α) (first : le a b = true)
    (second : le b c = true) : le a c = true :=
  (compares a c).mpr (le_trans ((compares a b).mp first) ((compares b c).mp second))

theorem ComparesBy.total (compares : ComparesBy le key) (a b : α) : (le a b || le b a) = true := by
  rw [Bool.or_eq_true, compares, compares]
  exact le_total (key a) (key b)

theorem pairwise_mergeSort (compares : ComparesBy le key) (items : List α) :
    (items.mergeSort le).Pairwise fun a b => key a ≤ key b :=
  (List.pairwise_mergeSort compares.trans compares.total items).imp fun {a b} => (compares a b).mp

/-- Where no two items share a key, sorting forgets the order in which the items came. -/
theorem mergeSort_eq_of_perm (compares : ComparesBy le key) (distinct : (items.map key).Nodup)
    (perm : items.Perm others) : items.mergeSort le = others.mergeSort le := by
  have sorted : (items.mergeSort le).Perm (others.mergeSort le) :=
    (List.mergeSort_perm items le).trans (perm.trans (List.mergeSort_perm others le).symm)
  refine List.Perm.eq_of_pairwise ?_ (pairwise_mergeSort compares items)
    (pairwise_mergeSort compares others) sorted
  intro a b here there below above
  have member : b ∈ items := perm.symm.subset (List.mem_mergeSort.mp there)
  exact List.inj_on_of_nodup_map distinct (List.mem_mergeSort.mp here) member
    (le_antisymm below above)

/-- Of two items, the one of the lesser key comes first, and of one key the one that came first. -/
theorem pair_sublist_mergeSort_iff (compares : ComparesBy le key) (nodup : items.Nodup)
    {first second : α} (here : first ∈ items) (there : second ∈ items) (apart : first ≠ second) :
    [first, second].Sublist (items.mergeSort le) ↔
      key first < key second ∨ key first = key second ∧ [first, second].Sublist items := by
  have ordered {a b : α} (before : [a, b].Sublist (items.mergeSort le)) : key a ≤ key b :=
    List.pairwise_iff_forall_sublist.mp (pairwise_mergeSort compares items) before
  have kept {a b : α} (below : key a ≤ key b) (before : [a, b].Sublist items) :
      [a, b].Sublist (items.mergeSort le) :=
    List.pair_sublist_mergeSort compares.trans compares.total ((compares a b).mpr below) before
  constructor
  · intro before
    rcases (ordered before).lt_or_eq with below | same
    · exact .inl below
    · refine .inr ⟨same, (pair_sublist_or here there apart).resolve_right fun behind => ?_⟩
      exact pair_sublist_asymm ((List.mergeSort_perm items le).nodup_iff.mpr nodup) before
        (kept same.ge behind)
  · rintro (below | ⟨same, before⟩)
    · refine (pair_sublist_or (List.mem_mergeSort.mpr here) (List.mem_mergeSort.mpr there)
        apart).resolve_right fun behind => ?_
      exact absurd below (ordered behind).not_gt
    · exact kept same.le before

end Keys

end SchemaAtlas.Sorting
