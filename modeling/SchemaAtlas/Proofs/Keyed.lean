import SchemaAtlas.Keyed
import Mathlib.Data.List.Forall2
import Mathlib.Data.List.Induction
import Mathlib.Data.List.Nodup

/-! # Keys, groups and first appearances

Looking up finds a key exactly when some item has it. Grouping lists the keys in order of first
appearance and puts under each key the items that have it, in their own order. Storing names by
themselves keeps the first appearance of each, and collected items are the last of their keys.
-/

namespace SchemaAtlas.Keyed

variable {α κ : Type} [DecidableEq κ]

theorem isSome_find?_iff {key : α → κ} {wanted : κ} {items : List α} :
    (find? key wanted items).isSome ↔ wanted ∈ items.map key := by
  simp [find?, List.find?_isSome]

theorem find?_eq_none_iff {key : α → κ} {wanted : κ} {items : List α} :
    find? key wanted items = none ↔ wanted ∉ items.map key := by
  rw [← isSome_find?_iff, Option.not_isSome_iff_eq_none]

theorem key_of_find? {key : α → κ} {wanted : κ} {items : List α} {item : α}
    (found : find? key wanted items = some item) : item ∈ items ∧ key item = wanted :=
  ⟨List.mem_of_find?_eq_some found, by simpa using List.find?_some found⟩

/-- Among items of pairwise different keys, looking up the key of an item finds that item. -/
theorem find?_of_mem {key : α → κ} {items : List α} {item : α}
    (nodup : (items.map key).Nodup) (member : item ∈ items) :
    find? key (key item) items = some item := by
  have known : (find? key (key item) items).isSome :=
    isSome_find?_iff.mpr (List.mem_map_of_mem member)
  obtain ⟨found, success⟩ := Option.isSome_iff_exists.mp known
  obtain ⟨held, same⟩ := key_of_find? success
  rw [success, List.inj_on_of_nodup_map nodup held member same]

section FirstAppearance

variable {κ : Type} [BEq κ] [LawfulBEq κ]

theorem eraseDups_concat [DecidableEq κ] (items : List κ) (last : κ) :
    (items ++ [last]).eraseDups =
      if last ∈ items then items.eraseDups else items.eraseDups ++ [last] := by
  rw [List.eraseDups_append]
  by_cases known : last ∈ items <;> simp [List.removeAll, known, List.eraseDups_cons]

theorem nodup_eraseDups (items : List κ) : items.eraseDups.Nodup := by
  classical
  induction items using List.reverseRecOn with
  | nil => exact List.nodup_nil
  | append_singleton items last ih =>
    rw [eraseDups_concat]
    split
    · exact ih
    · next new =>
      rw [← List.concat_eq_append]
      exact ih.concat fun member => new (List.mem_eraseDups.mp member)

/-- Items in another order have the same first appearances in another order. -/
theorem eraseDups_perm {items others : List κ} (perm : items.Perm others) :
    items.eraseDups.Perm others.eraseDups := by
  refine (List.perm_ext_iff_of_nodup (nodup_eraseDups items) (nodup_eraseDups others)).mpr ?_
  intro item
  rw [List.mem_eraseDups, List.mem_eraseDups, perm.mem_iff]

end FirstAppearance

section LastStored

theorem collect_concat (key : α → κ) (items : List α) (last : α) :
    collect key (items ++ [last]) = store key last (collect key items) := by
  rw [collect, List.foldl_append]
  rfl

/-- After an item is stored it is there, and apart from it only items of other keys. -/
theorem mem_store {key : α → κ} {item other : α} {items : List α}
    (nodup : (items.map key).Nodup) (member : other ∈ store key item items) :
    other = item ∨ other ∈ items ∧ key other ≠ key item := by
  induction items with
  | nil => exact .inl (List.mem_singleton.mp member)
  | cons first rest ih =>
    obtain ⟨new, nodup⟩ := List.nodup_cons.mp nodup
    rw [store] at member
    split at member
    · next same =>
      rcases List.mem_cons.mp member with rfl | inside
      · exact .inl rfl
      · refine .inr ⟨List.mem_cons_of_mem _ inside, fun equal => new ?_⟩
        rw [same, ← equal]
        exact List.mem_map_of_mem inside
    · next differs =>
      rcases List.mem_cons.mp member with rfl | inside
      · exact .inr ⟨List.mem_cons_self, differs⟩
      · exact (ih nodup inside).imp_right fun held => ⟨List.mem_cons_of_mem _ held.1, held.2⟩

/-- A collected item is the last one that was stored under its key. -/
theorem getLast?_of_mem_collect {key : α → κ} {items : List α} {item : α}
    (member : item ∈ collect key items) :
    (items.filter fun other => decide (key other = key item)).getLast? = some item := by
  induction items using List.reverseRecOn with
  | nil => cases member
  | append_singleton items last ih =>
    rw [collect_concat] at member
    rcases mem_store (nodup_collect key items) member with rfl | ⟨inside, differs⟩
    · simp
    · rw [List.filter_append, List.filter_singleton, decide_eq_false differs.symm]
      simpa using ih inside

/-- The last of some items stands for the last of those they are related to. -/
theorem getLast?_of_forall₂ {β : Type} {R : β → α → Prop} {others : List β} {items : List α}
    {item : α} (related : List.Forall₂ R others items) (last : items.getLast? = some item) :
    ∃ other, others.getLast? = some other ∧ R other item := by
  rw [← List.head?_reverse] at last
  obtain ⟨rest, reversed⟩ := List.head?_eq_some_iff.mp last
  have paired := List.forall₂_reverse_iff.mpr related
  rw [reversed, List.forall₂_cons_right_iff] at paired
  obtain ⟨other, before, here, _, same⟩ := paired
  refine ⟨other, ?_, here⟩
  rw [← List.head?_reverse, same, List.head?_cons]

end LastStored

section Pairs

variable {key : α → κ}

theorem store_pair (item : α) (items : List α) :
    store Prod.fst (key item, item) (items.map fun other => (key other, other)) =
      (store key item items).map fun other => (key other, other) := by
  induction items with
  | nil => rfl
  | cons other rest ih =>
    by_cases same : key other = key item
    · simp [store, same]
    · simp [store, same, ih]

/-- Collected with their keys, items are the ones that are collected under them. -/
theorem collect_pair (items : List α) :
    collect Prod.fst (items.map fun item => (key item, item)) =
      (collect key items).map fun item => (key item, item) := by
  induction items using List.reverseRecOn with
  | nil => rfl
  | append_singleton items last ih =>
    rw [List.map_append, List.map_cons, List.map_nil, collect_concat, ih, store_pair,
      collect_concat]

theorem has_pair (wanted : κ) (items : List α) :
    has Prod.fst wanted (items.map fun item => (key item, item)) = true ↔
      wanted ∈ items.map key := by
  rw [has, isSome_find?_iff, List.map_map]
  rfl

end Pairs

theorem flatMap_addToGroup (key : α → κ) (item : α) (grouped : List (κ × List α)) :
    ((addToGroup key item grouped).flatMap (·.2)).Perm (grouped.flatMap (·.2) ++ [item]) := by
  induction grouped with
  | nil => rfl
  | cons group rest ih =>
    rw [addToGroup]
    split
    · simp only [List.flatMap_cons, List.append_assoc]
      exact List.perm_append_comm.append_left group.2
    · simp only [List.flatMap_cons, List.append_assoc]
      exact ih.append_left group.2

/-- Every item stands in one group. -/
theorem flatMap_groups (key : α → κ) (items : List α) :
    ((groups key items).flatMap (·.2)).Perm items := by
  induction items using List.reverseRecOn with
  | nil => rfl
  | append_singleton items last ih =>
    rw [groups, List.foldl_append, List.foldl_cons, List.foldl_nil]
    exact (flatMap_addToGroup key last _).trans (ih.append_right [last])

variable [BEq κ] [LawfulBEq κ]

/-- The keys of collected items stand in order of first appearance. -/
theorem map_collect (key : α → κ) (items : List α) :
    (collect key items).map key = (items.map key).eraseDups := by
  induction items using List.reverseRecOn with
  | nil => rfl
  | append_singleton items last ih =>
    rw [collect_concat, map_store, ih, List.map_append, List.map_cons, List.map_nil,
      eraseDups_concat]
    simp only [List.mem_eraseDups]

theorem distinct_eq (items : List κ) : distinct items = items.eraseDups := by
  simpa [distinct] using map_collect id items

/-- Adding an item to a family of groups changes the family at the item's key alone. -/
theorem addToGroup_map (key : α → κ) (item : α) (keys : List κ) (members : κ → List α)
    (nodup : keys.Nodup) :
    addToGroup key item (keys.map fun k => (k, members k)) =
      (keys.map fun k => (k, if k = key item then members k ++ [item] else members k)) ++
        if key item ∈ keys then [] else [(key item, [item])] := by
  induction keys with
  | nil => rfl
  | cons k keys ih =>
    obtain ⟨new, nodup⟩ := List.nodup_cons.mp nodup
    by_cases same : k = key item
    · have others : ∀ other ∈ keys, ¬ other = key item :=
        fun other member equal => new (same ▸ equal ▸ member)
      simp only [List.map_cons, addToGroup, same, if_true, List.mem_cons, true_or,
        List.append_nil, List.cons.injEq, true_and]
      exact List.map_congr_left fun other member => by rw [if_neg (others other member)]
    · have differs : ¬ key item = k := fun equal => same equal.symm
      simp only [List.map_cons, addToGroup, same, if_false, ih nodup, List.mem_cons, differs,
        false_or, List.cons_append]

/-- A group for each key in order of first appearance, with the items of that key in order. -/
theorem groups_eq (key : α → κ) (items : List α) :
    groups key items =
      (items.map key).eraseDups.map fun k =>
        (k, items.filter fun item => decide (key item = k)) := by
  induction items using List.reverseRecOn with
  | nil => rfl
  | append_singleton items last ih =>
    have members (k : κ) : (items ++ [last]).filter (fun item => decide (key item = k)) =
        if k = key last then (items.filter fun item => decide (key item = k)) ++ [last]
        else items.filter fun item => decide (key item = k) := by
      rw [List.filter_append]
      by_cases same : k = key last
      · simp [same]
      · have differs : ¬ key last = k := fun equal => same equal.symm
        simp [same, differs]
    rw [groups, List.foldl_append, List.foldl_cons, List.foldl_nil]
    change addToGroup key last (groups key items) = _
    rw [ih, addToGroup_map key last _ _ (nodup_eraseDups _), List.map_append, List.map_cons,
      List.map_nil, eraseDups_concat]
    simp only [List.mem_eraseDups, members]
    split
    · rw [List.append_nil]
    · next new =>
      have none_before : items.filter (fun item => decide (key item = key last)) = [] :=
        List.filter_eq_nil_iff.mpr fun item member same =>
          new (of_decide_eq_true same ▸ List.mem_map_of_mem member)
      rw [List.map_append, List.map_cons, List.map_nil, if_pos rfl, none_before, List.nil_append]

theorem mem_groups_iff {key : α → κ} {items : List α} {group : κ × List α} :
    group ∈ groups key items ↔
      ∃ item ∈ items,
        (key item, items.filter fun other => decide (key other = key item)) = group := by
  rw [groups_eq, List.mem_map]
  simp only [List.mem_eraseDups, List.mem_map, exists_exists_and_eq_and]

end SchemaAtlas.Keyed
