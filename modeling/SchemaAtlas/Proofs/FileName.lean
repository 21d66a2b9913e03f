import SchemaAtlas.FileName
import SchemaAtlas.Proofs.Text.Blank
import Mathlib.Data.List.Forall2
import Mathlib.Data.List.Nodup
import Mathlib.Data.List.Perm.Subperm

/-! # Fresh file names

One more candidate than there are names in use always holds a name that is not in use, so numbering
ends at the first such candidate. Names that are drawn one after the other are therefore pairwise
different and none of those in use before, and names are assigned to items by drawing them. Stems,
numbers and endings of safe characters make names of safe characters. A stem is a name of safe
characters without a point at its ends, and such a name is its own stem.
-/

namespace SchemaAtlas.FileName

section Numbering

variable {stem ending : String} {used : List String}

/-- The name with a given number behind the stem. -/
def numberedName (stem ending : String) (number : Nat) : String :=
  stem ++ "_" ++ toString number ++ ending

theorem toString_injective : Function.Injective (toString : Nat → String) := by
  intro a b same
  have digits := congrArg (fun s : String => Nat.ofDigitChars 10 s.toList 0) same
  simpa using digits

theorem numberedName_injective (stem ending : String) :
    Function.Injective (numberedName stem ending) := by
  intro a b same
  simp only [numberedName, String.append_left_inj, String.append_right_inj] at same
  exact toString_injective same

theorem numbered_eq (stem ending : String) (count : Nat) :
    numbered stem ending count = (List.range count).map fun k => numberedName stem ending (k + 2) :=
  rfl

theorem nodup_numbered (stem ending : String) (count : Nat) : (numbered stem ending count).Nodup := by
  refine List.nodup_range.map fun a b same => ?_
  have := numberedName_injective stem ending same
  omega

/-- Of one more candidate than there are names in use, one is not in use. -/
theorem exists_unused (stem ending : String) (used : List String) :
    ∃ name ∈ numbered stem ending (used.length + 1), name ∉ used := by
  by_contra taken
  push Not at taken
  have bound := (nodup_numbered stem ending (used.length + 1)).length_le_of_subset taken
  simp only [numbered, List.length_map, List.length_range] at bound
  omega

/-- A fresh name is the plain one when that is not in use, else the one with the least number from
two on that is not in use. -/
theorem fresh_cases (stem ending : String) (used : List String) :
    (stem ++ ending ∉ used ∧ fresh stem ending used = stem ++ ending) ∨
      stem ++ ending ∈ used ∧ ∃ number, 2 ≤ number ∧
        fresh stem ending used = numberedName stem ending number ∧
        numberedName stem ending number ∉ used ∧
        ∀ smaller, 2 ≤ smaller → smaller < number → numberedName stem ending smaller ∈ used := by
  by_cases known : stem ++ ending ∈ used
  · refine .inr ⟨known, ?_⟩
    cases found : (numbered stem ending (used.length + 1)).find? fun name => !used.contains name with
    | none =>
      obtain ⟨name, candidate, unused⟩ := exists_unused stem ending used
      exact absurd (List.find?_eq_none.mp found name candidate) (by simpa using unused)
    | some name =>
      have chosen : fresh stem ending used = name := by
        rw [fresh, if_pos (by simpa using known), found, Option.getD_some]
      rw [numbered_eq, List.find?_map, Option.map_eq_some_iff] at found
      obtain ⟨k, least, rfl⟩ := found
      obtain ⟨unused, _, before⟩ := List.find?_range_eq_some.mp least
      refine ⟨k + 2, Nat.le_add_left 2 k, chosen, by simpa using unused, fun smaller low high => ?_⟩
      obtain ⟨j, rfl⟩ := Nat.exists_eq_add_of_le' low
      simpa using before j (by omega)
  · exact .inl ⟨known, by simp [fresh, known]⟩

example : fresh "orders" ".html" ["orders_2.html", "orders.html"] = "orders_3.html" := by decide

theorem fresh_not_mem (stem ending : String) (used : List String) :
    fresh stem ending used ∉ used := by
  rcases fresh_cases stem ending used with ⟨unused, plain⟩ | ⟨_, _, _, chosen, unused, _⟩
  · rwa [plain]
  · rwa [chosen]

theorem plain_ne_numberedName (stem ending : String) (number : Nat) :
    stem ++ ending ≠ numberedName stem ending number := by
  intro same
  have lengths := congrArg String.length same
  have mark : "_".length = 1 := rfl
  simp only [numberedName, String.length_append, mark] at lengths
  omega

/-- Numbering looks at no more numbers than there are names in use. -/
theorem number_le {number : Nat} (taken : stem ++ ending ∈ used)
    (before : ∀ smaller, 2 ≤ smaller → smaller < number →
      numberedName stem ending smaller ∈ used) : number ≤ used.length + 1 := by
  have distinct : ((stem ++ ending) :: numbered stem ending (number - 2)).Nodup := by
    refine List.nodup_cons.mpr ⟨?_, nodup_numbered stem ending _⟩
    intro member
    obtain ⟨k, _, same⟩ := List.mem_map.mp member
    exact plain_ne_numberedName stem ending (k + 2) same.symm
  have known : (stem ++ ending) :: numbered stem ending (number - 2) ⊆ used := by
    refine List.cons_subset.mpr ⟨taken, ?_⟩
    intro name member
    obtain ⟨k, few, rfl⟩ := List.mem_map.mp member
    rw [List.mem_range] at few
    exact before (k + 2) (Nat.le_add_left 2 k) (by omega)
  have bound := distinct.length_le_of_subset known
  simp only [List.length_cons, numbered, List.length_map, List.length_range] at bound
  omega

/-- A fresh name is the plain one, or else the one with the least number from two on, that is not in
use. -/
theorem fresh_eq_iff {name : String} : fresh stem ending used = name ↔
    stem ++ ending ∉ used ∧ name = stem ++ ending ∨
      stem ++ ending ∈ used ∧ ∃ number, (2 ≤ number ∧ number ≤ used.length + 1) ∧
        name = numberedName stem ending number ∧ name ∉ used ∧
        ∀ smaller, 2 ≤ smaller → smaller < number → numberedName stem ending smaller ∈ used := by
  have cases := fresh_cases stem ending used
  constructor
  · rintro rfl
    rcases cases with ⟨unused, plain⟩ | ⟨taken, number, least, chosen, unused, before⟩
    · exact .inl ⟨unused, plain⟩
    · rw [chosen]
      exact .inr ⟨taken, number, ⟨least, number_le taken before⟩, rfl, unused, before⟩
  · rintro (⟨unused, rfl⟩ | ⟨taken, number, ⟨least, _⟩, rfl, unused, before⟩)
    · rcases cases with ⟨_, plain⟩ | ⟨taken, _⟩
      · exact plain
      · exact absurd taken unused
    · rcases cases with ⟨new, _⟩ | ⟨_, other, leastOther, chosen, new, beforeOther⟩
      · exact absurd taken new
      · -- of two numbers that are both the least, neither is below the other
        rcases Nat.lt_trichotomy number other with below | rfl | above
        · exact absurd (beforeOther number least below) unused
        · exact chosen
        · exact absurd (before other leastOther above) new

end Numbering

section Drawing

variable (requests : List (String × String)) (used : List String)

theorem run_draw (stem ending : String) :
    (draw stem ending).run used = (fresh stem ending used, fresh stem ending used :: used) := rfl

theorem run_drawAll_cons (stem ending : String) :
    (drawAll ((stem, ending) :: requests)).run used =
      let rest := (drawAll requests).run (fresh stem ending used :: used)
      (fresh stem ending used :: rest.1, rest.2) := by
  rw [drawAll, List.mapM_cons]
  rfl

/-- In the end the names that were drawn are in use, and those that were in use before. -/
theorem run_drawAll_snd :
    ((drawAll requests).run used).2 = ((drawAll requests).run used).1.reverse ++ used := by
  induction requests generalizing used with
  | nil => rfl
  | cons request requests ih =>
    rw [run_drawAll_cons, ih]
    simp

theorem length_run_drawAll : ((drawAll requests).run used).1.length = requests.length := by
  induction requests generalizing used with
  | nil => rfl
  | cons request requests ih => rw [run_drawAll_cons, List.length_cons, ih, List.length_cons]

/-- Names that are drawn one after the other are pairwise different and none of those that were in
use. -/
theorem nodup_run_drawAll : ((drawAll requests).run used).1.Nodup ∧
    ∀ name ∈ ((drawAll requests).run used).1, name ∉ used := by
  induction requests generalizing used with
  | nil => exact ⟨List.nodup_nil, fun _ member => absurd member List.not_mem_nil⟩
  | cons request requests ih =>
    obtain ⟨stem, ending⟩ := request
    obtain ⟨distinct, apart⟩ := ih (fresh stem ending used :: used)
    rw [run_drawAll_cons]
    constructor
    · refine List.nodup_cons.mpr ⟨?_, distinct⟩
      intro again
      exact apart _ again List.mem_cons_self
    · intro name member known
      rcases List.mem_cons.mp member with rfl | later
      · exact fresh_not_mem stem ending used known
      · exact apart name later (List.mem_cons_of_mem _ known)

/-- Drawing a name ends, with the plain name or the one with the least number that is not in use, and
looks at no more numbers than there are names in use; just this name is in use then. However many names
are drawn for whatever stems and endings, they are pairwise different, none of them was in use before,
and in the end all of them are in use, and nothing else but what was. -/
theorem names_drawn_apart (used : List String) :
    (∀ stem ending name last, (draw stem ending).run used = (name, last) ↔
      last = name :: used ∧
        (stem ++ ending ∉ used ∧ name = stem ++ ending ∨
          stem ++ ending ∈ used ∧ ∃ number, (2 ≤ number ∧ number ≤ used.length + 1) ∧
            name = stem ++ "_" ++ toString number ++ ending ∧ name ∉ used ∧
            ∀ smaller, 2 ≤ smaller → smaller < number →
              stem ++ "_" ++ toString smaller ++ ending ∈ used)) ∧
      ∀ requests, ∃ names last, (drawAll requests).run used = (names, last) ∧
        names.length = requests.length ∧ names.Nodup ∧ (∀ name ∈ names, name ∉ used) ∧
        ∀ name, name ∈ last ↔ name ∈ used ∨ name ∈ names := by
  constructor
  · intro stem ending name last
    rw [run_draw, Prod.mk.injEq]
    constructor
    · rintro ⟨rfl, rfl⟩
      exact ⟨rfl, fresh_eq_iff.mp rfl⟩
    · rintro ⟨rfl, given⟩
      rw [fresh_eq_iff.mpr given]
      exact ⟨rfl, rfl⟩
  · intro requests
    obtain ⟨distinct, apart⟩ := nodup_run_drawAll requests used
    refine ⟨((drawAll requests).run used).1, ((drawAll requests).run used).2, rfl,
      length_run_drawAll requests used, distinct, apart, fun name => ?_⟩
    rw [run_drawAll_snd, List.mem_append, List.mem_reverse, or_comm]

end Drawing

section Assigning

variable {α : Type} (stem : α → String) (ending : String)

theorem map_snd_assign (used : List String) (items : List α) :
    (assign stem ending used items).map (·.2) = items := by
  induction items generalizing used with
  | nil => rfl
  | cons item rest ih => rw [assign, List.map_cons, ih]

/-- Names are assigned by drawing them, one for every item. -/
theorem map_fst_assign (used : List String) (items : List α) :
    (assign stem ending used items).map (·.1) =
      ((drawAll (items.map fun item => (stem item, ending))).run used).1 := by
  induction items generalizing used with
  | nil => rfl
  | cons item rest ih => rw [assign, List.map_cons, List.map_cons, run_drawAll_cons, ih]

theorem nodup_assign (used : List String) (items : List α) :
    ((assign stem ending used items).map (·.1)).Nodup := by
  rw [map_fst_assign]
  exact (nodup_run_drawAll _ used).1

theorem not_mem_of_mem_assign {used : List String} {items : List α} {name : String}
    (member : name ∈ (assign stem ending used items).map (·.1)) : name ∉ used := by
  rw [map_fst_assign] at member
  exact (nodup_run_drawAll _ used).2 name member

/-- Assigned names are pairwise different and none of those that were in use. -/
theorem nodup_append_assign {used : List String} (nodup : used.Nodup) (items : List α) :
    (used ++ (assign stem ending used items).map (·.1)).Nodup := by
  refine List.nodup_append.mpr ⟨nodup, nodup_assign stem ending used items, ?_⟩
  rintro name known _ member rfl
  exact not_mem_of_mem_assign stem ending member known

/-- An assigned name is the fresh one of its item's stem, for some names in use. -/
theorem exists_fresh_of_mem_assign {used : List String} {items : List α} {entry : String × α}
    (member : entry ∈ assign stem ending used items) :
    ∃ others, entry.1 = fresh (stem entry.2) ending others := by
  induction items generalizing used with
  | nil => cases member
  | cons item rest ih =>
    rcases List.mem_cons.mp member with rfl | member
    · exact ⟨used, rfl⟩
    · exact ih member

/-- Items and their names stand in the same order. -/
theorem forall₂_assign (used : List String) (items : List α) :
    List.Forall₂ (fun item entry =>
        entry.2 = item ∧ ∃ others, entry.1 = fresh (stem item) ending others)
      items (assign stem ending used items) := by
  induction items generalizing used with
  | nil => exact .nil
  | cons item rest ih => exact .cons ⟨rfl, used, rfl⟩ (ih _)

end Assigning

section Spelling

/-- A text of safe characters. -/
def AllSafe (s : String) : Prop := ∀ c ∈ s.toList, isSafe c = true

instance (s : String) : Decidable (AllSafe s) := List.decidableBAll _ _

theorem AllSafe.append {s t : String} (left : AllSafe s) (right : AllSafe t) : AllSafe (s ++ t) := by
  intro c member
  rw [String.toList_append, List.mem_append] at member
  exact member.elim (left c) (right c)

theorem allSafe_toString (n : Nat) : AllSafe (toString n) := by
  intro c member
  rw [Nat.toString_eq_repr, Nat.toList_repr] at member
  have digit := Nat.isDigit_of_mem_toDigits (by decide) (by decide) member
  simp [isSafe, Char.isAlphanum, digit]

theorem isBlank_eq_false_of_isSafe {c : Char} (safe : isSafe c = true) : Text.isBlank c = false :=
  Text.isBlank_eq_false_of_apart (by decide) safe

/-- The safe characters of a text, without blanks and then points at its ends. -/
def safePart (cs : List Char) : List Char :=
  Text.trimBy (· == '.') (Text.replaceBy isSafe (Text.trim cs))

theorem stem_eq (cs : List Char) : stem cs = if safePart cs = [] then ['_'] else safePart cs := by
  unfold stem
  split
  · next empty => exact (if_pos empty).symm
  · next filled => exact (if_neg filled).symm

theorem isSafe_of_mem_safePart {cs : List Char} {c : Char} (member : c ∈ safePart cs) :
    isSafe c = true :=
  Text.of_mem_replaceBy rfl ((Text.isInfix_trimBy _ _).subset member)

/-- Safe characters without points at the ends are left alone. -/
theorem safePart_of_safe {cs : List Char} (safe : ∀ c ∈ cs, isSafe c = true)
    (opens : '.' ∉ cs.head?) (closes : '.' ∉ cs.getLast?) : safePart cs = cs := by
  have filled : ∀ c ∈ cs, Text.isBlank c = false := fun c member =>
    isBlank_eq_false_of_isSafe (safe c member)
  rw [safePart, Text.trim_of_filled filled, Text.replaceBy_of_all safe]
  refine Text.trimBy_eq_self_iff.mpr ⟨fun c first => ?_, fun c last => ?_⟩
  · exact beq_eq_false_iff_ne.mpr fun same => opens (same ▸ first)
  · exact beq_eq_false_iff_ne.mpr fun same => closes (same ▸ last)

/-- A name of safe characters, not empty and without a point at its ends. -/
structure IsStem (s : String) : Prop where
  nonempty : s ≠ ""
  safe : AllSafe s
  opens : '.' ∉ s.toList.head?
  closes : '.' ∉ s.toList.getLast?

theorem isStem_stemOf (s : String) : IsStem (stemOf s) := by
  rw [stemOf, stem_eq]
  split
  · exact ⟨by decide, by decide, by decide, by decide⟩
  · next filled =>
    constructor
    · rwa [Ne, ← String.toList_inj, String.toList_ofList]
    · intro c member
      rw [String.toList_ofList] at member
      exact isSafe_of_mem_safePart member
    · intro first
      rw [String.toList_ofList] at first
      exact absurd (Text.head?_trimBy _ _ _ first) (by decide)
    · intro last
      rw [String.toList_ofList] at last
      exact absurd (Text.getLast?_trimBy _ _ _ last) (by decide)

theorem stemOf_of_isStem {s : String} (kind : IsStem s) : stemOf s = s := by
  have filled : s.toList ≠ [] := mt String.toList_eq_nil_iff.mp kind.nonempty
  rw [stemOf, stem_eq, safePart_of_safe kind.safe kind.opens kind.closes, if_neg filled,
    String.ofList_toList]

/-- The stems are the names that are their own stems. -/
theorem stemOf_eq_self_iff {s : String} : stemOf s = s ↔ IsStem s :=
  ⟨fun same => same ▸ isStem_stemOf s, stemOf_of_isStem⟩

theorem allSafe_stemOf (s : String) : AllSafe (stemOf s) := (isStem_stemOf s).safe

theorem allSafe_fresh {stem ending : String} (safe : AllSafe stem) (safe_ending : AllSafe ending)
    (used : List String) : AllSafe (fresh stem ending used) := by
  have mark : AllSafe "_" := by decide
  rcases fresh_cases stem ending used with ⟨_, plain⟩ | ⟨_, number, _, chosen, _⟩
  · rw [plain]
    exact safe.append safe_ending
  · rw [chosen]
    exact ((safe.append mark).append (allSafe_toString number)).append safe_ending

/-- A fresh name is longer than its ending. -/
theorem length_ending_le_fresh (stem ending : String) (used : List String) :
    ending.length ≤ (fresh stem ending used).length := by
  rcases fresh_cases stem ending used with ⟨_, plain⟩ | ⟨_, number, _, chosen, _⟩
  · rw [plain, String.length_append]
    omega
  · rw [chosen, numberedName, String.length_append]
    omega

end Spelling

end SchemaAtlas.FileName
