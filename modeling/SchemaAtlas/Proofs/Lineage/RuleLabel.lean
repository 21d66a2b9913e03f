import SchemaAtlas.Lineage.RuleLabel
import SchemaAtlas.Proofs.Text.Blank
import Mathlib.Data.List.Infix

/-! # What a rule holds inside its delimiters

A pair of delimiters encloses a text when the two belong together: a parenthesis is closed by the one at
the end and not before, and a quote does not come up again in between. Taking such pairs off with the
blanks beside them ends at a text that has neither, since every pair makes the text two characters
shorter. A rule leads to one such text only, so the label of a label is the label itself.
-/

namespace SchemaAtlas.Lineage

open Text

variable {opening closing : Char} {cs inner label : List Char} {count : Nat}

/-- Two delimiters belong together around a text: it nowhere closes more than it opened and closes all
of it, and a delimiter that is its own counterpart does not stand in it. -/
structure Encloses (opening closing : Char) (inner : List Char) : Prop where
  pair : (opening, closing) ∈ enclosingPairs
  level : ∀ before, before <+: inner → before.count closing ≤ before.count opening
  closed : inner.count closing = inner.count opening
  plain : opening = closing → opening ∉ inner

section Delimiters

theorem forall_prefix_cons_iff {P : List Char → Prop} {c : Char} :
    (∀ before, before <+: c :: cs → P before) ↔ P [] ∧ ∀ before, before <+: cs → P (c :: before) := by
  simp only [List.prefix_cons_iff]
  constructor
  · intro all
    exact ⟨all [] (.inl rfl), fun before inside => all _ (.inr ⟨before, rfl, inside⟩)⟩
  · rintro ⟨none, some⟩ before (rfl | ⟨shorter, rfl, inside⟩)
    · exact none
    · exact some shorter inside

/-- Balance, counted from a depth: no beginning closes more than is open, and the whole closes all. -/
theorem balanced_iff (apart : opening ≠ closing) (depth : Nat) :
    balanced opening closing depth cs = true ↔
      (∀ before, before <+: cs → before.count closing ≤ before.count opening + depth) ∧
        cs.count closing = cs.count opening + depth := by
  induction cs generalizing depth with
  | nil =>
    simp [balanced]
    omega
  | cons c rest ih =>
    rw [forall_prefix_cons_iff]
    by_cases opens : c = opening
    · subst opens
      have step : balanced c closing depth (c :: rest) = balanced c closing (depth + 1) rest := by
        simp [balanced]
      simp only [step, ih, List.count_cons_self, List.count_cons_of_ne apart, List.count_nil,
        Nat.zero_le, true_and, Nat.add_right_comm _ 1 depth, Nat.add_assoc _ depth 1]
    · by_cases closes : c = closing
      · subst closes
        simp only [List.count_cons_self, List.count_cons_of_ne (Ne.symm apart), List.count_nil,
          Nat.zero_le, true_and]
        cases depth with
        | zero =>
          have stuck : balanced opening c 0 (c :: rest) = false := by
            simp [balanced, Ne.symm apart]
          rw [stuck]
          refine iff_of_false Bool.false_ne_true ?_
          rintro ⟨all, -⟩
          exact absurd (all [] List.nil_prefix) (by simp)
        | succ outer =>
          have step : balanced opening c (outer + 1) (c :: rest) = balanced opening c outer rest := by
            simp [balanced, Ne.symm apart]
          rw [step, ih]
          simp only [← Nat.add_assoc, Nat.add_le_add_iff_right, Nat.add_right_cancel_iff]
      · have step : balanced opening closing depth (c :: rest) =
            balanced opening closing depth rest := by
          cases depth <;> simp [balanced, opens, closes]
        simp only [step, ih, List.count_cons_of_ne opens, List.count_cons_of_ne closes,
          List.count_nil, Nat.zero_le, true_and]

theorem fits_iff : fits opening closing inner = true ↔
    (∀ before, before <+: inner → before.count closing ≤ before.count opening) ∧
      inner.count closing = inner.count opening ∧ (opening = closing → opening ∉ inner) := by
  unfold fits
  by_cases same : opening = closing
  · subst same
    simp
  · rw [if_neg same, balanced_iff same]
    simp [same]

theorem enclosed?_eq_some_iff : enclosed? opening closing cs = some inner ↔
    cs = opening :: (inner ++ [closing]) ∧ fits opening closing inner = true := by
  constructor
  · intro found
    cases cs with
    | nil => cases found
    | cons first rest =>
      rw [enclosed?] at found
      split at found
      · next holds =>
        cases found
        simp only [Bool.and_eq_true, decide_eq_true_eq, beq_iff_eq] at holds
        obtain ⟨⟨rfl, last⟩, fitting⟩ := holds
        exact ⟨by rw [List.dropLast_append_getLast? _ last], fitting⟩
      · cases found
  · rintro ⟨rfl, fitting⟩
    simp [enclosed?, fitting]

/-- A text between two delimiters is taken out just when these belong together. -/
theorem unwrapped?_eq_some_iff : unwrapped? cs = some inner ↔
    ∃ opening closing, Encloses opening closing inner ∧ cs = opening :: (inner ++ [closing]) := by
  have sound {cs inner : List Char} (found : unwrapped? cs = some inner) :
      ∃ opening closing, Encloses opening closing inner ∧ cs = opening :: (inner ++ [closing]) := by
    obtain ⟨⟨opening, closing⟩, pair, found⟩ := List.exists_of_findSome?_eq_some found
    obtain ⟨whole, fitting⟩ := enclosed?_eq_some_iff.mp found
    obtain ⟨level, closed, plain⟩ := fits_iff.mp fitting
    exact ⟨opening, closing, ⟨pair, level, closed, plain⟩, whole⟩
  constructor
  · exact sound
  · rintro ⟨opening, closing, ⟨pair, level, closed, plain⟩, rfl⟩
    cases found : unwrapped? (opening :: (inner ++ [closing])) with
    | none =>
      have missed := List.findSome?_eq_none_iff.mp found (opening, closing) pair
      have taken := enclosed?_eq_some_iff.mpr ⟨rfl, fits_iff.mpr ⟨level, closed, plain⟩⟩
      exact absurd (missed.symm.trans taken) (by simp)
    | some other =>
      -- the text between the first and the last character is the same for every pair
      obtain ⟨_, _, _, whole⟩ := sound found
      obtain ⟨-, whole⟩ := List.cons_eq_cons.mp whole
      obtain ⟨same, -⟩ := List.append_inj' whole rfl
      rw [same]

theorem unwrap_of_some (found : unwrapped? cs = some inner) : unwrap cs = unwrap (trim inner) := by
  rw [unwrap]
  split
  · next other same =>
    rw [found] at same
    cases same
    rfl
  · next missed => simp [found] at missed

theorem unwrap_of_none (missed : unwrapped? cs = none) : unwrap cs = cs := by
  rw [unwrap]
  split
  · next other same => simp [missed] at same
  · rfl

theorem Encloses.trim_eq (encloses : Encloses opening closing inner) :
    trim (opening :: (inner ++ [closing])) = opening :: (inner ++ [closing]) := by
  have marks : ∀ pair ∈ enclosingPairs, isBlank pair.1 = false ∧ isBlank pair.2 = false := by decide
  obtain ⟨first, last⟩ := marks _ encloses.pair
  rw [trim_eq_self_iff]
  constructor
  · rintro c ⟨⟩
    exact first
  · intro c closes
    rw [← List.cons_append, List.getLast?_concat] at closes
    cases closes
    exact last

end Delimiters

section Wrapping

/-- A text holds a label inside a number of enclosing pairs, with nothing but blanks beside the label
and beside each of the pairs. -/
inductive Wrapped (label : List Char) : Nat → List Char → Prop where
  | bare {before behind : List Char} (blankBefore : ∀ c ∈ before, isBlank c = true)
      (blankBehind : ∀ c ∈ behind, isBlank c = true) : Wrapped label 0 (before ++ label ++ behind)
  | layer {before behind inner : List Char} {opening closing : Char} {count : Nat}
      (encloses : Encloses opening closing inner) (wrapped : Wrapped label count inner)
      (blankBefore : ∀ c ∈ before, isBlank c = true)
      (blankBehind : ∀ c ∈ behind, isBlank c = true) :
      Wrapped label (count + 1) (before ++ opening :: (inner ++ [closing]) ++ behind)

/-- A text that no pair encloses, without blanks at its ends. -/
structure Bare (label : List Char) : Prop where
  trimmed : trim label = label
  unenclosed : ∀ opening closing inner, Encloses opening closing inner →
    label ≠ opening :: (inner ++ [closing])

theorem bare_of_unwrapped? (trimmed : trim cs = cs) (missed : unwrapped? cs = none) : Bare cs where
  trimmed := trimmed
  unenclosed := by
    rintro opening closing inner encloses rfl
    have taken := unwrapped?_eq_some_iff.mpr ⟨opening, closing, encloses, rfl⟩
    exact absurd (missed.symm.trans taken) (by simp)

theorem Bare.unwrapped?_eq_none (bare : Bare cs) : unwrapped? cs = none := by
  cases found : unwrapped? cs with
  | none => rfl
  | some inner =>
    obtain ⟨opening, closing, encloses, whole⟩ := unwrapped?_eq_some_iff.mp found
    exact absurd whole (bare.unenclosed opening closing inner encloses)

theorem Wrapped.padded (wrapped : Wrapped label count cs) {before behind : List Char}
    (blankBefore : ∀ c ∈ before, isBlank c = true) (blankBehind : ∀ c ∈ behind, isBlank c = true) :
    Wrapped label count (before ++ cs ++ behind) := by
  cases wrapped with
  | bare first last =>
    have whole : Wrapped label 0 ((_ ++ _) ++ label ++ (_ ++ _)) :=
      .bare (List.forall_mem_append.mpr ⟨blankBefore, first⟩)
        (List.forall_mem_append.mpr ⟨last, blankBehind⟩)
    simpa only [List.append_assoc] using whole
  | layer encloses inside first last =>
    have whole := inside.layer encloses (List.forall_mem_append.mpr ⟨blankBefore, first⟩)
      (List.forall_mem_append.mpr ⟨last, blankBehind⟩)
    simpa only [List.append_assoc, List.cons_append] using whole

/-- Taking pairs off a trimmed text leaves a text without pairs and blanks, from inside of them. -/
theorem exists_wrapped_unwrap (trimmed : trim cs = cs) :
    Bare (unwrap cs) ∧ ∃ count, Wrapped (unwrap cs) count cs := by
  have nothing : ∀ c ∈ ([] : List Char), isBlank c = true := by simp
  induction cs using unwrap.induct with
  | case1 cs inner found _ ih =>
    obtain ⟨bare, count, inside⟩ := ih (trim_trim inner)
    obtain ⟨opening, closing, encloses, rfl⟩ := unwrapped?_eq_some_iff.mp found
    obtain ⟨before, behind, whole, blankBefore, blankBehind⟩ := exists_trim inner
    have padded := inside.padded blankBefore blankBehind
    rw [← whole] at padded
    have layered := padded.layer encloses nothing nothing
    rw [unwrap_of_some found]
    exact ⟨bare, count + 1, by simpa using layered⟩
  | case2 cs missed =>
    have alone : Wrapped cs 0 ([] ++ cs ++ []) := .bare nothing nothing
    rw [unwrap_of_none missed]
    exact ⟨bare_of_unwrapped? trimmed missed, 0, by simpa using alone⟩

/-- A trimmed text shows whether it is a label or has a pair to take off. -/
theorem Wrapped.trim_cases (wrapped : Wrapped label count cs) (bare : Bare label) :
    count = 0 ∧ trim cs = label ∨ ∃ opening closing inner inside, count = inside + 1 ∧
      Encloses opening closing inner ∧ trim cs = opening :: (inner ++ [closing]) ∧
        Wrapped label inside inner := by
  cases wrapped with
  | bare blankBefore blankBehind =>
    exact .inl ⟨rfl, trim_around bare.trimmed blankBefore blankBehind⟩
  | layer encloses inside blankBefore blankBehind =>
    exact .inr ⟨_, _, _, _, rfl, encloses, trim_around encloses.trim_eq blankBefore blankBehind,
      inside⟩

/-- A text leads to one label, through one number of pairs. -/
theorem Wrapped.unique {other : List Char} {number : Nat} (first : Wrapped label count cs)
    (bare : Bare label) (second : Wrapped other number cs) (bareOther : Bare other) :
    other = label ∧ number = count := by
  induction count generalizing cs number with
  | zero =>
    rcases first.trim_cases bare with ⟨_, whole⟩ | ⟨_, _, _, _, more, _⟩
    · rcases second.trim_cases bareOther with ⟨none, same⟩ | ⟨_, _, _, _, _, encloses, pair, _⟩
      · exact ⟨same.symm.trans whole, none⟩
      · exact absurd (whole.symm.trans pair) (bare.unenclosed _ _ _ encloses)
    · cases more
  | succ count ih =>
    rcases first.trim_cases bare with ⟨none, _⟩ | ⟨_, _, _, _, ⟨⟩, encloses, whole, inside⟩
    · cases none
    · rcases second.trim_cases bareOther with ⟨_, same⟩ | ⟨_, _, _, _, rfl, _, pair, inside'⟩
      · exact absurd (same.symm.trans whole) (bareOther.unenclosed _ _ _ encloses)
      · obtain ⟨-, pair⟩ := List.cons_eq_cons.mp (whole.symm.trans pair)
        obtain ⟨rfl, -⟩ := List.append_inj' pair rfl
        obtain ⟨same, number⟩ := ih inside inside'
        exact ⟨same, congrArg (· + 1) number⟩

theorem Wrapped.length_le (wrapped : Wrapped label count cs) :
    2 * count + label.length ≤ cs.length := by
  induction wrapped with
  | bare _ _ =>
    simp only [List.length_append]
    omega
  | layer _ _ _ _ ih =>
    simp only [List.length_append, List.length_cons, List.length_nil]
    omega

theorem Wrapped.isInfix (wrapped : Wrapped label count cs) : label <:+: cs := by
  induction wrapped with
  | @bare before behind _ _ => exact ⟨before, behind, rfl⟩
  | @layer before behind inner opening closing _ _ _ _ _ ih =>
    apply ih.trans
    exact ⟨before ++ [opening], closing :: behind, by simp⟩

/-- Beside the label there are only blanks and delimiters. -/
theorem Wrapped.mem_cases (wrapped : Wrapped label count cs) {c : Char} (member : c ∈ cs) :
    c ∈ label ∨ isBlank c = true ∨ ∃ pair ∈ enclosingPairs, c = pair.1 ∨ c = pair.2 := by
  induction wrapped with
  | bare blankBefore blankBehind =>
    rcases List.mem_append.mp member with member | behind
    · rcases List.mem_append.mp member with before | inside
      · exact .inr (.inl (blankBefore c before))
      · exact .inl inside
    · exact .inr (.inl (blankBehind c behind))
  | layer encloses _ blankBefore blankBehind ih =>
    simp only [List.mem_append, List.mem_cons, List.not_mem_nil, or_false] at member
    rcases member with (before | rfl | inside | rfl) | behind
    · exact .inr (.inl (blankBefore c before))
    · exact .inr (.inr ⟨_, encloses.pair, .inl rfl⟩)
    · exact ih inside
    · exact .inr (.inr ⟨_, encloses.pair, .inr rfl⟩)
    · exact .inr (.inl (blankBehind c behind))

/-- The label inside a text is what taking pairs off leaves of it. -/
theorem exists_wrapped_iff (cs : List Char) : ∃ count, ∀ other number,
    Wrapped other number cs ∧ Bare other ↔ other = unwrap (trim cs) ∧ number = count := by
  obtain ⟨bare, count, wrapped⟩ := exists_wrapped_unwrap (trim_trim cs)
  obtain ⟨before, behind, whole, blankBefore, blankBehind⟩ := exists_trim cs
  have padded := wrapped.padded blankBefore blankBehind
  rw [← whole] at padded
  refine ⟨count, fun other number => ⟨?_, ?_⟩⟩
  · rintro ⟨wrappedOther, bareOther⟩
    exact padded.unique bare wrappedOther bareOther
  · rintro ⟨rfl, rfl⟩
    exact ⟨padded, bare⟩

end Wrapping

section Labels

theorem ruleLabel_cases (rule : String) :
    unwrap (trim rule.toList) ≠ [] ∧ (ruleLabel rule).toList = unwrap (trim rule.toList) ∨
      unwrap (trim rule.toList) = [] ∧ ruleLabel rule = rule := by
  rw [ruleLabel]
  split
  · next empty => exact .inr ⟨empty, rfl⟩
  · next filled => exact .inl ⟨filled, String.toList_ofList⟩

/-- A label is shown as it is. -/
theorem ruleLabel_ruleLabel (rule : String) : ruleLabel (ruleLabel rule) = ruleLabel rule := by
  rcases ruleLabel_cases rule with ⟨filled, label⟩ | ⟨_, same⟩
  · obtain ⟨bare, _⟩ := exists_wrapped_unwrap (trim_trim rule.toList)
    have kept : unwrap (trim (ruleLabel rule).toList) = (ruleLabel rule).toList := by
      rw [label, bare.trimmed, unwrap_of_none bare.unwrapped?_eq_none]
    rcases ruleLabel_cases (ruleLabel rule) with ⟨_, again⟩ | ⟨_, again⟩
    · exact String.toList_injective (again.trans kept)
    · exact again
  · rw [same, same]

end Labels

/-- A rule holds one label inside its enclosing pairs, whichever way these are taken off: the part of it
that no pair encloses and that has no blanks at its ends. There are at most half as many pairs as the
rule has characters. The label is what is shown, but if nothing is left, and the rule holds only blanks
and delimiters, the rule itself is shown. A label is shown as it is. -/
theorem ruleLabel_canonical (rule : String) :
    (∃ label count,
      (∀ other number, Wrapped other number rule.toList ∧ Bare other ↔
        other = label ∧ number = count) ∧
      2 * count + label.length ≤ rule.length ∧ label <:+: rule.toList ∧
      (label ≠ [] ∧ (ruleLabel rule).toList = label ∨
        label = [] ∧ ruleLabel rule = rule ∧ ∀ c ∈ rule.toList,
          isBlank c = true ∨ ∃ pair ∈ enclosingPairs, c = pair.1 ∨ c = pair.2)) ∧
      ruleLabel (ruleLabel rule) = ruleLabel rule := by
  refine ⟨?_, ruleLabel_ruleLabel rule⟩
  obtain ⟨count, only⟩ := exists_wrapped_iff rule.toList
  obtain ⟨wrapped, _⟩ := (only _ _).mpr ⟨rfl, rfl⟩
  refine ⟨_, count, only, wrapped.length_le, wrapped.isInfix, ?_⟩
  rcases ruleLabel_cases rule with shown | ⟨empty, same⟩
  · exact .inl shown
  · refine .inr ⟨empty, same, fun c member => ?_⟩
    rw [empty] at wrapped
    exact (wrapped.mem_cases member).resolve_left List.not_mem_nil

example : ruleLabel " (( '(a) + (b)' )) " = "(a) + (b)" := by cbv

end SchemaAtlas.Lineage
