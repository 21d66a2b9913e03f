import SchemaAtlas.Text.Blank

/-! # Rule labels

A rule is shown without the parentheses and quotes that enclose all of it, and without blanks
around what is left. A rule that holds nothing else is shown as it is.
-/

namespace SchemaAtlas.Lineage

/-- Whether parentheses never close more than they opened, and end where they began. -/
def balanced (opening closing : Char) (depth : Nat) : List Char → Bool
  | [] => depth == 0
  | c :: rest =>
      if c = opening then balanced opening closing (depth + 1) rest
      else if c = closing then
        match depth with
        | 0 => false
        | outer + 1 => balanced opening closing outer rest
      else balanced opening closing depth rest

/-- Whether a text can stand between an opening and a closing that belong together. -/
def fits (opening closing : Char) (inner : List Char) : Bool :=
  if opening = closing then !inner.contains opening else balanced opening closing 0 inner

/-- The text between the first and the last character, when these two enclose it. -/
def enclosed? (opening closing : Char) (cs : List Char) : Option (List Char) :=
  match cs with
  | first :: rest =>
      if first = opening && rest.getLast? == some closing && fits opening closing rest.dropLast then
        some rest.dropLast
      else none
  | [] => none

/-- The pairs that may enclose a rule. -/
def enclosingPairs : List (Char × Char) :=
  [('(', ')'), ('"', '"'), (Char.ofNat 39, Char.ofNat 39)]

/-- The text that some pair encloses. -/
def unwrapped? (cs : List Char) : Option (List Char) :=
  enclosingPairs.findSome? fun (opening, closing) => enclosed? opening closing cs

theorem length_trim_le (cs : List Char) : (Text.trim cs).length ≤ cs.length := by
  unfold Text.trim Text.trimEnd Text.trimStart
  rw [List.length_reverse]
  refine Nat.le_trans (List.dropWhile_sublist _).length_le ?_
  rw [List.length_reverse]
  exact (List.dropWhile_sublist _).length_le

theorem length_enclosed?_lt {opening closing : Char} {cs inner : List Char}
    (found : enclosed? opening closing cs = some inner) : inner.length < cs.length := by
  unfold enclosed? at found
  split at found
  · split at found
    · cases found
      rw [List.length_dropLast, List.length_cons]
      exact Nat.lt_succ_of_le (Nat.sub_le _ _)
    · cases found
  · cases found

theorem length_unwrapped?_lt {cs inner : List Char} (found : unwrapped? cs = some inner) :
    inner.length < cs.length := by
  obtain ⟨pair, _, found⟩ := List.exists_of_findSome?_eq_some found
  exact length_enclosed?_lt found

/-- Take enclosing pairs off, trimming after each, until none is left. -/
def unwrap (cs : List Char) : List Char :=
  match found : unwrapped? cs with
  | some inner =>
      have := length_unwrapped?_lt found
      unwrap (Text.trim inner)
  | none => cs
termination_by cs.length
decreasing_by
  exact Nat.lt_of_le_of_lt (length_trim_le _) this

/-- A rule as it is shown. -/
def ruleLabel (rule : String) : String :=
  match unwrap (Text.trim rule.toList) with
  | [] => rule
  | label => String.ofList label

end SchemaAtlas.Lineage
