import SchemaAtlas.Transform.Contract
import SchemaAtlas.Proofs.Keyed
import SchemaAtlas.Proofs.Text.Split
import SchemaAtlas.Proofs.Transform.Argument

/-! # Calls that are read back

A text is read as a call just when it is, in trimmed form, a name, an opening parenthesis, any text,
and a closing parenthesis at the end. So a call that is written out of a name and of arguments is
read as these, and nothing is wrong with it just when the catalogue has a contract of that name that
allows their number.
-/

namespace SchemaAtlas.Transform

open Text Document

section Spelling

/-- A text is a name, and another text in parentheses that stand behind the name and at the end. -/
structure SpellsCall (cs name body : List Char) : Prop where
  nonempty : name ≠ []
  wordy : ∀ c ∈ name, isWord c = true
  whole : cs = name ++ '(' :: (body ++ [')'])

variable {cs name body : List Char}

theorem withoutClosing?_eq_some_iff : withoutClosing? cs = some body ↔ cs = body ++ [')'] := by
  unfold withoutClosing?
  constructor
  · intro found
    split at found
    · next rest same =>
      cases found
      rw [← List.reverse_cons, ← same, List.reverse_reverse]
    · cases found
  · rintro rfl
    simp

theorem callParts?_eq_some_iff : callParts? cs = some (name, body) ↔ SpellsCall cs name body := by
  unfold callParts?
  constructor
  · intro found
    split at found
    · next c word rest first behind =>
      obtain ⟨inner, closes, same⟩ := Option.map_eq_some_iff.mp found
      cases same
      have parts := List.takeWhile_append_dropWhile (p := isWord) (l := cs)
      rw [first, behind, withoutClosing?_eq_some_iff.mp closes] at parts
      refine ⟨List.cons_ne_nil c word, fun letter member => ?_, parts.symm⟩
      rw [← first] at member
      exact List.mem_takeWhile_imp member
    · cases found
  · rintro ⟨nonempty, wordy, rfl⟩
    have paren : ¬ isWord '(' = true := by decide
    obtain ⟨c, word, rfl⟩ := List.exists_cons_of_ne_nil nonempty
    rw [List.takeWhile_append_of_pos wordy, List.dropWhile_append_of_pos wordy,
      List.takeWhile_cons_of_neg paren, List.dropWhile_cons_of_neg paren, List.append_nil]
    simp [withoutClosing?_eq_some_iff.mpr rfl]

theorem SpellsCall.unique {name' body' : List Char} (spells : SpellsCall cs name body)
    (spells' : SpellsCall cs name' body') : name = name' ∧ body = body' := by
  have read := callParts?_eq_some_iff.mpr spells
  rw [callParts?_eq_some_iff.mpr spells'] at read
  simpa [eq_comm] using read

theorem SpellsCall.trim_eq (spells : SpellsCall cs name body) : trim cs = cs := by
  obtain ⟨nonempty, wordy, rfl⟩ := spells
  obtain ⟨c, word, rfl⟩ := List.exists_cons_of_ne_nil nonempty
  have first : isBlank c = false := isBlank_eq_false_of_isWord (wordy c List.mem_cons_self)
  have last : isBlank ')' = false := rfl
  rw [trim_eq_self_iff]
  constructor
  · simpa using first
  · rw [← List.cons_append, ← List.append_assoc, List.getLast?_concat]
    simpa using last

/-- A string is read as a call just when it spells one, apart from blanks at its ends. -/
theorem Call.parse?_eq_some_iff {s : String} {call : Call} : Call.parse? s = some call ↔
    ∃ name body, SpellsCall (trim s.toList) name body ∧
      call = ⟨String.ofList name, (splitArguments body).map String.ofList,
        String.ofList (trim s.toList)⟩ := by
  unfold Call.parse?
  rw [Option.map_eq_some_iff]
  simp only [Prod.exists, callParts?_eq_some_iff]
  exact exists₂_congr fun name body => and_congr_right fun _ => eq_comm

end Spelling

section Contracts

/-- The contracts of the catalogue go by different names. -/
theorem contract?_eq_some_iff {name : String} {contract : Contract} :
    contract? name = some contract ↔ contract ∈ catalogue ∧ contract.name = name := by
  have names : (catalogue.map Contract.name).Nodup := by decide
  have keyed : contract? name = Keyed.find? Contract.name name catalogue := rfl
  rw [keyed]
  constructor
  · exact Keyed.key_of_find?
  · rintro ⟨member, rfl⟩
    exact Keyed.find?_of_mem names member

/-- Nothing is wrong with a call just when a contract of its name allows the number of arguments. -/
theorem Call.problem?_eq_none_iff {call : Call} : call.problem? = none ↔
    ∃ contract ∈ catalogue, contract.name = call.name ∧
      contract.least ≤ call.arguments.length ∧
      ∀ most ∈ contract.most, call.arguments.length ≤ most := by
  unfold Call.problem?
  constructor
  · intro fine
    split at fine
    · cases fine
    · next contract found =>
      obtain ⟨member, named⟩ := contract?_eq_some_iff.mp found
      refine ⟨contract, member, named, ?_⟩
      dsimp only at fine
      split at fine
      · cases fine
      · next enough =>
        refine ⟨Nat.le_of_not_lt enough, fun most bound => ?_⟩
        rw [Option.mem_def] at bound
        rw [bound] at fine
        dsimp only at fine
        split at fine
        · cases fine
        · next few => exact Nat.le_of_not_lt few
  · rintro ⟨contract, member, named, enough, few⟩
    rw [contract?_eq_some_iff.mpr ⟨member, named⟩]
    dsimp only
    rw [if_neg (Nat.not_lt.mpr enough)]
    cases bound : contract.most with
    | none => rfl
    | some most => exact if_neg (Nat.not_lt.mpr (few most bound))

theorem problem?_text_eq_none_iff {s : String} : problem? (.text s) = none ↔
    ∃ call, Call.parse? s = some call ∧ call.problem? = none := by
  have read : Call.ofValue? (.text s) = Call.parse? s := rfl
  unfold problem?
  rw [read]
  cases Call.parse? s <;> simp

end Contracts

section Written

variable {name : String} {arguments : List String}

/-- A call in its written form, with a comma and a space between two arguments. -/
def spelled (name : String) (arguments : List String) : String :=
  name ++ "(" ++ joined ", " arguments ++ ")"

theorem toList_spelled : (spelled name arguments).toList =
    name.toList ++ '(' :: (glue [',', ' '] (arguments.map String.toList) ++ [')']) := by
  simp [spelled, toList_joined]

theorem spellsCall_spelled (nonempty : name ≠ "") (wordy : ∀ c ∈ name.toList, isWord c = true) :
    SpellsCall (spelled name arguments).toList name.toList
      (glue [',', ' '] (arguments.map String.toList)) :=
  ⟨by simpa using nonempty, wordy, toList_spelled⟩

/-- A call that is written out of a word and arguments is read as these. -/
theorem parse?_spelled (nonempty : name ≠ "") (wordy : ∀ c ∈ name.toList, isWord c = true)
    (whole : ∀ argument ∈ arguments, Argument argument.toList) :
    Call.parse? (spelled name arguments) = some ⟨name, arguments, spelled name arguments⟩ := by
  have spells : SpellsCall (spelled name arguments).toList name.toList _ :=
    spellsCall_spelled nonempty wordy
  rw [Call.parse?_eq_some_iff]
  refine ⟨_, _, spells.trim_eq.symm ▸ spells, ?_⟩
  rw [splitArguments_glue (by simpa using whole), spells.trim_eq]
  simp [Function.comp_def]

end Written

/-- A call is read as the name and the arguments that it is written out of, and nothing is wrong with
it just when the catalogue has a contract of the name that allows as many arguments. -/
theorem call_read_back {name : String} {arguments : List String} (nonempty : name ≠ "")
    (wordy : ∀ c ∈ name.toList, isWord c = true)
    (whole : ∀ argument ∈ arguments, Argument argument.toList) :
    Call.parse? (spelled name arguments) = some ⟨name, arguments, spelled name arguments⟩ ∧
      (problem? (.text (spelled name arguments)) = none ↔
        ∃ contract ∈ catalogue, contract.name = name ∧ contract.least ≤ arguments.length ∧
          ∀ most ∈ contract.most, arguments.length ≤ most) := by
  have read := parse?_spelled nonempty wordy whole
  refine ⟨read, ?_⟩
  rw [problem?_text_eq_none_iff, read]
  simp [Call.problem?_eq_none_iff]

/-- Arguments with nested calls, with commas and parentheses in quotes, with a quote that a backslash
keeps from closing, and with parentheses that only balance as a whole. -/
def crowdedArguments : List String :=
  ["coalesce($.a, trim($.b))", "', ('", "'it\\'s, or \"not'", ")("]

theorem crowdedCall_read_back :
    ("concat" ≠ "" ∧ (∀ c ∈ "concat".toList, isWord c = true) ∧
      ∀ argument ∈ crowdedArguments, Argument argument.toList) ∧
    spelled "concat" crowdedArguments =
      "concat(coalesce($.a, trim($.b)), ', (', 'it\\'s, or \"not', )()" ∧
    Call.parse? (spelled "concat" crowdedArguments) =
      some ⟨"concat", crowdedArguments, spelled "concat" crowdedArguments⟩ ∧
    problem? (.text (spelled "concat" crowdedArguments)) = none := by
  have nonempty : "concat" ≠ "" := by decide
  have wordy : ∀ c ∈ "concat".toList, isWord c = true := List.all_eq_true.mp (by decide)
  have whole : ∀ argument ∈ crowdedArguments, Argument argument.toList := by decide +kernel
  obtain ⟨read, accepted⟩ := call_read_back nonempty wordy whole
  refine ⟨⟨nonempty, wordy, whole⟩, by decide +kernel, read, accepted.mpr ?_⟩
  exact ⟨⟨"concat", "Concatenate multiple strings", 2, none⟩, by simp [catalogue], rfl, by decide,
    by simp⟩

end SchemaAtlas.Transform
