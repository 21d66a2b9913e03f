import SchemaAtlas.Proofs.Transform.Call

/-! # Calls and what only looks like one

A call ends in the parenthesis that closes its first one. Reading looks at the first and the last
parenthesis alone, so two calls with an operator between them are read as one call of the first
name, and the last argument of the one and the first of the other as one argument. Whether such a
text is accepted is left to the number of arguments: only a contract without any keeps it out.
-/

namespace SchemaAtlas.Transform

open Text Document

namespace Scan

/-- What follows the parenthesis that closes the one in front of a text, if the text holds it. -/
def closed? (scan : Scan) : List Char → Option (List Char)
  | [] => none
  | c :: rest => if c = ')' ∧ scan.Outside then some rest else (scan.step c).closed? rest

/-- No parenthesis of a text closes one in front of it. -/
def Inside (scan : Scan) (body : List Char) : Prop :=
  ∀ before, before <+: body → 0 ≤ (scan.run before).depth

variable {scan : Scan} {c : Char} {body : List Char}

theorem inside_cons_iff :
    scan.Inside (c :: body) ↔ 0 ≤ scan.depth ∧ (scan.step c).Inside body := by
  constructor
  · intro inside
    refine ⟨inside [] List.nil_prefix, fun before within => ?_⟩
    exact inside (c :: before) (List.cons_prefix_cons.mpr ⟨rfl, within⟩)
  · rintro ⟨here, behind⟩ before within
    cases before with
    | nil => exact here
    | cons first before =>
      obtain ⟨rfl, shorter⟩ := List.cons_prefix_cons.mp within
      exact behind before shorter

/-- The parenthesis that a step must not meet outside is the closing one. -/
theorem depth_step_nonneg_iff (within : 0 ≤ scan.depth) :
    0 ≤ (scan.step c).depth ↔ ¬ (c = ')' ∧ scan.Outside) := by
  by_cases closes : c = ')'
  · subst closes
    have plain : scan.isQuote ')' = false := rfl
    cases quoted : scan.quote with
    | none =>
      have shallower : (scan.step ')').depth = scan.depth - 1 := by simp [step, plain, quoted]
      simp only [shallower, Outside, quoted, true_and]
      omega
    | some opened =>
      have level : (scan.step ')').depth = scan.depth := by simp [step, plain, quoted]
      simp [level, Outside, quoted, within]
  · have deeper : 0 ≤ scan.depth + 1 := by omega
    have stays : 0 ≤ (scan.step c).depth := by
      unfold step
      split_ifs with quote opening closing
      · exact within
      · exact deeper
      · simp [closes] at closing
      · exact within
    simp [stays, closes]

/-- The last parenthesis closes the first one just when no parenthesis between them does and the scan
is outside again in front of it. -/
theorem closed?_eq_some_nil_iff (within : 0 ≤ scan.depth) :
    scan.closed? (body ++ [')']) = some [] ↔ scan.Inside body ∧ (scan.run body).Outside := by
  induction body generalizing scan with
  | nil => simp [closed?, run, Inside, within]
  | cons c body ih =>
    rw [List.cons_append, closed?, run_cons, inside_cons_iff]
    by_cases closes : c = ')' ∧ scan.Outside
    · have negative : ¬ (scan.step c).Inside body := fun inside =>
        (depth_step_nonneg_iff within).mp (inside [] List.nil_prefix) closes
      rw [if_pos closes]
      simp [negative]
    · rw [if_neg closes, ih ((depth_step_nonneg_iff within).mpr closes)]
      simp [within]

end Scan

/-- A text between two parentheses that belong together: no parenthesis in it closes the one in front
of it, and a scan is outside again where the one behind it stands. -/
structure Enclosed (body : List Char) : Prop where
  inside : Scan.start.Inside body
  closed : (Scan.start.run body).Outside

/-- A string is a call apart from blanks at its ends: its last parenthesis closes its first. -/
def IsCall (s : String) : Prop :=
  ∃ name body, SpellsCall (trim s.toList) name body ∧ Enclosed body

theorem closed?_eq_some_nil_iff_enclosed {body : List Char} :
    Scan.start.closed? (body ++ [')']) = some [] ↔ Enclosed body := by
  rw [Scan.closed?_eq_some_nil_iff (Int.le_refl 0)]
  exact ⟨fun ⟨inside, closed⟩ => ⟨inside, closed⟩, fun ⟨inside, closed⟩ => ⟨inside, closed⟩⟩

theorem isCall_iff {s : String} {name body : List Char}
    (spells : SpellsCall (trim s.toList) name body) : IsCall s ↔ Enclosed body := by
  constructor
  · rintro ⟨name', body', spells', enclosed⟩
    obtain ⟨rfl, rfl⟩ := spells.unique spells'
    exact enclosed
  · exact fun enclosed => ⟨name, body, spells, enclosed⟩

section Joined

variable {scan : Scan} {c : Char} {cs left right middle : List Char}

/-- The characters that change where a scan stands. -/
def marks : List Char := ['"', '\x27', '(', ')']

/-- A text without quotes and parentheses. -/
def Unmarked (cs : List Char) : Prop := ∀ c ∈ cs, c ∉ marks

instance (cs : List Char) : Decidable (Unmarked cs) := List.decidableBAll (· ∉ marks) cs

theorem unmarked_of_all {p : Char → Bool} (apart : marks.any p = false)
    (all : ∀ c ∈ cs, p c = true) : Unmarked cs :=
  fun c member mark => List.any_eq_false.mp apart c mark (all c member)

theorem Scan.step_unmarked (scan : Scan) (unmarked : c ∉ marks) :
    (scan.step c).quote = scan.quote ∧ (scan.step c).depth = scan.depth := by
  simp only [marks, List.mem_cons, List.not_mem_nil, or_false, not_or] at unmarked
  obtain ⟨double, single, opening, closing⟩ := unmarked
  have plain : scan.isQuote c = false := by simp [Scan.isQuote, double, single]
  simp [Scan.step, plain, opening, closing]

theorem Unmarked.run_eq (unmarked : Unmarked cs) (scan : Scan) :
    (scan.run cs).quote = scan.quote ∧ (scan.run cs).depth = scan.depth := by
  induction cs generalizing scan with
  | nil => exact ⟨rfl, rfl⟩
  | cons c cs ih =>
    obtain ⟨here, behind⟩ := List.forall_mem_cons.mp unmarked
    obtain ⟨quote, depth⟩ := scan.step_unmarked here
    rw [Scan.run_cons, ← quote, ← depth]
    exact ih behind _

/-- Inside parentheses, no comma of an unmarked text divides. -/
theorem Unmarked.undivided (unmarked : Unmarked cs) (inside : ¬ scan.Outside) :
    scan.Undivided cs := by
  rintro before rest rfl outside
  have part : Unmarked before := fun c member => unmarked c (List.mem_append_left _ member)
  obtain ⟨quote, depth⟩ := part.run_eq scan
  exact inside ⟨quote ▸ outside.1, depth ▸ outside.2⟩

theorem Scan.Outside.step_closing (outside : scan.Outside) :
    (scan.step ')').quote = none ∧ (scan.step ')').depth = -1 := by
  obtain ⟨quote, depth, previous⟩ := scan
  obtain ⟨rfl, rfl⟩ := outside
  exact ⟨rfl, rfl⟩

/-- A closing parenthesis, an unmarked text and an opening parenthesis lead outside again. -/
theorem Scan.Outside.fresh_between (outside : scan.Outside) (unmarked : Unmarked middle) :
    (((scan.step ')').run middle).step '(').Fresh := by
  obtain ⟨quote, depth⟩ := outside.step_closing
  obtain ⟨quote', depth'⟩ := unmarked.run_eq (scan.step ')')
  generalize (scan.step ')').run middle = between at quote' depth' ⊢
  obtain ⟨opened, level, previous⟩ := between
  obtain rfl : opened = none := quote'.trans quote
  obtain rfl : level = -1 := depth'.trans depth
  exact ⟨⟨rfl, rfl⟩, by simp [Scan.step, Scan.isQuote]⟩

/-- Between two arguments, a closing parenthesis, an unmarked text and an opening parenthesis make
one argument of them. -/
theorem Argument.bridge (first : Argument left) (second : Argument right)
    (unmarked : Unmarked middle) : Argument (left ++ (')' :: middle ++ ['(']) ++ right) := by
  have fresh := first.closed.fresh_between unmarked
  -- the depth is negative behind the closing parenthesis, so no comma divides until the next opens
  have inside : ¬ ((Scan.start.run left).step ')').Outside := by
    intro outside
    rw [Scan.Outside, first.closed.step_closing.2] at outside
    exact absurd outside.2 (by decide)
  have reached : Scan.start.run (left ++ (')' :: middle ++ ['('])) =
      (((Scan.start.run left).step ')').run middle).step '(' := by
    rw [Scan.run_append, List.cons_append, Scan.run_cons, Scan.run_append]
    rfl
  refine ⟨by simp [first.nonempty], trim_between first.trimmed second.trimmed first.nonempty
    second.nonempty _, ?_, ?_⟩
  · rw [Scan.run_append, reached]
    exact second.outside_run fresh
  · rw [Scan.undivided_append_iff, Scan.undivided_append_iff, reached, fresh.undivided_iff]
    refine ⟨⟨first.undivided, ?_⟩, second.undivided⟩
    rw [List.cons_append, Scan.undivided_cons_iff, Scan.undivided_append_iff]
    exact ⟨rfl, unmarked.undivided inside,
      Scan.undivided_cons_iff.mpr ⟨rfl, Scan.undivided_nil⟩⟩

/-- Two calls with an unmarked text between them are one call of the first name in writing. -/
theorem spelled_joined {name between other last first : String} {before rest : List String} :
    spelled name (before ++ [last]) ++ between ++ spelled other (first :: rest) =
      spelled name (before ++ (last ++ ")" ++ (between ++ other) ++ "(" ++ first) :: rest) := by
  apply String.toList_injective
  have bridge : (last ++ ")" ++ (between ++ other) ++ "(" ++ first).toList =
      last.toList ++ (')' :: (between ++ other).toList ++ ['(']) ++ first.toList := by
    simp
  rw [toList_spelled, List.map_append, List.map_cons, bridge, ← glue_append]
  simp [toList_spelled]

/-- Two calls with an unmarked text between them are read as one call of the first name. -/
theorem parse?_joined {name between other last first : String} {before rest : List String}
    (nonempty : name ≠ "") (wordy : ∀ c ∈ name.toList, isWord c = true)
    (unmarked : Unmarked (between ++ other).toList)
    (whole : ∀ argument ∈ before ++ last :: first :: rest, Argument argument.toList) :
    Call.parse? (spelled name (before ++ [last]) ++ between ++ spelled other (first :: rest)) =
      some ⟨name, before ++ (last ++ ")" ++ (between ++ other) ++ "(" ++ first) :: rest,
        spelled name (before ++ [last]) ++ between ++ spelled other (first :: rest)⟩ := by
  simp only [List.forall_mem_append, List.forall_mem_cons] at whole
  obtain ⟨front, here, there, behind⟩ := whole
  have bridge : Argument (last ++ ")" ++ (between ++ other) ++ "(" ++ first).toList := by
    simpa using here.bridge there unmarked
  rw [spelled_joined]
  refine parse?_spelled nonempty wordy ?_
  simp only [List.forall_mem_append, List.forall_mem_cons]
  exact ⟨front, bridge, behind⟩

/-- Two calls with a text between them are no call: the first one ends in the parenthesis that closes
its first. -/
theorem not_isCall_joined {name between other : String} {arguments others : List String}
    (nonempty : name ≠ "") (wordy : ∀ c ∈ name.toList, isWord c = true)
    (whole : ∀ argument ∈ arguments, Argument argument.toList) :
    ¬ IsCall (spelled name arguments ++ between ++ spelled other others) := by
  have spells : SpellsCall (spelled name arguments ++ between ++ spelled other others).toList
      name.toList (glue [',', ' '] (arguments.map String.toList) ++ ')' ::
        ((between ++ other).toList ++ '(' :: glue [',', ' '] (others.map String.toList))) :=
    ⟨by simpa using nonempty, wordy, by simp [toList_spelled]⟩
  rw [isCall_iff (spells.trim_eq.symm ▸ spells)]
  intro enclosed
  have outside : (Scan.start.run (glue [',', ' '] (arguments.map String.toList))).Outside :=
    outside_run_glue Scan.fresh_start (by simpa using whole)
  have level := enclosed.inside (glue [',', ' '] (arguments.map String.toList) ++ [')']) (by simp)
  rw [Scan.run_append, Scan.run_cons, Scan.run, List.foldl_nil, outside.step_closing.2] at level
  exact absurd level (by decide)

end Joined

section Contracts

variable {contract : Contract}

theorem Unmarked.enclosed {body : List Char} (unmarked : Unmarked body) : Enclosed body where
  inside before within := by
    have part : Unmarked before := fun c member => unmarked c (within.subset member)
    exact Int.le_of_eq (part.run_eq Scan.start).2.symm
  closed := unmarked.run_eq Scan.start

/-- A call without arguments has nothing but blanks between its parentheses. -/
theorem isCall_of_no_arguments {s : String} {call : Call} (read : Call.parse? s = some call)
    (empty : call.arguments = []) : IsCall s := by
  obtain ⟨name, body, spells, rfl⟩ := Call.parse?_eq_some_iff.mp read
  have blank := blank_of_splitArguments_eq_nil (List.map_eq_nil_iff.mp empty)
  exact ⟨name, body, spells, (unmarked_of_all (by decide) blank).enclosed⟩

/-- Where a contract allows an argument, two calls with an operator between them are accepted. -/
theorem exists_accepted_joined (member : contract ∈ catalogue) (allows : contract.most ≠ some 0) :
    ∃ s call, Call.parse? s = some call ∧ call.name = contract.name ∧ call.problem? = none ∧
      ¬ IsCall s := by
  have named : ∀ contract ∈ catalogue, contract.name ≠ "" ∧
      contract.name.toList.all isWord = true := by decide
  have bounds : ∀ contract ∈ catalogue, ∀ most ∈ contract.most, contract.least ≤ most := by decide
  obtain ⟨nonempty, wordy⟩ := named contract member
  rw [List.all_eq_true] at wordy
  have letter : Argument "x".toList := by decide
  -- as many arguments as the contract asks for at the least, and one if it asks for none
  have more : ∀ argument ∈ List.replicate (contract.least - 1) "x", Argument argument.toList :=
    fun argument inside => List.eq_of_mem_replicate inside ▸ letter
  have read : Call.parse? (spelled contract.name ([] ++ ["x"]) ++ " + " ++
      spelled "y" ("x" :: List.replicate (contract.least - 1) "x")) = _ :=
    parse?_joined nonempty wordy (by decide)
      (List.forall_mem_cons.mpr ⟨letter, List.forall_mem_cons.mpr ⟨letter, more⟩⟩)
  refine ⟨_, _, read, rfl, ?_, not_isCall_joined nonempty wordy (by simpa using letter)⟩
  refine Call.problem?_eq_none_iff.mpr ⟨contract, member, rfl, ?_, fun most bound => ?_⟩
  · simp only [List.nil_append, List.length_cons, List.length_replicate]
    omega
  · have least := bounds contract member most bound
    have positive : most ≠ 0 := fun zero => allows (zero ▸ bound)
    simp only [List.nil_append, List.length_cons, List.length_replicate]
    omega

/-- All that a contract accepts are calls just when it allows no arguments. -/
theorem contract_genuine_iff (member : contract ∈ catalogue) :
    (∀ t call, Call.parse? t = some call → call.name = contract.name → call.problem? = none →
      IsCall t) ↔ contract.most = some 0 := by
  constructor
  · intro genuine
    by_contra allows
    obtain ⟨t, call, read, named, accepted, other⟩ := exists_accepted_joined member allows
    exact other (genuine t call read named accepted)
  · intro bound t call read named accepted
    obtain ⟨own, known, same, _, few⟩ := Call.problem?_eq_none_iff.mp accepted
    obtain rfl : own = contract := by
      have found := contract?_eq_some_iff.mpr ⟨known, same.trans named⟩
      rw [contract?_eq_some_iff.mpr ⟨member, rfl⟩] at found
      exact (Option.some.inj found).symm
    exact isCall_of_no_arguments read (List.eq_nil_of_length_eq_zero (Nat.le_zero.mp (few 0 bound)))

/-- A string that is read as a call is one just when its last parenthesis closes its first. -/
theorem reads_genuine_iff {s : String} : (∀ call, Call.parse? s = some call → IsCall s) ↔
    ∀ name body, SpellsCall (trim s.toList) name body →
      Scan.start.closed? (body ++ [')']) = some [] := by
  constructor
  · intro genuine name body spells
    rw [closed?_eq_some_nil_iff_enclosed, ← isCall_iff spells]
    exact genuine _ (Call.parse?_eq_some_iff.mpr ⟨name, body, spells, rfl⟩)
  · intro closes call read
    obtain ⟨name, body, spells, -⟩ := Call.parse?_eq_some_iff.mp read
    rw [isCall_iff spells, ← closed?_eq_some_nil_iff_enclosed]
    exact closes name body spells

/-- A string that is accepted is a call just when its last parenthesis closes its first, or else no
contract of its name allows as many arguments. -/
theorem accepts_genuine_iff {s : String} : (problem? (.text s) = none → IsCall s) ↔
    ∀ name body, SpellsCall (trim s.toList) name body →
      ∀ contract ∈ catalogue, contract.name = String.ofList name →
        contract.least ≤ (splitArguments body).length →
        (∀ most ∈ contract.most, (splitArguments body).length ≤ most) →
          Scan.start.closed? (body ++ [')']) = some [] := by
  rw [problem?_text_eq_none_iff]
  constructor
  · intro genuine name body spells contract member named enough few
    rw [closed?_eq_some_nil_iff_enclosed, ← isCall_iff spells]
    refine genuine ⟨_, Call.parse?_eq_some_iff.mpr ⟨name, body, spells, rfl⟩, ?_⟩
    rw [Call.problem?_eq_none_iff]
    exact ⟨contract, member, named, by rwa [List.length_map], by rwa [List.length_map]⟩
  · rintro closes ⟨call, read, accepted⟩
    obtain ⟨name, body, spells, rfl⟩ := Call.parse?_eq_some_iff.mp read
    obtain ⟨contract, member, named, enough, few⟩ := Call.problem?_eq_none_iff.mp accepted
    rw [List.length_map] at enough few
    rw [isCall_iff spells, ← closed?_eq_some_nil_iff_enclosed]
    exact closes name body spells contract member named enough few

end Contracts

/-- Whether a string that reads as a call is one hangs on its parentheses alone: reading asks for a
name, an opening parenthesis, any text and a closing parenthesis, apart from blanks at the ends, and
not that the last parenthesis closes the first. So two calls with an unmarked text between them are
read as one call of the first name, and only a contract without any arguments refuses all of these. -/
theorem calls_read_by_ends (s : String) :
    (∀ call, Call.parse? s = some call ↔
      ∃ name body, SpellsCall (trim s.toList) name body ∧
        call = ⟨String.ofList name, (splitArguments body).map String.ofList,
          String.ofList (trim s.toList)⟩) ∧
      ((∀ call, Call.parse? s = some call → IsCall s) ↔
        ∀ name body, SpellsCall (trim s.toList) name body →
          Scan.start.closed? (body ++ [')']) = some []) ∧
      ((problem? (.text s) = none → IsCall s) ↔
        ∀ name body, SpellsCall (trim s.toList) name body →
          ∀ contract ∈ catalogue, contract.name = String.ofList name →
            contract.least ≤ (splitArguments body).length →
            (∀ most ∈ contract.most, (splitArguments body).length ≤ most) →
              Scan.start.closed? (body ++ [')']) = some []) ∧
      (∀ name between other last first before rest,
        s = spelled name (before ++ [last]) ++ between ++ spelled other (first :: rest) →
        name ≠ "" → (∀ c ∈ name.toList, isWord c = true) → Unmarked (between ++ other).toList →
        (∀ argument ∈ before ++ last :: first :: rest, Argument argument.toList) →
          Call.parse? s =
              some ⟨name, before ++ (last ++ ")" ++ (between ++ other) ++ "(" ++ first) :: rest, s⟩ ∧
            ¬ IsCall s) ∧
      ∀ contract ∈ catalogue,
        ((∀ t call, Call.parse? t = some call → call.name = contract.name → call.problem? = none →
          IsCall t) ↔ contract.most = some 0) := by
  refine ⟨fun call => Call.parse?_eq_some_iff, reads_genuine_iff, accepts_genuine_iff, ?_,
    fun contract member => contract_genuine_iff member⟩
  rintro name between other last first before rest rfl nonempty wordy unmarked whole
  obtain ⟨front, behind⟩ := List.forall_mem_append.mp whole
  refine ⟨parse?_joined nonempty wordy unmarked whole, not_isCall_joined nonempty wordy ?_⟩
  exact List.forall_mem_append.mpr
    ⟨front, List.forall_mem_singleton.mpr (List.forall_mem_cons.mp behind).1⟩

/-- Two calls with an operator between them are accepted as one call with one argument. -/
theorem joined_calls_accepted :
    Call.parse? "coalesce($.a) || coalesce($.b)" =
        some ⟨"coalesce", ["$.a) || coalesce($.b"], "coalesce($.a) || coalesce($.b)"⟩ ∧
      problem? (.text "coalesce($.a) || coalesce($.b)") = none ∧
      ¬ IsCall "coalesce($.a) || coalesce($.b)" := by
  refine ⟨by decide +kernel, by decide +kernel, ?_⟩
  have written : "coalesce($.a) || coalesce($.b)" =
      spelled "coalesce" ["$.a"] ++ " || " ++ spelled "coalesce" ["$.b"] := by decide
  rw [written]
  exact not_isCall_joined (by decide) (List.all_eq_true.mp (by decide)) (by decide +kernel)

end SchemaAtlas.Transform
