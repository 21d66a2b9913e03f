import SchemaAtlas.Transform.Argument
import SchemaAtlas.Proofs.Text.Blank
import SchemaAtlas.Proofs.Text.Split

/-! # Arguments that a list gives back

A scan that stands outside quotes and parentheses, and not behind a backslash, goes on as from the
start. So a text that leads from the start to the outside again, without a dividing comma in it, is
cut out whole wherever it stands in a list, and a list of such texts is cut into just these.
-/

namespace SchemaAtlas.Transform

namespace Scan

/-- Neither inside quotes nor inside parentheses. -/
def Outside (scan : Scan) : Prop := scan.quote = none ∧ scan.depth = 0

instance (scan : Scan) : Decidable scan.Outside :=
  inferInstanceAs (Decidable (scan.quote = none ∧ scan.depth = 0))

/-- No comma of a text divides it. -/
def Undivided (scan : Scan) (cs : List Char) : Prop :=
  ∀ before rest, cs = before ++ ',' :: rest → ¬ (scan.run before).Outside

/-- A scan that goes on as from the start. -/
structure Fresh (scan : Scan) : Prop where
  outside : scan.Outside
  unescaped : scan.previous ≠ some '\\'

variable {scan : Scan} {c : Char} {cs rest : List Char}

theorem run_cons : scan.run (c :: cs) = (scan.step c).run cs := rfl

theorem run_append : scan.run (cs ++ rest) = (scan.run cs).run rest := List.foldl_append

theorem divides_iff : scan.divides c = true ↔ c = ',' ∧ scan.Outside := by
  simp [divides, Outside, and_assoc]

theorem undivided_nil : scan.Undivided [] := by
  intro before rest whole
  cases before <;> cases whole

theorem undivided_cons_iff :
    scan.Undivided (c :: cs) ↔ scan.divides c = false ∧ (scan.step c).Undivided cs := by
  rw [Bool.eq_false_iff, ne_eq, divides_iff]
  constructor
  · intro undivided
    refine ⟨fun ⟨comma, outside⟩ => ?_, fun before rest whole => ?_⟩
    · exact undivided [] cs (by rw [comma, List.nil_append]) outside
    · exact undivided (c :: before) rest (by rw [whole, List.cons_append])
  · rintro ⟨here, behind⟩ before rest whole
    cases before with
    | nil =>
      obtain ⟨rfl, rfl⟩ := List.cons_eq_cons.mp whole
      exact fun outside => here ⟨rfl, outside⟩
    | cons first before =>
      obtain ⟨rfl, rfl⟩ := List.cons_eq_cons.mp whole
      exact behind before rest rfl

theorem undivided_append_iff :
    scan.Undivided (cs ++ rest) ↔ scan.Undivided cs ∧ (scan.run cs).Undivided rest := by
  induction cs generalizing scan with
  | nil => simp [undivided_nil, run]
  | cons c cs ih => rw [List.cons_append, undivided_cons_iff, ih, undivided_cons_iff, run_cons,
      and_assoc]

section Fresh

theorem fresh_start : start.Fresh := ⟨⟨rfl, rfl⟩, by decide⟩

/-- Only a backslash tells the characters before from the start. -/
theorem Fresh.step_eq (fresh : scan.Fresh) (c : Char) : scan.step c = start.step c := by
  obtain ⟨quote, depth, previous⟩ := scan
  obtain ⟨⟨rfl, rfl⟩, unescaped⟩ := fresh
  have same : isQuote ⟨none, 0, previous⟩ c = start.isQuote c := by
    have counts : (previous != some '\\') = true := by simpa using unescaped
    simp only [isQuote, counts]
    rfl
  rw [step, step, same]
  rfl

theorem Fresh.run_eq (fresh : scan.Fresh) (nonempty : cs ≠ []) : scan.run cs = start.run cs := by
  obtain ⟨c, cs, rfl⟩ := List.exists_cons_of_ne_nil nonempty
  rw [run_cons, run_cons, fresh.step_eq]

theorem Fresh.undivided_iff (fresh : scan.Fresh) : scan.Undivided cs ↔ start.Undivided cs := by
  refine forall₃_congr fun before rest whole => not_congr ?_
  cases before with
  | nil => exact iff_of_true fresh.outside fresh_start.outside
  | cons c before => rw [fresh.run_eq (List.cons_ne_nil c before)]

end Fresh

section Cut

theorem cut_ne_nil (scan : Scan) (cs : List Char) : scan.cut cs ≠ [] := by
  induction cs generalizing scan with
  | nil => simp [cut]
  | cons c cs ih =>
    unfold cut
    split
    · simp
    · split <;> simp

theorem cut_cons_of_divides (divides : scan.divides c = true) :
    scan.cut (c :: cs) = [] :: (scan.step c).cut cs := by
  rw [cut, if_pos divides]

theorem cut_cons_of_not_divides (within : scan.divides c = false) :
    scan.cut (c :: cs) = ((scan.step c).cut cs).modifyHead (c :: ·) := by
  rw [cut, if_neg (Bool.eq_false_iff.mp within)]
  cases pieces : (scan.step c).cut cs with
  | nil => exact absurd pieces (cut_ne_nil _ _)
  | cons piece pieces => rfl

/-- A text without a dividing comma belongs to the first piece. -/
theorem cut_append (undivided : scan.Undivided cs) (rest : List Char) :
    scan.cut (cs ++ rest) = ((scan.run cs).cut rest).modifyHead (cs ++ ·) := by
  induction cs generalizing scan with
  | nil => exact (congrFun List.modifyHead_id (scan.cut rest)).symm
  | cons c cs ih =>
    obtain ⟨within, undivided⟩ := undivided_cons_iff.mp undivided
    rw [List.cons_append, cut_cons_of_not_divides within, ih undivided, List.modifyHead_modifyHead,
      run_cons]
    rfl

/-- The pieces make up the text again, with a comma between two of them. -/
theorem glue_cut (scan : Scan) (cs : List Char) : Text.glue [','] (scan.cut cs) = cs := by
  induction cs generalizing scan with
  | nil => rfl
  | cons c cs ih =>
    cases divides : scan.divides c with
    | true =>
      rw [cut_cons_of_divides divides, Text.glue_cons _ _ (cut_ne_nil _ _), ih]
      exact congrArg (· :: cs) (divides_iff.mp divides).1.symm
    | false =>
      rw [cut_cons_of_not_divides divides]
      cases pieces : (scan.step c).cut cs with
      | nil => exact absurd pieces (cut_ne_nil _ _)
      | cons piece more =>
        have rest := ih (scan.step c)
        rw [pieces] at rest
        cases more with
        | nil => exact congrArg (c :: ·) rest
        | cons next others => exact congrArg (c :: ·) rest

theorem undivided_iff_cut : scan.Undivided cs ↔ scan.cut cs = [cs] := by
  constructor
  · intro undivided
    simpa [cut] using cut_append undivided []
  · intro single
    induction cs generalizing scan with
    | nil => exact undivided_nil
    | cons c cs ih =>
      cases divides : scan.divides c with
      | true =>
        rw [cut_cons_of_divides divides] at single
        cases single
      | false =>
        rw [cut_cons_of_not_divides divides] at single
        cases pieces : (scan.step c).cut cs with
        | nil => exact absurd pieces (cut_ne_nil _ _)
        | cons piece more =>
          rw [pieces, List.modifyHead_cons, List.cons.injEq, List.cons.injEq] at single
          obtain ⟨⟨-, rfl⟩, rfl⟩ := single
          exact undivided_cons_iff.mpr ⟨divides, ih pieces⟩

end Cut

end Scan

/-- A text that is one argument wherever it stands in a list: it is not empty, no end of it is blank,
and a scan that starts outside goes through it to the outside without meeting a comma there. -/
structure Argument (cs : List Char) : Prop where
  nonempty : cs ≠ []
  trimmed : Text.trim cs = cs
  closed : (Scan.start.run cs).Outside
  undivided : Scan.start.Undivided cs

namespace Argument

variable {cs : List Char}

theorem iff_cut : Argument cs ↔ (cs ≠ [] ∧ Text.trim cs = cs) ∧
    (Scan.start.run cs).Outside ∧ Scan.start.cut cs = [cs] := by
  rw [← Scan.undivided_iff_cut]
  exact ⟨fun ⟨nonempty, trimmed, closed, undivided⟩ => ⟨⟨nonempty, trimmed⟩, closed, undivided⟩,
    fun ⟨⟨nonempty, trimmed⟩, closed, undivided⟩ => ⟨nonempty, trimmed, closed, undivided⟩⟩

instance (cs : List Char) : Decidable (Argument cs) := decidable_of_iff' _ iff_cut

end Argument

section Lists

open Text

variable {arguments : List (List Char)}

/-- Behind an argument, a comma and a space a scan goes on as from the start. -/
theorem Scan.fresh_separated {scan : Scan} (outside : scan.Outside) :
    ((scan.step ',').step ' ').Fresh := by
  obtain ⟨quote, depth, previous⟩ := scan
  obtain ⟨rfl, rfl⟩ := outside
  exact ⟨⟨rfl, rfl⟩, by simp [Scan.step, Scan.isQuote]⟩

/-- A scan that goes on as from the start is outside behind an argument. -/
theorem Argument.outside_run {cs : List Char} (argument : Argument cs) {scan : Scan}
    (fresh : scan.Fresh) : (scan.run cs).Outside := by
  rw [fresh.run_eq argument.nonempty]
  exact argument.closed

/-- A list is cut at the commas between its arguments, each later one keeping the space in front. -/
theorem cut_glue {scan : Scan} (fresh : scan.Fresh) {first : List Char} {rest : List (List Char)}
    (whole : ∀ argument ∈ first :: rest, Argument argument) :
    scan.cut (glue [',', ' '] (first :: rest)) = first :: rest.map (' ' :: ·) := by
  induction rest generalizing scan first with
  | nil =>
    have alone := whole first List.mem_cons_self
    exact Scan.undivided_iff_cut.mp (fresh.undivided_iff.mpr alone.undivided)
  | cons next others ih =>
    obtain ⟨here, behind⟩ := List.forall_mem_cons.mp whole
    have outside : (scan.run first).Outside := here.outside_run fresh
    have comma : (scan.run first).divides ',' = true := Scan.divides_iff.mpr ⟨rfl, outside⟩
    have space : ((scan.run first).step ',').divides ' ' = false := by
      simp [Scan.divides]
    have parts : glue [',', ' '] (first :: next :: others) =
        first ++ ',' :: ' ' :: glue [',', ' '] (next :: others) := by
      simp [glue]
    rw [parts, Scan.cut_append (fresh.undivided_iff.mpr here.undivided),
      Scan.cut_cons_of_divides comma, Scan.cut_cons_of_not_divides space,
      ih (Scan.fresh_separated outside) behind]
    simp

/-- A scan is outside behind a list of arguments. -/
theorem outside_run_glue {scan : Scan} (fresh : scan.Fresh)
    (whole : ∀ argument ∈ arguments, Argument argument) :
    (scan.run (glue [',', ' '] arguments)).Outside := by
  induction arguments generalizing scan with
  | nil => exact fresh.outside
  | cons first rest ih =>
    obtain ⟨here, behind⟩ := List.forall_mem_cons.mp whole
    have outside : (scan.run first).Outside := here.outside_run fresh
    cases rest with
    | nil => exact outside
    | cons next others =>
      rw [glue_cons _ _ (List.cons_ne_nil next others), Scan.run_append, Scan.run_append]
      exact ih (Scan.fresh_separated outside) behind

/-- Pieces that are not blank are all kept, in trimmed form. -/
theorem keptPieces_of_filled {pieces : List (List Char)} (filled : ∀ piece ∈ pieces, trim piece ≠ []) :
    keptPieces pieces = pieces.map trim := by
  induction pieces with
  | nil => rfl
  | cons piece pieces ih =>
    obtain ⟨here, behind⟩ := List.forall_mem_cons.mp filled
    cases pieces with
    | nil => rw [keptPieces, if_neg here, List.map_singleton]
    | cons next others => exact congrArg (trim piece :: ·) (ih behind)

/-- No argument is found in a text only when all of it is blank. -/
theorem blank_of_splitArguments_eq_nil {cs : List Char} (none : splitArguments cs = []) :
    ∀ c ∈ cs, isBlank c = true := by
  have pieces := Scan.glue_cut Scan.start cs
  unfold splitArguments at none
  cases cut : Scan.start.cut cs with
  | nil => exact absurd cut (Scan.cut_ne_nil _ _)
  | cons piece more =>
    rw [cut] at none pieces
    -- only the last piece can be left out, so the text is a single one
    cases more with
    | nil =>
      obtain rfl : piece = cs := pieces
      rw [keptPieces] at none
      split at none
      · next blank => exact trim_eq_nil_iff.mp blank
      · cases none
    | cons next others => cases none

/-- A list of arguments divided by commas and spaces is split into just these. -/
theorem splitArguments_glue (whole : ∀ argument ∈ arguments, Argument argument) :
    splitArguments (glue [',', ' '] arguments) = arguments := by
  cases arguments with
  | nil => rfl
  | cons first rest =>
    have spaced (argument : List Char) : trim (' ' :: argument) = trim argument := rfl
    obtain ⟨here, behind⟩ := List.forall_mem_cons.mp whole
    have trimmed : rest.map (trim ∘ (' ' :: ·)) = rest := by
      conv => rhs; rw [← List.map_id rest]
      exact List.map_congr_left fun argument member =>
        (spaced argument).trans (behind argument member).trimmed
    rw [splitArguments, cut_glue Scan.fresh_start whole, keptPieces_of_filled, List.map_cons,
      List.map_map, here.trimmed, trimmed]
    intro piece member
    rcases List.mem_cons.mp member with rfl | member
    · rw [here.trimmed]
      exact here.nonempty
    · obtain ⟨argument, inside, rfl⟩ := List.mem_map.mp member
      rw [spaced, (behind argument inside).trimmed]
      exact (behind argument inside).nonempty

end Lists

end SchemaAtlas.Transform
