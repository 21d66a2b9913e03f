import SchemaAtlas.Loading.Format
import SchemaAtlas.Proofs.Attempt
import SchemaAtlas.Proofs.Document.Legible
import SchemaAtlas.Proofs.Json.Names

/-! # What readers yield

Both readers yield legible values. In JSON there are no tuples at all. In YAML a node that becomes
an entry of a dictionary, its own or a merged one, is given a value that is no tuple; only the pairs
of an ordered mapping are, and they go into a list.
-/

namespace SchemaAtlas.Json

open Document

theorem isEntry_of_readAtom {cs : List Char} {found : Read Value cs}
    (success : readAtom cs = .ok found) : found.value.IsEntry := by
  obtain ⟨s, same⟩ := exists_scalar_of_readAtom success
  rw [same]
  exact isEntry_scalar s

section Reading

/-- Whatever value is read from a text of up to a length may stand in a dictionary. -/
def ValuesLegible (length : Nat) : Prop :=
  ∀ cs : List Char, cs.length ≤ length → ∀ found, readValue cs = .ok found → found.value.IsEntry

/-- The same for the items of lists and the members of objects. -/
def PartsLegible (length : Nat) : Prop :=
  ∀ cs : List Char, cs.length ≤ length →
    (∀ found, readItems cs = .ok found → ∀ item ∈ found.value, item.IsEntry) ∧
    (∀ found, readMembers cs = .ok found → ∀ member ∈ found.value, member.2.IsEntry)

theorem ValuesLegible.succ {length : Nat} (parts : PartsLegible length) :
    ValuesLegible (length + 1) := by
  intro cs bound found success
  unfold readValue at success
  split at success
  · cases success
  · next c rest =>
    have fits : (skipSpace rest).length ≤ length := by
      have := length_skipSpace_le rest
      simp only [List.length_cons] at bound
      omega
    obtain ⟨items, members⟩ := parts (skipSpace rest) fits
    split at success
    · obtain ⟨string, _, success⟩ := Attempt.bind_eq_ok_iff.mp success
      cases success
      exact isEntry_scalar _
    · split at success
      · split at success
        · cases success
          exact ⟨rfl, rfl⟩
        · obtain ⟨read, known, success⟩ := Attempt.bind_eq_ok_iff.mp success
          cases success
          exact ⟨allLegible_iff.mpr fun item member => (items read known item member).1, rfl⟩
      · split at success
        · split at success
          · cases success
            exact ⟨rfl, rfl⟩
          · obtain ⟨read, known, success⟩ := Attempt.bind_eq_ok_iff.mp success
            cases success
            exact ⟨isLegible_ofList (members read known), rfl⟩
        · exact isEntry_of_readAtom success

end Reading

end SchemaAtlas.Json

namespace SchemaAtlas.Yaml

open Document

/-- Every value of an outcome has a property. -/
def Outcome.Yields {α : Type} (P : α → Prop) (outcome : Outcome α) : Prop :=
  ∀ value, outcome = .ok value → P value

namespace Outcome

variable {α β γ : Type} {P : α → Prop} {Q : β → Prop} {R : γ → Prop}

theorem yields_error (fault : Deep) : Yields P (.error fault) := by
  intro value success
  cases success

theorem yields_filled {P : Value → Prop} {make : α → Value} {outcome : Outcome α}
    (each : outcome.Yields fun parts => P (make parts)) : Yields P (filled make outcome) := by
  cases outcome with
  | error fault => exact yields_error _
  | ok parts =>
    rintro value ⟨⟩
    exact each parts rfl

theorem yields_both {join : α → β → γ} {first : Outcome α} {second : Outcome β}
    (here : first.Yields P) (there : second.Yields Q) (joined : ∀ a b, P a → Q b → R (join a b)) :
    Yields R (both join first second) := by
  cases first with
  | error fault => cases second <;> exact yields_error _
  | ok a =>
    cases second with
    | error fault => exact yields_error _
    | ok b =>
      rintro value ⟨⟩
      exact joined a b (here a rfl) (there b rfl)

theorem yields_all {outcomes : List (Outcome α)} (each : ∀ outcome ∈ outcomes, outcome.Yields P) :
    Yields (fun values => ∀ value ∈ values, P value) (all outcomes) := by
  induction outcomes with
  | nil =>
    rintro values ⟨⟩
    simp
  | cons outcome outcomes ih =>
    obtain ⟨here, behind⟩ := List.forall_mem_cons.mp each
    refine yields_both here (ih behind) fun value values good others => ?_
    exact List.forall_mem_cons.mpr ⟨good, others⟩

theorem yields_here {attempt : Except Fault Scalar} :
    Yields Value.IsEntry (here (attempt.map .scalar)) := by
  cases attempt with
  | error fault => exact yields_error _
  | ok s =>
    rintro value ⟨⟩
    exact isEntry_scalar s

theorem yields_wrongKind {P : Value → Prop} : Yields P (filled id (here wrongKind)) :=
  yields_error _

end Outcome

/-- Every outcome of a sequence yields only values with a property. -/
def AllYield {α : Type} (P : α → Prop) (outcomes : List (Outcome α)) : Prop :=
  ∀ outcome ∈ outcomes, outcome.Yields P

/-- A member of a mapping whose value may stand in a dictionary. -/
def IsMember (member : Scalar × Value) : Prop := member.2.IsEntry

theorem AllYield.append {α : Type} {P : α → Prop} {first second : List (Outcome α)}
    (here : AllYield P first) (there : AllYield P second) : AllYield P (first ++ second) :=
  List.forall_mem_append.mpr ⟨here, there⟩

mutual

/-- The value of a node may stand in a dictionary. -/
theorem isEntry_value (node : Node) : node.value.Yields Value.IsEntry := by
  cases node with
  | scalar tag text =>
    unfold Node.value
    split
    · exact Outcome.yields_wrongKind
    · exact Outcome.yields_here
  | sequence tag items =>
    have list {P : Value → Prop} {outcomes : List (Outcome Value)} (each : AllYield P outcomes)
        (legible : ∀ value, P value → value.isLegible = true) :
        Outcome.Yields Value.IsEntry (Outcome.filled .list (Outcome.all outcomes)) :=
      Outcome.yields_filled fun values success =>
        ⟨allLegible_iff.mpr fun value member =>
          legible value (Outcome.yields_all each values success value member), rfl⟩
    unfold Node.value
    split
    · exact list (isEntry_valuesOf items) fun _ good => good.1
    · exact list (isLegible_pairsOf items) fun _ good => good
    · exact list (isLegible_pairsOf items) fun _ good => good
    · exact Outcome.yields_wrongKind
    · exact Outcome.yields_wrongKind
    · exact Outcome.yields_here
  | mapping tag entries =>
    have members := isMember_membersOf entries
    unfold Node.value
    split
    · exact Outcome.yields_filled fun values success =>
        ⟨isLegible_ofList (members values success), rfl⟩
    · exact Outcome.yields_filled fun values _ => ⟨rfl, rfl⟩
    · exact Outcome.yields_wrongKind
    · exact Outcome.yields_wrongKind
    · exact Outcome.yields_wrongKind
    · exact Outcome.yields_here
  | enclosing =>
    unfold Node.value
    rintro value ⟨⟩
    exact isEntry_scalar .null

theorem isEntry_valuesOf (nodes : List Node) : AllYield Value.IsEntry (valuesOf nodes) := by
  cases nodes with
  | nil => simp [AllYield, valuesOf]
  | cons node rest =>
    unfold valuesOf
    exact List.forall_mem_cons.mpr ⟨isEntry_value node, isEntry_valuesOf rest⟩

/-- Pairs are tuples, so they are legible but may stand only in lists. -/
theorem isLegible_pairsOf (nodes : List Node) :
    AllYield (fun value => value.isLegible = true) (pairsOf nodes) := by
  cases nodes with
  | nil => simp [AllYield, pairsOf]
  | cons node rest =>
    have behind := isLegible_pairsOf rest
    have noPair : AllYield (fun value => value.isLegible = true)
        (Outcome.here wrongKind :: pairsOf rest) :=
      List.forall_mem_cons.mpr ⟨Outcome.yields_error _, behind⟩
    unfold pairsOf
    cases node with
    | mapping tag entries =>
      match entries with
      | [] => exact noPair
      | [(key, value)] =>
        refine List.forall_mem_cons.mpr ⟨?_, behind⟩
        refine Outcome.yields_both (isEntry_value key) (isEntry_value value) ?_
        exact fun a b first second => allLegible_iff.mpr (by simp [first.1, second.1])
      | _ :: _ :: _ => exact noPair
    | _ => exact noPair

theorem isMember_membersOf (entries : List (Node × Node)) :
    (membersOf entries).Yields fun members => ∀ member ∈ members, IsMember member := by
  have parts := isMember_flattened entries
  unfold membersOf
  split
  · exact Outcome.yields_error _
  · next merged own success =>
    obtain ⟨here, there⟩ := parts merged own success
    exact Outcome.yields_all (here.append there)

theorem isMember_flattened (entries : List (Node × Node)) :
    ∀ merged own, flattened entries = .ok (merged, own) →
      AllYield IsMember merged ∧ AllYield IsMember own := by
  cases entries with
  | nil =>
    unfold flattened
    rintro merged own ⟨⟩
    simp [AllYield]
  | cons entry rest =>
    obtain ⟨key, value⟩ := entry
    have behind := isMember_flattened rest
    have front := isMember_mergedFrom value
    have good := isEntry_value value
    intro merged own success
    unfold flattened at success
    split at success
    · obtain ⟨here, given, success⟩ := Attempt.bind_eq_ok_iff.mp success
      obtain ⟨⟨others, own'⟩, flat, success⟩ := Attempt.bind_eq_ok_iff.mp success
      cases success
      obtain ⟨rest', own''⟩ := behind _ _ flat
      exact ⟨(front here given).append rest', own''⟩
    · obtain ⟨⟨others, own'⟩, flat, success⟩ := Attempt.bind_eq_ok_iff.mp success
      cases success
      obtain ⟨merged', own''⟩ := behind _ _ flat
      refine ⟨merged', List.forall_mem_cons.mpr ⟨?_, own''⟩⟩
      exact Outcome.yields_both (P := fun _ => True) (fun _ _ => trivial) good
        fun _ _ _ kept => kept

theorem isMember_mergedFrom (node : Node) :
    ∀ members, mergedFrom node = .ok members → AllYield IsMember members := by
  cases node with
  | scalar tag text =>
    unfold mergedFrom
    rintro members ⟨⟩
  | sequence tag items =>
    unfold mergedFrom
    exact isMember_mergedFromItems items
  | mapping tag entries =>
    have parts := isMember_flattened entries
    unfold mergedFrom
    intro members success
    obtain ⟨⟨merged, own⟩, flat, success⟩ := Attempt.bind_eq_ok_iff.mp success
    cases success
    obtain ⟨here, there⟩ := parts _ _ flat
    exact here.append there
  | enclosing =>
    unfold mergedFrom
    rintro members ⟨⟩
    simp [AllYield]

theorem isMember_mergedFromItems (nodes : List Node) :
    ∀ members, mergedFromItems nodes = .ok members → AllYield IsMember members := by
  cases nodes with
  | nil =>
    unfold mergedFromItems
    rintro members ⟨⟩
    simp [AllYield]
  | cons node rest =>
    have behind := isMember_mergedFromItems rest
    intro members success
    cases node with
    | mapping tag entries =>
      have parts := isMember_flattened entries
      unfold mergedFromItems at success
      obtain ⟨⟨merged, own⟩, flat, success⟩ := Attempt.bind_eq_ok_iff.mp success
      obtain ⟨others, given, success⟩ := Attempt.bind_eq_ok_iff.mp success
      cases success
      obtain ⟨here, there⟩ := parts _ _ flat
      exact (behind others given).append (here.append there)
    | enclosing =>
      unfold mergedFromItems at success
      exact behind members success
    | _ =>
      unfold mergedFromItems at success
      cases success

end

end SchemaAtlas.Yaml

namespace SchemaAtlas.Loading

open Document

end SchemaAtlas.Loading
