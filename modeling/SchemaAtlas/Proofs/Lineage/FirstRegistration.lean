import SchemaAtlas.Proofs.Lineage.Registration
import Mathlib.Data.List.Induction

/-! # First registrations

Asking for a node adds it under a new id, is answered with the held one under a known id of the same
kind, and is refused under one of another kind. So whatever is asked for in a row, the ids that are
held are those of the accepted registrations in the order of first acceptance, each held node is the
one that was accepted first under its id, and a refusal leaves no trace.
-/

namespace SchemaAtlas.Lineage.Nodes

variable {nodes after held : Nodes} {registration next : Registration}
  {answer : Except Clash Node} {before : List Registration} {answers : List (Except Clash Node)}

section Asking

theorem run_ensureAll_cons {rest : List Registration} {more : List (Except Clash Node)}
    {last : Nodes} (asked : (ensure next).run.run nodes = (answer, after))
    (later : (ensureAll rest).run after = (more, last)) :
    (ensureAll (next :: rest)).run nodes = (answer :: more, last) := by
  have opened : (ensureAll (next :: rest)).run nodes =
      (((ensure next).run.run nodes).1 :: ((ensureAll rest).run ((ensure next).run.run nodes).2).1,
        ((ensureAll rest).run ((ensure next).run.run nodes).2).2) := by
    rw [ensureAll, List.mapM_cons]
    rfl
  rw [opened, asked, later]

/-- Asking goes on with what is held after the earlier registrations. -/
theorem run_ensureAll_append {behind : List Registration} {more : List (Except Clash Node)}
    {last : Nodes} (earlier : (ensureAll before).run nodes = (answers, after))
    (later : (ensureAll behind).run after = (more, last)) :
    (ensureAll (before ++ behind)).run nodes = (answers ++ more, last) := by
  have opened : (ensureAll (before ++ behind)).run nodes =
      (((ensureAll before).run nodes).1 ++ ((ensureAll behind).run ((ensureAll before).run nodes).2).1,
        ((ensureAll behind).run ((ensureAll before).run nodes).2).2) := by
    rw [ensureAll, List.mapM_append]
    rfl
  rw [opened, earlier, later]

end Asking

section Acceptance

/-- The registrations that were answered with a node. -/
def accepted (registrations : List Registration) (answers : List (Except Clash Node)) :
    List Registration :=
  ((registrations.zip answers).filter fun answered => answered.2.isOk).map Prod.fst

/-- What is held after some registrations and their answers: the ids that were accepted, in the order
of first acceptance, and under each id the node that was accepted first. -/
structure FirstWins (registrations : List Registration) (answers : List (Except Clash Node))
    (nodes : Nodes) : Prop where
  answered : answers.length = registrations.length
  ids : nodes.map Node.id = ((accepted registrations answers).map Registration.id).eraseDups
  first : ∀ node ∈ nodes, ∃ registration,
    (accepted registrations answers).find? (fun other => decide (other.id = node.id)) =
        some registration ∧ node = registration.node

theorem accepted_concat (next : Registration) (answer : Except Clash Node)
    (answered : answers.length = before.length) :
    accepted (before ++ [next]) (answers ++ [answer]) =
      accepted before answers ++ if answer.isOk then [next] else [] := by
  rw [accepted, List.zip_append answered.symm, List.filter_append, List.map_append, accepted]
  cases answer <;> rfl

namespace FirstWins

theorem nil : FirstWins [] [] [] := ⟨rfl, rfl, fun _ member => absurd member List.not_mem_nil⟩

/-- Of nodes that are held no two share an id, so looking an id up finds the node that has it. -/
theorem find?_eq_some_iff (wins : FirstWins before answers held) {id : String} {node : Node} :
    held.find? id = some node ↔ node ∈ held ∧ node.id = id := by
  constructor
  · exact Keyed.key_of_find?
  · rintro ⟨member, rfl⟩
    exact Keyed.find?_of_mem (wins.ids ▸ Keyed.nodup_eraseDups _) member

theorem mem_ids_iff (wins : FirstWins before answers held) {id : String} :
    id ∈ (accepted before answers).map Registration.id ↔ id ∈ held.map Node.id := by
  rw [wins.ids, List.mem_eraseDups]

theorem find?_accepted_eq_none (wins : FirstWins before answers held) {id : String}
    (new : id ∉ held.map Node.id) :
    (accepted before answers).find? (fun other => decide (other.id = id)) = none := by
  rw [List.find?_eq_none]
  intro other earlier same
  have claimed : id ∈ (accepted before answers).map Registration.id :=
    of_decide_eq_true same ▸ List.mem_map_of_mem earlier
  exact new (wins.mem_ids_iff.mp claimed)

/-- A held node stays the first of its id when more is accepted. -/
theorem first_append (wins : FirstWins before answers held) (more : List Registration) {node : Node}
    (member : node ∈ held) : ∃ registration,
      (accepted before answers ++ more).find? (fun other => decide (other.id = node.id)) =
        some registration ∧ node = registration.node := by
  obtain ⟨registration, found, same⟩ := wins.first node member
  exact ⟨registration, by rw [List.find?_append, found, Option.some_or], same⟩

/-- Asking for one more node keeps what was accepted first, whatever the answer is. -/
theorem step (wins : FirstWins before answers held) (asked : Ensures held next answer after) :
    FirstWins (before ++ [next]) (answers ++ [answer]) after := by
  have answered : (answers ++ [answer]).length = (before ++ [next]).length := by
    rw [List.length_append, List.length_append, wins.answered]
    rfl
  have accepts := accepted_concat next answer wins.answered
  cases asked with
  | added new =>
    have unclaimed := mt wins.mem_ids_iff.mp new
    refine ⟨answered, ?_, ?_⟩
    · rw [accepts, List.map_append, List.map_append, wins.ids]
      exact ((Keyed.eraseDups_concat _ next.id).trans (if_neg unclaimed)).symm
    · intro node member
      rw [accepts]
      rcases List.mem_append.mp member with early | late
      · exact wins.first_append _ early
      · obtain rfl := List.mem_singleton.mp late
        have none_before := wins.find?_accepted_eq_none new
        refine ⟨next, ?_, rfl⟩
        change (accepted before answers ++ [next]).find? (fun other => decide (other.id = next.id)) = _
        rw [List.find?_append, none_before, Option.none_or]
        exact List.find?_cons_of_pos (decide_eq_true rfl)
  | @known node found same =>
    obtain ⟨member, named⟩ := Keyed.key_of_find? found
    have taken : next.id ∈ after.map Node.id := named ▸ List.mem_map_of_mem member
    have claimed := wins.mem_ids_iff.mpr taken
    refine ⟨answered, ?_, ?_⟩
    · rw [accepts, List.map_append, wins.ids]
      exact ((Keyed.eraseDups_concat _ next.id).trans (if_pos claimed)).symm
    · intro other member
      rw [accepts]
      exact wins.first_append _ member
  | refused found differs =>
    rw [Except.isOk, Except.toBool, if_neg Bool.false_ne_true, List.append_nil] at accepts
    refine ⟨answered, ?_, ?_⟩
    · rw [accepts]
      exact wins.ids
    · rw [accepts]
      exact wins.first

/-- A registration is accepted just when its id is new or held under the same kind. -/
theorem accepts_iff (wins : FirstWins before answers held) (asked : Ensures held next answer after) :
    (∃ node, answer = .ok node) ↔
      next.id ∉ held.map Node.id ∨ ∃ node ∈ held, node.id = next.id ∧ node.kind = next.kind := by
  cases asked with
  | added new => exact iff_of_true ⟨_, rfl⟩ (.inl new)
  | known found same =>
    obtain ⟨member, named⟩ := Keyed.key_of_find? found
    exact iff_of_true ⟨_, rfl⟩ (.inr ⟨_, member, named, same⟩)
  | refused found differs =>
    obtain ⟨member, named⟩ := Keyed.key_of_find? found
    refine iff_of_false (by simp) ?_
    rintro (new | ⟨other, member', named', same⟩)
    · exact new (named ▸ List.mem_map_of_mem member)
    · have alike := wins.find?_eq_some_iff.mpr ⟨member', named'⟩
      rw [found, Option.some.injEq] at alike
      exact differs (alike ▸ same)

end FirstWins

/-- The answer to an accepted registration is held under its id from then on. -/
theorem Ensures.held_of_ok {node : Node} (asked : Ensures nodes next (.ok node) after) :
    node ∈ after ∧ node.id = next.id ∧ node.kind = next.kind := by
  cases asked with
  | added new => exact ⟨List.mem_append_right _ List.mem_cons_self, rfl, rfl⟩
  | known found same =>
    obtain ⟨member, named⟩ := Keyed.key_of_find? found
    exact ⟨member, named, same⟩

/-- A refusal changes nothing and names the kind that is held under the id. -/
theorem Ensures.unchanged_of_error {clash : Clash} (asked : Ensures nodes next (.error clash) after) :
    after = nodes ∧ ∃ node ∈ nodes, node.id = next.id ∧ clash = ⟨node.id, node.kind, next.kind⟩ := by
  cases asked with
  | refused found differs =>
    obtain ⟨member, named⟩ := Keyed.key_of_find? found
    exact ⟨rfl, _, member, named, by rw [named]⟩

/-- Whatever is asked for in a row, starting from nothing, what is accepted first is what is held. -/
theorem exists_firstWins (registrations : List Registration) :
    ∃ answers held, (ensureAll registrations).run [] = (answers, held) ∧
      FirstWins registrations answers held := by
  induction registrations using List.reverseRecOn with
  | nil => exact ⟨[], [], rfl, .nil⟩
  | append_singleton before next ih =>
    obtain ⟨answers, held, run, wins⟩ := ih
    rcases asked : (ensure next).run.run held with ⟨answer, after⟩
    have last : (ensureAll [next]).run held = ([answer], after) := run_ensureAll_cons asked rfl
    exact ⟨_, _, run_ensureAll_append run last, wins.step (run_ensure_eq_iff.mp asked)⟩

/-- After any registrations, starting from nothing, the ids that are held are those of the accepted
ones in the order of first acceptance, and each held node is the one that was accepted first under its
id. The next registration is accepted just when its id is new or held under the same kind; it is then
answered with the node that is held under its id from then on. Refused, it changes nothing, and the
answer tells the two kinds. What is asked for later changes none of these answers. -/
theorem first_registration_wins (before : List Registration) (next : Registration)
    (behind : List Registration) : ∃ answers held answer after more last,
      ((ensureAll before).run [] = (answers, held) ∧ (ensure next).run.run held = (answer, after) ∧
        (ensureAll behind).run after = (more, last) ∧
        (ensureAll (before ++ next :: behind)).run [] = (answers ++ answer :: more, last)) ∧
      FirstWins before answers held ∧
      ((∃ node, answer = .ok node) ↔
        next.id ∉ held.map Node.id ∨ ∃ node ∈ held, node.id = next.id ∧ node.kind = next.kind) ∧
      (∀ node, answer = .ok node → node ∈ after ∧ node.id = next.id ∧ node.kind = next.kind) ∧
      ∀ clash, answer = .error clash → after = held ∧
        ∃ node ∈ held, node.id = next.id ∧ clash = ⟨node.id, node.kind, next.kind⟩ := by
  obtain ⟨answers, held, run, wins⟩ := exists_firstWins before
  rcases asked : (ensure next).run.run held with ⟨answer, after⟩
  rcases later : (ensureAll behind).run after with ⟨more, last⟩
  have whole := run_ensureAll_append run (run_ensureAll_cons asked later)
  have ensures := run_ensure_eq_iff.mp asked
  refine ⟨answers, held, answer, after, more, last, ⟨run, asked, later, whole⟩, wins,
    wins.accepts_iff ensures, ?_, ?_⟩
  · rintro node rfl
    exact ensures.held_of_ok
  · rintro clash rfl
    exact ensures.unchanged_of_error

end Acceptance

end SchemaAtlas.Lineage.Nodes
