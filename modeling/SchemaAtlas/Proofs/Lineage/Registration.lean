import SchemaAtlas.Attempt
import SchemaAtlas.Lineage.Node
import SchemaAtlas.Proofs.Keyed

/-! # What registration keeps

Asking for a node adds it under a new id, is answered with the held one under a known id of the same
kind, and is refused under one of another kind. A registration keeps what is held then, so a run of
registrations extends the nodes by some of those offered, in their order, keeps ids apart, and
leaves every offered id known. It is refused only where two nodes of one id differ in kind.
-/

namespace SchemaAtlas.Lineage.Nodes

variable {nodes result : Nodes} {node : Node} {more : List Node}

section Asking

variable {registration : Registration} {answer : Except Clash Node} {after : Nodes}

/-- What asking for a node comes to: the answer, and the nodes that are held from then on. -/
inductive Ensures (nodes : Nodes) (registration : Registration) : Except Clash Node → Nodes → Prop
  | added (new : registration.id ∉ nodes.map Node.id) :
      Ensures nodes registration (.ok registration.node) (nodes ++ [registration.node])
  | known {node : Node} (found : nodes.find? registration.id = some node)
      (same : node.kind = registration.kind) : Ensures nodes registration (.ok node) nodes
  | refused {node : Node} (found : nodes.find? registration.id = some node)
      (differs : node.kind ≠ registration.kind) :
      Ensures nodes registration (.error ⟨registration.id, node.kind, registration.kind⟩) nodes

theorem run_ensure (nodes : Nodes) (registration : Registration) :
    (ensure registration).run.run nodes =
      match nodes.find? registration.id with
      | some node =>
          if node.kind = registration.kind then (.ok node, nodes)
          else (.error ⟨registration.id, node.kind, registration.kind⟩, nodes)
      | none => (.ok registration.node, nodes ++ [registration.node]) := by
  have opened : (ensure registration).run.run nodes = StateT.run (ExceptT.run
      (match nodes.find? registration.id with
      | some node =>
          if node.kind = registration.kind then pure node
          else throw ⟨registration.id, node.kind, registration.kind⟩
      | none => (do
          modify (· ++ [registration.node])
          return registration.node : ExceptT Clash (StateM Nodes) Node))) nodes := rfl
  rw [opened]
  split
  · split <;> rfl
  · rfl

theorem run_ensure_eq_iff :
    (ensure registration).run.run nodes = (answer, after) ↔
      Ensures nodes registration answer after := by
  rw [run_ensure]
  constructor
  · intro run
    split at run
    · next node found =>
      split at run
      · next same =>
        cases run
        exact .known found same
      · next differs =>
        cases run
        exact .refused found differs
    · next absent =>
      cases run
      exact .added (Keyed.find?_eq_none_iff.mp absent)
  · intro ensures
    cases ensures with
    | added new => rw [show nodes.find? registration.id = none from Keyed.find?_eq_none_iff.mpr new]
    | known found same => simp only [found, same, if_true]
    | refused found differs => simp only [found, differs, if_false]

end Asking

/-- A node is registered when it is not refused, and what is held from then on is kept. -/
theorem register_eq_ok_iff : nodes.register node = .ok result ↔
    ∃ held, Ensures nodes node.registration (.ok held) result := by
  simp only [← run_ensure_eq_iff, register]
  rcases (ensure node.registration).run.run nodes with ⟨clash | held, after⟩
  · constructor
    · rintro ⟨⟩
    · rintro ⟨_, ⟨⟩⟩
  · constructor
    · rintro ⟨⟩
      exact ⟨held, rfl⟩
    · rintro ⟨_, ⟨⟩⟩
      rfl

theorem register_of_new (new : node.id ∉ nodes.map Node.id) :
    nodes.register node = .ok (nodes ++ [node]) := register_eq_ok_iff.mpr ⟨_, .added new⟩

/-- A node is added under a new id; a known id of the same kind changes nothing. -/
theorem register_cases (success : nodes.register node = .ok result) :
    (node.id ∉ nodes.map Node.id ∧ result = nodes ++ [node]) ∨
      (node.id ∈ nodes.map Node.id ∧ result = nodes) := by
  obtain ⟨held, ensures⟩ := register_eq_ok_iff.mp success
  cases ensures with
  | added new => exact .inl ⟨new, rfl⟩
  | known found _ =>
    obtain ⟨member, same⟩ := Keyed.key_of_find? found
    exact .inr ⟨List.mem_map.mpr ⟨_, member, same⟩, rfl⟩

/-- A registration is refused only for a known id of another kind. -/
theorem exists_register (agree : ∀ held ∈ nodes, held.id = node.id → held.kind = node.kind) :
    ∃ result, nodes.register node = .ok result := by
  cases found : nodes.find? node.id with
  | none => exact ⟨_, register_of_new (Keyed.find?_eq_none_iff.mp found)⟩
  | some held =>
    obtain ⟨member, same⟩ := Keyed.key_of_find? found
    exact ⟨nodes, register_eq_ok_iff.mpr ⟨held, .known found (agree held member same)⟩⟩

/-- What holds after registering more nodes: some of them stand behind the earlier ones, in order,
ids stay apart, and every id is known. -/
structure Registered (nodes more result : List Node) : Prop where
  extends_by : ∃ added, result = nodes ++ added ∧ added.Sublist more
  nodup : (nodes.map Node.id).Nodup → (result.map Node.id).Nodup
  known : ∀ node ∈ more, node.id ∈ result.map Node.id

theorem Registered.nil (nodes : Nodes) : Registered nodes [] nodes :=
  ⟨⟨[], (List.append_nil _).symm, .slnil⟩, id, by simp⟩

theorem register_registered (success : nodes.register node = .ok result) :
    Registered nodes [node] result := by
  rcases register_cases success with ⟨new, rfl⟩ | ⟨known, rfl⟩
  · refine ⟨⟨[node], rfl, .refl _⟩, fun nodup => ?_, by simp⟩
    rw [List.map_append, List.map_singleton, ← List.concat_eq_append]
    exact nodup.concat new
  · exact ⟨⟨[], (List.append_nil _).symm, List.nil_sublist _⟩, id, by simpa using known⟩

theorem Registered.mem_of_mem {id : String} (step : Registered nodes more result)
    (known : id ∈ nodes.map Node.id) : id ∈ result.map Node.id := by
  obtain ⟨added, rfl, _⟩ := step.extends_by
  rw [List.map_append]
  exact List.mem_append_left _ known

theorem Registered.trans {middle : Nodes} {rest : List Node} (first : Registered nodes more middle)
    (second : Registered middle rest result) : Registered nodes (more ++ rest) result := by
  refine ⟨?_, fun nodup => second.nodup (first.nodup nodup), fun node member => ?_⟩
  · obtain ⟨added, rfl, taken⟩ := first.extends_by
    obtain ⟨added', rfl, taken'⟩ := second.extends_by
    exact ⟨added ++ added', List.append_assoc .., taken.append taken'⟩
  · rcases List.mem_append.mp member with early | late
    · exact second.mem_of_mem (first.known node early)
    · exact second.known node late

/-- Every run of registrations that is not refused keeps ids apart and known. -/
theorem registerAll_registered (success : nodes.registerAll more = .ok result) :
    Registered nodes more result := by
  induction more generalizing nodes with
  | nil => cases success; exact .nil _
  | cons node more ih =>
    rw [registerAll, List.foldlM_cons] at success
    obtain ⟨middle, stepped, rest⟩ := Attempt.bind_eq_ok_iff.mp success
    exact (register_registered stepped).trans (ih rest)

/-- Two nodes of one id are of one kind. -/
def Coherent (nodes : List Node) : Prop :=
  ∀ node ∈ nodes, ∀ other ∈ nodes, node.id = other.id → node.kind = other.kind

theorem Coherent.mono {many few : List Node} (coherent : Coherent many) (subset : few ⊆ many) :
    Coherent few :=
  fun node member other member' => coherent node (subset member) other (subset member')

/-- Coherent nodes are never refused. -/
theorem exists_registerAll (coherent : Coherent (nodes ++ more)) :
    ∃ result, nodes.registerAll more = .ok result := by
  induction more generalizing nodes with
  | nil => exact ⟨nodes, rfl⟩
  | cons node more ih =>
    have agree : ∀ held ∈ nodes, held.id = node.id → held.kind = node.kind :=
      fun held member => coherent held (List.mem_append_left _ member) node (by simp)
    obtain ⟨middle, stepped⟩ := exists_register agree
    have subset : middle ++ more ⊆ nodes ++ node :: more := by
      rcases register_cases stepped with ⟨_, rfl⟩ | ⟨_, rfl⟩
      · simp
      · exact List.append_subset.mpr ⟨List.subset_append_left _ _,
          fun other member => List.mem_append_right _ (List.mem_cons_of_mem _ member)⟩
    obtain ⟨result, rest⟩ := ih (coherent.mono subset)
    refine ⟨result, ?_⟩
    rw [registerAll, List.foldlM_cons, stepped]
    exact rest

/-- Nodes of pairwise different ids are all added. -/
theorem registerAll_of_nodup (nodup : ((nodes ++ more).map Node.id).Nodup) :
    nodes.registerAll more = .ok (nodes ++ more) := by
  induction more generalizing nodes with
  | nil => rw [List.append_nil]; rfl
  | cons node more ih =>
    have new : node.id ∉ nodes.map Node.id := by
      rw [List.map_append, List.map_cons] at nodup
      exact fun member => (List.nodup_append.mp nodup).2.2 _ member _ List.mem_cons_self rfl
    rw [List.append_cons] at nodup ⊢
    rw [registerAll, List.foldlM_cons, register_of_new new]
    exact ih nodup

theorem registerAll_append (first second : List Node) :
    nodes.registerAll (first ++ second) = nodes.registerAll first >>= (·.registerAll second) :=
  List.foldlM_append ..

end SchemaAtlas.Lineage.Nodes
