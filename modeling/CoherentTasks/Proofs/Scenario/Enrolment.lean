import CoherentTasks.Proofs.Scenario.Dependence
import CoherentTasks.Proofs.Scenario.Running

/-!
# Names and numbers

The names of a scenario stand for the kernels and copies of its graph, which are
numbered in the order of submission. A plan keeps this order, and with a node it
has every node that comes before it.
-/

namespace CoherentTasks.Scenario

open CoherentTasks.Backend (Registry)
open CoherentTasks.Computation
open CoherentTasks.Graph (Operation TaskGraph)
open CoherentTasks.Submission

variable {sorting : Sorting}

/-- The names of the order stand for the kernels and copies of the graph, which
are numbered in this order. -/
structure Enrolled (nodes : Table String NodeId) (order : List String)
    (graph : TaskGraph) : Prop where
  placed : ∀ name ∈ order, ∃ id, nodes.get? name = some id
  listed :
    ∀ name id, nodes.get? name = some id → name ∈ order ∧ Explicit graph id
  covered : ∀ id, Explicit graph id → ∃ name, nodes.get? name = some id
  ascending : order.Pairwise fun first second =>
    ∀ earlier later, nodes.get? first = some earlier →
      nodes.get? second = some later → earlier < later

/-- Different names stand for different nodes. -/
theorem Enrolled.injective {nodes : Table String NodeId} {order : List String}
    {graph : TaskGraph} (enrolled : Enrolled nodes order graph)
    {first second : String} {id : NodeId} (isFirst : nodes.get? first = some id)
    (isSecond : nodes.get? second = some id) : first = second := by
  have apart {left right : String}
      (less : ∀ one other, nodes.get? left = some one →
        nodes.get? right = some other → one < other)
      (isLeft : nodes.get? left = some id)
      (isRight : nodes.get? right = some id) : left = right :=
    absurd (less id id isLeft isRight) (Nat.lt_irrefl id)
  have agree :=
    List.Pairwise.forall_of_forall_of_flip (fun name _ _ _ => rfl)
      (enrolled.ascending.imp
        fun less isLeft isRight => apart less isLeft isRight)
      (enrolled.ascending.imp
        fun less isRight isLeft => (apart less isLeft isRight).symm)
  exact agree (enrolled.listed first id isFirst).1
    (enrolled.listed second id isSecond).1 isFirst isSecond

theorem Enrolled.of_sameNodes {nodes : Table String NodeId}
    {order : List String} {graph other : TaskGraph}
    (enrolled : Enrolled nodes order graph) (same : graph.SameNodes other) :
    Enrolled nodes order other where
  placed := enrolled.placed
  listed name id named := by
    obtain ⟨member, explicit⟩ := enrolled.listed name id named
    exact ⟨member, explicit.of_sameNodes same⟩
  covered id explicit := enrolled.covered id (explicit.of_sameNodes same.symm)
  ascending := enrolled.ascending

section Build

variable {scenario : Scenario} {name : String} {before after : Assembly}
  {operation : Operation} {accesses : List PlannedAccess} {hint : Option Device}
  {predecessors : List NodeId} {done : List String}

/-- The node that joins gets the highest number. -/
theorem Enrolled.joins (enrolled : Enrolled before.nodes done before.graph)
    (fresh : name ∉ done)
    (joins :
      Joins scenario name before after operation accesses hint predecessors) :
    Enrolled after.nodes (done ++ [name]) after.graph where
  placed other member := by
    rcases List.mem_append.mp member with old | new
    · obtain ⟨id, isId⟩ := enrolled.placed other old
      have different : other ≠ name := fun same => fresh (same ▸ old)
      exact ⟨id, (joins.get?_other different).trans isId⟩
    · rw [List.mem_singleton.mp new]
      exact ⟨_, joins.get?_joined⟩
  listed other id named := by
    rw [joins.nodes, Table.get?_insert] at named
    split at named
    · rename_i same
      cases named
      exact ⟨same ▸ List.mem_append_right _ List.mem_cons_self,
        joins.explicit_iff.mpr (.inr rfl)⟩
    · obtain ⟨member, explicit⟩ := enrolled.listed other id named
      exact ⟨List.mem_append_left _ member,
        joins.explicit_iff.mpr (.inl explicit)⟩
  covered id explicit := by
    rcases joins.explicit_iff.mp explicit with old | rfl
    · obtain ⟨other, named⟩ := enrolled.covered id old
      have different : other ≠ name :=
        fun same => fresh (same ▸ (enrolled.listed other id named).1)
      exact ⟨other, (joins.get?_other different).trans named⟩
    · exact ⟨name, joins.get?_joined⟩
  ascending := by
    have old {other : String} (member : other ∈ done) :
        after.nodes.get? other = before.nodes.get? other :=
      joins.get?_other fun same => fresh (same ▸ member)
    apply List.pairwise_append.mpr
    refine ⟨enrolled.ascending.imp_of_mem ?_, List.pairwise_singleton _ _, ?_⟩
    · intro first second isFirst isSecond less earlier later
      rw [old isFirst, old isSecond]
      exact less earlier later
    · intro first isFirst second isNew earlier later isEarlier isLater
      rw [List.mem_singleton.mp isNew, joins.get?_joined] at isLater
      rw [old isFirst] at isEarlier
      cases isLater
      have below := (enrolled.listed first earlier isEarlier).2.lt
      exact Nat.lt_of_lt_of_le below (Nat.le_add_right _ _)

theorem enrolled_empty {graph : TaskGraph} (noNodes : graph.slots = []) :
    Enrolled .empty [] graph where
  placed _ member := absurd member List.not_mem_nil
  listed _ _ named := by cases named
  covered id explicit := by
    obtain ⟨node, found, _⟩ := explicit
    rw [node?_eq_none noNodes] at found
    cases found
  ascending := .nil

end Build

section Plans

variable {nodes : Table String NodeId} {order plan : List String}
  {graph : TaskGraph}

/-- A plan keeps to the order, and no node is planned without all that come
before it. -/
structure Complete (nodes : Table String NodeId) (order : List String)
    (graph : TaskGraph) (plan : List String) : Prop where
  sublist : plan.Sublist order
  closed : ∀ name ∈ plan, ∀ id, nodes.get? name = some id → ∀ other earlier,
    nodes.get? other = some earlier → graph.DependsOn id earlier → other ∈ plan

/-- What comes before a planned node was planned, and it is submitted first. -/
theorem Complete.mem_done (complete : Complete nodes order graph plan)
    (enrolled : Enrolled nodes order graph) (wellFormed : graph.WellFormed)
    {done rest : List String} {name : String}
    (shape : plan = done ++ name :: rest) {id earlier : NodeId}
    (named : nodes.get? name = some id) (explicit : Explicit graph earlier)
    (reached : graph.DependsOn id earlier) :
    ∃ other ∈ done, nodes.get? other = some earlier := by
  obtain ⟨other, isEarlier⟩ := enrolled.covered earlier explicit
  have below : earlier < id := wellFormed.dependsOn_lt reached
  have planned : name ∈ plan :=
    shape ▸ List.mem_append_right _ List.mem_cons_self
  have member :=
    complete.closed name planned id named other earlier isEarlier reached
  have ascending := enrolled.ascending.sublist complete.sublist
  rw [shape] at member ascending
  refine ⟨other, ?_, isEarlier⟩
  rcases List.mem_append.mp member with before | here
  · exact before
  · rcases List.mem_cons.mp here with rfl | behind
    · rw [named] at isEarlier
      cases isEarlier
      exact absurd below (Nat.lt_irrefl id)
    · have later :=
        (List.pairwise_cons.mp (List.pairwise_append.mp ascending).2.1).1
          other behind
      exact absurd (later id earlier named isEarlier) (Nat.lt_asymm below)

/-- The plan for a node has the names, in their order, of the node and of all
that it depends on. -/
theorem plan_of_some {run : Run} {name : String} {root : NodeId}
    (isRoot : run.nodes.get? name = some root) :
    ∃ plan, run.plan (some name) = .ok plan ∧ plan.Sublist run.order ∧ ∀ other,
      other ∈ plan ↔ other ∈ run.order ∧ ∃ id, run.nodes.get? other = some id ∧
        (id = root ∨ run.scheduler.graph.DependsOn root id) := by
  simp only [Run.plan]
  rw [isRoot]
  refine ⟨_, rfl, List.filter_sublist, fun other => ?_⟩
  rw [List.mem_filter, Option.any_eq_true]
  simp only [List.contains_iff_mem, List.mem_cons, TaskGraph.mem_ancestors_iff]

/-- The plans of a run, for a node that it has, are complete. -/
theorem complete_of_plan {run : Run}
    (enrolled : Enrolled run.nodes run.order run.scheduler.graph)
    {chosen : Option String}
    (known : ∀ name, chosen = some name → ∃ id, run.nodes.get? name = some id) :
    ∃ plan, run.plan chosen = .ok plan ∧
      Complete run.nodes run.order run.scheduler.graph plan := by
  cases chosen with
  | none =>
      refine ⟨run.order, rfl, List.Sublist.refl _, ?_⟩
      intro _ _ _ _ other earlier named _
      exact (enrolled.listed other earlier named).1
  | some name =>
      obtain ⟨root, isRoot⟩ := known name rfl
      obtain ⟨plan, planned, sublist, members⟩ := plan_of_some isRoot
      refine ⟨plan, planned, sublist, ?_⟩
      intro first isPlanned id named other earlier isEarlier reached
      obtain ⟨_, same, isNamed, wanted⟩ := (members first).mp isPlanned
      rw [named] at isNamed
      cases isNamed
      refine (members other).mpr
        ⟨(enrolled.listed other earlier isEarlier).1, earlier, isEarlier, ?_⟩
      rcases wanted with rfl | behind
      · exact .inr reached
      · exact .inr (behind.trans reached)

end Plans

end CoherentTasks.Scenario
