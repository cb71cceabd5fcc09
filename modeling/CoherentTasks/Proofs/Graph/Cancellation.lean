import CoherentTasks.Graph.Cancellation
import CoherentTasks.Proofs.Graph.Walk

/-!
# What cancelling changes

Giving up a node changes the states of unsubmitted nodes and nothing else.
-/

namespace CoherentTasks.Graph

namespace Node

theorem created_cancel (node : Node) : node.cancel.created = node.created := by
  simp only [cancel]
  cases node.state <;> rfl

theorem state_cancel_of_ne {node : Node} (settled : node.state ≠ .unsubmitted) :
    node.cancel.state = node.state := by
  unfold cancel
  cases state : node.state <;> simp_all

theorem state_cancel_of_eq {node : Node} (waits : node.state = .unsubmitted) :
    node.cancel.state = .cancelled := by
  simp only [cancel]
  rw [waits]

theorem device_cancel (node : Node) : node.cancel.device = node.device := by
  simp only [cancel]
  cases node.state <;> rfl

theorem cancel_cancel (node : Node) : node.cancel.cancel = node.cancel := by
  simp only [cancel]
  cases state : node.state <;> simp [state]

end Node

namespace TaskGraph

section CancelAll

variable {graph : TaskGraph}

private theorem sameNodes_cancelAll (graph : TaskGraph) (ids : List NodeId) :
    graph.SameNodes (graph.cancelAll ids) := by
  simp only [cancelAll]
  induction ids generalizing graph with
  | nil => exact .refl graph
  | cons id ids induction =>
      exact (sameNodes_updateNode graph id Node.created_cancel).trans
        (induction _)

private theorem regions_cancelAll (graph : TaskGraph) (ids : List NodeId) :
    (graph.cancelAll ids).regions = graph.regions := by
  simp only [cancelAll]
  induction ids generalizing graph with
  | nil => rfl
  | cons id ids induction =>
      rw [List.foldl_cons, induction]
      rfl

private theorem length_slots_cancelAll (graph : TaskGraph) (ids : List NodeId) :
    (graph.cancelAll ids).slots.length = graph.slots.length := by
  simp only [cancelAll]
  induction ids generalizing graph with
  | nil => rfl
  | cons id ids induction =>
      rw [List.foldl_cons, induction]
      exact length_slots_updateNode graph id Node.cancel

private theorem device?_cancelAll (graph : TaskGraph) (ids : List NodeId)
    (other : NodeId) :
    (graph.cancelAll ids).device? other = graph.device? other := by
  simp only [cancelAll]
  induction ids generalizing graph with
  | nil => rfl
  | cons id ids induction =>
      exact (induction _).trans
        (device?_updateNode graph id other Node.device_cancel)

theorem node?_cancelAll (graph : TaskGraph) (ids : List NodeId)
    (other : NodeId) :
    (graph.cancelAll ids).node? other = if other ∈ ids
      then (graph.node? other).map Node.cancel else graph.node? other := by
  simp only [cancelAll]
  induction ids generalizing graph with
  | nil => rfl
  | cons id ids induction =>
      rw [List.foldl_cons, induction, node?_updateNode]
      by_cases here : other = id
      · subst here
        by_cases again : other ∈ ids
        · simp [again, Node.cancel_cancel, Function.comp_def]
        · simp [again]
      · simp [here]

private theorem state?_cancel_of_ne (id : NodeId) {other : NodeId}
    (settled : graph.state? other ≠ some .unsubmitted) :
    (graph.updateNode id Node.cancel).state? other = graph.state? other := by
  simp only [state?] at *
  rw [node?_updateNode]
  split
  · cases found : graph.node? other with
    | none => rfl
    | some node =>
        rw [found] at settled
        have different : node.state ≠ .unsubmitted :=
          fun equal => settled (congrArg some equal)
        exact congrArg some (Node.state_cancel_of_ne different)
  · rfl

private theorem state?_cancel_self {id : NodeId}
    (waits : graph.state? id = some .unsubmitted) :
    (graph.updateNode id Node.cancel).state? id = some .cancelled := by
  obtain ⟨node, found, unsubmitted⟩ := Option.map_eq_some_iff.mp waits
  exact state?_of_node? (node?_updateNode_self found)
    (Node.state_cancel_of_eq unsubmitted)

private theorem state?_cancel_other {id other : NodeId}
    (different : other ≠ id) :
    (graph.updateNode id Node.cancel).state? other = graph.state? other :=
  state?_congr (node?_updateNode_other different)

/-- A node that was submitted or cancelled before keeps its state. -/
private theorem state?_cancelAll_of_ne {ids : List NodeId} {id : NodeId}
    (settled : graph.state? id ≠ some .unsubmitted) :
    (graph.cancelAll ids).state? id = graph.state? id := by
  simp only [cancelAll]
  induction ids generalizing graph with
  | nil => rfl
  | cons first ids induction =>
      have same := state?_cancel_of_ne first settled
      rw [List.foldl_cons, induction (same ▸ settled), same]

/-- An unsubmitted node stays so, unless it is cancelled. -/
private theorem state?_cancelAll_of_eq (ids : List NodeId) {id : NodeId}
    (waits : graph.state? id = some .unsubmitted) :
    (graph.cancelAll ids).state? id =
      some (if id ∈ ids then .cancelled else .unsubmitted) := by
  induction ids generalizing graph with
  | nil => exact waits
  | cons first ids induction =>
      have unfolded : graph.cancelAll (first :: ids) =
          (graph.updateNode first Node.cancel).cancelAll ids := rfl
      rw [unfolded]
      by_cases here : id = first
      · subst here
        have cancelled := state?_cancel_self waits
        rw [state?_cancelAll_of_ne (by rw [cancelled]; simp), cancelled]
        simp
      · rw [induction ((state?_cancel_other here).trans waits)]
        simp [here]

end CancelAll

section Cancellations

variable {graph : TaskGraph} {root id : NodeId}

theorem awaitsSubmission_iff :
    graph.awaitsSubmission id = true ↔ graph.state? id = some .unsubmitted := by
  simp only [awaitsSubmission, state?]
  cases graph.node? id with
  | none => simp
  | some node => simp [Node.isUnsubmitted_iff]

theorem mem_cancellations_iff :
    id ∈ graph.cancellations root ↔
      graph.state? id = some .unsubmitted ∧
        (graph.Meets Node.isUnsubmitted root id ∨ id = root) := by
  simp only [cancellations]
  rw [List.mem_filter, awaitsSubmission_iff, List.mem_append, mem_walk_iff,
    List.mem_singleton, and_comm]

/-- Whatever a cancelled node requires is cancelled with it, unless it does not
wait any more. -/
private theorem mem_cancellations_of_requires {required : NodeId}
    (cancelled : id ∈ graph.cancellations root)
    (edge : graph.Requires id required)
    (waits : graph.state? required = some .unsubmitted) :
    required ∈ graph.cancellations root := by
  obtain ⟨unsubmitted, met | isRoot⟩ := mem_cancellations_iff.mp cancelled
  · obtain ⟨first, edgeFirst, leads⟩ := met
    obtain ⟨node, found, state⟩ := Option.map_eq_some_iff.mp unsubmitted
    obtain ⟨other, isNode, member⟩ := requires_iff.mp edge
    rw [found] at isNode
    cases isNode
    exact mem_cancellations_iff.mpr ⟨waits, .inl ⟨first, edgeFirst, leads.tail
      ⟨node, found, Node.isUnsubmitted_iff.mpr state, member⟩⟩⟩
  · subst isRoot
    exact mem_cancellations_iff.mpr ⟨waits, .inl ⟨required, edge, .refl⟩⟩

end Cancellations

section Abort

variable {graph : TaskGraph} {root : NodeId}

theorem sameNodes_abort (graph : TaskGraph) (root : NodeId) :
    graph.SameNodes (graph.abort root).2 :=
  sameNodes_cancelAll graph _

theorem regions_abort (graph : TaskGraph) (root : NodeId) :
    (graph.abort root).2.regions = graph.regions :=
  regions_cancelAll graph _

theorem length_slots_abort (graph : TaskGraph) (root : NodeId) :
    (graph.abort root).2.slots.length = graph.slots.length :=
  length_slots_cancelAll graph _

theorem device?_abort (graph : TaskGraph) (root other : NodeId) :
    (graph.abort root).2.device? other = graph.device? other :=
  device?_cancelAll graph _ other

theorem state?_abort_of_ne {id : NodeId}
    (settled : graph.state? id ≠ some .unsubmitted) :
    (graph.abort root).2.state? id = graph.state? id :=
  state?_cancelAll_of_ne settled

theorem state?_abort (id : NodeId) :
    (graph.abort root).2.state? id = graph.state? id ∨
    (graph.state? id = some .unsubmitted ∧
      (graph.abort root).2.state? id = some .cancelled) := by
  by_cases waits : graph.state? id = some .unsubmitted
  · by_cases cancelled : id ∈ graph.cancellations root
    · refine .inr ⟨waits, (state?_cancelAll_of_eq _ waits).trans ?_⟩
      rw [if_pos cancelled]
    · refine .inl ((state?_cancelAll_of_eq _ waits).trans ?_)
      rw [if_neg cancelled, waits]
  · exact .inl (state?_abort_of_ne waits)

/-- Nothing is cancelled but what was to be. -/
theorem mem_cancellations_of_abort {id : NodeId}
    (waits : graph.state? id = some .unsubmitted)
    (cancelled : (graph.abort root).2.state? id = some .cancelled) :
    id ∈ graph.cancellations root := by
  by_contra absent
  have unchanged := state?_cancelAll_of_eq (graph.cancellations root) waits
  rw [if_neg absent] at unchanged
  exact absurd (cancelled.symm.trans unchanged) (by simp)

/-- A node that is given up leaves nothing that it requires waiting. -/
theorem state?_required_of_abort {id required : NodeId}
    (waits : graph.state? id = some .unsubmitted)
    (cancelled : (graph.abort root).2.state? id = some .cancelled)
    (edge : graph.Requires id required) :
    (graph.abort root).2.state? required ≠ some .unsubmitted := by
  have member := mem_cancellations_of_abort waits cancelled
  by_cases waitsToo : graph.state? required = some .unsubmitted
  · have state := state?_cancelAll_of_eq (graph.cancellations root) waitsToo
    rw [if_pos (mem_cancellations_of_requires member edge waitsToo)] at state
    simp only [abort]
    rw [state]
    simp
  · rw [state?_abort_of_ne waitsToo]
    exact waitsToo

theorem state?_abort_root_of_eq
    (waits : graph.state? root = some .unsubmitted) :
    (graph.abort root).2.state? root = some .cancelled := by
  have state := state?_cancelAll_of_eq (graph.cancellations root) waits
  rwa [if_pos (mem_cancellations_iff.mpr ⟨waits, .inr rfl⟩)] at state

/-- A node that is given up does not wait for its submission any more. -/
theorem state?_abort_root :
    (graph.abort root).2.state? root ≠ some .unsubmitted := by
  by_cases waits : graph.state? root = some .unsubmitted
  · rw [state?_abort_root_of_eq waits]
    simp
  · rw [state?_abort_of_ne waits]
    exact waits

end Abort

end TaskGraph

end CoherentTasks.Graph
