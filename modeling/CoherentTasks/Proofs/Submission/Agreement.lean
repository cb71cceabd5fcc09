import CoherentTasks.Proofs.Submission.Placement
import CoherentTasks.Proofs.Submission.Marks

/-!
# States and the log of operations

The state of a node can be read off the log of the operations that were handed
over, and the other way round. A kernel or copy has one operation once it is
submitted, and none otherwise. A requirement has copies, and at least one
exactly if there was something to fetch. The node is complete once its
operations are, and they run on the device to which it is bound.
-/

namespace CoherentTasks.Scheduler

open CoherentTasks.Completion (Handle)
open CoherentTasks.Graph (Copy Node Operation Requirement Status TaskGraph)
open CoherentTasks.Submission

variable {scheduler before after : Scheduler} {root bound id : NodeId}

/-- The operations that were handed over for a node. -/
def dispatchesOf (scheduler : Scheduler) (id : NodeId) : List Dispatch :=
  scheduler.dispatches.filter (·.node = id)

private theorem mem_dispatchesOf_iff {dispatch : Dispatch} :
    dispatch ∈ scheduler.dispatchesOf id ↔
      dispatch ∈ scheduler.dispatches ∧ dispatch.node = id := by
  simp only [dispatchesOf]
  rw [List.mem_filter, decide_eq_true_iff]

/-- Kernels and copies have at most one operation, and requirements have only
copies. -/
structure Tallied (scheduler : Scheduler) : Prop where
  single : ∀ id node, scheduler.graph.node? id = some node →
    node.operation.isRequirement = false →
    (scheduler.dispatchesOf id).length ≤ 1
  copies : ∀ id node,
    scheduler.graph.node? id = some node → node.operation.isRequirement = true →
    ∀ dispatch ∈ scheduler.dispatchesOf id,
      ∃ copy, dispatch.operation = .copy copy

/-- A node that waits for its submission has no operations. -/
theorem Consistent.dispatchesOf_eq_nil (consistent : scheduler.Consistent)
    (idle : ∀ handle executor,
      scheduler.graph.state? id ≠ some (.submitted handle executor)) :
    scheduler.dispatchesOf id = [] := by
  rw [List.eq_nil_iff_forall_not_mem]
  intro dispatch member
  obtain ⟨made, ofNode⟩ := mem_dispatchesOf_iff.mp member
  obtain ⟨handle, executor, state, _⟩ := consistent.owned dispatch made
  rw [ofNode] at state
  exact idle handle executor state

/-- The operations of a node are handed over while it waits, and so they are its
first ones. -/
private theorem dispatchesOf_of_takesUp {made : List Dispatch}
    (consistent : before.Consistent) (takes : TakesUp id made before after) :
    after.dispatchesOf id = made := by
  obtain ⟨device, operations, handed⟩ := takes.handed
  have none : before.dispatchesOf id = [] := by
    apply consistent.dispatchesOf_eq_nil
    intro handle executor submitted
    rw [takes.waits] at submitted
    cases submitted
  simp only [dispatchesOf] at none ⊢
  rw [handed.dispatches, List.filter_append, none, List.nil_append,
    List.filter_eq_self]
  exact fun dispatch member => decide_eq_true (handed.each dispatch member).1

private theorem dispatchesOf_of_takesUp_other {made : List Dispatch}
    (takes : TakesUp id made before after) {other : NodeId}
    (different : other ≠ id) :
    after.dispatchesOf other = before.dispatchesOf other := by
  obtain ⟨device, operations, handed⟩ := takes.handed
  have foreign : made.filter (·.node = other) = [] := by
    rw [List.filter_eq_nil_iff]
    intro dispatch member isOther
    rw [decide_eq_true_iff, (handed.each dispatch member).1] at isOther
    exact different isOther.symm
  simp only [dispatchesOf]
  rw [handed.dispatches, List.filter_append, foreign, List.append_nil]

namespace Tallied

/-- Every node has the operations that it had, or else as many and such as it
may have. -/
theorem extend (tallied : before.Tallied)
    (nodes : ∀ id later, after.graph.node? id = some later → (∃ node,
      before.graph.node? id = some node ∧ later.operation = node.operation ∧
      after.dispatchesOf id = before.dispatchesOf id) ∨
      ((later.operation.isRequirement = false →
        (after.dispatchesOf id).length ≤ 1) ∧ (later.operation.isRequirement =
          true → ∀ dispatch ∈ after.dispatchesOf id,
            ∃ copy, dispatch.operation = .copy copy))) : after.Tallied where
  single id later found explicit := by
    rcases nodes id later found
      with ⟨node, isNode, operation, same⟩ | ⟨single, _⟩
    · rw [same]
      exact tallied.single id node isNode (operation ▸ explicit)
    · exact single explicit
  copies id later found states := by
    rcases nodes id later found
      with ⟨node, isNode, operation, same⟩ | ⟨_, copies⟩
    · rw [same]
      exact tallied.copies id node isNode (operation ▸ states)
    · exact copies states

/-- Nothing was handed over, and every node that there is now was there before
or has no operations. -/
theorem keep (tallied : before.Tallied)
    (dispatches : after.dispatches = before.dispatches)
    (nodes : ∀ id later, after.graph.node? id = some later → (∃ node,
      before.graph.node? id = some node ∧ later.operation = node.operation) ∨
      before.dispatchesOf id = []) : after.Tallied := by
  apply tallied.extend
  intro id later found
  have same : after.dispatchesOf id = before.dispatchesOf id := by
    simp only [dispatchesOf]
    rw [dispatches]
  rcases nodes id later found with ⟨node, isNode, operation⟩ | none
  · exact .inl ⟨node, isNode, operation, same⟩
  · rw [same, none]
    exact .inr
      ⟨fun _ => Nat.zero_le 1, fun _ _ absent => absurd absent List.not_mem_nil⟩

theorem of_sameNodes (tallied : before.Tallied)
    (dispatches : after.dispatches = before.dispatches)
    (same : before.graph.SameNodes after.graph) : after.Tallied := by
  apply tallied.keep dispatches
  intro id later found
  obtain ⟨node, isNode, operation, _⟩ := same.symm.node found
  exact .inl ⟨node, isNode, operation.symm⟩

theorem takesUp {made : List Dispatch} {node : Node} (tallied : before.Tallied)
    (consistent : before.Consistent) (takes : TakesUp id made before after)
    (found : before.graph.node? id = some node)
    (single : node.operation.isRequirement = false → made.length ≤ 1)
    (copies : node.operation.isRequirement = true → ∀ dispatch ∈ made,
      ∃ copy, dispatch.operation = .copy copy) : after.Tallied := by
  apply tallied.extend
  intro other later isLater
  obtain ⟨earlier, isEarlier, operation, _⟩ := takes.sameNodes.symm.node isLater
  by_cases same : other = id
  · subst same
    rw [found] at isEarlier
    cases isEarlier
    rw [dispatchesOf_of_takesUp consistent takes, ← operation]
    exact .inr ⟨single, copies⟩
  · exact .inl ⟨earlier, isEarlier, operation.symm,
      dispatchesOf_of_takesUp_other takes same⟩

theorem settles {node : Node} {requirement : Requirement} {device : Device}
    {region : Coherence.Region} {copies : List Copy} {made : List Dispatch}
    (tallied : before.Tallied) (consistent : before.Consistent)
    (settles :
      Settles root id node requirement device region copies made before after) :
    after.Tallied := by
  apply tallied.takesUp consistent settles.takesUp settles.found
  · intro explicit
    rw [settles.states] at explicit
    cases explicit
  · intro _ dispatch member
    have isCopy := List.mem_map_of_mem (f := (·.operation)) member
    rw [settles.handed.operations] at isCopy
    obtain ⟨copy, _, same⟩ := List.mem_map.mp isCopy
    exact ⟨copy, same.symm⟩

theorem launch {node : Node} {device : Device} {dispatch : Dispatch}
    (tallied : before.Tallied) (consistent : before.Consistent)
    (launches : Launches root node device dispatch before after) :
    after.Tallied := by
  apply tallied.takesUp consistent launches.takesUp launches.found
  · exact fun _ => Nat.le_refl 1
  · intro states
    rw [launches.explicit] at states
    cases states

theorem moves (tallied : before.Tallied) (consistent : before.Consistent)
    (moves : Moves root bound before after) : after.Tallied := by
  induction moves with
  | refl => exact tallied
  | tail earlier move induction =>
      rcases move.still_or_settles
        with ⟨still, _⟩ | ⟨_, _, _, _, _, _, _, settled⟩
      · exact induction.of_sameNodes still.quiet.dispatches still.sameNodes
      · exact induction.settles (consistent.moves earlier) settled

theorem giveUp {cause : Error} (tallied : after.Tallied) :
    (giveUp before after root cause).Tallied :=
  tallied.of_sameNodes rfl
    (TaskGraph.sameNodes_abort (after.graph.restore before.graph.snapshot) root)

theorem submits (tallied : before.Tallied) (consistent : before.Consistent)
    {success : Bool} (submits : Submits root before after success) :
    after.Tallied := by
  cases submits with
  | idle _ same => exact same ▸ tallied
  | rejects cause same => exact same ▸ tallied.giveUp
  | resolves states moves submitted => exact tallied.moves consistent moves
  | launches node device dispatch ready launched asks moves launches finishes =>
      have launchedTallied :=
        (tallied.moves consistent moves).launch
          (consistent.moves moves) launches
      apply launchedTallied.of_sameNodes finishes.quiet.dispatches
      intro other
      rw [finishes.node? other]
  | fails device stopped cause asks moves same =>
      exact same ▸ (tallied.moves consistent moves).giveUp

theorem addNode {operation : Operation} {requirements : List NodeId}
    {hint : Option Device} {grown : TaskGraph} (tallied : before.Tallied)
    (consistent : before.Consistent)
    (added :
      before.graph.addNode operation requirements hint = .ok (id, grown)) :
    Tallied { before with graph := grown } := by
  refine tallied.keep rfl fun other later found => ?_
  have found : grown.node? other = some later := found
  rw [TaskGraph.node?_addNode added] at found
  split at found
  · rename_i isNew
    right
    apply consistent.dispatchesOf_eq_nil
    intro handle executor submitted
    obtain ⟨node, isNode, _⟩ := Option.map_eq_some_iff.mp submitted
    have below := TaskGraph.lt_of_node?_eq_some isNode
    obtain ⟨_, _, isLength, _⟩ := TaskGraph.addNode_ok added
    rw [isNew, isLength] at below
    exact absurd below (Nat.lt_irrefl _)
  · exact .inl ⟨later, found, rfl⟩

theorem step (tallied : before.Tallied) (consistent : before.Consistent)
    (step : Step before after) : after.Tallied := by
  cases step with
  | addRegion name range elementSize =>
      exact tallied.of_sameNodes rfl fun _ => rfl
  | changeRegion id change grows => exact tallied.of_sameNodes rfl fun _ => rfl
  | addNode operation requirements hint id graph added =>
      exact tallied.addNode consistent added
  | addCopy copy requirements hint id graph added =>
      exact tallied.addNode consistent (TaskGraph.addNode_of_addCopy added)
  | submit id =>
      exact tallied.submits consistent (submits_submit consistent.wellFormed)
  | abort id =>
      exact tallied.of_sameNodes rfl (TaskGraph.sameNodes_abort before.graph id)
  | complete fired => exact tallied.of_sameNodes rfl fun _ => rfl

end Tallied

theorem Reachable.tallied (reached : scheduler.Reachable) :
    scheduler.Tallied := by
  induction reached with
  | create alignment registry observed =>
      constructor
      · intro id node absent
        cases absent
      · intro id node absent
        cases absent
  | step reached step induction => exact induction.step reached.consistent step

/-- The work of a node with this status was handed over. -/
def isHandedOver : Status → Bool
  | .submitted | .complete => true
  | .unsubmitted | .satisfied | .cancelled => false

/-- The state of a node fits to the operations that were handed over for it. -/
structure Agrees (scheduler : Scheduler) (id : NodeId) (node : Node) :
    Prop where
  /-- A kernel or copy has one operation, or none. -/
  explicit :
    node.operation.isRequirement = false → (scheduler.dispatchesOf id).length =
      if isHandedOver (node.status scheduler.signals) then 1 else 0
  /-- A requirement has some, or none. -/
  requirement :
    node.operation.isRequirement = true → (scheduler.dispatchesOf id ≠ [] ↔
      isHandedOver (node.status scheduler.signals) = true)
  copies : node.operation.isRequirement = true →
    ∀ dispatch ∈ scheduler.dispatchesOf id,
      ∃ copy, dispatch.operation = .copy copy
  complete : scheduler.dispatchesOf id ≠ [] →
    (node.status scheduler.signals = .complete ↔
      ∀ dispatch ∈ scheduler.dispatchesOf id,
        scheduler.signals.isFired dispatch.signal = true)
  executor : scheduler.dispatchesOf id ≠ [] → ∃ executor,
    node.executor? = some executor ∧ node.device = some executor.device ∧
    ∀ hint, node.hint = some hint → hint = executor.device

/-- The state of a node whose work was handed over. -/
private theorem isHandedOver_status_iff {node : Node}
    (found : scheduler.graph.node? id = some node) :
    isHandedOver (node.status scheduler.signals) = true ↔ ∃ handle executor,
      scheduler.graph.state? id = some (.submitted handle executor) := by
  simp only [TaskGraph.state?, Node.status]
  rw [found, Option.map_some]
  cases node.state with
  | unsubmitted => simp [isHandedOver]
  | satisfied => simp [isHandedOver]
  | submitted handle executor =>
      refine iff_of_true ?_ ⟨handle, executor, rfl⟩
      simp only
      split <;> rfl
  | cancelled => simp [isHandedOver]

namespace Consistent

private theorem dispatchesOf_ne_nil_iff (consistent : scheduler.Consistent) :
    scheduler.dispatchesOf id ≠ [] ↔ ∃ handle executor,
      scheduler.graph.state? id = some (.submitted handle executor) := by
  constructor
  · intro some
    by_contra idle
    apply some
    apply consistent.dispatchesOf_eq_nil
    exact fun handle executor submitted => idle ⟨handle, executor, submitted⟩
  · intro submitted
    obtain ⟨handle, executor, state⟩ := submitted
    obtain ⟨⟨dispatch, made, ofNode⟩, _⟩ :=
      consistent.backed id handle executor state
    exact List.ne_nil_of_mem (mem_dispatchesOf_iff.mpr ⟨made, ofNode⟩)

/-- The handle of a node is complete exactly if all its operations are. -/
theorem isComplete_iff (consistent : scheduler.Consistent) {handle : Handle}
    {executor : Graph.Binding}
    (state : scheduler.graph.state? id = some (.submitted handle executor)) :
    handle.isComplete scheduler.signals = true ↔
      ∀ dispatch ∈ scheduler.dispatchesOf id,
        scheduler.signals.isFired dispatch.signal = true := by
  rw [Handle.isComplete_iff]
  constructor
  · intro complete dispatch member
    obtain ⟨made, rfl⟩ := mem_dispatchesOf_iff.mp member
    obtain ⟨own, place, ownState, isBelow⟩ := consistent.owned dispatch made
    rw [state] at ownState
    cases ownState
    exact complete dispatch.signal isBelow
  · intro fired signal isBelow
    obtain ⟨dispatch, made, ofNode, rfl⟩ :=
      (consistent.backed id handle executor state).2 signal isBelow
    exact fired dispatch (mem_dispatchesOf_iff.mpr ⟨made, ofNode⟩)

end Consistent

/-- However a graph is built and its nodes are submitted, with or without
success, and whenever operations complete in between, the state of every node
fits to the operations that were handed over. -/
theorem agrees_of_reachable (reached : scheduler.Reachable) {node : Node}
    (found : scheduler.graph.node? id = some node) :
    Agrees scheduler id node := by
  have consistent := reached.consistent
  have tallied := reached.tallied
  obtain ⟨asked, executed⟩ := reached.placed
  have working : scheduler.dispatchesOf id ≠ [] ↔
      isHandedOver (node.status scheduler.signals) = true :=
    consistent.dispatchesOf_ne_nil_iff.trans
      (isHandedOver_status_iff found).symm
  constructor
  case explicit =>
    intro explicit
    have most := tallied.single id node found explicit
    split
    · rename_i handedOver
      have least := List.length_pos_iff.mpr (working.mpr handedOver)
      exact Nat.le_antisymm most least
    · rename_i idle
      rw [List.length_eq_zero_iff]
      by_contra some
      exact idle (working.mp some)
  case requirement => exact fun _ => working
  case copies => exact tallied.copies id node found
  case complete =>
    intro some
    obtain ⟨handle, executor, state⟩ :=
      consistent.dispatchesOf_ne_nil_iff.mp some
    rw [← consistent.isComplete_iff state]
    simp only [Node.status]
    rw [TaskGraph.state_of_state? found state]
    simp only
    split
    · rename_i isComplete
      exact iff_of_true rfl isComplete
    · rename_i outstanding
      exact iff_of_false (by simp) outstanding
  case executor =>
    intro some
    obtain ⟨handle, executor, state⟩ :=
      consistent.dispatchesOf_ne_nil_iff.mp some
    have placed := executed id handle executor state
    simp only [TaskGraph.device?] at placed
    rw [found] at placed
    refine ⟨executor, ?_, placed, fun hint hinted => ?_⟩
    · simp only [Node.executor?]
      rw [TaskGraph.state_of_state? found state]
    · exact (asked id node hint executor.device found hinted placed).symm

/-- The requirement that two kernels share has its copy, after one of them was
submitted. -/
theorem agrees_sharing :
    ∃ node, (Action.outcome (submit 3) sharing).graph.node? 0 = some node ∧
      node.executor? = some ⟨.cuda, ⟨.cuda, 0⟩⟩ ∧
      Agrees (Action.outcome (submit 3) sharing) 0 node := by
  have shape :
      ((Action.outcome (submit 3) sharing).graph.node? 0).map (·.executor?) =
        some (some ⟨.cuda, ⟨.cuda, 0⟩⟩) := by decide +kernel
  obtain ⟨node, found, executor⟩ := Option.map_eq_some_iff.mp shape
  exact ⟨node, found, executor,
    agrees_of_reachable (reachable_sharing.step (.submit 3)) found⟩

end CoherentTasks.Scheduler
