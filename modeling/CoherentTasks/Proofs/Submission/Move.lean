import CoherentTasks.Proofs.Graph.WellFormed
import CoherentTasks.Proofs.Scheduler
import CoherentTasks.Proofs.Submission.Dependency
import CoherentTasks.Submission.Submit

/-!
# Moves of a submission

A submission is a sequence of small moves: nodes are bound to devices and
addresses, memory is allocated, and requirements are settled one after another.
This module says what each move does, and what no move changes.
-/

namespace CoherentTasks.Submission

open CoherentTasks.Coherence (Region)
open CoherentTasks.Completion (Handle)
open CoherentTasks.Graph (Binding Copy Node Requirement State TaskGraph)
open Scheduler (HandsOver Quiet)

/-- The state of a node after its operations were handed over. Without any, the
node needed no work. -/
def takenUp (made : List Dispatch) (executor : Binding) : State :=
  if made = [] then .satisfied
  else .submitted
    (.join (made.map fun dispatch => .single dispatch.signal)) executor

theorem executor_of_takenUp {made : List Dispatch} {executor other : Binding}
    {handle : Handle}
    (submitted : takenUp made executor = .submitted handle other) :
    other = executor := by
  simp only [takenUp] at submitted
  split at submitted
  · cases submitted
  · cases submitted
    rfl

/-- A node whose requirements are all submitted is submitted itself. -/
structure TakesUp (id : NodeId) (made : List Dispatch)
    (before after : Scheduler) : Prop where
  waits : before.graph.state? id = some .unsubmitted
  prepared : ∀ required,
    before.graph.Requires id required → before.graph.Submitted required
  sameNodes : before.graph.SameNodes after.graph
  others :
    ∀ other, other ≠ id → after.graph.state? other = before.graph.state? other
  state : ∃ executor, after.graph.state? id = some (takenUp made executor)
  handed : ∃ device operations, HandsOver id device
    (dependenciesOf before.graph before.signals id) operations made before after

/-- Nothing but devices, addresses and regions changes. -/
structure Still (before after : Scheduler) : Prop where
  sameNodes : before.graph.SameNodes after.graph
  states : ∀ id, after.graph.state? id = before.graph.state? id
  quiet : Quiet before after

theorem Still.of_node? {before after : Scheduler}
    (same : ∀ id, after.graph.node? id = before.graph.node? id)
    (quiet : Quiet before after) : Still before after where
  sameNodes := .of_node? same
  states id := TaskGraph.state?_congr (same id)
  quiet := quiet

/-- The marks that an access leaves in its region. -/
def marked (requirement : Requirement) (device : Device) (region : Region) :
    Region :=
  if requirement.mode.writes then region.markCurrent device requirement.window
  else region.markValid device requirement.window

/-- The node is the root of a submission, or a requirement that is resolved for
it. -/
def Directs (graph : TaskGraph) (root id : NodeId) : Prop :=
  id = root ∨ ∃ node requirement,
    graph.node? id = some node ∧ node.operation = .requirement requirement

/-- The node is the next one to be resolved for a node that directs it: what
comes earlier among its requirements is submitted. -/
def InTurn (graph : TaskGraph) (root id : NodeId) : Prop :=
  id = root ∨ ∃ parent earlier later, Directs graph root parent ∧
    graph.requirementsOf parent = earlier ++ id :: later ∧
      ∀ other ∈ earlier, graph.Submitted other

/-- A requirement is settled: the copies that it needs are handed over, and its
access is marked. -/
structure Settles (root id : NodeId) (node : Node) (requirement : Requirement)
    (device : Device) (region : Region) (copies : List Copy)
    (made : List Dispatch) (before after : Scheduler) : Prop where
  found : before.graph.node? id = some node
  states : node.operation = .requirement requirement
  bound : node.device = some device
  waits : node.state = .unsubmitted
  prepared : ∀ required ∈ node.requirements, before.graph.Submitted required
  inTurn : InTurn before.graph root id
  tracked : before.graph.region? requirement.region = some region
  allocated : region.hasAllocation device = true
  planned : if requirement.mode.discards then copies = []
    else planTransfers region device requirement.window = .ok copies
  handed : HandsOver id device (dependenciesOf before.graph before.signals id)
    (copies.map .copy) made before after
  deeds : after.deeds =
    before.deeds ++ (made.map .dispatched ++ [.settled id requirement device])
  graph : ∃ executor, after.graph = (before.graph.updateNode id ({ · with
    state := takenUp made executor })).updateRegion
    requirement.region (marked requirement device)
  executed : ∀ handle executor,
    after.graph.state? id = some (.submitted handle executor) →
    executor.device = device

/-- One move of the submission of `root`. Only nodes with numbers below `bound`
are settled. -/
inductive Move (root bound : NodeId) (before after : Scheduler) : Prop where
  | note (quiet : Quiet before after) (graph : after.graph = before.graph)
  | assign (id : NodeId) (device : Device) (node : Node)
      (quiet : Quiet before after) (found : before.graph.node? id = some node)
      (fits : node.device = none → node.hint.getD device = device)
      (graph : after.graph = before.graph.updateNode id (·.assign device))
  | bind (id : NodeId) (pointer : Option Pointer) (quiet : Quiet before after)
      (graph : after.graph = before.graph.updateNode id ({ · with pointer }))
  | allocate (id : RegionId) (region : Region) (device : Device)
      (pointer : Pointer) (quiet : Quiet before after)
      (found : before.graph.region? id = some region)
      (absent : region.hasAllocation device = false)
      (graph : after.graph =
        before.graph.updateRegion id (·.addAllocation device pointer))
  | settle (id : NodeId) (node : Node) (requirement : Requirement)
      (device : Device) (region : Region) (copies : List Copy)
      (made : List Dispatch) (below : id < bound)
      (settles :
        Settles root id node requirement device region copies made before after)

/-- The operation of a node is handed to its executor. -/
structure Launches (id : NodeId) (node : Node) (device : Device)
    (dispatch : Dispatch) (before after : Scheduler) : Prop where
  found : before.graph.node? id = some node
  explicit : node.operation.isRequirement = false
  hinted : node.hint = some device
  bound : ∃ place, node.device = some place
  waits : node.state = .unsubmitted
  prepared : ∀ required ∈ node.requirements, before.graph.Submitted required
  handed : HandsOver id device (dependenciesOf before.graph before.signals id)
    [node.operation] [dispatch] before after
  deeds : after.deeds = before.deeds ++ [.dispatched dispatch]
  graph : ∃ executor, after.graph =
    before.graph.updateNode id ({ · with state := takenUp [dispatch] executor })
  executed : ∀ handle executor,
    after.graph.state? id = some (.submitted handle executor) →
    executor.device = device

section Frames

variable {root bound id : NodeId} {before after : Scheduler}

private theorem grows_marked (requirement : Requirement) (device : Device)
    (region : Region) : region.Grows (marked requirement device region) := by
  simp only [marked]
  split
  · exact Region.grows_markCurrent region device _
  · exact Region.grows_markValid region device _

theorem Settles.takesUp {node : Node} {requirement : Requirement}
    {device : Device} {region : Region} {copies : List Copy}
    {made : List Dispatch}
    (settles :
      Settles root id node requirement device region copies made before after) :
    TakesUp id made before after := by
  obtain ⟨executor, graph⟩ := settles.graph
  refine ⟨?_, ?_, ?_, ?_, ⟨executor, ?_⟩, ⟨device, _, settles.handed⟩⟩
  · exact TaskGraph.state?_of_node? settles.found settles.waits
  · intro required edge
    obtain ⟨other, isNode, member⟩ := TaskGraph.requires_iff.mp edge
    rw [settles.found] at isNode
    cases isNode
    exact settles.prepared required member
  · rw [graph]
    exact TaskGraph.sameNodes_updateNode _ _ fun _ => rfl
  · intro other different
    rw [graph]
    exact TaskGraph.state?_congr (TaskGraph.node?_updateNode_other different)
  · rw [graph]
    exact TaskGraph.state?_of_node?
      (TaskGraph.node?_updateNode_self settles.found) rfl

theorem Launches.takesUp {node : Node} {device : Device} {dispatch : Dispatch}
    (launches : Launches id node device dispatch before after) :
    TakesUp id [dispatch] before after := by
  obtain ⟨executor, graph⟩ := launches.graph
  refine ⟨?_, ?_, ?_, ?_, ⟨executor, ?_⟩, ⟨device, _, launches.handed⟩⟩
  · exact TaskGraph.state?_of_node? launches.found launches.waits
  · intro required edge
    obtain ⟨other, isNode, member⟩ := TaskGraph.requires_iff.mp edge
    rw [launches.found] at isNode
    cases isNode
    exact launches.prepared required member
  · rw [graph]
    exact TaskGraph.sameNodes_updateNode _ _ fun _ => rfl
  · intro other different
    rw [graph]
    exact TaskGraph.state?_congr (TaskGraph.node?_updateNode_other different)
  · rw [graph]
    exact TaskGraph.state?_of_node?
      (TaskGraph.node?_updateNode_self launches.found) rfl

theorem still_updateNode {change : Node → Node} (quiet : Quiet before after)
    (graph : after.graph = before.graph.updateNode id change)
    (created : ∀ node, (change node).created = node.created)
    (state : ∀ node, (change node).state = node.state) :
    Still before after := by
  refine ⟨?_, fun other => ?_, quiet⟩
  · rw [graph]
    exact TaskGraph.sameNodes_updateNode _ _ created
  · rw [graph]
    exact TaskGraph.state?_updateNode _ _ _ state

/-- A move settles a requirement, or changes only devices, addresses and
copies. -/
theorem Move.still_or_takesUp (move : Move root bound before after) :
    Still before after ∨
    ∃ id made, id < bound ∧ TakesUp id made before after := by
  cases move with
  | note quiet graph =>
      exact .inl ⟨graph ▸ .refl _, fun id => by rw [graph], quiet⟩
  | assign id device node quiet found fits graph =>
      exact .inl (still_updateNode quiet graph (fun _ => rfl) fun _ => rfl)
  | bind id pointer quiet graph =>
      exact .inl (still_updateNode quiet graph (fun _ => rfl) fun _ => rfl)
  | allocate id region device pointer quiet found absent graph =>
      refine .inl ⟨?_, fun other => ?_, quiet⟩
      · rw [graph]
        exact fun _ => rfl
      · rw [graph]
        rfl
  | settle id node requirement device region copies made below settles =>
      exact .inr ⟨id, made, below, settles.takesUp⟩

theorem Move.sameNodes (move : Move root bound before after) :
    before.graph.SameNodes after.graph := by
  rcases move.still_or_takesUp with still | ⟨id, made, _, takes⟩
  · exact still.sameNodes
  · exact takes.sameNodes

theorem Move.state?_of_le (move : Move root bound before after)
    (above : bound ≤ id) : after.graph.state? id = before.graph.state? id := by
  rcases move.still_or_takesUp with still | ⟨other, made, below, takes⟩
  · exact still.states id
  · exact takes.others id (Nat.ne_of_gt (Nat.lt_of_lt_of_le below above))

theorem TakesUp.submitted_self {made : List Dispatch}
    (takes : TakesUp id made before after) : after.graph.Submitted id := by
  obtain ⟨executor, state⟩ := takes.state
  simp only [takenUp] at state
  split at state
  · exact .inl state
  · exact .inr ⟨_, executor, state⟩

/-- What did not wait for its submission stays as it was. -/
theorem TakesUp.state?_of_ne {made : List Dispatch} {other : NodeId}
    (takes : TakesUp id made before after)
    (settled : before.graph.state? other ≠ some .unsubmitted) :
    after.graph.state? other = before.graph.state? other := by
  apply takes.others other
  intro equal
  subst equal
  exact settled takes.waits

theorem TakesUp.state?_of_submitted {made : List Dispatch} {other : NodeId}
    (takes : TakesUp id made before after)
    (submitted : before.graph.Submitted other) :
    after.graph.state? other = before.graph.state? other :=
  takes.state?_of_ne submitted.not_unsubmitted

theorem Move.state?_of_ne (move : Move root bound before after)
    (settled : before.graph.state? id ≠ some .unsubmitted) :
    after.graph.state? id = before.graph.state? id := by
  rcases move.still_or_takesUp with still | ⟨other, made, _, takes⟩
  · exact still.states id
  · exact takes.state?_of_ne settled

theorem submitted_of_state?_eq {graph other : TaskGraph}
    (submitted : graph.Submitted id)
    (same : other.state? id = graph.state? id) : other.Submitted id := by
  simp only [TaskGraph.Submitted]
  rw [same]
  exact submitted

theorem submitted_iff_of_state?_eq {graph other : TaskGraph}
    (same : other.state? id = graph.state? id) :
    other.Submitted id ↔ graph.Submitted id :=
  ⟨fun submitted => submitted_of_state?_eq submitted same.symm,
    fun submitted => submitted_of_state?_eq submitted same⟩

theorem TakesUp.submitted_iff {made : List Dispatch}
    (takes : TakesUp id made before after) {other : NodeId} :
    after.graph.Submitted other ↔
      other = id ∨ before.graph.Submitted other := by
  by_cases here : other = id
  · subst here
    exact iff_of_true takes.submitted_self (.inl rfl)
  · rw [or_iff_right here]
    exact submitted_iff_of_state?_eq (takes.others other here)

theorem Move.regionsGrow (move : Move root bound before after) :
    before.graph.RegionsGrow after.graph := by
  cases move with
  | note quiet graph => exact TaskGraph.regionsGrow_of_eq (by rw [graph])
  | assign id device node quiet found fits graph =>
      exact TaskGraph.regionsGrow_of_eq (by rw [graph]; rfl)
  | bind id pointer quiet graph =>
      exact TaskGraph.regionsGrow_of_eq (by rw [graph]; rfl)
  | allocate id region device pointer quiet found absent graph =>
      rw [graph]
      exact TaskGraph.regionsGrow_updateRegion _ _ fun region =>
        region.grows_addAllocation device pointer
  | settle id node requirement device region copies made below settles =>
      obtain ⟨executor, graph⟩ := settles.graph
      rw [graph]
      exact TaskGraph.regionsGrow_updateRegion (before.graph.updateNode id _) _
        (grows_marked requirement device)

theorem Move.length_slots (move : Move root bound before after) :
    after.graph.slots.length = before.graph.slots.length := by
  cases move with
  | note quiet graph => rw [graph]
  | assign id device node quiet found fits graph =>
      rw [graph]
      exact TaskGraph.length_slots_updateNode _ _ _
  | bind id pointer quiet graph =>
      rw [graph]
      exact TaskGraph.length_slots_updateNode _ _ _
  | allocate id region device pointer quiet found absent graph =>
      rw [graph]
      rfl
  | settle id node requirement device region copies made below settles =>
      obtain ⟨executor, graph⟩ := settles.graph
      rw [graph]
      exact TaskGraph.length_slots_updateNode _ _ _

/-- A device once bound stays, and a node that asked for a device is bound to no
other. -/
theorem Move.device (move : Move root bound before after) {node : Node}
    (found : before.graph.node? id = some node) :
    ∃ later, after.graph.node? id = some later ∧
      (later.device = node.device ∨
        (node.device = none ∧ ∃ device, later.device = some device ∧
          node.hint.getD device = device)) := by
  cases move with
  | note quiet graph => exact ⟨node, by rw [graph]; exact found, .inl rfl⟩
  | assign other device bound quiet isBound fits graph =>
      rw [graph, TaskGraph.node?_updateNode]
      split
      · rename_i same
        subst same
        rw [found] at isBound
        cases isBound
        refine ⟨node.assign device, by rw [found]; rfl, ?_⟩
        cases held : node.device with
        | none =>
            exact .inr ⟨rfl, device, by simp [Node.assign, held], fits held⟩
        | some earlier => exact .inl (by simp [Node.assign, held])
      · exact ⟨node, found, .inl rfl⟩
  | bind other pointer quiet graph =>
      rw [graph, TaskGraph.node?_updateNode]
      split
      · exact ⟨{ node with pointer }, by rw [found]; rfl, .inl rfl⟩
      · exact ⟨node, found, .inl rfl⟩
  | allocate other region device pointer quiet isRegion absent graph =>
      rw [graph]
      exact ⟨node, found, .inl rfl⟩
  | settle other _ requirement device region copies made below settles =>
      obtain ⟨executor, graph⟩ := settles.graph
      rw [graph, TaskGraph.node?_updateRegion, TaskGraph.node?_updateNode]
      split
      · exact ⟨{ node with state := takenUp made executor },
          by rw [found]; rfl, .inl rfl⟩
      · exact ⟨node, found, .inl rfl⟩

theorem Move.widen {wider : NodeId} (move : Move root bound before after)
    (le : bound ≤ wider) : Move root wider before after := by
  cases move with
  | note quiet graph => exact .note quiet graph
  | assign id device node quiet found fits graph =>
      exact .assign id device node quiet found fits graph
  | bind id pointer quiet graph => exact .bind id pointer quiet graph
  | allocate id region device pointer quiet found absent graph =>
      exact .allocate id region device pointer quiet found absent graph
  | settle id node requirement device region copies made below settles =>
      exact .settle id node requirement device region copies made
        (Nat.lt_of_lt_of_le below le) settles

end Frames

/-- The submission of `root` goes on by any number of moves. -/
abbrev Moves (root bound : NodeId) : Scheduler → Scheduler → Prop :=
  Relation.ReflTransGen (Move root bound)

section Sequences

variable {root bound id : NodeId} {before after : Scheduler}

theorem Moves.sameNodes (moves : Moves root bound before after) :
    before.graph.SameNodes after.graph := by
  induction moves with
  | refl => exact .refl _
  | tail _ move induction => exact induction.trans move.sameNodes

theorem Moves.regionsGrow (moves : Moves root bound before after) :
    before.graph.RegionsGrow after.graph := by
  induction moves with
  | refl => exact TaskGraph.regionsGrow_of_eq rfl
  | tail _ move induction => exact induction.trans move.regionsGrow

theorem Moves.wellFormed (moves : Moves root bound before after)
    (wellFormed : before.graph.WellFormed) : after.graph.WellFormed :=
  wellFormed.later moves.sameNodes moves.regionsGrow

theorem Moves.state?_of_le (moves : Moves root bound before after)
    (above : bound ≤ id) : after.graph.state? id = before.graph.state? id := by
  induction moves with
  | refl => rfl
  | tail _ move induction => exact (move.state?_of_le above).trans induction

theorem Moves.state_of_unsubmitted (moves : Moves root bound before after)
    (above : bound ≤ id) {node later : Node}
    (found : before.graph.node? id = some node)
    (waits : node.state = .unsubmitted)
    (isLater : after.graph.node? id = some later) :
    later.state = .unsubmitted :=
  TaskGraph.state_of_state? isLater
    ((moves.state?_of_le above).trans (TaskGraph.state?_of_node? found waits))

theorem Moves.state?_of_ne (moves : Moves root bound before after)
    (settled : before.graph.state? id ≠ some .unsubmitted) :
    after.graph.state? id = before.graph.state? id := by
  induction moves with
  | refl => rfl
  | tail _ move induction =>
      rw [← induction] at settled
      exact (move.state?_of_ne settled).trans induction

theorem Moves.state?_of_submitted (moves : Moves root bound before after)
    (submitted : before.graph.Submitted id) :
    after.graph.state? id = before.graph.state? id :=
  Moves.state?_of_ne moves submitted.not_unsubmitted

theorem Moves.submitted (moves : Moves root bound before after)
    (submitted : before.graph.Submitted id) : after.graph.Submitted id :=
  submitted_of_state?_eq submitted (moves.state?_of_submitted submitted)

theorem Moves.device (moves : Moves root bound before after) {node : Node}
    {device : Device} (found : before.graph.node? id = some node)
    (bound : node.device = some device) :
    ∃ later,
      after.graph.node? id = some later ∧ later.device = some device := by
  induction moves with
  | refl => exact ⟨node, found, bound⟩
  | tail _ move induction =>
      obtain ⟨middle, isMiddle, held⟩ := induction
      obtain ⟨later, isLater, same | ⟨unbound, _⟩⟩ := move.device isMiddle
      · exact ⟨later, isLater, same.trans held⟩
      · rw [held] at unbound
        cases unbound

theorem Moves.inTurn (moves : Moves root bound before after)
    (inTurn : InTurn before.graph root id) : InTurn after.graph root id := by
  rcases inTurn
    with isRoot | ⟨parent, earlier, later, directs, shape, submitted⟩
  · exact .inl isRoot
  · refine .inr ⟨parent, earlier, later, ?_, ?_, fun other member =>
      moves.submitted (submitted other member)⟩
    · rcases directs with isRoot | ⟨node, requirement, found, states⟩
      · exact .inl isRoot
      · obtain ⟨counterpart, isNode, operation, _⟩ := moves.sameNodes.node found
        exact .inr ⟨counterpart, requirement, isNode, operation.trans states⟩
    · rw [← moves.sameNodes.requirementsOf parent]
      exact shape

end Sequences

end CoherentTasks.Submission
