import CoherentTasks.Proofs.Scenario.Underway

/-!
# Progress on staged graphs

While the kernels and copies of a staged graph are submitted one after another,
and operations complete in between, nothing is done for a node before its own
submission: its requirements are settled then, or never. So every submission
begins as it should.
-/

namespace CoherentTasks.Scenario

open CoherentTasks.Completion (Signal)
open CoherentTasks.Graph (Copy Kernel Node Operation Requirement TaskGraph)
open CoherentTasks.Submission

/-- A state in which nothing was done for a node that waits for its
submission. -/
structure Orderly (graph : TaskGraph) (scheduler : Scheduler) : Prop where
  sameNodes : graph.SameNodes scheduler.graph
  consistent : scheduler.Consistent
  bound : BoundAsAsked scheduler.graph
  untouched : ∀ root id, graph.Requires root id → StatesRequirement graph id →
    scheduler.graph.Submitted id →
    scheduler.graph.state? root ≠ some .unsubmitted

section Awaited

variable {graph : TaskGraph} {root : NodeId} {device : Device}
  {scheduler : Scheduler}

theorem Orderly.awaited (orderly : Orderly graph scheduler)
    (staged : Staged graph) (explicit : Explicit graph root)
    (eligible : Eligible scheduler.graph root device) :
    Awaited root device scheduler where
  wellFormed := orderly.consistent.wellFormed
  staged := staged.of_sameNodes orderly.sameNodes
  bound := orderly.bound
  explicit := explicit.of_sameNodes orderly.sameNodes
  eligible := eligible
  untouched id states required submitted := by
    have states' := states.of_sameNodes orderly.sameNodes.symm
    have required' : graph.Requires root id :=
      orderly.sameNodes.requires ▸ required
    exact orderly.untouched root id required' states' submitted
      eligible.unsubmitted

end Awaited

section Waiting

variable {root bound id : NodeId} {before after : Scheduler}

theorem TakesUp.unsubmitted {made : List Dispatch}
    (takes : TakesUp id made before after) {other : NodeId}
    (waits : after.graph.state? other = some .unsubmitted) :
    other ≠ id ∧ before.graph.state? other = some .unsubmitted := by
  have different : other ≠ id := by
    intro equal
    subst equal
    exact takes.submitted_self.not_unsubmitted waits
  exact ⟨different, (takes.others other different).symm.trans waits⟩

/-- No node begins to wait. -/
theorem unsubmitted_of_moves (moves : Moves root bound before after)
    (waits : after.graph.state? id = some .unsubmitted) :
    before.graph.state? id = some .unsubmitted := by
  induction moves with
  | refl => exact waits
  | tail _ move induction =>
      apply induction
      rcases move.still_or_takesUp with still | ⟨other, made, _, takes⟩
      · exact (still.states id).symm.trans waits
      · exact (TakesUp.unsubmitted takes waits).2

private theorem unsubmitted_of_giveUp {cause : Error}
    (waits :
      (giveUp before after id cause).graph.state? root = some .unsubmitted) :
    root ≠ id ∧ after.graph.state? root = some .unsubmitted := by
  have kept :
      (giveUp before after id cause).graph.state? root =
        after.graph.state? root ∨
      (after.graph.state? root = some .unsubmitted ∧
        (giveUp before after id cause).graph.state? root = some .cancelled) :=
    TaskGraph.state?_abort root
  constructor
  · intro equal
    subst equal
    exact TaskGraph.state?_abort_root waits
  · rcases kept with same | ⟨earlier, _⟩
    · exact same.symm.trans waits
    · exact earlier

theorem submitted_giveUp_iff {cause : Error} {other : NodeId} :
    (giveUp before after id cause).graph.Submitted other ↔
      after.graph.Submitted other :=
  (TaskGraph.carries_abort (after.graph.restore before.graph.snapshot)
    id).submitted_iff

end Waiting

section Launch

variable {graph : TaskGraph} {root : NodeId} {device : Device} {node : Node}
  {dispatch : Dispatch} {before ready launched : Scheduler}

/-- Before a launch all requirements of the node were settled. -/
theorem settled_of_launches
    (launches : Launches root node device dispatch ready launched)
    (same : graph.SameNodes before.graph)
    (underway : Underway root before ready) {id : NodeId}
    {requirement : Requirement} {own : Device}
    (required : graph.Requires root id)
    (asks : Asks graph id requirement (some own)) :
    Settled root id requirement own before ready := by
  have requiredReady : ready.graph.Requires root id :=
    (same.trans underway.sameNodes).requires ▸ required
  exact ⟨same.requires ▸ required, asks.of_sameNodes same,
    launches.takesUp.prepared id requiredReady⟩

/-- The requirements of a kernel are for the device on which it is launched. -/
theorem hint_of_launches
    (launches : Launches root node device dispatch ready launched)
    (same : graph.SameNodes ready.graph) (staged : Staged graph)
    {kernel : Kernel} (isKernel : node.operation = .kernel kernel) {id : NodeId}
    {requirement : Requirement} {hint : Option Device}
    (required : graph.Requires root id)
    (asks : Asks graph id requirement hint) : hint = some device := by
  obtain ⟨counterpart, isNode, operation, requirements, sameHint⟩ :=
    same.symm.node launches.found
  obtain ⟨again, isAgain, member⟩ := TaskGraph.requires_iff.mp required
  rw [isNode] at isAgain
  cases isAgain
  rw [staged.kernels root counterpart kernel isNode (operation.trans isKernel)
    id member requirement hint asks, sameHint, launches.hinted]

/-- The requirements of a copy that is launched. -/
theorem accesses_of_launches
    (launches : Launches root node device dispatch ready launched)
    (same : graph.SameNodes ready.graph) (staged : Staged graph) {copy : Copy}
    (isCopy : node.operation = .copy copy) :
    ∃ window reading writing, CopyAccesses graph (graph.requirementsOf root)
      copy window reading writing := by
  obtain ⟨counterpart, isNode, operation, _⟩ := same.symm.node launches.found
  have accesses :=
    staged.copies root counterpart copy isNode (operation.trans isCopy)
  simp only [TaskGraph.requirementsOf]
  rw [isNode]
  exact accesses

end Launch

section Submits

variable {graph : TaskGraph} {root bound : NodeId}
  {before stopped ready launched after : Scheduler}

/-- What was done for `root` settled no requirements but its own, and it waits
no longer. -/
structure Advances (graph : TaskGraph) (root : NodeId)
    (before after : Scheduler) : Prop where
  sameNodes : before.graph.SameNodes after.graph
  bound : BoundAsAsked after.graph
  waits : ∀ other, after.graph.state? other = some .unsubmitted →
    other ≠ root ∧ before.graph.state? other = some .unsubmitted
  own : ∀ id, StatesRequirement graph id → after.graph.Submitted id →
    before.graph.Submitted id ∨ graph.Requires root id

/-- A requirement belongs to one kernel or copy, so for those that still wait
nothing was done. -/
theorem Orderly.advance (orderly : Orderly graph before) (staged : Staged graph)
    (consistent : after.Consistent)
    (advances : Advances graph root before after) : Orderly graph after where
  sameNodes := orderly.sameNodes.trans advances.sameNodes
  consistent := consistent
  bound := advances.bound
  untouched dependent id required states submitted unsubmitted := by
    obtain ⟨different, waited⟩ := advances.waits dependent unsubmitted
    rcases advances.own id states submitted with earlier | isOwn
    · exact orderly.untouched dependent id required states earlier waited
    · obtain ⟨owner, _, only⟩ := staged.owner id states
      exact different
        (((only dependent).mp required).trans ((only root).mp isOwn).symm)

theorem Orderly.own_of_underway (orderly : Orderly graph before)
    (underway : Underway root before after) {id : NodeId}
    (states : StatesRequirement graph id)
    (submitted : after.graph.Submitted id) :
    before.graph.Submitted id ∨ graph.Requires root id :=
  (underway.own id (states.of_sameNodes orderly.sameNodes) submitted).imp_right
    fun required => orderly.sameNodes.requires ▸ required

/-- Giving up cancels nodes that wait, `root` among them, and settles
nothing. -/
private theorem advances_giveUp {cause : Error}
    (same : before.graph.SameNodes stopped.graph)
    (bound : BoundAsAsked stopped.graph)
    (waited : ∀ other, stopped.graph.state? other = some .unsubmitted →
      before.graph.state? other = some .unsubmitted)
    (own : ∀ id, StatesRequirement graph id → stopped.graph.Submitted id →
      before.graph.Submitted id ∨ graph.Requires root id) :
    Advances graph root before (giveUp before stopped root cause) where
  sameNodes :=
    same.trans (TaskGraph.sameNodes_abort
      (stopped.graph.restore before.graph.snapshot) root)
  bound := bound.giveUp
  waits other unsubmitted :=
    (unsubmitted_of_giveUp unsubmitted).imp_right (waited other)
  own id states submitted := own id states (submitted_giveUp_iff.mp submitted)

theorem Orderly.advances_launch (orderly : Orderly graph before)
    (explicit : Explicit graph root) (moves : Moves root bound before ready)
    (underway : Underway root before ready) {node : Node} {device : Device}
    {dispatch : Dispatch} {operation : Operation}
    (launches : Launches root node device dispatch ready launched)
    (finishes : Finishes root operation launched after) :
    Advances graph root before after := by
  have takes := launches.takesUp
  constructor
  case sameNodes =>
    exact underway.sameNodes.trans
      (takes.sameNodes.trans (.of_node? finishes.node?))
  case bound => exact (underway.bound.launch launches).finish finishes
  case waits =>
    intro other waits
    obtain ⟨different, waited⟩ :=
      TakesUp.unsubmitted takes ((finishes.state? other).symm.trans waits)
    exact ⟨different, unsubmitted_of_moves moves waited⟩
  case own =>
    intro id states submitted
    have later := submitted_of_state?_eq submitted (finishes.state? id).symm
    rcases takes.submitted_iff.mp later with rfl | earlier
    · exact absurd states explicit.not_statesRequirement
    · exact orderly.own_of_underway underway states earlier

/-- The submission of a kernel or copy leaves everything in order. -/
theorem Orderly.submits (orderly : Orderly graph before) (staged : Staged graph)
    (explicit : Explicit graph root) {success : Bool}
    (submits : Submits root before after success) :
    Orderly graph after := by
  have consistent := orderly.consistent.submits submits
  cases submits with
  | idle _ same => exact same ▸ orderly
  | rejects cause same =>
      subst same
      exact orderly.advance staged consistent (advances_giveUp (.refl _)
        orderly.bound (fun _ waits => waits) fun _ _ => .inl)
  | resolves states moves submitted =>
      exact absurd (states.of_sameNodes orderly.sameNodes.symm)
        explicit.not_statesRequirement
  | launches node device dispatch ready launched asks moves launches finishes =>
      have underway :=
        (orderly.awaited staged explicit asks).underway_of_moves moves
      exact orderly.advance staged consistent
        (orderly.advances_launch explicit moves underway launches finishes)
  | fails device stopped cause asks moves same =>
      subst same
      have underway :=
        (orderly.awaited staged explicit asks).underway_of_moves moves
      exact orderly.advance staged consistent
        (advances_giveUp underway.sameNodes underway.bound
          (fun _ waits => unsubmitted_of_moves moves waits)
          fun _ states submitted =>
            orderly.own_of_underway underway states submitted)

/-- The graph at any time serves as well as the graph at first. -/
theorem Orderly.itself (orderly : Orderly graph before) :
    Orderly before.graph before where
  sameNodes := .refl _
  consistent := orderly.consistent
  bound := orderly.bound
  untouched root id required states :=
    orderly.untouched root id (orderly.sameNodes.requires ▸ required)
      (states.of_sameNodes orderly.sameNodes.symm)

/-- Completions change nothing about the graph. -/
theorem Orderly.complete (orderly : Orderly graph before)
    (fired : List Signal) :
    Orderly graph { before with signals := before.signals.fireAll fired } where
  sameNodes := orderly.sameNodes
  consistent := orderly.consistent.step (.complete fired)
  bound := orderly.bound
  untouched := orderly.untouched

end Submits

end CoherentTasks.Scenario
