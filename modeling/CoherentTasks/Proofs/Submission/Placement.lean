import CoherentTasks.Proofs.Submission.Holding
import CoherentTasks.Proofs.Submission.Run

/-!
# Devices of nodes

A node that asks for a device is bound to no other one, and the work of a node
is handed over on the device to which it is bound. Both hold at any time: a node
stays bound to its device, and when its work is handed over, it is bound
already.
-/

namespace CoherentTasks.Submission

open CoherentTasks.Coherence (Region)
open CoherentTasks.Graph (Copy Node Operation Requirement TaskGraph)

/-- No node is bound to another device than the one that it asks for. -/
def BoundAsAsked (graph : TaskGraph) : Prop :=
  ∀ id node hint device, graph.node? id = some node → node.hint = some hint →
    node.device = some device → device = hint

/-- Work is handed over on the device to which its node is bound. -/
def ExecutedAsBound (graph : TaskGraph) : Prop :=
  ∀ id handle executor, graph.state? id = some (.submitted handle executor) →
    graph.device? id = some executor.device

variable {root bound id : NodeId} {before after : Scheduler} {graph : TaskGraph}

namespace BoundAsAsked

theorem move (asked : BoundAsAsked before.graph)
    (move : Move root bound before after) : BoundAsAsked after.graph := by
  intro id later hint device isLater hinted held
  obtain ⟨node, found, _, _, sameHint⟩ := move.sameNodes.symm.node isLater
  obtain ⟨counterpart, isCounterpart, device'⟩ := move.device found
  rw [isLater] at isCounterpart
  cases isCounterpart
  rcases device' with same | ⟨_, other, isOther, fits⟩
  · exact asked id node hint device found (sameHint.trans hinted)
      (same.symm.trans held)
  · rw [sameHint, hinted] at fits
    rw [held] at isOther
    cases isOther
    exact fits.symm

theorem moves (asked : BoundAsAsked before.graph)
    (moves : Moves root bound before after) : BoundAsAsked after.graph := by
  induction moves with
  | refl => exact asked
  | tail _ move induction => exact induction.move move

/-- Nodes may change as long as they keep their devices. -/
private theorem of_device? {other : TaskGraph} (asked : BoundAsAsked graph)
    (same : graph.SameNodes other)
    (devices : ∀ id, other.device? id = graph.device? id) :
    BoundAsAsked other := by
  intro id later hint device isLater hinted held
  obtain ⟨node, found, _, _, sameHint⟩ := same.symm.node isLater
  have sameDevice := devices id
  simp only [TaskGraph.device?] at sameDevice
  rw [isLater, found] at sameDevice
  exact asked id node hint device found (sameHint.trans hinted)
    (sameDevice.symm.trans held)

theorem abort (asked : BoundAsAsked graph) (root : NodeId) :
    BoundAsAsked (graph.abort root).2 :=
  asked.of_device? (TaskGraph.sameNodes_abort graph root)
    (TaskGraph.device?_abort graph root)

theorem giveUp {cause : Error} (asked : BoundAsAsked after.graph) :
    BoundAsAsked (giveUp before after root cause).graph := by
  have restored : BoundAsAsked (after.graph.restore before.graph.snapshot) :=
    asked
  exact restored.abort root

theorem launch {node : Node} {device : Device} {dispatch : Dispatch}
    (asked : BoundAsAsked before.graph)
    (launches : Launches root node device dispatch before after) :
    BoundAsAsked after.graph := by
  obtain ⟨executor, changed⟩ := launches.graph
  apply asked.of_device? launches.sameNodes
  intro id
  rw [changed]
  exact TaskGraph.device?_updateNode _ _ _ fun _ => rfl

theorem finish {operation : Operation} (asked : BoundAsAsked before.graph)
    (finishes : Finishes root operation before after) :
    BoundAsAsked after.graph := by
  intro id node hint device found
  rw [finishes.node? id] at found
  exact asked id node hint device found

theorem submits (asked : BoundAsAsked before.graph) {success : Bool}
    (submits : Submits root before after success) :
    BoundAsAsked after.graph := by
  cases submits with
  | idle _ same => exact same ▸ asked
  | rejects cause same => exact same ▸ asked.giveUp
  | resolves states moves submitted => exact asked.moves moves
  | launches node device dispatch ready launched asks moves launches finishes =>
      exact ((asked.moves moves).launch launches).finish finishes
  | fails device stopped cause asks moves same =>
      exact same ▸ (asked.moves moves).giveUp

theorem addNode {operation : Operation} {requirements : List NodeId}
    {hint : Option Device} {grown : TaskGraph} (asked : BoundAsAsked graph)
    (added : graph.addNode operation requirements hint = .ok (id, grown)) :
    BoundAsAsked grown := by
  intro other node place device found hinted held
  rw [TaskGraph.node?_addNode added] at found
  split at found
  · cases found
    cases held
  · exact asked other node place device found hinted held

end BoundAsAsked

namespace ExecutedAsBound

/-- A graph in which nothing more was handed over and bound nodes stay so. -/
theorem later {other : TaskGraph} (executed : ExecutedAsBound graph)
    (states : ∀ id handle executor,
      other.state? id = some (.submitted handle executor) →
      graph.state? id = some (.submitted handle executor))
    (devices : ∀ id device,
      graph.device? id = some device → other.device? id = some device) :
    ExecutedAsBound other :=
  fun id handle executor state => devices id _ (executed id handle executor
    (states id handle executor state))

theorem takesUp {made : List Dispatch} {device : Device}
    (executed : ExecutedAsBound before.graph)
    (takes : TakesUp id made before after)
    (bound : before.graph.device? id = some device)
    (devices : ∀ other, after.graph.device? other = before.graph.device? other)
    (placed : ∀ handle executor,
      after.graph.state? id = some (.submitted handle executor) →
      executor.device = device) : ExecutedAsBound after.graph := by
  intro other handle executor state
  rw [devices other]
  by_cases same : other = id
  · subst same
    rw [bound, placed handle executor state]
  · rw [takes.others other same] at state
    exact executed other handle executor state

theorem settles {node : Node} {requirement : Requirement} {device : Device}
    {region : Region} {copies : List Copy} {made : List Dispatch}
    (executed : ExecutedAsBound before.graph)
    (settles :
      Settles root id node requirement device region copies made before after) :
    ExecutedAsBound after.graph := by
  apply executed.takesUp settles.takesUp _ _ settles.executed
  · simp only [TaskGraph.device?]
    rw [settles.found]
    exact settles.bound
  · intro other
    obtain ⟨executor, graph⟩ := settles.graph
    rw [graph]
    exact TaskGraph.device?_updateNode before.graph id other fun _ => rfl

theorem launch {node : Node} {device : Device} {dispatch : Dispatch}
    (executed : ExecutedAsBound before.graph)
    (asked : BoundAsAsked before.graph)
    (launches : Launches root node device dispatch before after) :
    ExecutedAsBound after.graph := by
  apply executed.takesUp launches.takesUp _ _ launches.executed
  · obtain ⟨place, held⟩ := launches.bound
    simp only [TaskGraph.device?]
    rw [launches.found,
      ← asked root node device place launches.found launches.hinted held]
    exact held
  · intro other
    obtain ⟨executor, graph⟩ := launches.graph
    rw [graph]
    exact TaskGraph.device?_updateNode _ _ _ fun _ => rfl

theorem move (executed : ExecutedAsBound before.graph)
    (move : Move root bound before after) : ExecutedAsBound after.graph := by
  rcases move.still_or_settles with ⟨still, _⟩ | ⟨_, _, _, _, _, _, _, settled⟩
  · apply executed.later
    · intro id handle executor state
      rwa [still.states] at state
    · intro id device held
      obtain ⟨node, found, held⟩ := Option.bind_eq_some_iff.mp held
      obtain ⟨later, isLater, same | ⟨unbound, _⟩⟩ := move.device found
      · exact Option.bind_eq_some_iff.mpr ⟨later, isLater, same.trans held⟩
      · rw [held] at unbound
        cases unbound
  · exact executed.settles settled

theorem moves (executed : ExecutedAsBound before.graph)
    (moves : Moves root bound before after) : ExecutedAsBound after.graph := by
  induction moves with
  | refl => exact executed
  | tail _ move induction => exact induction.move move

theorem abort (executed : ExecutedAsBound graph) (root : NodeId) :
    ExecutedAsBound (graph.abort root).2 := by
  apply executed.later
  · intro id handle executor state
    exact (TaskGraph.carries_abort graph root).state?_iff.mp state
  · intro id device held
    rwa [TaskGraph.device?_abort]

theorem giveUp {cause : Error} (executed : ExecutedAsBound after.graph) :
    ExecutedAsBound (giveUp before after root cause).graph := by
  have restored : ExecutedAsBound (after.graph.restore before.graph.snapshot) :=
    executed
  exact restored.abort root

theorem finish {operation : Operation} (executed : ExecutedAsBound before.graph)
    (finishes : Finishes root operation before after) :
    ExecutedAsBound after.graph := by
  intro id handle executor
  simp only [TaskGraph.state?, TaskGraph.device?]
  rw [finishes.node? id]
  exact executed id handle executor

theorem submits (executed : ExecutedAsBound before.graph)
    (asked : BoundAsAsked before.graph) {success : Bool}
    (submits : Submits root before after success) :
    ExecutedAsBound after.graph := by
  cases submits with
  | idle _ same => exact same ▸ executed
  | rejects cause same => exact same ▸ executed.giveUp
  | resolves states moves submitted => exact executed.moves moves
  | launches node device dispatch ready launched asks moves launches finishes =>
      exact ((executed.moves moves).launch (asked.moves moves) launches).finish
        finishes
  | fails device stopped cause asks moves same =>
      exact same ▸ (executed.moves moves).giveUp

theorem addNode {operation : Operation} {requirements : List NodeId}
    {hint : Option Device} {grown : TaskGraph}
    (executed : ExecutedAsBound graph)
    (added : graph.addNode operation requirements hint = .ok (id, grown)) :
    ExecutedAsBound grown := by
  apply executed.later
  · intro other handle executor state
    exact (TaskGraph.carries_addNode added).state?_iff.mp state
  · intro other device held
    obtain ⟨node, found, held⟩ := Option.bind_eq_some_iff.mp held
    exact Option.bind_eq_some_iff.mpr
      ⟨node, TaskGraph.node?_addNode_of_some added found, held⟩

end ExecutedAsBound

end CoherentTasks.Submission

namespace CoherentTasks.Scheduler

open CoherentTasks.Graph (TaskGraph)
open CoherentTasks.Submission

/-- Nodes are bound and executed as they should be. -/
theorem Reachable.placed {scheduler : Scheduler}
    (reached : scheduler.Reachable) :
    BoundAsAsked scheduler.graph ∧ ExecutedAsBound scheduler.graph := by
  induction reached with
  | create alignment registry observed =>
      refine ⟨fun id node hint device found => ?_,
        fun id handle executor state => ?_⟩
      · cases found
      · cases state
  | step reached step induction =>
      obtain ⟨asked, executed⟩ := induction
      cases step with
      | addRegion name range elementSize => exact ⟨asked, executed⟩
      | changeRegion id change grows => exact ⟨asked, executed⟩
      | addNode operation requirements hint id graph added =>
          exact ⟨asked.addNode added, executed.addNode added⟩
      | addCopy copy requirements hint id graph added =>
          have asNode := TaskGraph.addNode_of_addCopy added
          exact ⟨asked.addNode asNode, executed.addNode asNode⟩
      | submit id =>
          have submits : Submits id _ _ _ :=
            submits_submit reached.consistent.wellFormed
          exact ⟨asked.submits submits, executed.submits asked submits⟩
      | abort id => exact ⟨asked.abort id, executed.abort id⟩
      | complete fired => exact ⟨asked, executed⟩

end CoherentTasks.Scheduler
