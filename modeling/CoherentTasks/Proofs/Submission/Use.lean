import CoherentTasks.Proofs.Graph.Pruning
import CoherentTasks.Proofs.Submission.Run

/-!
# Everything that is done with a graph

Besides what a scheduler's runs consist of, requirements can be resolved and
nodes prepared on their own, regions can be restored, and finished nodes and
registrations can be forgotten. Nodes that are gone leave gaps, so less is true
of such a state than of one without removals: what a submitted node requires is
submitted or gone, what a cancelled node requires does not wait, and what a node
requires is there as long as something may still happen to the node.
-/

namespace CoherentTasks

open CoherentTasks.Backend (Registry)
open CoherentTasks.Coherence (Region Snapshot)
open CoherentTasks.Completion (Handle Signals)
open CoherentTasks.Computation (Leads)
open CoherentTasks.Graph (Copy Node Operation State TaskGraph)
open CoherentTasks.Submission

namespace Scheduler

/-- The states of the nodes fit together, although finished nodes may be
gone. -/
structure Intact (scheduler : Scheduler) : Prop where
  wellFormed : scheduler.graph.WellFormed
  /-- What an active node requires is there. -/
  present : ∀ dependent node,
    scheduler.graph.Active scheduler.signals dependent node →
    ∀ required ∈ node.requirements,
      ∃ other, scheduler.graph.node? required = some other
  /-- What a submitted node requires was submitted, or it is gone. -/
  closed : ∀ dependent required, scheduler.graph.Submitted dependent →
    scheduler.graph.Requires dependent required →
    scheduler.graph.state? required = none ∨ scheduler.graph.Submitted required
  /-- What a cancelled node requires does not wait for its submission. -/
  abandoned : ∀ dependent required,
    scheduler.graph.state? dependent = some .cancelled →
    scheduler.graph.Requires dependent required →
    scheduler.graph.state? required ≠ some .unsubmitted
  /-- An operation belongs to a node that does not wait for its submission. -/
  owned : ∀ dispatch ∈ scheduler.dispatches,
    dispatch.node < scheduler.graph.slots.length ∧
    scheduler.graph.state? dispatch.node ≠ some .unsubmitted
  /-- The signals of a handle were created. -/
  numbered : ∀ id handle executor,
    scheduler.graph.state? id = some (.submitted handle executor) →
    ∀ signal ∈ handle.signals, signal < scheduler.signals.next

/-- Nothing was submitted or handed over, and nothing is gone. Nodes may have
been cancelled, together with whatever they require, and signals may have
fired. -/
structure Calm (before after : Scheduler) : Prop where
  sameNodes : before.graph.SameNodes after.graph
  states : ∀ id, after.graph.state? id = before.graph.state? id ∨
    (before.graph.state? id = some .unsubmitted ∧
      after.graph.state? id = some .cancelled ∧
      ∀ required, before.graph.Requires id required →
        after.graph.state? required ≠ some .unsubmitted)
  longer : before.graph.slots.length ≤ after.graph.slots.length
  dispatches : after.dispatches = before.dispatches
  later : before.signals.Extends after.signals
  next : after.signals.next = before.signals.next

namespace Calm

variable {before after : Scheduler} {id : NodeId}

theorem of_still (still : Still before after)
    (longer : before.graph.slots.length ≤ after.graph.slots.length) :
    before.Calm after where
  sameNodes := still.sameNodes
  states id := .inl (still.states id)
  longer := longer
  dispatches := still.quiet.dispatches
  later := by
    rw [still.quiet.signals]
    exact .refl _
  next := by rw [still.quiet.signals]

/-- The lookups of nodes give the same as before, and only regions and books
differ. -/
theorem of_node? (same : ∀ id, after.graph.node? id = before.graph.node? id)
    (longer : before.graph.slots.length ≤ after.graph.slots.length)
    (quiet : Quiet before after) : before.Calm after :=
  .of_still (.of_node? same quiet) longer

/-- Nodes are cancelled in a graph that differs at most in its regions. -/
private theorem of_abort {graph : TaskGraph}
    (slots : graph.slots = before.graph.slots)
    (cancelled : after.graph = (graph.abort id).2)
    (quiet : Quiet before after) : before.Calm after := by
  have sameNode (other : NodeId) :
      graph.node? other = before.graph.node? other := by
    simp only [TaskGraph.node?]
    rw [slots]
  have sameState (other : NodeId) :
      graph.state? other = before.graph.state? other :=
    TaskGraph.state?_congr (sameNode other)
  have sameNodes : before.graph.SameNodes graph := .of_node? sameNode
  constructor
  case sameNodes =>
    rw [cancelled]
    exact sameNodes.trans (TaskGraph.sameNodes_abort graph id)
  case states =>
    intro other
    rw [cancelled, ← sameState other]
    have changed : (graph.abort id).2.state? other = graph.state? other ∨ _ :=
      TaskGraph.state?_abort other
    rcases changed with same | ⟨waits, isCancelled⟩
    · exact .inl same
    · refine .inr ⟨waits, isCancelled, fun required edge => ?_⟩
      rw [sameNodes.requires] at edge
      exact TaskGraph.state?_required_of_abort waits isCancelled edge
  case longer =>
    rw [cancelled, TaskGraph.length_slots_abort, slots]
  case dispatches => exact quiet.dispatches
  case later =>
    rw [quiet.signals]
    exact .refl _
  case next => rw [quiet.signals]

theorem state?_of_ne (calm : before.Calm after)
    (settled : before.graph.state? id ≠ some .unsubmitted) :
    after.graph.state? id = before.graph.state? id := by
  rcases calm.states id with same | ⟨waits, _⟩
  · exact same
  · exact absurd waits settled

private theorem state?_ne_of_ne (calm : before.Calm after)
    (settled : before.graph.state? id ≠ some .unsubmitted) :
    after.graph.state? id ≠ some .unsubmitted := by
  rw [calm.state?_of_ne settled]
  exact settled

theorem submitted_iff (calm : before.Calm after) :
    after.graph.Submitted id ↔ before.graph.Submitted id := by
  constructor
  · intro submitted
    rcases calm.states id with same | ⟨_, cancelled, _⟩
    · exact submitted_of_state?_eq submitted same.symm
    · exact absurd cancelled submitted.not_cancelled
  · intro submitted
    exact submitted_of_state?_eq submitted
      (calm.state?_of_ne submitted.not_unsubmitted)

end Calm

namespace Intact

section Settled

variable {scheduler : Scheduler} {dependent required : NodeId}

/-- What a node requires waits for its submission only if the node itself
does. -/
theorem settled_of_requires (intact : scheduler.Intact)
    (settled : scheduler.graph.state? dependent ≠ some .unsubmitted)
    (edge : scheduler.graph.Requires dependent required) :
    scheduler.graph.state? required ≠ some .unsubmitted := by
  obtain ⟨node, found, _⟩ := TaskGraph.requires_iff.mp edge
  have isState : scheduler.graph.state? dependent = some node.state :=
    TaskGraph.state?_of_node? found rfl
  have ofSubmitted (submitted : scheduler.graph.Submitted dependent) :
      scheduler.graph.state? required ≠ some .unsubmitted := by
    rcases intact.closed _ _ submitted edge with gone | submitted
    · rw [gone]
      simp
    · exact submitted.not_unsubmitted
  cases state : node.state with
  | unsubmitted => exact absurd (isState.trans (congrArg some state)) settled
  | satisfied => exact ofSubmitted (.inl (isState.trans (congrArg some state)))
  | submitted handle executor =>
      exact ofSubmitted
        (.inr ⟨handle, executor, isState.trans (congrArg some state)⟩)
  | cancelled =>
      exact intact.abandoned _ _ (isState.trans (congrArg some state)) edge

theorem settled_of_dependsOn (intact : scheduler.Intact)
    (settled : scheduler.graph.state? dependent ≠ some .unsubmitted)
    (reached : scheduler.graph.DependsOn dependent required) :
    scheduler.graph.state? required ≠ some .unsubmitted := by
  induction reached with
  | single edge => exact intact.settled_of_requires settled edge
  | tail _ edge induction => exact intact.settled_of_requires induction edge

end Settled

variable {before after : Scheduler}

/-- A node that was retired while the others went on is still so, and therefore
an active one was active before. -/
private theorem active_before {id : NodeId} {node : Node}
    (same : before.graph.SameNodes after.graph)
    (later : before.signals.Extends after.signals)
    (states : before.graph.state? id ≠ some .unsubmitted →
      after.graph.state? id = before.graph.state? id)
    (active : after.graph.Active after.signals id node) :
    ∃ earlier, before.graph.Active before.signals id earlier ∧
      earlier.requirements = node.requirements := by
  obtain ⟨found, notRetired⟩ := active
  obtain ⟨earlier, isEarlier, _, requirements, _⟩ := same.symm.node found
  refine ⟨earlier, ⟨isEarlier, ?_⟩, requirements⟩
  by_contra retired
  have retired : earlier.isRetired before.signals = true := by
    simpa using retired
  have settled : before.graph.state? id ≠ some .unsubmitted := by
    intro waits
    rw [Node.isRetired_of_unsubmitted
      (TaskGraph.state_of_state? isEarlier waits)] at retired
    cases retired
  have state : node.state = earlier.state :=
    TaskGraph.state_of_state? found
      ((states settled).trans (TaskGraph.state?_of_node? isEarlier rfl))
  rw [Node.isRetired_mono state later retired] at notRetired
  cases notRetired

private theorem exists_node_of_sameNodes {graph other : TaskGraph}
    (same : graph.SameNodes other) {id : NodeId}
    (present : ∃ node, graph.node? id = some node) :
    ∃ node, other.node? id = some node := by
  obtain ⟨node, found⟩ := present
  obtain ⟨counterpart, isNode, _⟩ := same.node found
  exact ⟨counterpart, isNode⟩

private theorem calm (intact : before.Intact)
    (wellFormed : after.graph.WellFormed) (calm : before.Calm after) :
    after.Intact where
  wellFormed := wellFormed
  present dependent node active required member := by
    obtain ⟨earlier, wasActive, requirements⟩ :=
      active_before calm.sameNodes calm.later
        (fun settled => calm.state?_of_ne settled) active
    exact exists_node_of_sameNodes calm.sameNodes (intact.present dependent
      earlier wasActive required (requirements ▸ member))
  closed dependent required submitted edge := by
    rw [← calm.sameNodes.requires] at edge
    rcases intact.closed _ _ (calm.submitted_iff.mp submitted) edge
      with gone | submitted
    · left
      rw [calm.state?_of_ne (by rw [gone]; simp), gone]
    · exact .inr (calm.submitted_iff.mpr submitted)
  abandoned dependent required cancelled edge := by
    rw [← calm.sameNodes.requires] at edge
    rcases calm.states dependent with same | ⟨_, _, none⟩
    · exact calm.state?_ne_of_ne
        (intact.abandoned _ _ (same.symm.trans cancelled) edge)
    · exact none required edge
  owned dispatch made := by
    rw [calm.dispatches] at made
    obtain ⟨below, settled⟩ := intact.owned dispatch made
    exact ⟨Nat.lt_of_lt_of_le below calm.longer, calm.state?_ne_of_ne settled⟩
  numbered id handle executor state := by
    rw [calm.next]
    rcases calm.states id with same | ⟨_, cancelled, _⟩
    · exact intact.numbered id handle executor (same.symm.trans state)
    · rw [cancelled] at state
      cases state

theorem takesUp {id : NodeId} {made : List Dispatch} (intact : before.Intact)
    (takes : TakesUp id made before after) (wellFormed : after.graph.WellFormed)
    (longer : before.graph.slots.length ≤ after.graph.slots.length) :
    after.Intact := by
  have settledBefore {other : NodeId}
      (settled : before.graph.state? other ≠ some .unsubmitted) :
      after.graph.state? other = before.graph.state? other :=
    takes.state?_of_ne settled
  have settledAfter {other : NodeId}
      (settled : before.graph.state? other ≠ some .unsubmitted) :
      after.graph.state? other ≠ some .unsubmitted := by
    rw [settledBefore settled]
    exact settled
  obtain ⟨device, operations, handed⟩ := takes.handed
  obtain ⟨flags, count, signals⟩ := handed.fired
  have next : after.signals.next = before.signals.next + made.length := by
    rw [signals, ← count]
    exact List.length_append
  constructor
  case wellFormed => exact wellFormed
  case present =>
    intro dependent node active required member
    obtain ⟨earlier, wasActive, requirements⟩ := active_before takes.sameNodes
      (Consistent.extends_of_takesUp takes) settledBefore active
    exact exists_node_of_sameNodes takes.sameNodes (intact.present dependent
      earlier wasActive required (requirements ▸ member))
  case closed =>
    intro dependent required submitted edge
    rw [← takes.sameNodes.requires] at edge
    rcases takes.submitted_iff.mp submitted with isNew | submitted
    · subst isNew
      exact .inr (takes.submitted_iff.mpr (.inr (takes.prepared required edge)))
    · rcases intact.closed _ _ submitted edge with gone | submitted
      · left
        rw [settledBefore (by rw [gone]; simp), gone]
      · exact .inr (takes.submitted_iff.mpr (.inr submitted))
  case abandoned =>
    intro dependent required cancelled edge
    rw [← takes.sameNodes.requires] at edge
    have different : dependent ≠ id := by
      intro equal
      subst equal
      exact takes.submitted_self.not_cancelled cancelled
    rw [takes.others dependent different] at cancelled
    exact settledAfter (intact.abandoned _ _ cancelled edge)
  case owned =>
    intro dispatch made
    rcases (Consistent.mem_dispatches_iff takes).mp made with old | new
    · obtain ⟨below, settled⟩ := intact.owned dispatch old
      exact ⟨Nat.lt_of_lt_of_le below longer, settledAfter settled⟩
    · obtain ⟨node, found, _⟩ := Option.map_eq_some_iff.mp takes.waits
      rw [(Consistent.node_of_takesUp takes new).1]
      exact ⟨Nat.lt_of_lt_of_le (TaskGraph.lt_of_node?_eq_some found) longer,
        takes.submitted_self.not_unsubmitted⟩
  case numbered =>
    intro other handle executor state signal member
    rw [next]
    by_cases isNew : other = id
    · subst isNew
      obtain ⟨_, created⟩ := Consistent.state?_eq_of_takesUp takes state
      rw [created, handed.created] at member
      exact (List.mem_range'_1.mp member).2
    · rw [takes.others other isNew] at state
      exact Nat.lt_of_lt_of_le
        (intact.numbered other handle executor state signal member)
        (Nat.le_add_right _ _)

section Submissions

variable {root bound id : NodeId}

theorem move (intact : before.Intact) (move : Move root bound before after) :
    after.Intact := by
  have wellFormed := intact.wellFormed.later move.sameNodes move.regionsGrow
  have longer := Nat.le_of_eq move.length_slots.symm
  rcases move.still_or_takesUp with still | ⟨id, made, _, takes⟩
  · exact intact.calm wellFormed (.of_still still longer)
  · exact intact.takesUp takes wellFormed longer

theorem moves (intact : before.Intact) (moves : Moves root bound before after) :
    after.Intact := by
  induction moves with
  | refl => exact intact
  | tail _ move induction => exact induction.move move

theorem launches {node : Node} {device : Device} {dispatch : Dispatch}
    (intact : before.Intact)
    (launches : Launches id node device dispatch before after) : after.Intact :=
  intact.takesUp launches.takesUp (intact.wellFormed.later launches.sameNodes
    (TaskGraph.regionsGrow_of_eq launches.regions))
    (Nat.le_of_eq launches.length_slots.symm)

theorem finishes {operation : Operation} (intact : before.Intact)
    (finishes : Finishes id operation before after) : after.Intact := by
  have same := finishes.node?
  exact intact.calm
    (intact.wellFormed.later (.of_node? same) finishes.regionsGrow)
    (.of_node? same (Nat.le_of_eq finishes.length_slots.symm) finishes.quiet)

theorem giveUp {cause : Error} (intact : after.Intact) :
    (giveUp before after id cause).Intact := by
  have restored :=
    TaskGraph.regionsGrow_restore after.graph before.graph.snapshot
  have same :
      after.graph.SameNodes (Submission.giveUp before after id cause).graph :=
    TaskGraph.sameNodes_abort (after.graph.restore before.graph.snapshot) id
  have slots :
      (after.graph.restore before.graph.snapshot).slots = after.graph.slots :=
    rfl
  refine intact.calm (intact.wellFormed.later same ?_)
    (.of_abort slots rfl ⟨rfl, rfl, .refl _⟩)
  exact restored.trans
    (TaskGraph.regionsGrow_of_eq (TaskGraph.regions_abort _ id))

theorem submits (intact : before.Intact) {success : Bool}
    (submits : Submits id before after success) : after.Intact := by
  cases submits with
  | idle _ same => exact same ▸ intact
  | rejects cause same =>
      rw [← same]
      exact intact.giveUp
  | resolves states moves submitted => exact intact.moves moves
  | launches node device dispatch ready launched asks moves launches finishes =>
      exact ((intact.moves moves).launches launches).finishes finishes
  | fails device stopped cause asks moves same =>
      rw [← same]
      exact (intact.moves moves).giveUp

end Submissions

theorem addNode {operation : Operation} {requirements : List NodeId}
    {hint : Option Device} {id : NodeId} {graph : TaskGraph}
    (intact : before.Intact)
    (added :
      before.graph.addNode operation requirements hint = .ok (id, graph)) :
    ({ before with graph } : Scheduler).Intact := by
  have edgeBefore {dependent required : NodeId} (old : dependent ≠ id)
      (edge : graph.Requires dependent required) :=
    TaskGraph.requires_of_addNode intact.wellFormed added old edge
  constructor
  case wellFormed => exact intact.wellFormed.addNode added
  case present =>
    intro dependent node active required member
    obtain ⟨found, notRetired⟩ := active
    have isThere : ∃ other, before.graph.node? required = some other := by
      by_cases isNew : dependent = id
      · subst isNew
        cases (TaskGraph.node?_addNode_self added).symm.trans found
        exact Option.isSome_iff_exists.mp
          ((TaskGraph.addNode_ok added).1 required member)
      · rw [TaskGraph.node?_addNode_other added isNew] at found
        exact intact.present dependent node ⟨found, notRetired⟩ required member
    obtain ⟨other, isNode⟩ := isThere
    exact ⟨other, TaskGraph.node?_addNode_of_some added isNode⟩
  case closed =>
    intro dependent required submitted edge
    have old := TaskGraph.ne_addNode_of_settled added submitted.not_unsubmitted
    obtain ⟨edge, requiredOld⟩ := edgeBefore old edge
    have same := TaskGraph.state?_addNode_other added requiredOld
    have submitted :=
      submitted_of_state?_eq submitted
        (TaskGraph.state?_addNode_other added old).symm
    rcases intact.closed _ _ submitted edge with gone | settled
    · exact .inl (same.trans gone)
    · exact .inr (submitted_of_state?_eq settled same)
  case abandoned =>
    intro dependent required cancelled edge
    have old : dependent ≠ id :=
      TaskGraph.ne_addNode_of_settled added fun waits => by
      cases cancelled.symm.trans waits
    obtain ⟨edge, requiredOld⟩ := edgeBefore old edge
    rw [TaskGraph.state?_addNode_other added old] at cancelled
    rw [TaskGraph.state?_addNode_other added requiredOld]
    exact intact.abandoned _ _ cancelled edge
  case owned =>
    intro dispatch made
    obtain ⟨below, settled⟩ := intact.owned dispatch made
    rw [TaskGraph.state?_addNode_other added
      (TaskGraph.ne_addNode_of_lt added below),
      TaskGraph.length_slots_addNode added]
    exact ⟨Nat.lt_succ_of_lt below, settled⟩
  case numbered =>
    intro other handle executor state
    have old : other ≠ id :=
      TaskGraph.ne_addNode_of_settled added fun waits => by
      cases state.symm.trans waits
    rw [TaskGraph.state?_addNode_other added old] at state
    exact intact.numbered other handle executor state

theorem prune (intact : before.Intact) : before.prune.Intact := by
  let removed := before.graph.isRemovable before.signals
  have kept {dependent required : NodeId}
      (edge : before.prune.graph.Requires dependent required) :
      before.graph.Requires dependent required :=
    ((TaskGraph.requires_without_iff before.graph removed).mp edge).2
  have sameState {id : NodeId} {state : State}
      (found : before.prune.graph.state? id = some state) :
      before.graph.state? id = some state :=
    TaskGraph.state?_without_of_some before.graph removed found
  constructor
  case wellFormed => exact intact.wellFormed.without removed
  case present =>
    intro dependent node active required member
    obtain ⟨found, notRetired⟩ := active
    obtain ⟨_, isNode⟩ :=
      TaskGraph.node?_without_of_some before.graph removed found
    obtain ⟨other, isThere⟩ :=
      intact.present dependent node ⟨isNode, notRetired⟩ required member
    have needed : removed required = false := by
      by_contra gone
      have gone := TaskGraph.isRemovable_iff.mp (by simpa using gone)
      exact gone.2 dependent node ⟨isNode, notRetired⟩ member
    exact ⟨other,
      (TaskGraph.node?_without_of_kept before.graph removed needed).trans
        isThere⟩
  case closed =>
    intro dependent required submitted edge
    have submitted : before.graph.Submitted dependent :=
      submitted.imp sameState
        fun ⟨handle, executor, state⟩ => ⟨handle, executor, sameState state⟩
    by_cases gone : removed required = true
    · exact .inl (TaskGraph.state?_without_of_removed before.graph removed gone)
    · have same := TaskGraph.state?_without_of_kept before.graph removed
        (Bool.eq_false_iff.mpr gone)
      rcases intact.closed _ _ submitted (kept edge) with absent | submitted
      · exact .inl (same.trans absent)
      · exact .inr (submitted_of_state?_eq submitted same)
  case abandoned =>
    intro dependent required cancelled edge waits
    exact intact.abandoned _ _ (sameState cancelled) (kept edge)
      (sameState waits)
  case owned =>
    intro dispatch made
    obtain ⟨below, settled⟩ := intact.owned dispatch made
    exact ⟨Nat.lt_of_lt_of_eq below
      (TaskGraph.length_slots_without before.graph removed).symm,
      fun waits => settled (sameState waits)⟩
  case numbered =>
    intro id handle executor state
    exact intact.numbered id handle executor (sameState state)

theorem create (alignment : Nat) (registry : Registry) (observed : Bool) :
    (create alignment registry observed).Intact where
  wellFormed := TaskGraph.wellFormed_empty
  present _ _ active := by cases active.1
  closed _ _ submitted := by
    rcases submitted with state | ⟨_, _, state⟩ <;> cases state
  abandoned _ _ cancelled := by cases cancelled
  owned _ made := absurd made List.not_mem_nil
  numbered _ _ _ state := by cases state

theorem step (intact : before.Intact) (step : Step before after) :
    after.Intact := by
  cases step with
  | addRegion name range elementSize =>
      exact intact.calm (intact.wellFormed.addRegion name range elementSize)
        (.of_node? (fun _ => rfl) (Nat.le_refl _) ⟨rfl, rfl, .refl _⟩)
  | changeRegion id change grows =>
      exact intact.calm (intact.wellFormed.later (fun _ => rfl)
        (TaskGraph.regionsGrow_updateRegion _ id grows))
        (.of_node? (fun _ => rfl) (Nat.le_refl _) ⟨rfl, rfl, .refl _⟩)
  | addNode operation requirements hint id graph added =>
      exact intact.addNode added
  | addCopy copy requirements hint id graph added =>
      exact intact.addNode (TaskGraph.addNode_of_addCopy added)
  | submit id => exact intact.submits (submits_submit intact.wellFormed)
  | abort id =>
      exact intact.calm
        (intact.wellFormed.later (TaskGraph.sameNodes_abort _ id)
          (TaskGraph.regionsGrow_of_eq (TaskGraph.regions_abort _ id)))
        (.of_abort rfl rfl ⟨rfl, rfl, .refl _⟩)
  | complete fired =>
      exact intact.calm intact.wellFormed
        ⟨fun _ => rfl, fun _ => .inl rfl, Nat.le_refl _, rfl,
          Signals.extends_fireAll _ fired, Signals.next_fireAll _ fired⟩

theorem resolve (intact : before.Intact) (id : NodeId) :
    (Action.outcome (resolve id) before).Intact := by
  by_cases states : StatesRequirement before.graph id
  · have leads : Leads (Move id (id + 1)) (Submission.resolve id) before _ :=
      resolves_resolve id before intact.wellFormed states (.inl rfl)
    exact intact.moves (Action.leads_outcome leads)
  · rw [outcome_resolve_of_not states]
    exact intact

theorem prepare (intact : before.Intact) (id : NodeId) (device : Device) :
    (Action.outcome (prepare id device) before).Intact := by
  have leads : Leads (Move id id) (Submission.prepare id device) before _ :=
    leads_prepare device intact.wellFormed (.inl rfl)
  exact intact.moves (Action.leads_outcome leads)

end Intact

/-- One thing that is done with a graph: a step of a scheduler, a requirement is
resolved or a node prepared on its own, regions are put back, or what is
finished is forgotten. -/
inductive Use (before : Scheduler) : Scheduler → Prop where
  | step {after : Scheduler} (step : Step before after) : Use before after
  | resolve (id : NodeId) : Use before (Action.outcome (resolve id) before)
  | prepare (id : NodeId) (device : Device) :
      Use before (Action.outcome (prepare id device) before)
  | restore (saved : List Snapshot) :
      Use before { before with graph := before.graph.restore saved }
  | prune : Use before before.prune
  | purge :
      Use before
        { before with submitted := before.submitted.purge before.signals }

/-- The state is met when a graph is used, starting without nodes and
regions. -/
inductive InUse : Scheduler → Prop where
  | create (alignment : Nat) (registry : Registry) (observed : Bool) :
      InUse (create alignment registry observed)
  | use {before after : Scheduler} (met : InUse before)
      (use : Use before after) : InUse after

theorem Intact.use {before after : Scheduler} (intact : before.Intact)
    (use : Use before after) : after.Intact := by
  cases use with
  | step step => exact intact.step step
  | resolve id => exact intact.resolve id
  | prepare id device => exact intact.prepare id device
  | restore saved =>
      exact intact.calm (intact.wellFormed.later (fun _ => rfl)
        (TaskGraph.regionsGrow_restore before.graph saved))
        (.of_node? (fun _ => rfl) (Nat.le_refl _) ⟨rfl, rfl, .refl _⟩)
  | prune => exact intact.prune
  | purge =>
      exact intact.calm intact.wellFormed
        (.of_node? (fun _ => rfl) (Nat.le_refl _) ⟨rfl, rfl, .refl _⟩)

/-- In every state that is met, the states of the nodes fit together. -/
theorem InUse.intact {scheduler : Scheduler} (met : scheduler.InUse) :
    scheduler.Intact := by
  induction met with
  | create alignment registry observed =>
      exact .create alignment registry observed
  | use _ use induction => exact induction.use use

/-- Every state of a run is met when a graph is used. -/
theorem Reachable.inUse {scheduler : Scheduler}
    (reached : scheduler.Reachable) : scheduler.InUse := by
  induction reached with
  | create alignment registry observed =>
      exact .create alignment registry observed
  | step _ step induction => exact .use induction (.step step)

end Scheduler

end CoherentTasks
