import CoherentTasks.Proofs.Scenario.Staged
import CoherentTasks.Proofs.Submission.Holding
import CoherentTasks.Proofs.Submission.Placement

/-!
# Submissions under way

What holds while a kernel or copy of a staged graph is being submitted: only its
own requirements are settled, in the order in which they are listed, each on the
device that it asks for. From this follows what the regions hold in between,
compared with the state in which the submission began.
-/

namespace CoherentTasks.Scenario

open CoherentTasks.Coherence (Region)
open CoherentTasks.Geometry (Triple)
open CoherentTasks.Graph (Copy Node Requirement TaskGraph)
open CoherentTasks.Submission

/-- A kernel or copy of a staged graph that asks for a device waits for its
submission, and nothing was done for it so far. -/
structure Awaited (root : NodeId) (device : Device) (scheduler : Scheduler) :
    Prop where
  wellFormed : scheduler.graph.WellFormed
  staged : Staged scheduler.graph
  bound : BoundAsAsked scheduler.graph
  explicit : Explicit scheduler.graph root
  eligible : Eligible scheduler.graph root device
  untouched : ∀ id, StatesRequirement scheduler.graph id →
    scheduler.graph.Requires root id → ¬ scheduler.graph.Submitted id

/-- The requirement is one of `root`, for the device, and was settled since the
submission began. -/
structure Settled (root id : NodeId) (requirement : Requirement)
    (device : Device) (before now : Scheduler) : Prop where
  required : before.graph.Requires root id
  asks : Asks before.graph id requirement (some device)
  submitted : now.graph.Submitted id

/-- What holds while `root` is being submitted. -/
structure Underway (root : NodeId) (before now : Scheduler) : Prop where
  sameNodes : before.graph.SameNodes now.graph
  bound : BoundAsAsked now.graph
  own : ∀ id, StatesRequirement before.graph id → now.graph.Submitted id →
    before.graph.Submitted id ∨ before.graph.Requires root id
  turn : ∀ id, StatesRequirement before.graph id →
    before.graph.Requires root id → now.graph.Submitted id →
    ∀ other, ListedBefore before.graph root other id → now.graph.Submitted other
  /-- What became valid is in the window of a requirement that was settled. -/
  gained : ∀ place holder position, now.graph.Holds place holder position →
    before.graph.Holds place holder position ∨ ∃ id requirement device,
      Settled root id requirement device before now ∧
        Validates requirement device place holder position
  /-- What was written is valid nowhere else. -/
  alone : ∀ id requirement device,
    Settled root id requirement device before now →
    ∀ place holder position, now.graph.Holds place holder position →
      ¬ Outdates requirement device place holder position
  /-- What was valid, or became so, still is unless it was outdated by a write
  for another device. -/
  steady : ∀ place holder position,
    (∀ id requirement device, Settled root id requirement device before now →
      ¬ Outdates requirement device place holder position) →
    (before.graph.Holds place holder position ∨ ∃ id requirement device,
      Settled root id requirement device before now ∧
        Validates requirement device place holder position) →
      now.graph.Holds place holder position

/-- Every requirement of a node that asks for a device asks for one itself. -/
theorem Staged.exists_hint {graph : TaskGraph} (staged : Staged graph)
    {root id : NodeId} {device : Device} (explicit : Explicit graph root)
    (eligible : Eligible graph root device) (required : graph.Requires root id)
    {requirement : Requirement} {hint : Option Device}
    (asks : Asks graph id requirement hint) : ∃ own, hint = some own := by
  obtain ⟨node, found, isExplicit⟩ := explicit
  obtain ⟨same, isNode, hinted, _⟩ := eligible
  rw [found] at isNode
  cases isNode
  obtain ⟨again, isAgain, member⟩ := TaskGraph.requires_iff.mp required
  rw [found] at isAgain
  cases isAgain
  cases operation : node.operation with
  | requirement _ =>
      rw [operation] at isExplicit
      cases isExplicit
  | kernel kernel =>
      exact ⟨device, (staged.kernels root node kernel found operation id member
        requirement hint asks).trans hinted⟩
  | copy copy =>
      obtain ⟨window, reading, writing, accesses⟩ :=
        staged.copies root node copy found operation
      obtain ⟨earlier, shape, allExplicit⟩ := accesses.listed
      rw [shape] at member
      rcases List.mem_append.mp member with isEarlier | isOwn
      · exact absurd asks.statesRequirement
          (allExplicit id isEarlier).not_statesRequirement
      · rcases List.mem_pair.mp isOwn with rfl | rfl
        · exact ⟨_, (asks.unique accesses.reads).2⟩
        · exact ⟨_, (asks.unique accesses.writes).2⟩

section Settling

variable {root id : NodeId} {asked : Device} {node : Node}
  {requirement : Requirement} {device : Device} {region : Region}
  {copies : List Copy} {made : List Dispatch} {before now next : Scheduler}

/-- A requirement in its turn is one of `root`, and it is bound to the device
that it asks for. -/
theorem Underway.asks_of_bound (underway : Underway root before now)
    (awaited : Awaited root asked before)
    (found : now.graph.node? id = some node)
    (states : node.operation = .requirement requirement)
    (held : node.device = some device) (inTurn : InTurn now.graph root id) :
    before.graph.Requires root id ∧
    Asks before.graph id requirement (some device) := by
  have same := underway.sameNodes
  have staged := awaited.staged.of_sameNodes same
  have asks : Asks now.graph id requirement node.hint :=
    ⟨node, found, states, rfl⟩
  obtain ⟨required, _⟩ :=
    staged.own_requirement (awaited.explicit.of_sameNodes same)
      asks.statesRequirement inTurn
  have requiredBefore : before.graph.Requires root id :=
    same.requires ▸ required
  have asksBefore := asks.of_sameNodes same.symm
  obtain ⟨hint, hinted⟩ :=
    awaited.staged.exists_hint awaited.explicit awaited.eligible
      requiredBefore asksBefore
  have sameDevice := underway.bound id node hint device found hinted held
  rw [hinted, ← sameDevice] at asksBefore
  exact ⟨requiredBefore, asksBefore⟩

/-- It is one of `root`, and is settled on the device that it asks for. -/
theorem Underway.asks (underway : Underway root before now)
    (awaited : Awaited root asked before)
    (settles :
      Settles root id node requirement device region copies made now next) :
    before.graph.Requires root id ∧
    Asks before.graph id requirement (some device) :=
  underway.asks_of_bound awaited settles.found settles.states settles.bound
    settles.inTurn

/-- Everything that is listed before it was submitted. -/
theorem Underway.submitted_of_listedBefore (underway : Underway root before now)
    (awaited : Awaited root asked before)
    (settles :
      Settles root id node requirement device region copies made now next) :
    ∀ other,
      ListedBefore before.graph root other id → now.graph.Submitted other := by
  have same := underway.sameNodes
  obtain ⟨_, submitted⟩ :=
    (awaited.staged.of_sameNodes same).own_requirement
      (awaited.explicit.of_sameNodes same)
      ⟨node, requirement, settles.found, settles.states⟩ settles.inTurn
  exact fun other listed => submitted other (listed.of_sameNodes same)

/-- What was settled before it is listed before it. -/
theorem Underway.listedBefore (underway : Underway root before now)
    (awaited : Awaited root asked before)
    (settles :
      Settles root id node requirement device region copies made now next)
    {other : NodeId} {otherRequirement : Requirement} {otherDevice : Device}
    (settled : Settled root other otherRequirement otherDevice before now) :
    ListedBefore before.graph root other id := by
  obtain ⟨required, _⟩ := underway.asks awaited settles
  have waits : ¬ now.graph.Submitted id := by
    intro submitted
    exact submitted.not_unsubmitted
      (TaskGraph.state?_of_node? settles.found settles.waits)
  rcases listedBefore_trichotomy settled.required required
    with rfl | listed | reversed
  · exact absurd settled.submitted waits
  · exact listed
  · exact absurd (underway.turn other settled.asks.statesRequirement
      settled.required settled.submitted id reversed) waits

/-- What was settled before it is for the same device, unless a copy reads and
then overwrites. -/
theorem Underway.same_device (underway : Underway root before now)
    (awaited : Awaited root asked before)
    (settles :
      Settles root id node requirement device region copies made now next)
    {other : NodeId} {otherRequirement : Requirement} {otherDevice : Device}
    (settled : Settled root other otherRequirement otherDevice before now) :
    otherDevice = device ∨ (otherRequirement.mode.writes = false ∧
      requirement.mode.discards = true) := by
  obtain ⟨_, asks⟩ := underway.asks awaited settles
  have listed := underway.listedBefore awaited settles settled
  have siblings :=
    awaited.staged.siblings_of_listedBefore awaited.explicit listed
  rcases (siblings _ _ _ _ settled.asks asks).2 with same | ⟨reads, overwrites⟩
  · exact .inl (Option.some.inj same)
  · rw [reads, overwrites]
    exact .inr ⟨rfl, rfl⟩

/-- What was settled before it has outdated nothing on its device. -/
theorem Underway.not_outdates (underway : Underway root before now)
    (awaited : Awaited root asked before)
    (settles :
      Settles root id node requirement device region copies made now next)
    {other : NodeId} {otherRequirement : Requirement} {otherDevice : Device}
    (settled : Settled root other otherRequirement otherDevice before now)
    (place : RegionId) (position : Triple) :
    ¬ Outdates otherRequirement otherDevice place device position := by
  intro outdates
  obtain ⟨writes, _, elsewhere, _⟩ := outdates
  rcases underway.same_device awaited settles settled with same | ⟨reads, _⟩
  · exact elsewhere same.symm
  · rw [writes] at reads
    cases reads

theorem Settled.of_submitted
    (settled : Settled root id requirement device before now)
    (submitted : next.graph.Submitted id) :
    Settled root id requirement device before next :=
  ⟨settled.required, settled.asks, submitted⟩

/-- What is settled afterwards is this requirement, or was settled before. -/
theorem Underway.settled_iff (underway : Underway root before now)
    (awaited : Awaited root asked before)
    (settles :
      Settles root id node requirement device region copies made now next)
    {other : NodeId} {otherRequirement : Requirement} {otherDevice : Device} :
    Settled root other otherRequirement otherDevice before next ↔
      (other = id ∧ otherRequirement = requirement ∧ otherDevice = device) ∨
      Settled root other otherRequirement otherDevice before now := by
  obtain ⟨required, asks⟩ := underway.asks awaited settles
  constructor
  · intro settled
    rcases settles.takesUp.submitted_iff.mp settled.submitted with rfl | earlier
    · obtain ⟨same, sameDevice⟩ := settled.asks.unique asks
      exact .inl ⟨rfl, same, Option.some.inj sameDevice⟩
    · exact .inr (settled.of_submitted earlier)
  · intro origin
    rcases origin with ⟨rfl, rfl, rfl⟩ | settled
    · exact ⟨required, asks, settles.takesUp.submitted_iff.mpr (.inl rfl)⟩
    · exact settled.of_submitted
        (settles.takesUp.submitted_iff.mpr (.inr settled.submitted))

end Settling

section Moves

variable {root bound id : NodeId} {asked : Device} {before now next : Scheduler}

theorem Awaited.underway (awaited : Awaited root asked before) :
    Underway root before before where
  sameNodes := .refl _
  bound := awaited.bound
  own _ _ submitted := .inl submitted
  turn id states required submitted :=
    absurd submitted (awaited.untouched id states required)
  gained _ _ _ held := .inl held
  alone id _ _ settled := absurd settled.submitted
    (awaited.untouched id settled.asks.statesRequirement settled.required)
  steady place holder position _ valid := by
    rcases valid with held | ⟨id, requirement, device, settled, _⟩
    · exact held
    · exact absurd settled.submitted
        (awaited.untouched id settled.asks.statesRequirement settled.required)

theorem Underway.still (underway : Underway root before now)
    (still : Still now next) (bound : BoundAsAsked next.graph)
    (same : ∀ place holder position, next.graph.Holds place holder position ↔
      now.graph.Holds place holder position) : Underway root before next := by
  have submitted {id : NodeId} (later : next.graph.Submitted id) :
      now.graph.Submitted id :=
    submitted_of_state?_eq later (still.states id).symm
  have stays {id : NodeId} (earlier : now.graph.Submitted id) :
      next.graph.Submitted id :=
    submitted_of_state?_eq earlier (still.states id)
  refine ⟨underway.sameNodes.trans still.sameNodes, bound, ?own, ?turn, ?gained,
    ?alone, ?steady⟩
  case own => exact fun id states later =>
    underway.own id states (submitted later)
  case turn =>
    intro id states required later other listed
    exact stays
      (underway.turn id states required (submitted later) other listed)
  case gained =>
    intro place holder position held
    rcases underway.gained place holder position ((same _ _ _).mp held) with
      earlier | ⟨id, requirement, device, settled, valid⟩
    · exact .inl earlier
    · exact .inr ⟨id, requirement, device,
        settled.of_submitted (stays settled.submitted), valid⟩
  case alone =>
    intro id requirement device settled place holder position held
    exact underway.alone id requirement device
      (settled.of_submitted (submitted settled.submitted)) place holder position
      ((same _ _ _).mp held)
  case steady =>
    intro place holder position spared valid
    refine (same _ _ _).mpr (underway.steady place holder position
      (fun id requirement device settled => spared id requirement device
        (settled.of_submitted (stays settled.submitted))) ?_)
    rcases valid with held | ⟨id, requirement, device, settled, valid⟩
    · exact .inl held
    · exact .inr ⟨id, requirement, device,
        settled.of_submitted (submitted settled.submitted), valid⟩

theorem Underway.settle {node : Node} {requirement : Requirement}
    {device : Device} {region : Region} {copies : List Copy}
    {made : List Dispatch} (underway : Underway root before now)
    (awaited : Awaited root asked before)
    (settles :
      Settles root id node requirement device region copies made now next)
    (bound : BoundAsAsked next.graph) : Underway root before next := by
  have settled_iff : ∀ {other otherRequirement otherDevice},
      Settled root other otherRequirement otherDevice before next ↔
        (other = id ∧ otherRequirement = requirement ∧ otherDevice = device) ∨
          Settled root other otherRequirement otherDevice before now :=
    underway.settled_iff awaited settles
  obtain ⟨required, asks⟩ := underway.asks awaited settles
  have itself : Settled root id requirement device before next :=
    settled_iff.mpr (.inl ⟨rfl, rfl, rfl⟩)
  refine ⟨underway.sameNodes.trans settles.takesUp.sameNodes, bound, ?own,
    ?turn, ?gained, ?alone, ?steady⟩
  case own =>
    intro other states submitted
    rcases settles.takesUp.submitted_iff.mp submitted with rfl | earlier
    · exact .inr required
    · exact underway.own other states earlier
  case turn =>
    intro other states isRequired submitted first listed
    refine settles.takesUp.submitted_iff.mpr (.inr ?_)
    rcases settles.takesUp.submitted_iff.mp submitted with rfl | earlier
    · exact underway.submitted_of_listedBefore awaited settles first listed
    · exact underway.turn other states isRequired earlier first listed
  case gained =>
    intro place holder position held
    rcases settles.holds_iff.mp held with ⟨earlier, _⟩ | valid
    · rcases underway.gained place holder position earlier with
        start | ⟨other, otherRequirement, otherDevice, settled, valid⟩
      · exact .inl start
      · exact .inr ⟨other, otherRequirement, otherDevice,
          settled_iff.mpr (.inr settled), valid⟩
    · exact .inr ⟨id, requirement, device, itself, valid⟩
  case alone =>
    intro other otherRequirement otherDevice settled place holder position
      held outdates
    rcases settles.holds_iff.mp held with ⟨heldBefore, kept⟩ | ⟨_, here, _⟩
    · rcases settled_iff.mp settled with ⟨rfl, rfl, rfl⟩ | earlier
      · exact kept outdates
      · exact underway.alone other otherRequirement otherDevice earlier place
          holder position heldBefore outdates
    · rcases settled_iff.mp settled with ⟨rfl, rfl, rfl⟩ | earlier
      · exact outdates.2.2.1 here
      · subst here
        exact underway.not_outdates awaited settles earlier place
          position outdates
  case steady =>
    intro place holder position spared valid
    have stays := underway.steady place holder position
      fun other otherRequirement otherDevice settled =>
        spared other otherRequirement otherDevice
          (settled_iff.mpr (.inr settled))
    have kept := spared id requirement device itself
    apply settles.holds_iff.mpr
    rcases valid
      with held | ⟨other, otherRequirement, otherDevice, settled, valid⟩
    · exact .inl ⟨stays (.inl held), kept⟩
    · rcases settled_iff.mp settled with ⟨rfl, rfl, rfl⟩ | earlier
      · exact .inr valid
      · exact .inl
          ⟨stays (.inr ⟨other, otherRequirement, otherDevice, earlier, valid⟩),
            kept⟩

/-- It holds as long as the submission goes on. -/
theorem Awaited.underway_of_moves (awaited : Awaited root asked before)
    (moves : Moves root bound before now) : Underway root before now := by
  induction moves with
  | refl => exact awaited.underway
  | tail moves move induction =>
      have bound := induction.bound.move move
      rcases move.still_or_settles with
        ⟨still, same⟩ |
          ⟨id, node, requirement, device, region, copies, made, settles⟩
      · exact induction.still still bound same
      · exact induction.settle awaited settles bound

end Moves

end CoherentTasks.Scenario
