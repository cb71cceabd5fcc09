import CoherentTasks.Proofs.Scenario.Contents
import CoherentTasks.Proofs.Scenario.Progress

/-!
# Supply of current values

While a kernel or copy is being submitted, the copies that are made for it only
ever bring the latest values. So nothing that was up to date is spoilt, and once
everything is prepared, what the kernel or copy reads is up to date.
-/

namespace CoherentTasks.Scenario

open CoherentTasks.Coherence (Region)
open CoherentTasks.Geometry (Triple)
open CoherentTasks.Graph (Copy Node Requirement TaskGraph)
open CoherentTasks.Submission

/-- What is valid on a device is up to date there. -/
def Coherent {graph : TaskGraph} {Value : Type}
    (execution : Execution graph Value) (scheduler : Scheduler) : Prop :=
  ∀ place device position, scheduler.graph.Holds place device position →
    execution.UpToDate scheduler.dispatches place device position

/-- An access listed earlier for the same node drops the contents of the
element. -/
def Dropped (graph : TaskGraph) (root id : NodeId) (place : RegionId)
    (position : Triple) : Prop :=
  ∃ other requirement hint, ListedBefore graph root other id ∧
    Asks graph other requirement hint ∧ requirement.mode.discards = true ∧
    requirement.region = place ∧ position ∈ requirement.window

/-- An access settled since the submission began drops the contents of the
element on the device. -/
def Promised (root : NodeId) (before now : Scheduler) (place : RegionId)
    (device : Device) (position : Triple) : Prop :=
  ∃ id requirement, Settled root id requirement device before now ∧
    requirement.mode.discards = true ∧ place = requirement.region ∧
    position ∈ requirement.window

/-- What the copies made since the submission began have brought about. -/
structure Supplied {graph : TaskGraph} {Value : Type}
    (execution : Execution graph Value) (root : NodeId)
    (before now : Scheduler) : Prop where
  latest : execution.latest now.dispatches = execution.latest before.dispatches
  kept : ∀ place device position,
    execution.UpToDate before.dispatches place device position →
    execution.UpToDate now.dispatches place device position
  held : ∀ place device position, now.graph.Holds place device position →
    execution.UpToDate now.dispatches place device position ∨
      Promised root before now place device position
  found : ∀ id requirement device,
    Settled root id requirement device before now →
    requirement.mode.discards = false → ∀ position ∈ requirement.window,
      execution.UpToDate now.dispatches requirement.region device position ∨
      Dropped before.graph root id requirement.region position

section Supplied

variable {graph : TaskGraph} {Value : Type} {execution : Execution graph Value}
  {root id : NodeId} {asked : Device} {before now next : Scheduler}

theorem Awaited.supplied (awaited : Awaited root asked before)
    (coherent : Coherent execution before) :
    Supplied execution root before before where
  latest := rfl
  kept _ _ _ upToDate := upToDate
  held place device position holds :=
    .inl (coherent place device position holds)
  found id _ _ settled := absurd settled.submitted
    (awaited.untouched id settled.asks.statesRequirement settled.required)

theorem Supplied.still (supplied : Supplied execution root before now)
    (still : Still now next)
    (same : ∀ place holder position, next.graph.Holds place holder position ↔
      now.graph.Holds place holder position) :
    Supplied execution root before next := by
  have settled_iff {id : NodeId} {requirement : Requirement} {device : Device} :
      Settled root id requirement device before next ↔
        Settled root id requirement device before now := by
    constructor
    · exact fun settled =>
        settled.of_submitted
          (submitted_of_state?_eq settled.submitted (still.states id).symm)
    · exact fun settled =>
        settled.of_submitted
          (submitted_of_state?_eq settled.submitted (still.states id))
  obtain ⟨latest, kept, held, found⟩ := supplied
  rw [← still.quiet.dispatches] at latest kept held found
  refine ⟨latest, kept, fun place device position holds => ?_,
    fun id requirement device settled =>
      found id requirement device (settled_iff.mp settled)⟩
  rcases held place device position ((same _ _ _).mp holds) with
    upToDate | ⟨id, requirement, settled, promise⟩
  · exact .inl upToDate
  · exact .inr ⟨id, requirement, settled_iff.mpr settled, promise⟩

section Settle

variable {node : Node} {requirement : Requirement} {device : Device}
  {region : Region} {copies : List Copy} {made : List Dispatch}

/-- Other devices than the one for which the next requirement is settled are up
to date wherever they hold something: a promise to overwrite binds only that
device. -/
theorem Supplied.upToDate_elsewhere
    (supplied : Supplied execution root before now)
    (underway : Underway root before now) (awaited : Awaited root asked before)
    (settles :
      Settles root id node requirement device region copies made now next)
    {place : RegionId} {source : Device} {position : Triple}
    (different : source ≠ device)
    (holds : now.graph.Holds place source position) :
    execution.UpToDate now.dispatches place source position := by
  rcases supplied.held place source position holds with
    upToDate | ⟨other, otherRequirement, settled, discards, _⟩
  · exact upToDate
  · rcases underway.same_device awaited settles settled with same | ⟨reads, _⟩
    · exact absurd same different
    · rw [writes_of_discards discards] at reads
      cases reads

/-- The copies keep up to date what was, and bring what is outdated in the
window. -/
theorem Supplied.executed (supplied : Supplied execution root before now)
    (underway : Underway root before now) (awaited : Awaited root asked before)
    (wellFormed : now.graph.WellFormed)
    (settles :
      Settles root id node requirement device region copies made now next) :
    execution.latest next.dispatches = execution.latest now.dispatches ∧
    (∀ place holder position,
      execution.UpToDate now.dispatches place holder position →
      execution.UpToDate next.dispatches place holder position) ∧
    ∀ copy ∈ copies, ∀ position ∈ copy.destinationBox, execution.UpToDate
      next.dispatches requirement.region device position := by
  have numbered := wellFormed.numbered settles.tracked
  have latest :
      execution.latest next.dispatches = execution.latest now.dispatches := by
    rw [settles.handed.dispatches, execution.latest_append,
      execution.share_copies settles.handed.operations]
  obtain ⟨kept, brought⟩ := execution.execute_fetched settles.handed.operations
    settles.fetches fun source position different valid =>
      supplied.upToDate_elsewhere underway awaited settles different
        ((TaskGraph.holds_iff (numbered ▸ settles.tracked)).mpr valid)
  rw [numbered, ← execution.contents_append, ← settles.handed.dispatches]
    at brought
  rw [← execution.contents_append, ← settles.handed.dispatches] at kept
  simp only [Execution.UpToDate]
  rw [latest]
  exact ⟨rfl, kept, brought⟩

theorem Supplied.settle (supplied : Supplied execution root before now)
    (underway : Underway root before now) (awaited : Awaited root asked before)
    (wellFormed : now.graph.WellFormed)
    (settles :
      Settles root id node requirement device region copies made now next) :
    Supplied execution root before next := by
  obtain ⟨latest, kept, brought⟩ :=
    supplied.executed underway awaited wellFormed settles
  have settled_iff : ∀ {other otherRequirement otherDevice},
      Settled root other otherRequirement otherDevice before next ↔
        (other = id ∧ otherRequirement = requirement ∧ otherDevice = device) ∨
          Settled root other otherRequirement otherDevice before now :=
    underway.settled_iff awaited settles
  have promised {place : RegionId} {holder : Device} {position : Triple}
      (earlier : Promised root before now place holder position) :
      Promised root before next place holder position := by
    obtain ⟨other, otherRequirement, settled, promise⟩ := earlier
    exact ⟨other, otherRequirement, settled_iff.mpr (.inr settled), promise⟩
  have held {place : RegionId} {holder : Device} {position : Triple}
      (holds : now.graph.Holds place holder position) :
      execution.UpToDate next.dispatches place holder position ∨
        Promised root before now place holder position :=
    (supplied.held place holder position holds).imp_left
      (kept place holder position)
  have window (keeps : requirement.mode.discards = false) {position : Triple}
      (member : position ∈ requirement.window) :
      execution.UpToDate next.dispatches requirement.region device position ∨
        Promised root before now requirement.region device position := by
    by_cases holds : now.graph.Holds requirement.region device position
    · exact held holds
    · obtain ⟨copy, isCopy, inDestination⟩ := settles.fetched keeps member holds
      exact .inl (brought copy isCopy position inDestination)
  refine ⟨latest.trans supplied.latest, fun place holder position upToDate =>
    kept _ _ _ (supplied.kept place holder position upToDate), ?held, ?found⟩
  case held =>
    intro place holder position holds
    rcases settles.holds_iff.mp holds with ⟨earlier, _⟩ | ⟨rfl, rfl, member⟩
    · exact (held earlier).imp_right promised
    · cases discards : requirement.mode.discards with
      | false => exact (window discards member).imp_right promised
      | true =>
          exact .inr ⟨id, requirement, settled_iff.mpr (.inl ⟨rfl, rfl, rfl⟩),
            discards, rfl, member⟩
  case found =>
    intro other otherRequirement otherDevice settled keeps position member
    rcases settled_iff.mp settled with ⟨rfl, rfl, rfl⟩ | earlier
    · rcases window keeps member
        with upToDate | ⟨sibling, promise, isSettled, discards, same, inside⟩
      · exact .inl upToDate
      · exact .inr
          ⟨sibling, promise, _, underway.listedBefore awaited settles isSettled,
            isSettled.asks, discards, same.symm, inside⟩
    · exact (supplied.found other otherRequirement otherDevice earlier keeps
        position member).imp_left (kept _ _ _)

end Settle

theorem Awaited.supplied_of_moves {bound : NodeId}
    (awaited : Awaited root asked before) (coherent : Coherent execution before)
    (moves : Moves root bound before now) :
    Supplied execution root before now := by
  induction moves with
  | refl => exact awaited.supplied coherent
  | tail moves move induction =>
      have underway := awaited.underway_of_moves moves
      rcases move.still_or_settles with
        ⟨still, same⟩ |
          ⟨id, node, requirement, device, region, copies, made, settles⟩
      · exact induction.still still same
      · exact induction.settle underway awaited
          (Moves.wellFormed moves awaited.wellFormed) settles

end Supplied

end CoherentTasks.Scenario
