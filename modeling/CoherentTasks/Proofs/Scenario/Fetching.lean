import CoherentTasks.Proofs.Scenario.Underway
import CoherentTasks.Proofs.Submission.Transfer

/-!
# Copies made during a submission

Before a kernel or copy is launched, copies are handed over that fetch what its
requirements lack. They read what was valid when the submission began and write
what was not, and no element is fetched for two requirements.
-/

namespace CoherentTasks.Scenario

open CoherentTasks.Coherence (Region)
open CoherentTasks.Geometry (Triple)
open CoherentTasks.Graph (Copy Node Requirement TaskGraph)
open CoherentTasks.Submission

/-- The copy was made for a requirement of `root`, in a submission that began in
the given state. -/
structure Fetch (root : NodeId) (before : Scheduler) (dispatch : Dispatch)
    (requirement : Requirement) (device : Device) (copy : Copy) : Prop where
  required : before.graph.Requires root dispatch.node
  asks : Asks before.graph dispatch.node requirement (some device)
  keeps : requirement.mode.discards = false
  operation : dispatch.operation = .copy copy
  source : copy.source.region = requirement.region
  destination : copy.destination.region = requirement.region
  onto : copy.destination.device = device
  wanted : ∀ position ∈ copy.destinationBox, position ∈ requirement.window
  taken : ∀ position ∈ copy.sourceBox,
    before.graph.Holds requirement.region copy.source.device position
  missing : ∀ position ∈ copy.destinationBox,
    ¬ before.graph.Holds requirement.region copy.destination.device position

/-- Two copies made for different requirements write different elements. -/
def Apart (first second : Dispatch) : Prop :=
  first.node = second.node ∨
  ∀ left right, first.operation = .copy left → second.operation = .copy right →
    left.destination.region = right.destination.region →
    left.destination.device = right.destination.device →
    ∀ position ∈ left.destinationBox, position ∉ right.destinationBox

/-- The copies made since the submission began. -/
structure Fetched (root : NodeId) (before now : Scheduler)
    (made : List Dispatch) : Prop where
  dispatches : now.dispatches = before.dispatches ++ made
  each : ∀ dispatch ∈ made,
    now.graph.Submitted dispatch.node ∧ ∃ requirement device copy,
      Fetch root before dispatch requirement device copy
  apart : made.Pairwise Apart

section Fetched

variable {root id : NodeId} {asked : Device} {node : Node}
  {requirement : Requirement} {device : Device} {region : Region}
  {copies : List Copy} {made more : List Dispatch} {before now next : Scheduler}

/-- What another device holds was valid there when the submission began. -/
theorem Underway.holds_before (underway : Underway root before now)
    (awaited : Awaited root asked before)
    (settles :
      Settles root id node requirement device region copies more now next)
    (keeps : requirement.mode.discards = false) {place : RegionId}
    {holder : Device} {position : Triple} (different : holder ≠ device)
    (holds : now.graph.Holds place holder position) :
    before.graph.Holds place holder position := by
  rcases underway.gained place holder position holds with
    earlier | ⟨other, otherRequirement, otherDevice, settled, _, same, _⟩
  · exact earlier
  · rcases underway.same_device awaited settles settled
      with equal | ⟨_, discards⟩
    · exact absurd (same.trans equal) different
    · rw [keeps] at discards
      cases discards

theorem Fetched.isCopy (fetched : Fetched root before now made) :
    ∀ dispatch ∈ made, ∃ copy, dispatch.operation = .copy copy := by
  intro dispatch member
  obtain ⟨_, _, _, copy, fetch⟩ := fetched.each dispatch member
  exact ⟨copy, fetch.operation⟩

theorem Fetched.still (fetched : Fetched root before now made)
    (still : Still now next) : Fetched root before next made where
  dispatches := still.quiet.dispatches.trans fetched.dispatches
  each dispatch member := by
    obtain ⟨submitted, fetch⟩ := fetched.each dispatch member
    exact ⟨submitted_of_state?_eq submitted (still.states dispatch.node), fetch⟩
  apart := fetched.apart

/-- The copies that are made for the next requirement. -/
theorem Underway.fetch (underway : Underway root before now)
    (awaited : Awaited root asked before) (wellFormed : now.graph.WellFormed)
    (settles :
      Settles root id node requirement device region copies more now next)
    {dispatch : Dispatch} (member : dispatch ∈ more) :
    dispatch.node = id ∧
    ∃ copy, Fetch root before dispatch requirement device copy ∧
      ∀ position ∈ copy.destinationBox,
        ¬ now.graph.Holds requirement.region device position := by
  obtain ⟨isNode, _, _⟩ := settles.handed.each dispatch member
  obtain ⟨required, asks⟩ := underway.asks awaited settles
  have isOperation : dispatch.operation ∈ copies.map .copy := by
    rw [← settles.handed.operations]
    exact List.mem_map_of_mem member
  obtain ⟨copy, isCopy, operation⟩ := List.mem_map.mp isOperation
  have keeps : requirement.mode.discards = false := by
    cases discards : requirement.mode.discards with
    | false => rfl
    | true =>
        have planned := settles.planned
        rw [discards, if_pos rfl] at planned
        rw [planned] at isCopy
        exact absurd isCopy List.not_mem_nil
  have numbered := wellFormed.numbered settles.tracked
  obtain ⟨source, part, rfl, different, _, inside⟩ :=
    settles.fetches copy isCopy
  have outdated :
      ∀ position ∈ part,
        ¬ now.graph.Holds requirement.region device position := by
    intro position isPart holds
    exact (inside position isPart).2.2
      ((TaskGraph.holds_iff settles.tracked).mp holds)
  refine ⟨isNode, _, {
    required := isNode ▸ required
    asks := isNode ▸ asks
    keeps
    operation := operation.symm
    source := numbered
    destination := numbered
    onto := rfl
    wanted := fun position isPart => (inside position isPart).2.1
    taken := fun position isPart => ?_
    missing := fun position isPart holds => ?_ }, outdated⟩
  · exact underway.holds_before awaited settles keeps different
      ((TaskGraph.holds_iff settles.tracked).mpr (inside position isPart).1)
  · exact outdated position isPart (underway.steady _ _ _
      (fun _ _ _ settled => underway.not_outdates awaited settles settled _ _)
      (.inl holds))

theorem Fetched.settle (fetched : Fetched root before now made)
    (underway : Underway root before now) (awaited : Awaited root asked before)
    (wellFormed : now.graph.WellFormed)
    (settles :
      Settles root id node requirement device region copies more now next) :
    Fetched root before next (made ++ more) where
  dispatches := by
    rw [settles.handed.dispatches, fetched.dispatches, List.append_assoc]
  each dispatch member := by
    rcases List.mem_append.mp member with earlier | isNew
    · obtain ⟨submitted, fetch⟩ := fetched.each dispatch earlier
      exact ⟨settles.takesUp.submitted_iff.mpr (.inr submitted), fetch⟩
    · obtain ⟨isNode, copy, fetch, _⟩ :=
        underway.fetch awaited wellFormed settles isNew
      exact ⟨settles.takesUp.submitted_iff.mpr (.inl isNode), requirement,
        device, copy, fetch⟩
  apart := by
    refine List.pairwise_append.mpr ⟨fetched.apart, ?_, ?_⟩
    · refine List.pairwise_of_forall_mem_list
        fun first isFirst second isSecond => .inl ?_
      rw [(settles.handed.each first isFirst).1,
        (settles.handed.each second isSecond).1]
    · -- What was fetched before is still there, and is not fetched again.
      intro first isFirst second isSecond
      apply Or.inr
      intro left right isLeft isRight sameRegion sameDevice position
        inLeft inRight
      obtain ⟨submitted, otherRequirement, otherDevice, copy, fetch⟩ :=
        fetched.each first isFirst
      obtain ⟨_, other, fetchOther, outdated⟩ :=
        underway.fetch awaited wellFormed settles isSecond
      obtain rfl : copy = left := by
        have same := fetch.operation.symm.trans isLeft
        cases same
        rfl
      obtain rfl : other = right := by
        have same := fetchOther.operation.symm.trans isRight
        cases same
        rfl
      refine outdated position inRight (underway.steady _ _ _
        (fun _ _ _ settled => underway.not_outdates awaited settles settled _ _)
        (.inr ?_))
      refine ⟨first.node, otherRequirement, otherDevice,
        ⟨fetch.required, fetch.asks, submitted⟩, ?_, ?_,
        fetch.wanted position inLeft⟩
      · rw [← fetch.destination, sameRegion, fetchOther.destination]
      · rw [← fetchOther.onto, ← sameDevice, fetch.onto]

/-- While the submission goes on, nothing is handed over but such copies. -/
theorem Awaited.fetched_of_moves {bound : NodeId}
    (awaited : Awaited root asked before)
    (moves : Moves root bound before now) :
    ∃ made, Fetched root before now made := by
  induction moves with
  | refl =>
      exact ⟨[], (List.append_nil _).symm,
        fun _ absent => absurd absent List.not_mem_nil, .nil⟩
  | tail moves move induction =>
      obtain ⟨made, fetched⟩ := induction
      rcases move.still_or_settles with
        ⟨still, _⟩ |
          ⟨id, node, requirement, device, region, copies, more, settles⟩
      · exact ⟨made, fetched.still still⟩
      · exact ⟨made ++ more, fetched.settle (awaited.underway_of_moves moves)
          awaited (Moves.wellFormed moves awaited.wellFormed) settles⟩

end Fetched

end CoherentTasks.Scenario
