import CoherentTasks.Proofs.Scenario.Fetching
import CoherentTasks.Proofs.Scenario.Progress

/-!
# Conflicts between operations

Two operations that touch the same element on the same device must come one
after the other if one of them writes it there. Operations that touch a buffer
act for accesses to it, and conflicting accesses of different nodes are ordered
in the graph. What is left are copies made for accesses that only read.
-/

namespace CoherentTasks.Scenario

open CoherentTasks.Geometry (Triple)
open CoherentTasks.Graph (Copy Requirement TaskGraph)
open CoherentTasks.Submission

/-- The operation reads the element of the buffer on the device: a kernel does
so in the windows whose earlier contents it does not drop, a copy at its
source. -/
def Reads (graph : TaskGraph) (dispatch : Dispatch) (place : RegionId)
    (device : Device) (position : Triple) : Prop :=
  match dispatch.operation with
  | .kernel _ =>
    ∃ id requirement, graph.Requires dispatch.node id ∧
      Asks graph id requirement (some device) ∧
      requirement.mode.discards = false ∧ place = requirement.region ∧
      position ∈ requirement.window
  | .copy copy =>
    place = copy.source.region ∧ device = copy.source.device ∧
    position ∈ copy.sourceBox
  | .requirement _ => False

/-- The operation writes the element of the buffer on the device: a kernel in
the windows that it may write to, a copy at its destination. -/
def Writes (graph : TaskGraph) (dispatch : Dispatch) (place : RegionId)
    (device : Device) (position : Triple) : Prop :=
  match dispatch.operation with
  | .kernel _ => ∃ id requirement, graph.Requires dispatch.node id ∧
      Asks graph id requirement (some device) ∧ requirement.mode.writes = true ∧
        place = requirement.region ∧ position ∈ requirement.window
  | .copy copy =>
    place = copy.destination.region ∧ device = copy.destination.device ∧
    position ∈ copy.destinationBox
  | .requirement _ => False

/-- Both operations touch the element on the device, and at least one writes it
there. -/
def Conflict (graph : TaskGraph) (first second : Dispatch) (place : RegionId)
    (device : Device) (position : Triple) : Prop :=
  (Writes graph first place device position ∧
    (Reads graph second place device position ∨
      Writes graph second place device position)) ∨
  (Reads graph first place device position ∧
    Writes graph second place device position)

/-- The operation brings the element to the device for an access that only
reads. -/
def Supplies (graph : TaskGraph) (dispatch : Dispatch) (place : RegionId)
    (device : Device) (position : Triple) : Prop :=
  (∃ requirement hint, Asks graph dispatch.node requirement hint ∧
    requirement.mode.writes = false) ∧
  Writes graph dispatch place device position

section Copies

variable {graph : TaskGraph} {dispatch : Dispatch} {copy : Copy}
  {place : RegionId} {device : Device} {position : Triple}

theorem reads_copy_iff (copied : dispatch.operation = .copy copy) :
    Reads graph dispatch place device position ↔ place = copy.source.region ∧
      device = copy.source.device ∧ position ∈ copy.sourceBox := by
  simp only [Reads]
  rw [copied]

theorem writes_copy_iff (copied : dispatch.operation = .copy copy) :
    Writes graph dispatch place device position ↔
      place = copy.destination.region ∧ device = copy.destination.device ∧
        position ∈ copy.destinationBox := by
  simp only [Writes]
  rw [copied]

end Copies

/-- The operation belongs to the requirement, or to the node that requires
it. -/
def ActsFor (graph : TaskGraph) (dispatch : Dispatch) (id : NodeId)
    (requirement : Requirement) : Prop :=
  (dispatch.node = id ∨ graph.Requires dispatch.node id) ∧
  ∃ hint, Asks graph id requirement hint

/-- A copy is that of a node of its own, or it was made for a requirement of the
same buffer. -/
def Attributed (graph : TaskGraph) (dispatch : Dispatch) : Prop :=
  ∀ copy,
    dispatch.operation = .copy copy → (∃ window reading writing, CopyAccesses
      graph (graph.requirementsOf dispatch.node) copy window reading writing) ∨
      ∃ requirement hint, Asks graph dispatch.node requirement hint ∧
        copy.source.region = requirement.region ∧
        copy.destination.region = requirement.region

section Attributed

variable {graph : TaskGraph} {dispatch : Dispatch} {place : RegionId}
  {device : Device} {position : Triple}

theorem Attributed.of_reads (attributed : Attributed graph dispatch)
    (reads : Reads graph dispatch place device position) :
    ∃ id requirement,
      ActsFor graph dispatch id requirement ∧ requirement.region = place := by
  cases operation : dispatch.operation with
  | kernel kernel =>
      simp only [Reads] at reads
      rw [operation] at reads
      obtain ⟨id, requirement, required, asks, _, here, _⟩ := reads
      exact ⟨id, requirement, ⟨.inr required, _, asks⟩, here.symm⟩
  | copy copy =>
      obtain ⟨here, _⟩ := (reads_copy_iff operation).mp reads
      rcases attributed copy operation with
        ⟨window, reading, writing, accesses⟩ |
          ⟨requirement, hint, asks, source, _⟩
      · exact ⟨reading, _,
          ⟨.inr accesses.requires.1, _, accesses.reads⟩, here.symm⟩
      · exact ⟨dispatch.node, requirement, ⟨.inl rfl, hint, asks⟩,
          (here.trans source).symm⟩
  | requirement _ =>
      simp only [Reads] at reads
      rw [operation] at reads
      exact reads.elim

theorem Attributed.of_writes (attributed : Attributed graph dispatch)
    (writes : Writes graph dispatch place device position) :
    ∃ id requirement, ActsFor graph dispatch id requirement ∧
      requirement.region = place ∧ (requirement.mode.writes = true ∨
        Supplies graph dispatch place device position) := by
  cases operation : dispatch.operation with
  | kernel kernel =>
      simp only [Writes] at writes
      rw [operation] at writes
      obtain ⟨id, requirement, required, asks, mayWrite, here, _⟩ := writes
      exact ⟨id, requirement, ⟨.inr required, _, asks⟩, here.symm,
        .inl mayWrite⟩
  | copy copy =>
      obtain ⟨here, _⟩ := (writes_copy_iff operation).mp writes
      rcases attributed copy operation with
        ⟨window, reading, writing, accesses⟩ |
          ⟨requirement, hint, asks, _, destination⟩
      · exact ⟨writing, _, ⟨.inr accesses.requires.2, _, accesses.writes⟩,
          (here.trans accesses.region).symm, .inl rfl⟩
      · refine ⟨dispatch.node, requirement, ⟨.inl rfl, hint, asks⟩,
          (here.trans destination).symm, ?_⟩
        cases mayWrite : requirement.mode.writes with
        | true => exact .inl rfl
        | false => exact .inr ⟨⟨requirement, hint, asks, mayWrite⟩, writes⟩
  | requirement _ =>
      simp only [Writes] at writes
      rw [operation] at writes
      exact writes.elim

end Attributed

/-- If the operations conflict, the first belongs to a node on which that of the
second depends, unless both belong to one node, or the first brings the element
for an access that only reads. -/
def Ordered (graph : TaskGraph) (first second : Dispatch) : Prop :=
  ∀ place device position, Conflict graph first second place device position →
    first.node = second.node ∨ graph.DependsOn second.node first.node ∨
      Supplies graph first place device position

section Fetches

variable {graph : TaskGraph} {root : NodeId} {before : Scheduler}
  {first second dispatch : Dispatch}
  {requirement otherRequirement : Requirement} {device other : Device}
  {copy otherCopy : Copy}

/-- Copies made in one submission do not conflict, unless they are made for one
requirement. -/
theorem ordered_of_apart
    (isFirst : Fetch root before first requirement device copy)
    (isSecond : Fetch root before second otherRequirement other otherCopy)
    (apart : Apart first second) : Ordered graph first second := by
  intro place holder position conflict
  refine .inl ?_
  rcases conflict with ⟨writes, reads | writesToo⟩ | ⟨reads, writes⟩
  · obtain ⟨here, isHolder, member⟩ :=
      (writes_copy_iff isFirst.operation).mp writes
    obtain ⟨hereToo, isHolderToo, memberToo⟩ :=
      (reads_copy_iff isSecond.operation).mp reads
    refine absurd ?_ (isFirst.missing position member)
    rw [← isFirst.destination, ← here, ← isHolder, hereToo, isHolderToo,
      isSecond.source]
    exact isSecond.taken position memberToo
  · rcases apart with same | separate
    · exact same
    · obtain ⟨here, isHolder, member⟩ :=
        (writes_copy_iff isFirst.operation).mp writes
      obtain ⟨hereToo, isHolderToo, memberToo⟩ :=
        (writes_copy_iff isSecond.operation).mp writesToo
      exact absurd memberToo (separate copy otherCopy isFirst.operation
        isSecond.operation (here.symm.trans hereToo)
        (isHolder.symm.trans isHolderToo) position member)
  · obtain ⟨here, isHolder, member⟩ :=
      (reads_copy_iff isFirst.operation).mp reads
    obtain ⟨hereToo, isHolderToo, memberToo⟩ :=
      (writes_copy_iff isSecond.operation).mp writes
    refine absurd ?_ (isSecond.missing position memberToo)
    rw [← isSecond.destination, ← hereToo, ← isHolderToo, here, isHolder,
      isFirst.source]
    exact isFirst.taken position member

theorem Fetch.attributed
    (fetch : Fetch root before dispatch requirement device copy)
    (same : graph.SameNodes before.graph) : Attributed graph dispatch := by
  intro other copied
  rw [fetch.operation] at copied
  cases copied
  exact .inr ⟨requirement, _, fetch.asks.of_sameNodes same.symm, fetch.source,
    fetch.destination⟩

end Fetches

section Behind

variable {graph : TaskGraph} {root : NodeId} {before : Scheduler}

/-- A requirement of a node that waits for its submission depends on every
submitted node that belongs to a conflicting access. -/
theorem Orderly.dependsOn_submitted (orderly : Orderly graph before)
    (staged : Staged graph)
    (waits : before.graph.state? root = some .unsubmitted)
    {id other node : NodeId} {requirement otherRequirement : Requirement}
    {hint otherHint : Option Device} (required : graph.Requires root id)
    (asks : Asks graph id requirement hint)
    (own : node = other ∨ graph.Requires node other)
    (otherAsks : Asks graph other otherRequirement otherHint)
    (submitted : before.graph.Submitted node)
    (same : otherRequirement.region = requirement.region)
    (writes : otherRequirement.mode.writes = true ∨
      requirement.mode.writes = true) : graph.DependsOn id node := by
  obtain ⟨owner, _, only⟩ := staged.owner other otherAsks.statesRequirement
  have notSubmitted : ¬ before.graph.Submitted root := fun submitted =>
    submitted.not_unsubmitted waits
  have different : owner ≠ root := by
    intro equal
    subst equal
    rcases own with rfl | requires
    · exact orderly.untouched owner node ((only owner).mpr rfl)
        otherAsks.statesRequirement submitted waits
    · exact notSubmitted ((only node).mp requires ▸ submitted)
  rcases staged.ordered other id _ _ _ _ owner root otherAsks asks
    ((only owner).mpr rfl) required different same writes with behind | ahead
  · rcases own with rfl | requires
    · exact behind.tail ((only owner).mpr rfl)
    · rw [(only node).mp requires]
      exact behind
  · -- Otherwise `root` would have been submitted before.
    have reached : graph.DependsOn node root := by
      rcases own with rfl | requires
      · exact ahead
      · exact .head requires ahead
    rw [orderly.sameNodes.dependsOn] at reached
    exact absurd
      (orderly.consistent.closed.dependsOn submitted reached) notSubmitted

end Behind

end CoherentTasks.Scenario
