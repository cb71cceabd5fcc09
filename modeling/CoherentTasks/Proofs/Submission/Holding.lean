import CoherentTasks.Proofs.Submission.Submit
import CoherentTasks.Proofs.Submission.Transfer

/-!
# What is valid where

Which elements of which buffers are valid on which devices, and how a submission
changes that. Only an access that is marked makes elements valid or outdated,
and a submission that is given up leaves all of it as it found it.
-/

namespace CoherentTasks

open CoherentTasks.Coherence (Region)
open CoherentTasks.Geometry (Box Triple)
open CoherentTasks.Graph (Copy Node Operation Requirement TaskGraph)
open CoherentTasks.Submission

namespace Graph.TaskGraph

/-- The element of the region is valid on the device. -/
def Holds (graph : TaskGraph) (id : RegionId) (device : Device)
    (position : Triple) : Prop :=
  ∃ region, graph.region? id = some region ∧ position ∈ region.validOn device

section Holds

variable {graph other : TaskGraph} {id place : RegionId}
  {device holder : Device} {position : Triple} {region : Region}

theorem holds_iff (found : graph.region? id = some region) :
    graph.Holds id device position ↔ position ∈ region.validOn device := by
  constructor
  · intro holds
    obtain ⟨same, isRegion, valid⟩ := holds
    rw [found] at isRegion
    cases isRegion
    exact valid
  · exact fun valid => ⟨region, found, valid⟩

theorem holds_of_regions (same : other.regions = graph.regions) :
    other.Holds id device position ↔ graph.Holds id device position := by
  simp only [Holds, region?]
  rw [same]

theorem holds_updateRegion_of_ne {change : Region → Region}
    (different : id ≠ place) :
    (graph.updateRegion place change).Holds id device position ↔
      graph.Holds id device position := by
  simp only [Holds]
  rw [region?_updateRegion, if_neg different]

theorem holds_updateRegion_self {change : Region → Region}
    (found : graph.region? id = some region) :
    (graph.updateRegion id change).Holds id device position ↔
      position ∈ (change region).validOn device := by
  apply holds_iff
  rw [region?_updateRegion, if_pos rfl, found]
  rfl

/-- A new copy holds nothing, and there was none before. -/
theorem holds_addAllocation {pointer : Pointer}
    (found : graph.region? place = some region)
    (absent : region.hasAllocation device = false) :
    (graph.updateRegion place (·.addAllocation device pointer)).Holds id
        holder position ↔
      graph.Holds id holder position := by
  by_cases here : id = place
  · subst here
    rw [holds_updateRegion_self found, Region.mem_validOn_addAllocation,
      holds_iff found]
    refine ⟨And.right, fun valid => ⟨?_, valid⟩⟩
    intro equal
    subst equal
    have present := Region.hasAllocation_of_mem_validOn valid
    rw [absent] at present
    cases present
  · exact holds_updateRegion_of_ne here

theorem holds_markValid {window : Box}
    (found : graph.region? place = some region) :
    (graph.updateRegion place (·.markValid device window)).Holds id
        holder position ↔
      graph.Holds id holder position ∨ (id = place ∧ holder = device ∧
        region.hasAllocation device = true ∧ position ∈ window) := by
  by_cases here : id = place
  · subst here
    rw [holds_updateRegion_self found, Region.mem_validOn_markValid,
      holds_iff found]
    simp
  · rw [holds_updateRegion_of_ne here]
    simp [here]

end Holds

end Graph.TaskGraph

namespace Submission

/-- The access makes the element outdated on the device. -/
def Outdates (requirement : Requirement) (device : Device) (id : RegionId)
    (holder : Device) (position : Triple) : Prop :=
  requirement.mode.writes = true ∧ id = requirement.region ∧ holder ≠ device ∧
    position ∈ requirement.window

/-- The access makes the element valid on the device. -/
def Validates (requirement : Requirement) (device : Device) (id : RegionId)
    (holder : Device) (position : Triple) : Prop :=
  id = requirement.region ∧ holder = device ∧ position ∈ requirement.window

theorem writes_of_discards {mode : AccessMode}
    (discards : mode.discards = true) : mode.writes = true := by
  cases mode
  case read => cases discards
  all_goals rfl

private theorem mem_validOn_marked {requirement : Requirement}
    {device holder : Device} {region : Region} {position : Triple}
    (present : region.hasAllocation device = true) :
    position ∈ (marked requirement device region).validOn holder ↔
      (position ∈ region.validOn holder ∧
        ¬ Outdates requirement device requirement.region holder position) ∨
      Validates requirement device requirement.region holder position := by
  simp only [marked, Outdates, Validates]
  by_cases writes : requirement.mode.writes = true
  · rw [if_pos writes]
    by_cases here : holder = device
    · subst here
      rw [Region.mem_validOn_markCurrent_self present]
      simp
    · rw [Region.mem_validOn_markCurrent_other present here]
      simp [writes, here]
  · rw [if_neg writes, Region.mem_validOn_markValid]
    simp [writes, present]

section Effects

variable {root bound id : NodeId} {node : Node} {requirement : Requirement}
  {device holder : Device} {region : Region} {copies : List Copy}
  {made : List Dispatch} {place : RegionId} {position : Triple}
  {before after : Scheduler}

theorem Settles.holds_iff
    (settles :
      Settles root id node requirement device region copies made before after) :
    after.graph.Holds place holder position ↔
      (before.graph.Holds place holder position ∧
        ¬ Outdates requirement device place holder position) ∨
      Validates requirement device place holder position := by
  obtain ⟨executor, graph⟩ := settles.graph
  rw [graph]
  by_cases here : place = requirement.region
  · subst here
    have tracked :
        (before.graph.updateNode id
            ({ · with state := takenUp made executor })).region?
            requirement.region =
          some region :=
      settles.tracked
    rw [TaskGraph.holds_updateRegion_self tracked,
      mem_validOn_marked settles.allocated, TaskGraph.holds_iff settles.tracked]
  · rw [TaskGraph.holds_updateRegion_of_ne here]
    simp [Outdates, Validates, here, TaskGraph.Holds]

/-- The copies that are handed over fetch what is outdated in the window. -/
theorem Settles.fetches
    (settles :
      Settles root id node requirement device region copies made before after) :
    ∀ copy ∈ copies, Fetches region device (fun position =>
      position ∈ requirement.window ∧ position ∉ region.validOn device)
      copy := by
  have planned := settles.planned
  split at planned
  · rw [planned]
    exact fun copy member => absurd member List.not_mem_nil
  · exact planTransfers_sound planned

/-- Whatever is handed over is such a copy. -/
theorem Settles.isFetch
    (settles :
      Settles root id node requirement device region copies made before after)
    (wellFormed : before.graph.WellFormed) {dispatch : Dispatch}
    (handedOver : dispatch ∈ made) :
    ∃ copy, dispatch.operation = .copy copy ∧
      copy.destination.region = requirement.region ∧
      copy.destination.device = device ∧
      ∀ position ∈ copy.destinationBox, position ∈ requirement.window ∧
        ¬ before.graph.Holds requirement.region device position := by
  have isOperation : dispatch.operation ∈ made.map (·.operation) :=
    List.mem_map_of_mem handedOver
  rw [settles.handed.operations] at isOperation
  obtain ⟨copy, isCopy, operation⟩ := List.mem_map.mp isOperation
  obtain ⟨source, part, rfl, _, _, inside⟩ := settles.fetches copy isCopy
  refine ⟨_, operation.symm, wellFormed.numbered settles.tracked, rfl,
    fun position member => ?_⟩
  rw [TaskGraph.holds_iff settles.tracked]
  exact (inside position member).2

/-- They fetch all of it, unless the access drops the earlier contents. -/
theorem Settles.fetched
    (settles :
      Settles root id node requirement device region copies made before after)
    (keeps : requirement.mode.discards = false)
    (member : position ∈ requirement.window)
    (outdated : ¬ before.graph.Holds requirement.region device position) :
    ∃ copy ∈ copies, position ∈ copy.destinationBox := by
  have planned := settles.planned
  rw [keeps] at planned
  rw [TaskGraph.holds_iff settles.tracked] at outdated
  exact planTransfers_complete planned member outdated

/-- A move settles a requirement, or neither states nor valid elements
change. -/
theorem Move.still_or_settles (move : Move root bound before after) :
    (Still before after ∧
      ∀ place holder position, after.graph.Holds place holder position ↔
        before.graph.Holds place holder position) ∨
    ∃ id node requirement device region copies made, Settles root id node
      requirement device region copies made before after := by
  cases move with
  | note quiet graph =>
      refine .inl
        ⟨⟨graph ▸ .refl _, fun id => by rw [graph], quiet⟩, fun _ _ _ => ?_⟩
      rw [graph]
  | assign id device node quiet found fits graph =>
      refine .inl ⟨still_updateNode quiet graph (fun _ => rfl) fun _ => rfl,
        fun _ _ _ => ?_⟩
      exact TaskGraph.holds_of_regions (by rw [graph]; rfl)
  | bind id pointer quiet graph =>
      refine .inl ⟨still_updateNode quiet graph (fun _ => rfl) fun _ => rfl,
        fun _ _ _ => ?_⟩
      exact TaskGraph.holds_of_regions (by rw [graph]; rfl)
  | allocate id region device pointer quiet found absent graph =>
      refine .inl ⟨⟨?_, fun other => ?_, quiet⟩, fun _ _ _ => ?_⟩
      · rw [graph]
        exact fun _ => rfl
      · rw [graph]
        rfl
      · rw [graph]
        exact TaskGraph.holds_addAllocation found absent
  | settle id node requirement device region copies made below settles =>
      exact .inr ⟨id, node, requirement, device, region, copies, made, settles⟩

/-- After a launch only the source of a copy may become valid again, where it
was valid for the copy. -/
theorem Finishes.holds {operation : Operation}
    (finishes : Finishes id operation before after)
    (wellFormed : before.graph.WellFormed) :
    (∀ place holder position, before.graph.Holds place holder position →
      after.graph.Holds place holder position) ∧
    ∀ place holder position, after.graph.Holds place holder position →
      before.graph.Holds place holder position ∨
      ∃ copy, operation = .copy copy ∧ place = copy.source.region ∧
        holder = copy.source.device ∧ position ∈ copy.sourceBox := by
  rcases finishes.graph
    with same | ⟨copy, required, guard, isCopy, edge, found, guards, graph⟩
  · rw [same]
    exact ⟨fun _ _ _ held => held, fun _ _ _ held => .inl held⟩
  · obtain ⟨region, isRegion⟩ := tracked_of_guardsSource wellFormed found guards
    rw [graph]
    constructor
    · intro place holder position held
      exact (TaskGraph.holds_markValid isRegion).mpr (.inl held)
    · intro place holder position held
      rcases (TaskGraph.holds_markValid isRegion).mp held
        with earlier | ⟨here, same, _, member⟩
      · exact .inl earlier
      · exact .inr ⟨copy, isCopy, here, same, member⟩

/-- A submission that is given up leaves valid what was valid, and nothing
else. -/
theorem holds_giveUp {cause : Error}
    (grow : before.graph.RegionsGrow after.graph) :
    (giveUp before after id cause).graph.Holds place holder position ↔
      before.graph.Holds place holder position := by
  have restored :
      (giveUp before after id cause).graph.regions =
        (after.graph.restore before.graph.snapshot).regions :=
    TaskGraph.regions_abort _ id
  rw [TaskGraph.holds_of_regions restored]
  constructor
  · intro holds
    obtain ⟨region, found, valid⟩ := holds
    obtain ⟨later, isLater, _⟩ :=
      (TaskGraph.regionsGrow_restore after.graph _).region? found
    obtain ⟨saved, isSaved, grows⟩ := grow.region? isLater
    rw [TaskGraph.region?_restore grow isSaved isLater] at found
    cases found
    exact ⟨saved, isSaved,
      (Region.mem_validOn_restore_snapshot (grows.kept holder)).mp valid⟩
  · intro holds
    obtain ⟨saved, isSaved, valid⟩ := holds
    obtain ⟨later, isLater, grows⟩ := grow.later isSaved
    exact ⟨_, TaskGraph.region?_restore grow isSaved isLater,
      (Region.mem_validOn_restore_snapshot (grows.kept holder)).mpr valid⟩

end Effects

end Submission

end CoherentTasks
