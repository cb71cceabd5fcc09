import CoherentTasks.Proofs.Submission.Move

/-!
# Settling one requirement

The work for one requirement either stops before anything was handed over, or
ends with the move that settles it.
-/

namespace CoherentTasks.Submission

open CoherentTasks.Backend (Executor Registry)
open CoherentTasks.Coherence (Region)
open CoherentTasks.Computation
open CoherentTasks.Graph (Binding Copy Node Operation Requirement TaskGraph)
open Scheduler (HandsOver Quiet)

variable {root bound : NodeId}

theorem leads_requestMemory (region : RegionId) (device : Device) (bytes : Nat)
    (before : Scheduler) :
    Leads (Move root bound) (Action.requestMemory region device bytes) before
      fun _ after =>
      after.graph = before.graph := by
  refine Action.leads_requestMemory region device bytes
    fun granted registry allocated => ?_
  exact .note ⟨rfl, (Quiet.record { before with registry } rfl).deeds,
    Registry.continues_allocate allocated⟩ rfl

theorem leads_ensureAllocation (id : RegionId) (device : Device)
    (before : Scheduler) :
    Leads (Move root bound) (ensureAllocation id device) before fun _ after =>
      (∀ node, after.graph.node? node = before.graph.node? node) ∧
      ∃ region, after.graph.region? id = some region ∧
        region.hasAllocation device = true := by
  simp only [ensureAllocation]
  apply Action.leads_getRegion_bind
  intro region found
  split
  · rename_i present
    exact leads_pure ⟨fun _ => rfl, region, found, present⟩
  · rename_i absent
    split
    · exact leads_throw
    · rename_i bytes size
      apply (leads_requestMemory id device bytes before).bind
      intro granted between _ sameGraph
      cases granted with
      | none => exact leads_throw
      | some pointer =>
          have isRegion : between.graph.region? id = some region := by
            rw [sameGraph]; exact found
          refine (leads_modify (.allocate id region device pointer
            ⟨rfl, rfl, .refl _⟩ isRegion (by simpa using absent) rfl)).mono ?_
          intro _ _ _ equal
          subst equal
          refine ⟨fun node => ?_, region.addAllocation device pointer, ?_, ?_⟩
          · rw [TaskGraph.node?_updateRegion, sameGraph]
          · rw [TaskGraph.region?_updateRegion, if_pos rfl, isRegion]
            rfl
          · exact (Region.hasAllocation_addAllocation pointer).mpr (.inl rfl)

theorem leads_bindPointer (id : NodeId) (region : RegionId) (device : Device)
    (before : Scheduler) :
    Leads (Move root bound) (bindPointer id region device) before fun _ after =>
      ∃ pointer,
        after.graph = before.graph.updateNode id ({ · with pointer }) := by
  simp only [bindPointer]
  apply Action.leads_getRegion_bind
  intro found _
  refine (leads_modify
    (.bind id (found.pointer? device) ⟨rfl, rfl, .refl _⟩ rfl)).mono ?_
  intro _ _ _ equal
  subst equal
  exact ⟨found.pointer? device, rfl⟩

/-- An operation is run for the device of its node, whatever platform it insists
on. -/
theorem device_of_selectExecutor {registry : Registry} {device : Device}
    {operation : Operation} {executor : Executor} {binding : Binding}
    (selected :
      selectExecutor registry device operation = .ok (executor, binding)) :
    binding.device = device := by
  simp only [selectExecutor] at selected
  split at selected
  · cases selected
  · obtain ⟨_, _, selected⟩ := bind_eq_ok_iff.mp selected
    cases pure_eq_ok_iff.mp selected
    rfl

/-- Without an executor, the platform that has to run the operation is not
served. -/
theorem selectExecutor_error {registry : Registry} {device : Device}
    {operation : Operation} {cause : Error}
    (explicit : operation.isRequirement = false)
    (failed : selectExecutor registry device operation = .error cause) :
    cause.kind = .backendUnavailable ∧
    ¬ registry.ServesPlatform (operation.platform.getD device.platform) := by
  simp only [selectExecutor] at failed
  rw [if_neg (by simp [explicit])] at failed
  rcases bind_eq_error_iff.mp failed with stopped | ⟨_, _, never⟩
  · exact Registry.executor_error stopped
  · cases never

theorem leads_selectTransfers {step : Scheduler → Scheduler → Prop}
    (requirement : Requirement) (device : Device) (before : Scheduler) :
    Leads step (selectTransfers requirement device) before
      fun transfers after =>
      before = after ∧ (∀ transfer ∈ transfers, transfer.2.2.device = device) ∧
      if requirement.mode.discards then transfers.map (·.1) = [] else ∃ region,
        before.graph.region? requirement.region = some region ∧ planTransfers
          region device requirement.window = .ok (transfers.map (·.1)) := by
  simp only [selectTransfers]
  split
  · exact leads_pure ⟨rfl, fun _ absent => absurd absent List.not_mem_nil, rfl⟩
  · apply Action.leads_getRegion_bind
    intro region found
    apply Action.leads_ofExcept_bind
    intro copies planned
    apply leads_get_bind
    have each (copy : Copy) : Leads step
        (do
          return (copy, ← Action.ofExcept
            (selectExecutor before.registry device (.copy copy))))
        before fun transfer after =>
          before = after ∧ transfer.1 = copy ∧
            transfer.2.2.device = device := by
      apply Action.leads_ofExcept_bind
      intro chosen selected
      exact leads_pure ⟨rfl, rfl, device_of_selectExecutor selected⟩
    apply (leads_mapM each copies).mono
    · intro transfers _ _ result
      obtain ⟨rfl, matched⟩ := result
      refine ⟨rfl, fun transfer member => ?_, region, found, ?_⟩
      · obtain ⟨copy, _, _, executed⟩ := exists_related_of_mem matched member
        exact executed
      have same : transfers.map (·.1) = copies := by
        clear planned
        induction matched with
        | nil => rfl
        | cons here _ induction => rw [List.map_cons, here.1, induction]
      rw [same]
      exact planned

theorem dispatchCopies_ok (id : NodeId) (device : Device)
    (dependencies : List Dependency)
    (transfers : List (Copy × Executor × Binding)) (before : Scheduler) :
    ∃ made after, dispatchCopies id device dependencies transfers before =
      .ok (made.map fun dispatch => .single dispatch.signal) after ∧
      after.graph = before.graph ∧
      after.deeds = before.deeds ++ made.map .dispatched ∧
      HandsOver id device dependencies
        (transfers.map fun transfer => .copy transfer.1) made before after := by
  induction transfers generalizing before with
  | nil => exact ⟨[], before, rfl, rfl, (List.append_nil _).symm,
      .nil ⟨rfl, rfl, .refl _⟩⟩
  | cons transfer transfers induction =>
      obtain ⟨copy, executor, binding⟩ := transfer
      have first :=
        Scheduler.handsOver_dispatch before id device (.copy copy)
          executor dependencies
      have deed :=
        Scheduler.deeds_dispatch before id device (.copy copy)
          executor dependencies
      obtain ⟨made, after, result, graph, deeds, handed⟩ := induction
        (before.dispatch id device (.copy copy) executor dependencies).2
      rw [deed, List.append_assoc, List.singleton_append] at deeds
      refine ⟨_ :: made, after, ?_, graph, deeds, first.cons handed⟩
      simp only [dispatchCopies]
      refine bind_ok_iff.mpr ⟨.single before.signals.next, _, rfl, ?_⟩
      exact bind_ok_iff.mpr ⟨_, _, result, rfl⟩

private theorem submitTransfers_ok (id : NodeId) (device : Device)
    (transfers : List (Copy × Executor × Binding)) (before : Scheduler) :
    ∃ resolution made executor after,
      submitTransfers id device transfers before = .ok resolution after ∧
      after.graph =
        before.graph.updateNode id ({ · with state := takenUp made executor }) ∧
      ((∀ transfer ∈ transfers, transfer.2.2.device = device) →
        executor.device = device) ∧
      after.deeds = before.deeds ++ made.map .dispatched ∧
      HandsOver id device (dependenciesOf before.graph before.signals id)
        (transfers.map fun transfer => .copy transfer.1) made before after := by
  cases transfers with
  | nil =>
      exact ⟨.satisfied, [], ⟨device.platform, device⟩, _, rfl, rfl,
        fun _ => rfl, (List.append_nil _).symm, .nil ⟨rfl, rfl, .refl _⟩⟩
  | cons transfer transfers =>
      obtain ⟨copy, executor, binding⟩ := transfer
      obtain ⟨made, after, result, graph, deeds, handed⟩ :=
        dispatchCopies_ok id device
          (dependenciesOf before.graph before.signals id)
          ((copy, executor, binding) :: transfers) before
      have some : made ≠ [] := by
        intro equal
        subst equal
        cases handed.operations
      refine ⟨.transferred (transfers.length + 1), made, binding,
        { after with graph := after.graph.updateNode id ({ · with
            state :=
              .submitted
                (.join (made.map fun dispatch => .single dispatch.signal))
                binding }) },
                ?_, ?_, fun executed => executed _ List.mem_cons_self,
                deeds, ?_⟩
      · simp only [submitTransfers]
        refine bind_ok_iff.mpr ⟨before, before, rfl, ?_⟩
        refine bind_ok_iff.mpr ⟨_, after, result, ?_⟩
        exact bind_ok_iff.mpr ⟨(), _, rfl, rfl⟩
      · simp only [takenUp]
        rw [if_neg some, graph]
      · exact ⟨handed.dispatches, handed.operations, handed.created,
          handed.fired, handed.each, handed.registry⟩

/-- What is done for a requirement until its copies are chosen. -/
def choose (id : NodeId) (requirement : Requirement) (device : Device) :
    Action (List (Copy × Executor × Binding)) := do
  Action.record (.opened id device)
  ensureAllocation requirement.region device
  bindPointer id requirement.region device
  selectTransfers requirement device

/-- What remains to be done for a requirement once its copies are chosen. -/
def conclude (id : NodeId) (requirement : Requirement) (device : Device)
    (transfers : List (Copy × Executor × Binding)) : Action Resolution := do
  let resolution ← submitTransfers id device transfers
  markAccess requirement device
  Action.record (.settled id requirement device)
  return resolution

theorem settle_eq (id : NodeId) (requirement : Requirement) (device : Device) :
    settle id requirement device =
      choose id requirement device >>= conclude id requirement device := by
  simp only [settle, choose, bind_assoc]
  rfl

/-- What remains once the copies are chosen cannot fail. -/
theorem settles_conclude {id : NodeId} {node : Node} {requirement : Requirement}
    {device : Device} {region : Region}
    {transfers : List (Copy × Executor × Binding)} {before : Scheduler}
    (found : before.graph.node? id = some node)
    (states : node.operation = .requirement requirement)
    (held : node.device = some device) (waits : node.state = .unsubmitted)
    (prepared : ∀ required ∈ node.requirements, before.graph.Submitted required)
    (inTurn : InTurn before.graph root id)
    (tracked : before.graph.region? requirement.region = some region)
    (allocated : region.hasAllocation device = true)
    (executed : ∀ transfer ∈ transfers, transfer.2.2.device = device)
    (planned : if requirement.mode.discards then transfers.map (·.1) = []
      else planTransfers region device requirement.window =
        .ok (transfers.map (·.1))) :
    ∃ resolution made after,
      conclude id requirement device transfers before = .ok resolution after ∧
      Settles root id node requirement device region (transfers.map (·.1)) made
        before after := by
  obtain ⟨resolution, made, executor, between, result, graph, onDevice,
      deeds, handed⟩ :=
    submitTransfers_ok id device transfers before
  have isRegion : between.graph.region? requirement.region = some region := by
    rw [graph, TaskGraph.region?_updateNode]
    exact tracked
  have marks :
      markAccess requirement device between = .ok () { between with
        graph := between.graph.updateRegion requirement.region
          (marked requirement device) } := by
    simp only [markAccess]
    exact bind_ok_iff.mpr
      ⟨region, between, Action.getRegion_ok_iff.mpr ⟨isRegion, rfl⟩, rfl⟩
  let finished : Scheduler := { between with
    graph :=
      between.graph.updateRegion requirement.region
        (marked requirement device) }
  refine ⟨resolution, made, finished.record (.settled id requirement device),
    ?_, ?_⟩
  · refine bind_ok_iff.mpr ⟨resolution, between, result, ?_⟩
    refine bind_ok_iff.mpr ⟨(), _, marks, ?_⟩
    exact bind_ok_iff.mpr ⟨(), _, rfl, rfl⟩
  · refine ⟨found, states, held, waits, prepared, inTurn, tracked, allocated,
      planned, ?_, ?_, ⟨executor, ?_⟩, ?_⟩
    · refine ⟨?_, ?_, handed.created, handed.fired, handed.each,
        handed.registry⟩
      · rw [Scheduler.dispatches_record]
        exact (List.append_nil _).trans handed.dispatches
      · rw [List.map_map]
        exact handed.operations
    · rw [Scheduler.deeds_record, ← List.append_assoc]
      exact congrArg (· ++ [Event.settled id requirement device]) deeds
    · exact congrArg
        (·.updateRegion requirement.region (marked requirement device)) graph
    · intro handle other state
      have taken : between.graph.state? id = some (takenUp made executor) := by
        rw [graph]
        exact TaskGraph.state?_of_node?
          (TaskGraph.node?_updateNode_self found) rfl
      rw [executor_of_takenUp (Option.some.inj (taken.symm.trans state))]
      exact onDevice executed

section Settle

variable {id : NodeId} {node : Node} {requirement : Requirement}
  {device : Device} {before : Scheduler}

theorem leads_choose (found : before.graph.node? id = some node) :
    Leads (Move root bound) (choose id requirement device) before
      fun transfers after =>
      ∃ pointer region, after.graph.node? id = some { node with pointer } ∧
        after.graph.region? requirement.region = some region ∧
        region.hasAllocation device = true ∧
        (∀ transfer ∈ transfers, transfer.2.2.device = device) ∧
        if requirement.mode.discards then transfers.map (·.1) = []
          else planTransfers region device requirement.window =
            .ok (transfers.map (·.1)) := by
  simp only [choose]
  apply (leads_modify (.note (Quiet.record before rfl) rfl)).bind
  intro _ _ _ equal
  subst equal
  apply (leads_ensureAllocation _ _ _).bind
  intro _ second _ result
  obtain ⟨sameNode, region, tracked, allocated⟩ := result
  apply (leads_bindPointer _ _ _ _).bind
  intro _ third _ result
  obtain ⟨pointer, graph⟩ := result
  have isNode : third.graph.node? id = some { node with pointer } := by
    rw [graph, TaskGraph.node?_updateNode, if_pos rfl, sameNode]
    exact congrArg (Option.map _) found
  have isRegion : third.graph.region? requirement.region = some region := by
    rw [graph]
    exact tracked
  apply (leads_selectTransfers requirement device third).mono
  intro transfers _ _ result
  obtain ⟨rfl, executed, planned⟩ := result
  refine ⟨pointer, region, isNode, isRegion, allocated, executed, ?_⟩
  split
  · rename_i discards
    rwa [if_pos discards] at planned
  · rename_i keeps
    rw [if_neg keeps] at planned
    obtain ⟨other, isOther, plan⟩ := planned
    rw [isRegion] at isOther
    cases isOther
    exact plan

/-- Once the copies are chosen, the requirement is settled. -/
theorem settle_ok_or_error (found : before.graph.node? id = some node)
    (states : node.operation = .requirement requirement)
    (held : node.device = some device) (waits : node.state = .unsubmitted)
    (prepared : ∀ required ∈ node.requirements, before.graph.Submitted required)
    (inTurn : InTurn before.graph root id) :
    (∃ cause after, settle id requirement device before = .error cause after ∧
      Moves root bound before after) ∨
    ∃ resolution later region copies made between after,
      settle id requirement device before = .ok resolution after ∧
      Moves root bound before between ∧ Settles root id later requirement device
        region copies made between after := by
  have leads :
      Leads (Move root bound) (choose id requirement device) before _ :=
    leads_choose found
  rw [settle_eq]
  cases chosen : choose id requirement device before with
  | error cause after =>
      exact .inl
        ⟨cause, after, bind_error_iff.mpr (.inl chosen), leads.error chosen⟩
  | ok transfers between =>
      obtain ⟨moves, pointer, region, isNode, tracked, allocated,
          executed, planned⟩ :=
        leads.ok chosen
      obtain ⟨resolution, made, after, result, settles⟩ :=
        settles_conclude isNode states held waits (fun required member =>
          Moves.submitted moves (prepared required member))
          (Moves.inTurn moves inTurn) tracked allocated executed planned
      exact .inr ⟨resolution, _, region, _, made, between, after,
        bind_ok_iff.mpr ⟨transfers, between, chosen, result⟩, moves, settles⟩

theorem leads_settle (found : before.graph.node? id = some node)
    (states : node.operation = .requirement requirement)
    (held : node.device = some device) (waits : node.state = .unsubmitted)
    (prepared : ∀ required ∈ node.requirements, before.graph.Submitted required)
    (inTurn : InTurn before.graph root id) (below : id < bound) :
    Leads (Move root bound) (settle id requirement device) before fun _ after =>
      ∃ later region copies made between,
        Moves root bound before between ∧ Settles root id later requirement
          device region copies made between after := by
  rw [leads_iff]
  rcases settle_ok_or_error found states held waits prepared inTurn with
    ⟨_, _, failed, moves⟩ |
      ⟨_, later, region, copies, made, between, _, passed, moves, settles⟩
  · rw [failed]
    refine ⟨fun _ _ absurdity => (by cases absurdity), fun _ _ result => ?_⟩
    cases result
    exact moves
  · rw [passed]
    refine ⟨fun _ _ result => ?_, fun _ _ absurdity => by cases absurdity⟩
    cases result
    exact ⟨moves.tail
      (.settle id later requirement device region copies made below settles),
      later, region, copies, made, between, moves, settles⟩

/-- A requirement for which something fails is not settled. -/
theorem settle_error (found : before.graph.node? id = some node)
    (states : node.operation = .requirement requirement)
    (held : node.device = some device) (waits : node.state = .unsubmitted)
    (prepared : ∀ required ∈ node.requirements, before.graph.Submitted required)
    (inTurn : InTurn before.graph root id) {cause : Error} {after : Scheduler}
    (failed : settle id requirement device before = .error cause after) :
    Moves root bound before after := by
  rcases settle_ok_or_error found states held waits prepared inTurn with
    ⟨_, _, result, moves⟩ | ⟨_, _, _, _, _, _, _, passed, _⟩
  · rw [failed] at result
    cases result
    exact moves
  · rw [failed] at passed
    cases passed

end Settle

end CoherentTasks.Submission
