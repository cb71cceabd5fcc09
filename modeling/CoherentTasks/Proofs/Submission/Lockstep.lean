import CoherentTasks.Proofs.Submission.Submit

/-!
# Submissions side by side

The same submission in two states that agree on everything that it reads takes
the same way in both. What the states may differ in is a parameter: a relation
that every elementary change keeps. Nodes that cannot be met may differ in any
way, and so may the lists of dependencies that are handed over.
-/

namespace CoherentTasks.Submission

open CoherentTasks.Backend (Executor Registry)
open CoherentTasks.Coherence (Region)
open CoherentTasks.Computation
open CoherentTasks.Graph (Binding Copy Node Operation Requirement State)

/-- The change of a node keeps what the node is for, and does not make it wait
again. -/
structure Progresses (change : Node → Node) : Prop where
  created : ∀ node, (change node).created = node.created
  waits : ∀ node, (change node).state = .unsubmitted → node.state = .unsubmitted

theorem progresses_assign (device : Device) : Progresses (·.assign device) :=
  ⟨fun _ => rfl, fun _ waits => waits⟩

private theorem progresses_bind (pointer : Option Pointer) :
    Progresses ({ · with pointer }) :=
  ⟨fun _ => rfl, fun _ waits => waits⟩

private theorem progresses_takeUp {state : State}
    (different : state ≠ .unsubmitted) : Progresses ({ · with state }) :=
  ⟨fun _ => rfl, fun _ equal => absurd equal different⟩

/-- Related states agree on what a submission reads, and stay related when both
are changed in the same way. Only the nodes that are visible agree. They include
whatever a node that may still wait requires. -/
structure Lockstep (related : Scheduler → Scheduler → Prop)
    (listed : List Dependency → List Dependency → Prop)
    (waiting visible : NodeId → Prop) : Prop where
  node : ∀ {left right}, related left right → ∀ {id}, visible id →
    right.graph.node? id = left.graph.node? id
  opened : ∀ {left right}, related left right →
    ∀ {id}, left.graph.state? id = some .unsubmitted → waiting id
  behind : ∀ {left right}, related left right → ∀ {id}, waiting id →
    ∀ required ∈ left.graph.requirementsOf id, visible required
  region : ∀ {left right},
    related left right → ∀ id, right.graph.region? id = left.graph.region? id
  registry : ∀ {left right}, related left right → right.registry = left.registry
  alignment :
    ∀ {left right}, related left right → right.alignment = left.alignment
  next :
    ∀ {left right}, related left right → right.signals.next = left.signals.next
  dependencies : ∀ {left right}, related left right →
    ∀ {id}, waiting id → listed (dependenciesOf left.graph left.signals id)
      (dependenciesOf right.graph right.signals id)
  changeNode : ∀ {left right},
    related left right → ∀ id {change}, Progresses change →
      related { left with graph := left.graph.updateNode id change }
        { right with graph := right.graph.updateNode id change }
  changeRegion : ∀ {left right}, related left right → ∀ id change,
    related { left with graph := left.graph.updateRegion id change }
      { right with graph := right.graph.updateRegion id change }
  record : ∀ {left right}, related left right → ∀ event,
    related (left.record event) (right.record event)
  request : ∀ {left right}, related left right → ∀ registry,
    related { left with registry } { right with registry }
  dispatch : ∀ {left right}, related left right →
    ∀ id device operation executor {first second}, listed first second →
      related (left.dispatch id device operation executor first).2
        (right.dispatch id device operation executor second).2

namespace Lockstep

variable {related : Scheduler → Scheduler → Prop}
  {listed : List Dependency → List Dependency → Prop}
  {waiting visible : NodeId → Prop} {left right : Scheduler}

section Elementary

variable {Value : Type}

theorem getNode_bind (lockstep : Lockstep related listed waiting visible)
    (together : related left right) {id : NodeId} (seen : visible id)
    {next other : Node → Action Value}
    (rest : ∀ node, left.graph.node? id = some node →
      Beside related (next node) (other node) left right) :
    Beside related (Action.getNode id >>= next) (Action.getNode id >>= other)
      left right := by
  have same := lockstep.node together seen
  simp only [Beside, bind, EStateM.bind, Action.getNode_eq]
  rw [same]
  cases found : left.graph.node? id with
  | none => exact ⟨rfl, together⟩
  | some node => exact rest node found

private theorem getRegion_bind
    (lockstep : Lockstep related listed waiting visible)
    (together : related left right) (id : RegionId)
    {next other : Region → Action Value}
    (rest : ∀ region, Beside related (next region) (other region) left right) :
    Beside related (Action.getRegion id >>= next)
      (Action.getRegion id >>= other) left right := by
  have same := lockstep.region together id
  simp only [Beside, bind, EStateM.bind, Action.getRegion_eq]
  rw [same]
  cases found : left.graph.region? id with
  | none => exact ⟨rfl, together⟩
  | some region => exact rest region

private theorem ofExcept_bind {Other : Type} (together : related left right)
    (result : Except Error Other) {next other : Other → Action Value}
    (rest : ∀ value, Beside related (next value) (other value) left right) :
    Beside related (Action.ofExcept result >>= next)
      (Action.ofExcept result >>= other) left right := by
  cases result with
  | ok value => exact rest value
  | error cause => exact ⟨rfl, together⟩

end Elementary

section Requirement

variable (lockstep : Lockstep related listed waiting visible)

include lockstep

theorem requestMemory (together : related left right) (region : RegionId)
    (device : Device) (bytes : Nat) :
    Beside related (Action.requestMemory region device bytes)
      (Action.requestMemory region device bytes) left right := by
  simp only [Action.requestMemory]
  apply beside_get_bind
  rw [lockstep.registry together, lockstep.alignment together]
  apply ofExcept_bind together
  intro answer
  apply (beside_modify (lockstep.record (lockstep.request together _) _)).bind
  intro _ _ _ together
  exact beside_pure together

theorem ensureAllocation (together : related left right) (id : RegionId)
    (device : Device) :
    Beside related (ensureAllocation id device)
      (Submission.ensureAllocation id device) left right := by
  simp only [Submission.ensureAllocation]
  apply lockstep.getRegion_bind together
  intro region
  split
  · exact beside_pure together
  · split
    · exact beside_throw together
    · apply (lockstep.requestMemory together id device _).bind
      intro granted _ _ together
      cases granted with
      | none => exact beside_throw together
      | some pointer =>
          exact beside_modify (lockstep.changeRegion together id _)

theorem bindPointer (together : related left right) (id : NodeId)
    (region : RegionId) (device : Device) :
    Beside related (bindPointer id region device)
      (Submission.bindPointer id region device) left right := by
  simp only [Submission.bindPointer]
  apply lockstep.getRegion_bind together
  intro found
  exact beside_modify (lockstep.changeNode together id (progresses_bind _))

theorem selectTransfers (together : related left right)
    (requirement : Requirement) (device : Device) :
    Beside related (selectTransfers requirement device)
      (Submission.selectTransfers requirement device) left right := by
  simp only [Submission.selectTransfers]
  split
  · exact beside_pure together
  · apply lockstep.getRegion_bind together
    intro region
    apply ofExcept_bind together
    intro copies
    apply beside_get_bind
    rw [lockstep.registry together]
    refine beside_mapM (fun copy _ _ together => ?_) copies together
    apply ofExcept_bind together
    intro selected
    exact beside_pure together

private theorem handOver (together : related left right) (id : NodeId)
    (device : Device) (operation : Operation) (executor : Executor)
    {first second : List Dependency} (alike : listed first second) :
    Beside related (Action.dispatch id device operation executor first)
      (Action.dispatch id device operation executor second) left right := by
  refine ⟨?_, lockstep.dispatch together id device operation executor alike⟩
  exact congrArg Completion.Handle.single (lockstep.next together).symm

theorem dispatchCopies (together : related left right) (id : NodeId)
    (device : Device) {first second : List Dependency}
    (alike : listed first second)
    (transfers : List (Copy × Executor × Binding)) :
    Beside related (dispatchCopies id device first transfers)
      (Submission.dispatchCopies id device second transfers) left right := by
  induction transfers generalizing left right with
  | nil => exact beside_pure together
  | cons transfer transfers induction =>
      simp only [Submission.dispatchCopies]
      apply (lockstep.handOver together id device _ _ alike).bind
      intro handle _ _ together
      apply (induction together).bind
      intro handles _ _ together
      exact beside_pure together

theorem submitTransfers (together : related left right) {id : NodeId}
    (waits : waiting id) (device : Device)
    (transfers : List (Copy × Executor × Binding)) :
    Beside related (submitTransfers id device transfers)
      (Submission.submitTransfers id device transfers) left right := by
  cases transfers with
  | nil =>
      simp only [Submission.submitTransfers]
      have progresses :=
        progresses_takeUp (show State.satisfied ≠ .unsubmitted by simp)
      apply (beside_modify (lockstep.changeNode together id progresses)).bind
      intro _ _ _ together
      exact beside_pure together
  | cons transfer transfers =>
      simp only [Submission.submitTransfers]
      apply beside_get_bind
      apply (lockstep.dispatchCopies together id device
        (lockstep.dependencies together waits) _).bind
      intro handles _ _ together
      have progresses :=
        progresses_takeUp (show State.submitted (.join handles) transfer.2.2 ≠
          .unsubmitted by simp)
      apply (beside_modify (lockstep.changeNode together id progresses)).bind
      intro _ _ _ together
      exact beside_pure together

theorem markAccess (together : related left right) (requirement : Requirement)
    (device : Device) :
    Beside related (markAccess requirement device)
      (Submission.markAccess requirement device) left right := by
  simp only [Submission.markAccess]
  apply lockstep.getRegion_bind together
  intro region
  exact beside_modify (lockstep.changeRegion together _ _)

theorem settle (together : related left right) {id : NodeId}
    (waits : waiting id) (requirement : Requirement) (device : Device) :
    Beside related (settle id requirement device)
      (Submission.settle id requirement device) left right := by
  simp only [Submission.settle]
  apply (beside_modify (lockstep.record together _)).bind
  intro _ _ _ together
  apply (lockstep.ensureAllocation together _ _).bind
  intro _ _ _ together
  apply (lockstep.bindPointer together _ _ _).bind
  intro _ _ _ together
  apply (lockstep.selectTransfers together _ _).bind
  intro transfers _ _ together
  apply (lockstep.submitTransfers together waits device transfers).bind
  intro resolution _ _ together
  apply (lockstep.markAccess together _ _).bind
  intro _ _ _ together
  apply (beside_modify (lockstep.record together _)).bind
  intro _ _ _ together
  exact beside_pure together

end Requirement

section Required

variable (lockstep : Lockstep related listed waiting visible)

include lockstep

theorem assignDevices (together : related left right) (device : Device)
    (ids : List NodeId) (seen : ∀ id ∈ ids, visible id) :
    Beside related (assignDevices device ids)
      (Submission.assignDevices device ids) left right := by
  induction ids generalizing left right with
  | nil => exact beside_pure together
  | cons id ids induction =>
      obtain ⟨here, later⟩ := List.forall_mem_cons.mp seen
      simp only [Submission.assignDevices]
      apply lockstep.getNode_bind together here
      intro node _
      apply (beside_modify
        (lockstep.changeNode together id (progresses_assign _))).bind
      intro _ _ _ together
      exact induction together later

theorem settleRequired {resolve other : NodeId → Action Resolution}
    (resolves : ∀ {left right}, related left right → ∀ {id}, visible id →
      Beside related (resolve id) (other id) left right)
    (together : related left right) (dependent : NodeId) (ids : List NodeId)
    (seen : ∀ id ∈ ids, visible id) :
    Beside related (settleRequired resolve dependent ids)
      (Submission.settleRequired other dependent ids) left right := by
  induction ids generalizing left right with
  | nil => exact beside_pure together
  | cons id ids induction =>
      obtain ⟨here, later⟩ := List.forall_mem_cons.mp seen
      simp only [Submission.settleRequired]
      apply lockstep.getNode_bind together here
      intro node _
      split
      · apply (resolves together here).bind
        intro _ _ _ together
        exact induction together later
      · split
        · exact (beside_throw together).bind
            fun _ _ _ together => induction together later
        · split
          · exact (beside_throw together).bind
              fun _ _ _ together => induction together later
          · exact induction together later

theorem prepareWith {resolve other : NodeId → Action Resolution}
    (resolves : ∀ {left right}, related left right →
      ∀ {id}, visible id → Beside related (resolve id) (other id) left right)
    (together : related left right) {id : NodeId} (seen : visible id)
    (waits : waiting id) (device : Device) :
    Beside related (prepareWith resolve id device)
      (Submission.prepareWith other id device) left right := by
  have same : right.graph.requirementsOf id = left.graph.requirementsOf id := by
    simp only [Graph.TaskGraph.requirementsOf]
    rw [lockstep.node together seen]
  have required := lockstep.behind together waits
  simp only [Submission.prepareWith]
  apply beside_get_bind
  rw [same]
  apply (lockstep.assignDevices together device _ required).bind
  intro _ _ _ together
  exact lockstep.settleRequired resolves together id _ required

theorem resolveWith {resolve other : NodeId → Action Resolution}
    (resolves : ∀ {left right}, related left right →
      ∀ {id}, visible id → Beside related (resolve id) (other id) left right)
    (together : related left right) {id : NodeId} (seen : visible id) :
    Beside related (resolveWith resolve id) (Submission.resolveWith other id)
      left right := by
  simp only [Submission.resolveWith]
  apply lockstep.getNode_bind together seen
  intro node found
  split
  · split
    · exact beside_pure together
    · rename_i notSubmitted
      split
      · exact beside_throw together
      · rename_i notCancelled
        have unsubmitted : node.state = .unsubmitted := by
          cases state : node.state <;>
            simp_all [Node.isSubmitted, Node.isCancelled]
        have waits : waiting id := by
          apply lockstep.opened together
          simp only [Graph.TaskGraph.state?]
          rw [found, Option.map_some, unsubmitted]
        split
        · exact beside_throw together
        · apply (beside_modify
            (lockstep.changeNode together id (progresses_assign _))).bind
          intro _ _ _ together
          apply (lockstep.prepareWith resolves together seen waits _).bind
          intro _ _ _ together
          exact lockstep.settle together waits _ _
  · exact beside_pure together

theorem resolveWithin (depth : Nat) :
    ∀ {left right}, related left right →
      ∀ {id}, visible id → Beside related (resolveWithin depth id)
        (Submission.resolveWithin depth id) left right := by
  induction depth with
  | zero => exact fun together _ _ => beside_throw together
  | succ depth induction =>
      exact fun together _ seen => lockstep.resolveWith induction together seen

theorem resolve (together : related left right) {id : NodeId}
    (seen : visible id) :
    Beside related (resolve id) (Submission.resolve id) left right :=
  lockstep.resolveWithin (id + 1) together seen

theorem prepare (together : related left right) {id : NodeId}
    (seen : visible id) (waits : waiting id) (device : Device) :
    Beside related (prepare id device) (Submission.prepare id device)
      left right :=
  lockstep.prepareWith (fun together _ seen => lockstep.resolve together seen)
    together seen waits device

end Required

section Launch

variable (lockstep : Lockstep related listed waiting visible)

include lockstep

theorem launch (together : related left right) {id : NodeId}
    (waits : waiting id) (operation : Operation) (device : Device) :
    Beside related (launch id operation device)
      (Submission.launch id operation device) left right := by
  simp only [Submission.launch]
  apply beside_get_bind
  rw [lockstep.registry together]
  apply ofExcept_bind together
  intro selected
  apply (lockstep.handOver together id device _ _
    (lockstep.dependencies together waits)).bind
  intro handle _ _ together
  have progresses := progresses_takeUp
    (show State.submitted handle selected.2 ≠ .unsubmitted by simp)
  exact beside_modify (lockstep.changeNode together id progresses)

/-- The nodes that are asked whether they guard the source of a copy must be
visible. -/
theorem keepSourceValid (together : related left right) {id : NodeId}
    (seen : visible id)
    (required : ∀ other ∈ left.graph.requirementsOf id, visible other)
    (copy : Copy) :
    Beside related (keepSourceValid id copy)
      (Submission.keepSourceValid id copy) left right := by
  have sameRequired :
      right.graph.requirementsOf id = left.graph.requirementsOf id := by
    simp only [Graph.TaskGraph.requirementsOf]
    rw [lockstep.node together seen]
  have same : (right.graph.requirementsOf id).filterMap right.graph.node? =
      (left.graph.requirementsOf id).filterMap left.graph.node? := by
    rw [sameRequired]
    exact List.filterMap_congr
      fun other member => lockstep.node together (required other member)
  simp only [Submission.keepSourceValid]
  apply beside_get_bind
  rw [same]
  split
  · apply lockstep.getRegion_bind together
    intro region
    exact beside_modify (lockstep.changeRegion together _ _)
  · exact beside_pure together

theorem undertake (together : related left right) {id : NodeId}
    (seen : visible id) (waits : waiting id) (device : Device)
    (operation : Operation) :
    Beside related (undertake id device operation)
      (Submission.undertake id device operation) left right := by
  cases operation with
  | requirement requirement =>
      apply (lockstep.resolve together seen).bind
      intro _ _ _ together
      exact beside_pure together
  | kernel kernel =>
      apply (lockstep.prepare together seen waits device).bind
      intro _ _ _ together
      exact lockstep.launch together waits _ device
  | copy copy =>
      apply (lockstep.prepare together seen waits device).bind
      intro _ _ _ together
      apply (lockstep.launch together waits _ device).bind
      intro _ _ _ together
      exact lockstep.keepSourceValid together seen
        (lockstep.behind together waits) copy

end Launch

end Lockstep

end CoherentTasks.Submission
