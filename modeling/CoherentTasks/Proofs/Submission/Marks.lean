import CoherentTasks.Proofs.Submission.Run

/-!
# The marks of a kernel's access

A submission marks the access of a requirement only when it settles the
requirement itself. When the requirement was submitted before, whatever has
become of its mark since then stays as it is.
-/

namespace CoherentTasks.Submission

open CoherentTasks.Coherence (Region)
open CoherentTasks.Computation
open CoherentTasks.Graph (Copy Kernel Node Operation Requirement TaskGraph)

/-- The window of an access is valid on the device and, if the access writes,
current there and valid nowhere else. -/
def Marked (graph : TaskGraph) (requirement : Requirement) (device : Device) :
    Prop :=
  ∃ region, graph.region? requirement.region = some region ∧
    (∀ position ∈ requirement.window, position ∈ region.validOn device) ∧
      (requirement.mode.writes = true → ∀ position ∈ requirement.window,
        position ∈ region.currentOn device ∧
          ∀ other, other ≠ device → position ∉ region.validOn other)

theorem Marked.of_regions {graph other : TaskGraph} {requirement : Requirement}
    {device : Device} (marked : Marked graph requirement device)
    (same : other.regions = graph.regions) :
    Marked other requirement device := by
  simp only [Marked, TaskGraph.region?] at *
  rw [same]
  exact marked

section Settles

variable {root id : NodeId} {node : Node} {requirement : Requirement}
  {device : Device} {region : Region} {copies : List Copy}
  {made : List Dispatch} {before after : Scheduler}

theorem Settles.region?
    (settles :
      Settles root id node requirement device region copies made before after) :
    after.graph.region? requirement.region =
      some (marked requirement device region) := by
  obtain ⟨executor, graph⟩ := settles.graph
  rw [graph, TaskGraph.region?_updateRegion, if_pos rfl,
    TaskGraph.region?_updateNode, settles.tracked]
  rfl

theorem Settles.node?
    (settles :
      Settles root id node requirement device region copies made before after) :
    ∃ state, after.graph.node? id = some { node with state } := by
  obtain ⟨executor, graph⟩ := settles.graph
  refine ⟨takenUp made executor, ?_⟩
  rw [graph]
  exact TaskGraph.node?_updateNode_self settles.found

theorem Settles.marked
    (settles :
      Settles root id node requirement device region copies made before after) :
    Marked after.graph requirement device := by
  refine ⟨_, settles.region?, ?_⟩
  simp only [Submission.marked]
  cases writes : requirement.mode.writes with
  | true =>
      rw [if_pos rfl]
      refine ⟨fun position member => ?_,
        fun _ position member => ⟨?_, fun other different => ?_⟩⟩
      · exact (Region.mem_validOn_markCurrent_self settles.allocated).mpr
          (.inr member)
      · exact (Region.mem_currentOn_markCurrent_self settles.allocated).mpr
          (.inr member)
      · rw [Region.mem_validOn_markCurrent_other settles.allocated different]
        exact fun both => both.2 member
  | false =>
      rw [if_neg Bool.false_ne_true]
      refine ⟨fun position member => ?_,
        fun absurdity => absurd absurdity Bool.false_ne_true⟩
      exact Region.mem_validOn_markValid.mpr
        (.inr ⟨rfl, settles.allocated, member⟩)

end Settles

section Single

variable {id required : NodeId} {device : Device} {before after : Scheduler}

/-- To prepare a node is to bind what it requires and then to go through it. -/
theorem prepare_ok (prepares : prepare id device before = .ok () after) :
    ∃ bound,
      Moves id id before bound ∧ bound.graph.regions = before.graph.regions ∧
      (∀ other, bound.graph.state? other = before.graph.state? other) ∧
      settleRequired resolve id (before.graph.requirementsOf id) bound =
        .ok () after := by
  simp only [prepare, prepareWith] at prepares
  obtain ⟨_, _, first, prepares⟩ := bind_ok_iff.mp prepares
  obtain ⟨rfl, rfl⟩ := get_ok_iff.mp first
  obtain ⟨_, bound, assigns, settles⟩ := bind_ok_iff.mp prepares
  have leads :
      Leads (Move id id) (assignDevices device (before.graph.requirementsOf id))
        before _ :=
    leads_assignDevices device _ before
  obtain ⟨moves, sameRegions, sameStates⟩ := leads.ok assigns
  exact ⟨bound, moves, sameRegions, sameStates, settles⟩

/-- The first requirement on the way is resolved before the others. -/
theorem settleRequired_cons_ok {done others : List NodeId}
    (preparing : Preparing id id done (required :: others) before)
    (states : StatesRequirement before.graph required)
    (settles :
      settleRequired resolve id (required :: others) before = .ok () after) :
    ∃ resolution between, resolve required before = .ok resolution between ∧
      Moves id id before between ∧ Resolved id required before between ∧
      Preparing id id (done ++ [required]) others between ∧
      settleRequired resolve id others between = .ok () after := by
  obtain ⟨node, requirement, isNode, operation⟩ := states
  simp only [settleRequired] at settles
  obtain ⟨other, _, found, settles⟩ := bind_ok_iff.mp settles
  obtain ⟨isOther, rfl⟩ := Action.getNode_ok_iff.mp found
  rw [isNode] at isOther
  cases isOther
  have isRequirement : node.operation.isRequirement = true := by
    rw [operation]; rfl
  rw [if_pos isRequirement] at settles
  obtain ⟨resolution, between, resolves, rest⟩ := bind_ok_iff.mp settles
  have leads := (resolves_resolve required before preparing.wellFormed
    ⟨node, requirement, isNode, operation⟩ preparing.inTurn).widen
      fun _ _ move => move.widen preparing.below
  obtain ⟨moves, resolved⟩ := leads.ok resolves
  exact ⟨resolution, between, resolves, moves, resolved,
    preparing.next moves resolved.submitted, rest⟩

/-- To prepare a node with one requirement is to resolve that, after binding
it. -/
private theorem prepare_single_ok (wellFormed : before.graph.WellFormed)
    (only : before.graph.requirementsOf id = [required])
    (states : StatesRequirement before.graph required)
    (prepares : prepare id device before = .ok () after) :
    ∃ bound,
      Moves id id before bound ∧ bound.graph.regions = before.graph.regions ∧
      (∀ other, bound.graph.state? other = before.graph.state? other) ∧
      Resolved id required bound after := by
  obtain ⟨bound, moves, sameRegions, sameStates, settles⟩ := prepare_ok prepares
  refine ⟨bound, moves, sameRegions, sameStates, ?_⟩
  have preparing := Preparing.start wellFormed (.inl rfl) moves
  rw [only] at settles preparing
  obtain ⟨_, _, _, _, resolved, _, rest⟩ := settleRequired_cons_ok preparing
    (states.of_sameNodes (Moves.sameNodes moves)) settles
  cases rest
  exact resolved

theorem submitNew_of_submit_ok {node : Node}
    (found : before.graph.node? id = some node)
    (waits : node.isUnsubmitted = true)
    (result : submit id before = .ok () after) :
    submitNew id before = .ok () after := by
  simp only [submit] at result
  simp only [found, waits, if_true] at result
  cases outcome : submitNew id before with
  | ok _ finished =>
      rw [outcome] at result
      cases result
      rfl
  | error cause stopped =>
      rw [outcome] at result
      cases result

/-- The submission of an explicit operation prepares it on the device that its
node asks for, launches it there and concludes. -/
theorem submit_explicit_ok (wellFormed : before.graph.WellFormed) {node : Node}
    (found : before.graph.node? id = some node)
    (explicit : node.operation.isRequirement = false)
    (waits : node.isUnsubmitted = true)
    (result : submit id before = .ok () after) :
    ∃ chosen ready launched later dispatch, prepare id chosen { before with
      graph := before.graph.updateNode id (·.assign chosen) } = .ok () ready ∧
      Move id id before { before with
        graph := before.graph.updateNode id (·.assign chosen) } ∧
      Moves id id before ready ∧ later.operation = node.operation ∧
      Launches id later chosen dispatch ready launched ∧
      conclusion id node.operation launched = .ok () after := by
  have new := submitNew_of_submit_ok found waits result
  cases hinted : node.hint with
  | none =>
      rw [submitNew_of_no_hint found hinted] at new
      cases new
  | some chosen =>
      rw [submitNew_eq found hinted, carryOut_of_explicit id chosen explicit]
        at new
      obtain ⟨_, ready, prepares, rest⟩ := bind_ok_iff.mp new
      obtain ⟨_, launched, launching, concludes⟩ := bind_ok_iff.mp rest
      let assigned : Scheduler :=
        { before with graph := before.graph.updateNode id (·.assign chosen) }
      have isNode : assigned.graph.node? id = some (node.assign chosen) :=
        TaskGraph.node?_updateNode_self found
      have move : Move id id before assigned :=
        .assign id chosen node ⟨rfl, rfl, .refl _⟩ found
          (fun _ => by rw [hinted]; rfl) rfl
      obtain ⟨moves, later, dispatch, operation, launch⟩ :=
        prepare_launch_ok (Moves.wellFormed (.single move) wellFormed) isNode
          explicit hinted ⟨_, rfl⟩ (Node.isUnsubmitted_iff.mp waits)
          prepares launching
      exact ⟨chosen, ready, launched, later, dispatch, prepares, move,
        .head move moves, operation, launch, concludes⟩

/-- The submission of a kernel prepares it on the device that it asks for and
launches it there. -/
private theorem submit_kernel_ok (wellFormed : before.graph.WellFormed)
    {node : Node} {kernel : Kernel} (found : before.graph.node? id = some node)
    (launches : node.operation = .kernel kernel)
    (waits : node.isUnsubmitted = true)
    (result : submit id before = .ok () after) :
    ∃ chosen ready launched later dispatch, prepare id chosen { before with
      graph := before.graph.updateNode id (·.assign chosen) } = .ok () ready ∧
      before.graph.SameNodes ready.graph ∧
      Launches id later chosen dispatch ready launched ∧
      after.graph = launched.graph := by
  have explicit : node.operation.isRequirement = false := by rw [launches]; rfl
  obtain ⟨chosen, ready, launched, later, dispatch, prepares, _, moves, _,
      launch, concludes⟩ :=
    submit_explicit_ok wellFormed found explicit waits result
  obtain ⟨state, isLaunched⟩ := launch.node?
  obtain ⟨_, registered, _, sameGraph⟩ := registerSubmitted_ok isLaunched
  rw [launches] at concludes
  cases concludes.symm.trans registered
  exact ⟨chosen, ready, launched, later, dispatch, prepares,
    Moves.sameNodes moves, launch, sameGraph⟩

/-- A kernel with a single requirement: the requirement is resolved from a state
with the same regions and states as before, and nothing happens to regions and
to the requirement afterwards. -/
private theorem submit_single_ok (wellFormed : before.graph.WellFormed)
    {node guard : Node} {kernel : Kernel} {requirement : Requirement}
    (found : before.graph.node? id = some node)
    (launches : node.operation = .kernel kernel)
    (only : node.requirements = [required]) (waits : node.isUnsubmitted = true)
    (result : submit id before = .ok () after)
    (isGuard : after.graph.node? required = some guard)
    (states : guard.operation = .requirement requirement) :
    ∃ bound ready, bound.graph.regions = before.graph.regions ∧
      bound.graph.state? required = before.graph.state? required ∧
      Resolved id required bound ready ∧
      after.graph.regions = ready.graph.regions ∧
      ready.graph.node? required = some guard := by
  obtain ⟨chosen, ready, launched, later, dispatch, prepares, same, launch,
      sameGraph⟩ :=
    submit_kernel_ok wellFormed found launches waits result
  let assigned : Scheduler :=
    { before with graph := before.graph.updateNode id (·.assign chosen) }
  have sameStart : before.graph.SameNodes assigned.graph :=
    TaskGraph.sameNodes_updateNode _ _ fun _ => rfl
  have assignedWell : assigned.graph.WellFormed :=
    wellFormed.later sameStart (TaskGraph.regionsGrow_of_eq rfl)
  have sameRest : before.graph.SameNodes after.graph := by
    rw [sameGraph]
    exact same.trans launch.sameNodes
  have single : before.graph.requirementsOf id = [required] := by
    simp only [TaskGraph.requirementsOf]
    rw [found]
    exact only
  have isRequirement : StatesRequirement before.graph required :=
    StatesRequirement.of_sameNodes sameRest.symm
      ⟨guard, requirement, isGuard, states⟩
  obtain ⟨bound, _, sameRegions, sameStates, resolved⟩ :=
    prepare_single_ok assignedWell
      ((sameStart.requirementsOf id).symm.trans single)
      (isRequirement.of_sameNodes sameStart) prepares
  refine ⟨bound, ready, sameRegions, ?_, resolved, ?_, ?_⟩
  · rw [sameStates]
    exact TaskGraph.state?_updateNode _ _ _ fun _ => rfl
  · rw [sameGraph]
    exact launch.regions
  · have different : required ≠ id := by
      refine Nat.ne_of_lt (wellFormed.earlier ?_)
      simp only [TaskGraph.Requires]
      rw [single]
      exact List.mem_cons_self
    obtain ⟨executor, shape⟩ := launch.graph
    rw [← isGuard, sameGraph, shape, TaskGraph.node?_updateNode_other different]

/-- Right after a kernel with a single requirement was submitted, the access of
the requirement is marked exactly if this submission settled the requirement, or
if the mark of an earlier one was still in place. -/
theorem marked_submit_iff (reached : before.Reachable) {node guard : Node}
    {kernel : Kernel} {requirement : Requirement}
    (found : before.graph.node? id = some node)
    (launches : node.operation = .kernel kernel)
    (only : node.requirements = [required]) (waits : node.isUnsubmitted = true)
    (result : submit id before = .ok () after)
    (isGuard : after.graph.node? required = some guard)
    (states : guard.operation = .requirement requirement)
    (assigned : guard.device = some device) :
    Marked after.graph requirement device ↔ (¬ before.graph.Submitted required ∨
      Marked before.graph requirement device) := by
  obtain ⟨bound, ready, sameRegions, sameState, resolved, regions, isReady⟩ :=
    submit_single_ok reached.consistent.wellFormed found launches only waits
      result isGuard states
  have sameSubmitted :
      bound.graph.Submitted required ↔ before.graph.Submitted required :=
    submitted_iff_of_state?_eq sameState
  rcases resolved with ⟨submitted, rfl⟩ |
    ⟨settled, stated, place, region, copies, made, between, moves, settles⟩
  · -- The requirement was submitted before: nothing is marked.
    rw [sameSubmitted] at submitted
    have unchanged := regions.trans sameRegions
    constructor
    · exact fun marked => .inr (marked.of_regions unchanged.symm)
    · intro earlier
      rcases earlier with notSubmitted | marked
      · exact absurd submitted notSubmitted
      · exact marked.of_regions unchanged
  · -- It is settled now: the mark is the last change of a region.
    have notSubmitted : ¬ before.graph.Submitted required := by
      rw [← sameSubmitted]
      intro submitted
      have still := Moves.submitted moves submitted
      rw [TaskGraph.submitted_iff settles.found] at still
      simp [Node.isSubmitted, settles.waits] at still
    have isMarked : Marked after.graph requirement device := by
      obtain ⟨state, isSettled⟩ := settles.node?
      rw [isReady] at isSettled
      cases isSettled
      have sameRequirement : stated = requirement := by
        have equal := settles.states.symm.trans states
        cases equal
        rfl
      have sameDevice : place = device :=
        Option.some.inj (settles.bound.symm.trans assigned)
      rw [← sameRequirement, ← sameDevice]
      exact settles.marked.of_regions regions
    exact iff_of_true isMarked (.inl notSubmitted)

end Single

/-- The requirement of `sharing`. -/
def sharedAccess : Requirement := ⟨0, .ofExtent ⟨4, 1, 1⟩, .write⟩

/-- A buffer on the host, a requirement to write it on another device, and three
kernels: one that was never asked to run, one that comes after the requirement
and the first kernel, and one that comes after the requirement alone. -/
def sharing : Scheduler :=
  let device : Device := ⟨.cuda, 0⟩
  let kernel (name : String) : Operation := .kernel ⟨name, none⟩
  let start :=
    Scheduler.create 128 (.ofList
      [Backend.recording .host false none, Backend.recording .cuda false none])
      false
  let graph :=
    (start.graph.addRegion "A" ⟨4, 1, 1⟩ 4).updateRegion 0
      (·.seed .hostDevice 0)
  { start with graph := { graph with slots :=
      [some (Node.create (.requirement sharedAccess) [] (some device)),
        some (Node.create (kernel "late") [] none),
        some (Node.create (kernel "failing") [0, 1] (some device)),
        some (Node.create (kernel "last") [0] (some device))] } }

/-- The submission of the second kernel has settled the requirement and
failed. -/
def sharingAfterFailure : Scheduler :=
  Action.outcome (submit 2) sharing

theorem reachable_sharing : sharing.Reachable := by
  let device : Device := ⟨.cuda, 0⟩
  have empty :=
    Scheduler.Reachable.create 128 (.ofList
      [Backend.recording .host false none, Backend.recording .cuda false none])
      false
  have buffer := empty.step (.addRegion "A" ⟨4, 1, 1⟩ 4)
  have seeded :=
    buffer.step (.changeRegion 0 (·.seed .hostDevice 0) fun region =>
      (region.grows_addAllocation .hostDevice 0).trans
        (Region.grows_markCurrent _ _ _))
  have guard :=
    seeded.step (.addNode (.requirement sharedAccess) [] (some device) 0 _ rfl)
  have late := guard.step (.addNode (.kernel ⟨"late", none⟩) [] none 1 _ rfl)
  have failing :=
    late.step
      (.addNode (.kernel ⟨"failing", none⟩) [0, 1] (some device) 2 _ rfl)
  exact failing.step
    (.addNode (.kernel ⟨"last", none⟩) [0] (some device) 3 _ rfl)

/-- Without the failure, the last kernel finds the access marked. -/
theorem marked_sharing :
    Marked (Action.outcome (submit 3) sharing).graph sharedAccess
      ⟨.cuda, 0⟩ := by
  have result :=
    Action.eq_ok_of_succeeds (show Action.succeeds (submit 3) sharing = true by
    decide +kernel)
  have shape : ((Action.outcome (submit 3) sharing).graph.node? 0).map
      (fun node => (node.operation, node.device)) =
        some (.requirement sharedAccess, some ⟨.cuda, 0⟩) := by decide +kernel
  obtain ⟨guard, isGuard, parts⟩ := Option.map_eq_some_iff.mp shape
  obtain ⟨states, assigned⟩ := Prod.mk.inj parts
  have waits : sharing.graph.state? 0 = some .unsubmitted := rfl
  exact (marked_submit_iff reachable_sharing rfl rfl rfl rfl result isGuard
    states assigned).mpr
    (.inl fun submitted => submitted.not_unsubmitted waits)

/-- A kernel is not always submitted with the access of its only requirement
marked: here a failed submission took the mark back and left the requirement
submitted. -/
theorem not_always_marked :
    ¬ ∀ (before after : Scheduler) (id required : NodeId) (node guard : Node)
        (kernel : Kernel) (requirement : Requirement) (device : Device),
      before.Reachable → before.graph.node? id = some node →
      node.operation = .kernel kernel → node.requirements = [required] →
      node.isUnsubmitted = true → submit id before = .ok () after →
      after.graph.node? required = some guard →
      guard.operation = .requirement requirement → guard.device = some device →
      Marked after.graph requirement device := by
  intro always
  have result :=
    Action.eq_ok_of_succeeds
      (show Action.succeeds (submit 3) sharingAfterFailure =
        true by decide +kernel)
  have shape :
      ((Action.outcome (submit 3) sharingAfterFailure).graph.node? 0).map
          (fun node => (node.operation, node.device)) =
        some (.requirement sharedAccess, some ⟨.cuda, 0⟩) := by decide +kernel
  obtain ⟨guard, isGuard, parts⟩ := Option.map_eq_some_iff.mp shape
  obtain ⟨states, assigned⟩ := Prod.mk.inj parts
  have last : (sharingAfterFailure.graph.node? 3).map
      (fun node => (node.operation, node.requirements, node.isUnsubmitted)) =
        some (.kernel ⟨"last", none⟩, [0], true) := by decide +kernel
  obtain ⟨node, found, facts⟩ := Option.map_eq_some_iff.mp last
  obtain ⟨launches, rest⟩ := Prod.mk.inj facts
  obtain ⟨only, waits⟩ := Prod.mk.inj rest
  obtain ⟨region, isRegion, valid, _⟩ :=
    always _ _ 3 0 node guard _ _ _ (reachable_sharing.step (.submit 2)) found
      launches only waits result isGuard states assigned
  have nothing :
      ((Action.outcome (submit 3) sharingAfterFailure).graph.region? 0).map
          (fun region => (region.validOn ⟨.cuda, 0⟩).boxes) = some [] := by
    decide +kernel
  have isTracked :
      (Action.outcome (submit 3) sharingAfterFailure).graph.region? 0 =
        some region :=
    isRegion
  rw [isTracked, Option.map_some, Option.some_inj] at nothing
  obtain ⟨box, isBox, _⟩ :=
    valid ⟨0, 0, 0⟩ (by intro axis; cases axis <;> decide)
  rw [nothing] at isBox
  exact absurd isBox List.not_mem_nil

end CoherentTasks.Submission
