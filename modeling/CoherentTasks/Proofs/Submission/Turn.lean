import CoherentTasks.Proofs.Coherence.Renewal
import CoherentTasks.Proofs.Submission.Submit

/-!
# Single changes of a submission

A submission binds nodes to devices and addresses, asks for memory, adds copies,
marks regions, and takes nodes up. This module lists these changes, each with
the requests for memory that it makes, and says what none of them undoes:
devices and addresses that are bound stay, and so do copies. Every part of a
submission is made of such changes, whether or not it stops with an error.
-/

namespace CoherentTasks

open CoherentTasks.Backend (Executor)
open CoherentTasks.Coherence (Region)
open CoherentTasks.Computation
open CoherentTasks.Graph
  (Binding Copy Node Operation Requirement State TaskGraph)

/-- Memory was requested for a copy of a region, and perhaps granted. -/
structure MemoryRequest where
  region : RegionId
  device : Device
  granted : Option Pointer
  deriving DecidableEq, Repr

def Event.request? : Event → Option MemoryRequest
  | .requested region device granted => some ⟨region, device, granted⟩
  | _ => none

namespace Scheduler

/-- All requests for memory so far. -/
def requests (scheduler : Scheduler) : List MemoryRequest :=
  scheduler.journal.filterMap Event.request?

theorem requests_record (scheduler : Scheduler) (event : Event) :
    (scheduler.record event).requests =
      scheduler.requests ++ event.request?.toList := by
  simp only [requests, record]
  rw [List.filterMap_append]
  cases shown : event.request? <;> simp [shown]

end Scheduler

namespace Graph

/-- The node does the same as before, and devices and addresses that were bound
to it are still so. -/
structure Node.Stays (node later : Node) : Prop where
  operation : later.operation = node.operation
  device : ∀ device, node.device = some device → later.device = some device
  pointer : later.pointer = node.pointer

theorem Node.Stays.refl (node : Node) : node.Stays node :=
  ⟨rfl, fun _ bound => bound, rfl⟩

theorem Node.device_assign {node : Node} {device other : Device}
    (bound : node.device = some device) :
    (node.assign other).device = some device := by
  simp only [assign]
  rw [bound]
  rfl

namespace TaskGraph

/-- The address of the copy of a region on a device, if there is a copy. -/
def pointer? (graph : TaskGraph) (id : RegionId) (device : Device) :
    Option Pointer :=
  (graph.region? id).bind (·.pointer? device)

/-- The node is bound to a device and to the address of the copy that its
requirement needs there. -/
def Anchors (graph : TaskGraph) (node : Node) (requirement : Requirement) :
    Prop :=
  ∃ device pointer, node.device = some device ∧
    graph.pointer? requirement.region device = some pointer ∧
    node.pointer = some pointer

/-- Every submitted requirement is bound to a copy of its region. -/
def Anchored (graph : TaskGraph) : Prop :=
  ∀ id node requirement, graph.node? id = some node → node.isSubmitted = true →
    node.operation = .requirement requirement → graph.Anchors node requirement

/-- The node states the requirement and is bound to the device. -/
def Aims (graph : TaskGraph) (id : NodeId) (requirement : Requirement)
    (device : Device) : Prop :=
  ∃ node, graph.node? id = some node ∧
    node.operation = .requirement requirement ∧ node.device = some device

/-- If the node is a requirement, then it is bound to a copy of its region. -/
def AnchorsAt (graph : TaskGraph) (id : NodeId) : Prop :=
  ∀ node requirement, graph.node? id = some node →
    node.operation = .requirement requirement → graph.Anchors node requirement

/-- No copy and no bound device is lost, and the nodes are the same. -/
structure Lasts (first second : TaskGraph) : Prop where
  sameNodes : first.SameNodes second
  devices : ∀ id device,
    first.device? id = some device → second.device? id = some device
  pointers : ∀ id device pointer, first.pointer? id device = some pointer →
    second.pointer? id device = some pointer

section Pointers

variable {graph first second third : TaskGraph} {id : NodeId}

theorem pointer?_of_region? {place : RegionId} {region : Region}
    (found : graph.region? place = some region) (device : Device) :
    graph.pointer? place device = region.pointer? device := by
  simp only [pointer?]
  rw [found]
  rfl

theorem pointer?_of_regions (same : second.regions = first.regions) :
    second.pointer? = first.pointer? := by
  funext place device
  simp only [pointer?, region?]
  rw [same]

theorem pointer?_updateRegion {change : Region → Region}
    (kept : ∀ region device,
      (change region).pointer? device = region.pointer? device)
    (place : RegionId) :
    (graph.updateRegion place change).pointer? = graph.pointer? := by
  funext other device
  simp only [pointer?]
  rw [region?_updateRegion]
  split
  · cases graph.region? other with
    | none => rfl
    | some region => exact kept region device
  · rfl

theorem pointer?_addAllocation {place : RegionId} {region : Region}
    (tracked : graph.region? place = some region) (device on : Device)
    (pointer : Pointer) (other : RegionId) :
    (graph.updateRegion place (·.addAllocation device pointer)).pointer?
        other on =
      if other = place ∧ on = device then some pointer
        else graph.pointer? other on := by
  simp only [pointer?]
  rw [region?_updateRegion]
  by_cases here : other = place
  · subst here
    rw [if_pos rfl, tracked]
    simp [Region.pointer?_addAllocation]
  · rw [if_neg here, if_neg fun both => here both.1]

theorem Lasts.refl (graph : TaskGraph) : graph.Lasts graph :=
  ⟨.refl graph, fun _ _ bound => bound, fun _ _ _ held => held⟩

theorem Lasts.trans (start : first.Lasts second) (rest : second.Lasts third) :
    first.Lasts third where
  sameNodes := start.sameNodes.trans rest.sameNodes
  devices id device bound :=
    rest.devices id device (start.devices id device bound)
  pointers id device pointer held :=
    rest.pointers id device pointer (start.pointers id device pointer held)

/-- A change of one node that leaves the device bound loses nothing. -/
theorem lasts_updateNode {change : Node → Node}
    (created : ∀ node, (change node).created = node.created)
    (kept : ∀ node device,
      node.device = some device → (change node).device = some device) :
    graph.Lasts (graph.updateNode id change) where
  sameNodes := sameNodes_updateNode graph id created
  devices other device bound := by
    obtain ⟨node, found, isBound⟩ := Option.bind_eq_some_iff.mp bound
    simp only [device?]
    rw [node?_updateNode, found]
    split
    · exact kept node device isBound
    · exact isBound
  pointers _ _ _ held := held

theorem Aims.lasts {requirement : Requirement} {device : Device}
    (aims : first.Aims id requirement device) (lasts : first.Lasts second) :
    second.Aims id requirement device := by
  obtain ⟨node, found, states, bound⟩ := aims
  obtain ⟨later, isNode, operation, _⟩ := lasts.sameNodes.node found
  have isBound :=
    lasts.devices id device (Option.bind_eq_some_iff.mpr ⟨node, found, bound⟩)
  simp only [device?] at isBound
  rw [isNode] at isBound
  exact ⟨later, isNode, operation.trans states, isBound⟩

theorem Anchors.later {node later : Node} {requirement : Requirement}
    (anchors : first.Anchors node requirement) (stays : node.Stays later)
    (kept : ∀ place device pointer, first.pointer? place device = some pointer →
      second.pointer? place device = some pointer) :
    second.Anchors later requirement := by
  obtain ⟨device, pointer, bound, held, points⟩ := anchors
  exact ⟨device, pointer, stays.device device bound, kept _ _ _ held,
    stays.pointer.trans points⟩

/-- Requirements stay bound to their copies as long as these and the submitted
nodes do. -/
theorem Anchored.later (anchored : first.Anchored)
    (kept : ∀ place device pointer, first.pointer? place device = some pointer →
      second.pointer? place device = some pointer)
    (earlier : ∀ id later, second.node? id = some later →
      later.isSubmitted = true → ∃ node, first.node? id = some node ∧
        node.isSubmitted = true ∧ node.Stays later) : second.Anchored := by
  intro id later requirement found submitted states
  obtain ⟨node, wasFound, wasSubmitted, stays⟩ :=
    earlier id later found submitted
  exact (anchored id node requirement wasFound wasSubmitted
    (stays.operation ▸ states)).later
    stays kept

theorem AnchorsAt.of_explicit (explicit : ∀ node, graph.node? id = some node →
    node.operation.isRequirement = false) : graph.AnchorsAt id := by
  intro node requirement found states
  have never := explicit node found
  rw [states] at never
  cases never

end Pointers

end TaskGraph

end Graph

namespace Submission

/-- One change of a submission. -/
inductive Turn (before after : Scheduler) : Prop where
  /-- Whatever is noted beside the graph, apart from requests for memory. -/
  | note (requests : after.requests = before.requests)
      (graph : after.graph = before.graph)
  | refuse (place : RegionId) (device : Device)
      (absent : before.graph.pointer? place device = none)
      (requests : after.requests = before.requests ++ [⟨place, device, none⟩])
      (graph : after.graph = before.graph)
  | grant (place : RegionId) (region : Region) (device : Device)
      (pointer : Pointer) (tracked : before.graph.region? place = some region)
      (absent : region.pointer? device = none)
      (requests :
        after.requests = before.requests ++ [⟨place, device, some pointer⟩])
      (graph : after.graph =
        before.graph.updateRegion place (·.addAllocation device pointer))
  | assign (id : NodeId) (device : Device)
      (requests : after.requests = before.requests)
      (graph : after.graph = before.graph.updateNode id (·.assign device))
  | bind (id : NodeId) (requirement : Requirement) (device : Device)
      (aims : before.graph.Aims id requirement device)
      (requests : after.requests = before.requests)
      (graph : after.graph = before.graph.updateNode id ({ · with
        pointer := before.graph.pointer? requirement.region device }))
  | takeUp (id : NodeId) (state : State) (anchors : before.graph.AnchorsAt id)
      (requests : after.requests = before.requests)
      (graph : after.graph = before.graph.updateNode id ({ · with state }))
  | mark (place : RegionId) (change : Region → Region)
      (kept : ∀ region device,
        (change region).pointer? device = region.pointer? device)
      (requests : after.requests = before.requests)
      (graph : after.graph = before.graph.updateRegion place change)

abbrev Turns : Scheduler → Scheduler → Prop :=
  Relation.ReflTransGen Turn

section Turn

variable {before after : Scheduler}

theorem Turn.lasts (turn : Turn before after) :
    before.graph.Lasts after.graph := by
  cases turn with
  | note requests graph => exact graph ▸ .refl _
  | refuse place device absent requests graph => exact graph ▸ .refl _
  | grant place region device pointer tracked absent requests graph =>
      rw [graph]
      refine ⟨fun _ => rfl, fun _ _ bound => bound,
        fun other on address held => ?_⟩
      rw [TaskGraph.pointer?_addAllocation tracked, if_neg]
      · exact held
      · rintro ⟨rfl, rfl⟩
        rw [TaskGraph.pointer?_of_region? tracked, absent] at held
        cases held
  | assign id device requests graph =>
      rw [graph]
      exact TaskGraph.lasts_updateNode (fun _ => rfl)
        fun _ _ => Node.device_assign
  | bind id requirement device aims requests graph =>
      rw [graph]
      exact TaskGraph.lasts_updateNode (fun _ => rfl) fun _ _ bound => bound
  | takeUp id state anchors requests graph =>
      rw [graph]
      exact TaskGraph.lasts_updateNode (fun _ => rfl) fun _ _ bound => bound
  | mark place change kept requests graph =>
      rw [graph]
      refine ⟨fun _ => rfl, fun _ _ bound => bound,
        fun other on address held => ?_⟩
      rw [TaskGraph.pointer?_updateRegion kept]
      exact held

private theorem lasts_of_turns (turns : Turns before after) :
    before.graph.Lasts after.graph := by
  induction turns with
  | refl => exact .refl before.graph
  | tail _ turn induction => exact induction.trans turn.lasts

/-- The node that a change leaves under a number, and the one from which it was
made. -/
private theorem eq_or_of_node?_updateNode {graph : TaskGraph}
    {id other : NodeId} {change : Node → Node} {later : Node}
    (found : (graph.updateNode id change).node? other = some later) :
    (other ≠ id ∧ graph.node? other = some later) ∨ (other = id ∧
      ∃ node, graph.node? id = some node ∧ later = change node) := by
  rw [TaskGraph.node?_updateNode] at found
  by_cases here : other = id
  · subst here
    rw [if_pos rfl] at found
    obtain ⟨node, isNode, isLater⟩ := Option.map_eq_some_iff.mp found
    exact .inr ⟨rfl, node, isNode, isLater.symm⟩
  · rw [if_neg here] at found
    exact .inl ⟨here, found⟩

theorem Turn.anchored (turn : Turn before after)
    (anchored : before.graph.Anchored) : after.graph.Anchored := by
  have kept := turn.lasts.pointers
  cases turn with
  | note requests graph => exact graph ▸ anchored
  | refuse place device absent requests graph => exact graph ▸ anchored
  | grant place region device pointer tracked absent requests graph =>
      refine anchored.later kept fun id later found submitted => ?_
      rw [graph] at found
      exact ⟨later, found, submitted, .refl later⟩
  | assign id device requests graph =>
      refine anchored.later kept fun other later found submitted => ?_
      rw [graph] at found
      rcases eq_or_of_node?_updateNode found
        with ⟨_, same⟩ | ⟨rfl, node, isNode, rfl⟩
      · exact ⟨later, same, submitted, .refl later⟩
      · exact ⟨node, isNode, submitted, rfl, fun _ => Node.device_assign, rfl⟩
  | bind id requirement device aims requests graph =>
      intro other later stated found submitted states
      rw [graph] at found
      rcases eq_or_of_node?_updateNode found
        with ⟨_, same⟩ | ⟨rfl, node, isNode, rfl⟩
      · exact (anchored other later stated same submitted states).later
          (.refl later) kept
      -- A node that was submitted before is bound anew to the address that it
      -- has already.
      · obtain ⟨aimed, isAimed, aimedStates, aimedAt⟩ := aims
        rw [isNode] at isAimed
        cases isAimed
        cases aimedStates.symm.trans states
        obtain ⟨place, pointer, bound, held, _⟩ :=
          anchored other node requirement isNode submitted states
        cases aimedAt.symm.trans bound
        exact ⟨device, pointer, bound, kept _ _ _ held, held⟩
  | takeUp id state anchors requests graph =>
      intro other later stated found submitted states
      rw [graph] at found
      rcases eq_or_of_node?_updateNode found
        with ⟨_, same⟩ | ⟨rfl, node, isNode, rfl⟩
      · exact (anchored other later stated same submitted states).later
          (.refl later) kept
      · exact (anchors node stated isNode states).later
          ⟨rfl, fun _ bound => bound, rfl⟩ kept
  | mark place change same requests graph =>
      refine anchored.later kept fun id later found submitted => ?_
      rw [graph] at found
      exact ⟨later, found, submitted, .refl later⟩

theorem anchored_of_turns (turns : Turns before after)
    (anchored : before.graph.Anchored) : after.graph.Anchored := by
  induction turns with
  | refl => exact anchored
  | tail _ turn induction => exact turn.anchored induction

end Turn

section Settle

variable {id : NodeId} {requirement : Requirement} {device : Device}
  {before : Scheduler}

/-- Memory is requested only for a copy that is missing, and a copy that is
there afterwards was there before or lies in the memory that was granted. -/
private theorem turns_ensureAllocation (place : RegionId) (device : Device)
    (before : Scheduler) :
    Leads Turn (ensureAllocation place device) before fun _ after =>
      ∃ pointer, after.graph.pointer? place device = some pointer := by
  simp only [ensureAllocation]
  apply Action.leads_getRegion_bind
  intro region found
  have here := TaskGraph.pointer?_of_region? found device
  split
  · rename_i present
    obtain ⟨allocation, held⟩ := Region.hasAllocation_iff.mp present
    refine leads_pure ⟨allocation.pointer, here.trans ?_⟩
    simp only [Region.pointer?]
    rw [held]
    rfl
  · rename_i absent
    have missing : region.pointer? device = none := by
      simp only [Region.pointer?]
      rw [Region.allocation?_eq_none absent]
      rfl
    split
    · exact leads_throw
    · simp only [Action.requestMemory, bind_assoc, pure_bind]
      apply leads_get_bind
      apply Action.leads_ofExcept_bind
      intro answer _
      obtain ⟨granted, registry⟩ := answer
      cases granted with
      | none =>
          have refused :
              Turn before ({ before with registry }.record
                (.requested place device none)) :=
            .refuse place device (here.trans missing)
              (Scheduler.requests_record _ _) rfl
          exact (leads_modify refused).bind fun _ _ _ _ => leads_throw
      | some pointer =>
          let noted :=
            { before with registry }.record
              (.requested place device (some pointer))
          let added : Scheduler := { noted with
            graph :=
              noted.graph.updateRegion place (·.addAllocation device pointer) }
          -- The request and the new copy are one change: between them, the
          -- books do not agree.
          have granted : Turn before added :=
            .grant place region device pointer found missing
              (Scheduler.requests_record _ _) rfl
          refine ⟨.single granted, pointer, ?_⟩
          exact (TaskGraph.pointer?_addAllocation found device device
            pointer place).trans
            (if_pos ⟨rfl, rfl⟩)

/-- The requirement is bound to the copy of its region. -/
private theorem turns_bindPointer
    (aims : before.graph.Aims id requirement device) {pointer : Pointer}
    (held : before.graph.pointer? requirement.region device = some pointer) :
    Leads Turn (bindPointer id requirement.region device) before fun _ after =>
      after.graph.AnchorsAt id := by
  simp only [bindPointer]
  apply Action.leads_getRegion_bind
  intro region found
  have here := TaskGraph.pointer?_of_region? found device
  rw [← here]
  apply (leads_modify (.bind id requirement device aims rfl rfl)).mono
  intro _ _ _ equal later stated isLater states
  subst equal
  rcases eq_or_of_node?_updateNode isLater
    with ⟨different, _⟩ | ⟨_, node, isNode, rfl⟩
  · exact absurd rfl different
  · obtain ⟨aimed, isAimed, aimedStates, aimedAt⟩ := aims
    rw [isNode] at isAimed
    cases isAimed
    cases aimedStates.symm.trans states
    exact ⟨device, pointer, aimedAt, held, held⟩

private theorem turns_record {event : Event} (silent : event.request? = none)
    (before : Scheduler) :
    Leads Turn (Action.record event) before fun _ _ => True := by
  refine (leads_modify (.note ?_ rfl)).mono fun _ _ _ _ => trivial
  rw [Scheduler.requests_record, silent]
  exact List.append_nil _

private theorem turns_dispatch (node : NodeId) (device : Device)
    (operation : Operation) (executor : Executor)
    (dependencies : List Dependency) (before : Scheduler) :
    Leads Turn (Action.dispatch node device operation executor dependencies)
      before fun _ after =>
      after.graph = before.graph := by
  refine ⟨.single (.note ?_ rfl), rfl⟩
  exact (Scheduler.requests_record _ _).trans (List.append_nil _)

private theorem turns_dispatchCopies (id : NodeId) (device : Device)
    (dependencies : List Dependency)
    (transfers : List (Copy × Executor × Binding)) (before : Scheduler) :
    Leads Turn (dispatchCopies id device dependencies transfers) before
      fun _ after =>
      after.graph = before.graph := by
  induction transfers generalizing before with
  | nil => exact leads_pure rfl
  | cons transfer transfers induction =>
      simp only [dispatchCopies]
      apply (turns_dispatch id device _ _ dependencies before).bind
      intro handle between _ first
      apply (induction between).bind
      intro handles after _ rest
      exact leads_pure (rest.trans first)

private theorem turns_submitTransfers (anchors : before.graph.AnchorsAt id)
    (device : Device) (transfers : List (Copy × Executor × Binding)) :
    Leads Turn (submitTransfers id device transfers) before
      fun _ _ => True := by
  cases transfers with
  | nil =>
      simp only [submitTransfers]
      apply (leads_modify (.takeUp id .satisfied anchors rfl rfl)).bind
      intro _ _ _ _
      exact leads_pure trivial
  | cons transfer transfers =>
      simp only [submitTransfers]
      apply leads_get_bind
      apply (turns_dispatchCopies id device _ _ before).bind
      intro handles between _ same
      apply (leads_modify (.takeUp id _ (same ▸ anchors) rfl rfl)).bind
      intro _ _ _ _
      exact leads_pure trivial

private theorem turns_markAccess (requirement : Requirement) (device : Device)
    (before : Scheduler) :
    Leads Turn (markAccess requirement device) before fun _ _ => True := by
  simp only [markAccess]
  apply Action.leads_getRegion_bind
  intro _ _
  refine (leads_modify
    (.mark requirement.region _ (fun region other => ?_) rfl rfl)).mono
    fun _ _ _ _ => trivial
  split
  · exact Region.pointer?_markCurrent ..
  · exact Region.pointer?_markValid ..

private theorem turns_settle (aims : before.graph.Aims id requirement device) :
    Leads Turn (settle id requirement device) before fun _ _ => True := by
  simp only [settle]
  apply (turns_record rfl before).bind
  intro _ opened steps _
  have aims := aims.lasts (lasts_of_turns steps)
  apply (turns_ensureAllocation requirement.region device opened).bind
  intro _ allocated steps held
  obtain ⟨pointer, held⟩ := held
  have aims := aims.lasts (lasts_of_turns steps)
  apply (turns_bindPointer aims held).bind
  intro _ bound _ anchors
  apply (leads_selectTransfers requirement device bound).bind
  intro transfers _ _ result
  obtain ⟨rfl, _⟩ := result
  apply (turns_submitTransfers anchors device transfers).bind
  intro resolution submitted _ _
  apply (turns_markAccess requirement device submitted).bind
  intro _ marked _ _
  apply (turns_record rfl marked).bind
  intro _ _ _ _
  exact leads_pure trivial

end Settle

section Required

variable {id : NodeId} {resolve : NodeId → Action Resolution}
  {before : Scheduler}

private theorem turns_assignDevices (device : Device) (ids : List NodeId)
    (before : Scheduler) :
    Leads Turn (assignDevices device ids) before fun _ _ => True := by
  induction ids generalizing before with
  | nil => exact leads_pure trivial
  | cons id ids induction =>
      simp only [assignDevices]
      apply Action.leads_getNode_bind
      intro node _
      apply (leads_modify (.assign id _ rfl rfl)).bind
      intro _ between _ _
      exact induction between

private theorem turns_settleRequired
    (resolves : ∀ id before, Leads Turn (resolve id) before fun _ _ => True)
    (dependent : NodeId) (ids : List NodeId) (before : Scheduler) :
    Leads Turn (settleRequired resolve dependent ids) before
      fun _ _ => True := by
  induction ids generalizing before with
  | nil => exact leads_pure trivial
  | cons id ids induction =>
      simp only [settleRequired]
      apply Action.leads_getNode_bind
      intro node _
      split
      · apply (resolves id before).bind
        intro _ between _ _
        exact induction between
      · split
        · exact leads_throw_bind
        · split
          · exact leads_throw_bind
          · exact induction before

private theorem turns_prepareWith
    (resolves : ∀ id before, Leads Turn (resolve id) before fun _ _ => True)
    (id : NodeId) (device : Device) (before : Scheduler) :
    Leads Turn (prepareWith resolve id device) before fun _ _ => True := by
  simp only [prepareWith]
  apply leads_get_bind
  apply (turns_assignDevices device _ before).bind
  intro _ between _ _
  exact turns_settleRequired resolves id _ between

private theorem turns_resolveWith
    (resolves : ∀ id before, Leads Turn (resolve id) before fun _ _ => True)
    (id : NodeId) (before : Scheduler) :
    Leads Turn (resolveWith resolve id) before fun _ _ => True := by
  simp only [resolveWith]
  apply Action.leads_getNode_bind
  intro node found
  split
  · rename_i requirement states
    split
    · exact leads_pure trivial
    · split
      · exact leads_throw
      · split
        · exact leads_throw
        · rename_i device chosen
          apply (leads_modify (.assign id device rfl rfl)).bind
          intro _ _ _ equal
          subst equal
          have aims :
              (before.graph.updateNode id (·.assign device)).Aims id
                requirement device := by
            refine ⟨node.assign device, ?_, states, ?_⟩
            · exact TaskGraph.node?_updateNode_self found
            · cases bound : node.device with
              | none => simp [Node.assign, bound]
              | some place =>
                  rw [bound] at chosen
                  cases chosen
                  exact Node.device_assign bound
          apply (turns_prepareWith resolves id device _).bind
          intro _ ready steps _
          exact turns_settle (aims.lasts (lasts_of_turns steps))
  · exact leads_pure trivial

private theorem turns_resolveWithin (depth : Nat) :
    ∀ id before,
      Leads Turn (resolveWithin depth id) before fun _ _ => True := by
  induction depth with
  | zero => exact fun _ _ => leads_throw
  | succ depth induction => exact turns_resolveWith induction

theorem turns_resolve (id : NodeId) (before : Scheduler) :
    Leads Turn (Submission.resolve id) before fun _ _ => True :=
  turns_resolveWithin (id + 1) id before

theorem turns_prepare (id : NodeId) (device : Device) (before : Scheduler) :
    Leads Turn (prepare id device) before fun _ _ => True :=
  turns_prepareWith turns_resolve id device before

end Required

section Submit

variable {id : NodeId} {before : Scheduler}

private theorem turns_launch (anchors : before.graph.AnchorsAt id)
    (operation : Operation) (device : Device) :
    Leads Turn (launch id operation device) before fun _ _ => True := by
  simp only [launch]
  apply leads_get_bind
  apply Action.leads_ofExcept_bind
  intro selected _
  apply (turns_dispatch id device operation _ _ before).bind
  intro handle between _ same
  exact (leads_modify (.takeUp id _ (same ▸ anchors) rfl rfl)).mono
    fun _ _ _ _ => trivial

private theorem turns_keepSourceValid (id : NodeId) (copy : Copy)
    (before : Scheduler) :
    Leads Turn (keepSourceValid id copy) before fun _ _ => True := by
  simp only [keepSourceValid]
  apply leads_get_bind
  split
  · apply Action.leads_getRegion_bind
    intro _ _
    exact (leads_modify (.mark copy.source.region _
      (fun _ _ => Region.pointer?_markValid ..) rfl rfl)).mono
      fun _ _ _ _ => trivial
  · exact leads_pure trivial

private theorem turns_registerSubmitted (id : NodeId) (before : Scheduler) :
    Leads Turn (registerSubmitted id) before fun _ _ => True := by
  simp only [registerSubmitted]
  apply Action.leads_getNode_bind
  intro node _
  exact (leads_modify (.note rfl rfl)).mono fun _ _ _ _ => trivial

/-- What is launched behind the preparations is not a requirement, so that it
needs no copy. -/
private theorem turns_prepare_launch {node : Node}
    (found : before.graph.node? id = some node)
    (explicit : node.operation.isRequirement = false) (device : Device)
    {rest : Action Unit}
    (finishes : ∀ launched, Leads Turn rest launched fun _ _ => True) :
    Leads Turn
      (do prepare id device; launch id node.operation device; rest) before
      fun _ _ => True := by
  apply (turns_prepare id device before).bind
  intro _ ready steps _
  have anchors : ready.graph.AnchorsAt id := by
    apply TaskGraph.AnchorsAt.of_explicit
    intro later isLater
    obtain ⟨counterpart, isNode, operation, _⟩ :=
      (lasts_of_turns steps).sameNodes.node found
    cases isNode.symm.trans isLater
    exact operation ▸ explicit
  apply (turns_launch anchors node.operation device).bind
  intro _ launched _ _
  exact finishes launched

private theorem turns_carryOut {node : Node}
    (found : before.graph.node? id = some node) (device : Device) :
    Leads Turn (carryOut id device node.operation) before fun _ _ => True := by
  cases explicit : node.operation.isRequirement with
  | true =>
      obtain ⟨requirement, operation⟩ := Operation.isRequirement_iff.mp explicit
      rw [operation]
      apply (turns_resolve id before).bind
      intro _ resolved _ _
      exact turns_registerSubmitted id resolved
  | false =>
      rw [carryOut_of_explicit id device explicit]
      apply turns_prepare_launch found explicit device
      intro launched
      cases node.operation with
      | requirement requirement => exact turns_registerSubmitted id launched
      | kernel kernel => exact turns_registerSubmitted id launched
      | copy copy =>
          apply (turns_keepSourceValid id copy launched).bind
          intro _ kept _ _
          exact turns_registerSubmitted id kept

private theorem turns_submitNew (id : NodeId) (before : Scheduler) :
    Leads Turn (submitNew id) before fun _ _ => True := by
  rw [submitNew_eq_bind]
  apply Action.leads_getNode_bind
  intro node found
  split
  · exact leads_throw
  · rename_i device _
    apply (leads_modify (.assign id device rfl rfl)).bind
    intro _ _ _ equal
    subst equal
    let assigned : Scheduler := { before with
      graph := before.graph.updateNode id (·.assign device) }
    have isNode : assigned.graph.node? id = some (node.assign device) :=
      TaskGraph.node?_updateNode_self found
    have turns := turns_carryOut isNode device
    exact turns

/-- A submission consists of changes like these, and if it fails, it is given up
after them. -/
theorem submit_cases (id : NodeId) (before : Scheduler) :
    ∃ stopped,
      Turns before stopped ∧ (Action.outcome (submit id) before = stopped ∨
        ∃ cause, Action.outcome (submit id) before =
          giveUp before stopped id cause) := by
  have turns := turns_submitNew id before
  simp only [Action.outcome, submit]
  cases before.graph.node? id with
  | none => exact ⟨before, .refl, .inl rfl⟩
  | some node =>
      by_cases waits : node.isUnsubmitted = true
      · simp only [waits, if_true]
        cases result : submitNew id before with
        | ok value after => exact ⟨after, (turns.ok result).1, .inl rfl⟩
        | error cause after =>
            exact ⟨after, turns.error result, .inr ⟨cause, rfl⟩⟩
      · simp only [waits]
        exact ⟨before, .refl, .inl rfl⟩

end Submit

end Submission

end CoherentTasks
