import CoherentTasks.Proofs.Coherence.SingleWriter
import CoherentTasks.Proofs.Submission.Submit

/-!
# What a submission reaches

A submission works for its node and for what the node depends on. Every other
node stays as it was, and so does every region that none of their requirements
names. In a region that they name, an element outside their windows stays valid
and current where it was. Every single change keeps to this, and so does
whatever is made of such changes, whether or not it stops with an error.
-/

namespace CoherentTasks

open CoherentTasks.Backend (Executor)
open CoherentTasks.Coherence (Region)
open CoherentTasks.Computation
open CoherentTasks.Geometry (Box Triple)
open CoherentTasks.Graph (Binding Copy Node Operation Requirement TaskGraph)

namespace Coherence.Region

/-- Only touched elements have become valid or current anywhere, or have ceased
to be so. -/
structure ChangesWithin (touched : Triple → Prop) (before after : Region) :
    Prop where
  valid : ∀ device position, ¬ touched position →
    (position ∈ after.validOn device ↔ position ∈ before.validOn device)
  current : ∀ device position, ¬ touched position →
    (position ∈ after.currentOn device ↔ position ∈ before.currentOn device)

section ChangesWithin

variable {touched wider : Triple → Prop} {first second third region : Region}
  {device : Device} {window : Box}

theorem ChangesWithin.refl (touched : Triple → Prop) (region : Region) :
    ChangesWithin touched region region :=
  ⟨fun _ _ _ => Iff.rfl, fun _ _ _ => Iff.rfl⟩

theorem ChangesWithin.trans (start : ChangesWithin touched first second)
    (rest : ChangesWithin touched second third) :
    ChangesWithin touched first third where
  valid device position apart :=
    (rest.valid device position apart).trans (start.valid device position apart)
  current device position apart :=
    (rest.current device position apart).trans
      (start.current device position apart)

theorem ChangesWithin.mono (changes : ChangesWithin touched first second)
    (implies : ∀ position, touched position → wider position) :
    ChangesWithin wider first second where
  valid device position apart :=
    changes.valid device position fun inside => apart (implies _ inside)
  current device position apart :=
    changes.current device position fun inside => apart (implies _ inside)

/-- A new copy holds nothing, so that it makes no difference to any element. -/
theorem changesWithin_addAllocation (touched : Triple → Prop)
    (pointer : Pointer) (absent : region.hasAllocation device = false) :
    ChangesWithin touched region (region.addAllocation device pointer) := by
  have valid : region.validOn device = .empty :=
    validOn_of_absent (by simp [absent])
  have current : region.currentOn device = .empty :=
    currentOn_of_absent (by simp [absent])
  constructor
  case valid =>
    intro other position _
    rw [validOn_addAllocation]
    by_cases here : other = device
    · simp [here, valid]
    · simp [here]
  case current =>
    intro other position _
    rw [currentOn_addAllocation]
    by_cases here : other = device
    · simp [here, current]
    · simp [here]

theorem changesWithin_markValid (region : Region) (device : Device)
    (window : Box) :
    ChangesWithin (· ∈ window) region (region.markValid device window) where
  valid other position apart := by
    rw [mem_validOn_markValid]
    exact or_iff_left fun inside => apart inside.2.2
  current other position _ := by
    rw [currentOn_markValid]

theorem changesWithin_markCurrent (region : Region) (device : Device)
    (window : Box) :
    ChangesWithin (· ∈ window) region (region.markCurrent device window) := by
  by_cases present : region.hasAllocation device = true
  · constructor
    case valid =>
      intro other position apart
      by_cases here : other = device
      · rw [here, mem_validOn_markCurrent_self present]
        exact or_iff_left apart
      · rw [mem_validOn_markCurrent_other present here]
        exact and_iff_left apart
    case current =>
      intro other position apart
      by_cases here : other = device
      · rw [here, mem_currentOn_markCurrent_self present]
        exact or_iff_left apart
      · rw [mem_currentOn_markCurrent_other present here]
        exact and_iff_left apart
  · simp only [markCurrent]
    rw [if_neg present]
    exact .refl _ region

end ChangesWithin

end Coherence.Region

namespace Graph.TaskGraph

/-- The node itself, or one that it depends on. -/
def Involves (graph : TaskGraph) (root id : NodeId) : Prop :=
  id = root ∨ graph.DependsOn root id

/-- The node, or one that it depends on, states the requirement. -/
def Demands (graph : TaskGraph) (root : NodeId) (requirement : Requirement) :
    Prop :=
  ∃ id node, graph.Involves root id ∧ graph.node? id = some node ∧
    node.operation = .requirement requirement

/-- The element lies in a window of the region that is demanded for the node. -/
def DemandsAt (graph : TaskGraph) (root : NodeId) (region : RegionId)
    (position : Triple) : Prop :=
  ∃ requirement, graph.Demands root requirement ∧ requirement.region = region ∧
    position ∈ requirement.window

/-- From one graph to the other, nothing has changed but what the node involves:
other nodes are the same, regions that are not demanded are the same, and in the
others no element outside the demanded windows has become or ceased to be valid
or current on any device. -/
structure Confined (root : NodeId) (before after : TaskGraph) : Prop where
  sameNodes : before.SameNodes after
  nodes : ∀ id, ¬ before.Involves root id → after.node? id = before.node? id
  regions : ∀ id,
    (∀ requirement, before.Demands root requirement → requirement.region ≠ id) →
    after.region? id = before.region? id
  elements : ∀ {id region}, before.region? id = some region →
    ∃ later, after.region? id = some later ∧
      region.ChangesWithin (before.DemandsAt root id) later

section Confined

variable {root : NodeId} {first second third graph : TaskGraph}

theorem Involves.required {id required : NodeId}
    (involved : graph.Involves root id) (edge : graph.Requires id required) :
    graph.Involves root required := by
  rcases involved with rfl | reached
  · exact .inr (.single edge)
  · exact .inr (.tail reached edge)

theorem SameNodes.involves (same : first.SameNodes second) :
    first.Involves = second.Involves := by
  funext root id
  simp only [Involves]
  rw [same.dependsOn]

theorem Demands.of_sameNodes {requirement : Requirement}
    (same : first.SameNodes second)
    (demanded : first.Demands root requirement) :
    second.Demands root requirement := by
  obtain ⟨id, node, involved, found, states⟩ := demanded
  obtain ⟨counterpart, isNode, operation, _⟩ := same.node found
  exact ⟨id, counterpart, same.involves ▸ involved, isNode,
    operation.trans states⟩

theorem SameNodes.demands (same : first.SameNodes second) :
    first.Demands = second.Demands := by
  funext root requirement
  exact propext ⟨.of_sameNodes same, .of_sameNodes same.symm⟩

theorem SameNodes.demandsAt (same : first.SameNodes second) :
    first.DemandsAt = second.DemandsAt := by
  funext root region position
  simp only [DemandsAt]
  rw [same.demands]

theorem Confined.refl (root : NodeId) (graph : TaskGraph) :
    Confined root graph graph where
  sameNodes := .refl graph
  nodes _ _ := rfl
  regions _ _ := rfl
  elements found := ⟨_, found, .refl _ _⟩

theorem Confined.trans (start : Confined root first second)
    (rest : Confined root second third) : Confined root first third where
  sameNodes := start.sameNodes.trans rest.sameNodes
  nodes id apart :=
    (rest.nodes id (start.sameNodes.involves ▸ apart)).trans
      (start.nodes id apart)
  regions id unnamed :=
    (rest.regions id (start.sameNodes.demands ▸ unnamed)).trans
      (start.regions id unnamed)
  elements found := by
    obtain ⟨middle, isMiddle, changes⟩ := start.elements found
    obtain ⟨last, isLast, further⟩ := rest.elements isMiddle
    rw [← start.sameNodes.demandsAt] at further
    exact ⟨last, isLast, changes.trans further⟩

theorem confined_updateNode {id : NodeId} {change : Node → Node}
    (involved : graph.Involves root id)
    (created : ∀ node, (change node).created = node.created) :
    Confined root graph (graph.updateNode id change) where
  sameNodes := sameNodes_updateNode graph id created
  nodes _ apart := node?_updateNode_other fun equal => apart (equal ▸ involved)
  regions _ _ := rfl
  elements found := ⟨_, found, .refl _ _⟩

theorem confined_updateRegion {requirement : Requirement}
    {change : Region → Region} (demanded : graph.Demands root requirement)
    (within : ∀ region, graph.region? requirement.region = some region →
      region.ChangesWithin (· ∈ requirement.window) (change region)) :
    Confined root graph (graph.updateRegion requirement.region change) where
  sameNodes _ := rfl
  nodes _ _ := rfl
  regions id unnamed := by
    rw [region?_updateRegion, if_neg (unnamed requirement demanded).symm]
  elements {id region} found := by
    rw [region?_updateRegion]
    split
    · rename_i named
      subst named
      rw [found]
      exact ⟨change region, rfl, (within region found).mono
        fun position inside => ⟨requirement, demanded, rfl, inside⟩⟩
    · exact ⟨region, found, .refl _ _⟩

theorem Confined.state?_of_apart (confined : Confined root first second)
    {id : NodeId} (apart : ¬ first.Involves root id) :
    second.state? id = first.state? id := by
  simp only [state?]
  rw [confined.nodes id apart]

end Confined

end Graph.TaskGraph

namespace Submission

/-- One change that is made for the root: to a node that it involves, or to
elements of a window that is demanded for it. Both are read off the graph at the
start, whose edges last. -/
inductive Touch (start : TaskGraph) (root : NodeId) (before after : Scheduler) :
    Prop where
  | note (graph : after.graph = before.graph)
  | node (id : NodeId) (change : Node → Node)
      (involved : start.Involves root id)
      (created : ∀ node, (change node).created = node.created)
      (graph : after.graph = before.graph.updateNode id change)
  | region (requirement : Requirement) (change : Region → Region)
      (demanded : start.Demands root requirement)
      (within : ∀ region,
        before.graph.region? requirement.region = some region →
        region.ChangesWithin (· ∈ requirement.window) (change region))
      (graph :
        after.graph = before.graph.updateRegion requirement.region change)

abbrev Touches (start : TaskGraph) (root : NodeId) :
    Scheduler → Scheduler → Prop :=
  Relation.ReflTransGen (Touch start root)

section Touch

variable {start : TaskGraph} {root : NodeId} {before after : Scheduler}

theorem Touch.confined (touch : Touch start root before after)
    (same : start.SameNodes before.graph) :
    before.graph.Confined root after.graph := by
  cases touch with
  | note graph =>
      rw [graph]
      exact .refl root before.graph
  | node id change involved created graph =>
      rw [graph]
      exact TaskGraph.confined_updateNode (same.involves ▸ involved) created
  | region requirement change demanded within graph =>
      rw [graph]
      exact TaskGraph.confined_updateRegion (same.demands ▸ demanded) within

/-- However many changes are made for the root, together they are confined to
what it involves. -/
theorem confined_of_touches (touches : Touches start root before after)
    (same : start.SameNodes before.graph) :
    before.graph.Confined root after.graph := by
  induction touches with
  | refl => exact .refl root before.graph
  | tail _ touch induction =>
      exact induction.trans (touch.confined (same.trans induction.sameNodes))

end Touch

/-- As long as the edges are those at the start, everything that an action
changes is changed for the root, also when the action stops with an error. -/
def WorksFor (start : TaskGraph) (root : NodeId) {Value : Type}
    (action : Action Value) (before : Scheduler) : Prop :=
  start.SameNodes before.graph → Leads (Touch start root) action before
    fun _ after => start.SameNodes after.graph

section Elementary

variable {start : TaskGraph} {root : NodeId} {Value Other : Type}
  {before : Scheduler}

theorem WorksFor.of_leads {action : Action Value}
    {goal : Value → Scheduler → Prop}
    (leads : Leads (Touch start root) action before goal) :
    WorksFor start root action before :=
  fun same => leads.mono fun _ _ touches _ =>
    same.trans (confined_of_touches touches same).sameNodes

private theorem worksFor_pure (value : Value) :
    WorksFor start root (pure value) before :=
  fun same => leads_pure same

private theorem worksFor_throw (cause : Error) :
    WorksFor start root (throw cause : Action Value) before :=
  fun _ => leads_throw

theorem WorksFor.bind {first : Action Other} {next : Other → Action Value}
    (begins : WorksFor start root first before)
    (rest : ∀ value between, WorksFor start root (next value) between) :
    WorksFor start root (first >>= next) before :=
  fun same => Leads.bind (begins same)
    fun value between _ reached => rest value between reached

private theorem worksFor_get_bind {next : Scheduler → Action Value}
    (rest : WorksFor start root (next before) before) :
    WorksFor start root (get >>= next) before :=
  fun same => leads_get_bind (rest same)

private theorem worksFor_getNode_bind {id : NodeId} {next : Node → Action Value}
    (rest : ∀ node, before.graph.node? id = some node →
      WorksFor start root (next node) before) :
    WorksFor start root (Action.getNode id >>= next) before :=
  fun same => Action.leads_getNode_bind fun node found => rest node found same

private theorem worksFor_getRegion_bind {id : RegionId}
    {next : Region → Action Value}
    (rest : ∀ region, before.graph.region? id = some region →
      WorksFor start root (next region) before) :
    WorksFor start root (Action.getRegion id >>= next) before :=
  fun same =>
    Action.leads_getRegion_bind fun region found => rest region found same

private theorem worksFor_ofExcept_bind {result : Except Error Other}
    {next : Other → Action Value}
    (rest : ∀ value, WorksFor start root (next value) before) :
    WorksFor start root (Action.ofExcept result >>= next) before :=
  fun same => Action.leads_ofExcept_bind fun value _ => rest value same

private theorem worksFor_changeNode {id : NodeId} {change : Node → Node}
    (involved : start.Involves root id)
    (created : ∀ node, (change node).created = node.created) :
    WorksFor start root (Action.changeNode id change) before :=
  .of_leads (leads_modify (.node id change involved created rfl))

private theorem worksFor_changeRegion {requirement : Requirement}
    {change : Region → Region} (demanded : start.Demands root requirement)
    (within : ∀ region, before.graph.region? requirement.region = some region →
      region.ChangesWithin (· ∈ requirement.window) (change region)) :
    WorksFor start root
      (Action.changeRegion requirement.region change) before :=
  .of_leads (leads_modify (.region requirement change demanded within rfl))

/-- Whatever is noted beside the graph. -/
private theorem worksFor_modify {change : Scheduler → Scheduler}
    (graph : (change before).graph = before.graph) :
    WorksFor start root (modify change : Action PUnit) before :=
  .of_leads (leads_modify (.note graph))

private theorem worksFor_dispatch (node : NodeId) (device : Device)
    (operation : Operation) (executor : Executor)
    (dependencies : List Dependency) :
    WorksFor start root
      (Action.dispatch node device operation executor dependencies) before :=
  fun same => ⟨.single (.note rfl), same⟩

end Elementary

section Settle

variable {start : TaskGraph} {root id : NodeId} {requirement : Requirement}
  {before : Scheduler}

private theorem worksFor_ensureAllocation
    (demanded : start.Demands root requirement) (device : Device) :
    WorksFor start root
      (ensureAllocation requirement.region device) before := by
  simp only [ensureAllocation]
  apply worksFor_getRegion_bind
  intro region found
  split
  · exact worksFor_pure ()
  · rename_i absent
    split
    · exact worksFor_throw _
    · intro same
      apply (Action.leads_requestMemory requirement.region device _
        fun _ _ _ => .note rfl).bind
      intro granted between _ sameGraph
      cases granted with
      | none => exact leads_throw
      | some pointer =>
          rw [← sameGraph] at found same
          refine worksFor_changeRegion demanded (fun other isRegion => ?_) same
          rw [found] at isRegion
          cases isRegion
          exact Region.changesWithin_addAllocation _ pointer
            (by simpa using absent)

private theorem worksFor_bindPointer (involved : start.Involves root id)
    (region : RegionId) (device : Device) :
    WorksFor start root (bindPointer id region device) before := by
  simp only [bindPointer]
  apply worksFor_getRegion_bind
  intro found _
  exact worksFor_changeNode involved fun _ => rfl

private theorem worksFor_selectTransfers (requirement : Requirement)
    (device : Device) :
    WorksFor start root (selectTransfers requirement device) before :=
  .of_leads (leads_selectTransfers requirement device before)

private theorem worksFor_dispatchCopies (id : NodeId) (device : Device)
    (dependencies : List Dependency)
    (transfers : List (Copy × Executor × Binding)) :
    WorksFor start root
      (dispatchCopies id device dependencies transfers) before := by
  induction transfers generalizing before with
  | nil => exact worksFor_pure []
  | cons transfer transfers induction =>
      simp only [dispatchCopies]
      apply (worksFor_dispatch id device _ _ dependencies).bind
      intro handle between
      apply induction.bind
      intro handles after
      exact worksFor_pure _

private theorem worksFor_submitTransfers (involved : start.Involves root id)
    (device : Device) (transfers : List (Copy × Executor × Binding)) :
    WorksFor start root (submitTransfers id device transfers) before := by
  cases transfers with
  | nil =>
      simp only [submitTransfers]
      refine .bind (worksFor_changeNode involved fun _ => rfl) fun _ _ => ?_
      exact worksFor_pure _
  | cons transfer transfers =>
      simp only [submitTransfers]
      apply worksFor_get_bind
      apply (worksFor_dispatchCopies id device _ _).bind
      intro handles between
      refine .bind (worksFor_changeNode involved fun _ => rfl) fun _ _ => ?_
      exact worksFor_pure _

private theorem worksFor_markAccess (demanded : start.Demands root requirement)
    (device : Device) :
    WorksFor start root (markAccess requirement device) before := by
  simp only [markAccess]
  apply worksFor_getRegion_bind
  intro _ _
  refine worksFor_changeRegion demanded fun region _ => ?_
  split
  · exact Region.changesWithin_markCurrent region device requirement.window
  · exact Region.changesWithin_markValid region device requirement.window

private theorem worksFor_settle (involved : start.Involves root id)
    (demanded : start.Demands root requirement) (device : Device) :
    WorksFor start root (settle id requirement device) before := by
  simp only [settle]
  apply (worksFor_modify rfl).bind
  intro _ _
  apply (worksFor_ensureAllocation demanded device).bind
  intro _ _
  apply (worksFor_bindPointer involved _ device).bind
  intro _ _
  apply (worksFor_selectTransfers requirement device).bind
  intro transfers _
  apply (worksFor_submitTransfers involved device transfers).bind
  intro resolution _
  apply (worksFor_markAccess demanded device).bind
  intro _ _
  apply (worksFor_modify rfl).bind
  intro _ _
  exact worksFor_pure resolution

end Settle

section Required

variable {start : TaskGraph} {root id : NodeId} {before : Scheduler}
  {resolve : NodeId → Action Resolution}

private theorem worksFor_assignDevices (device : Device) {ids : List NodeId}
    (involved : ∀ id ∈ ids, start.Involves root id) :
    WorksFor start root (assignDevices device ids) before := by
  induction ids generalizing before with
  | nil => exact worksFor_pure ()
  | cons id ids induction =>
      obtain ⟨here, later⟩ := List.forall_mem_cons.mp involved
      simp only [assignDevices]
      apply worksFor_getNode_bind
      intro node _
      refine .bind (worksFor_changeNode here fun _ => rfl) fun _ _ => ?_
      exact induction later

private theorem worksFor_settleRequired
    (resolves : ∀ id before,
      start.Involves root id → WorksFor start root (resolve id) before)
    (dependent : NodeId) {ids : List NodeId}
    (involved : ∀ id ∈ ids, start.Involves root id) :
    WorksFor start root (settleRequired resolve dependent ids) before := by
  induction ids generalizing before with
  | nil => exact worksFor_pure ()
  | cons id ids induction =>
      obtain ⟨here, later⟩ := List.forall_mem_cons.mp involved
      simp only [settleRequired]
      apply worksFor_getNode_bind
      intro node _
      split
      · apply (resolves id before here).bind
        intro _ _
        exact induction later
      · split
        · exact (worksFor_throw _).bind fun _ _ => induction later
        · split
          · exact (worksFor_throw _).bind fun _ _ => induction later
          · exact induction later

/-- What an involved node requires is involved. -/
private theorem involves_requirementsOf (same : start.SameNodes before.graph)
    (involved : start.Involves root id) :
    ∀ required ∈ before.graph.requirementsOf id, start.Involves root required :=
  fun _ member => involved.required (same.requires ▸ member)

private theorem worksFor_prepareWith
    (resolves : ∀ id before,
      start.Involves root id → WorksFor start root (resolve id) before)
    (involved : start.Involves root id) (device : Device) :
    WorksFor start root (prepareWith resolve id device) before := by
  simp only [prepareWith]
  apply worksFor_get_bind
  intro same
  have required := involves_requirementsOf same involved
  refine WorksFor.bind (worksFor_assignDevices device required)
    (fun _ _ => ?_) same
  exact worksFor_settleRequired resolves id required

private theorem worksFor_resolveWith
    (resolves : ∀ id before,
      start.Involves root id → WorksFor start root (resolve id) before)
    (involved : start.Involves root id) :
    WorksFor start root (resolveWith resolve id) before := by
  simp only [resolveWith]
  apply worksFor_getNode_bind
  intro node found
  split
  · rename_i requirement states
    split
    · exact worksFor_pure _
    · split
      · exact worksFor_throw _
      · split
        · exact worksFor_throw _
        · rename_i device _
          intro same
          have demanded : start.Demands root requirement :=
            .of_sameNodes same.symm
              ⟨id, node, same.involves ▸ involved, found, states⟩
          refine WorksFor.bind (worksFor_changeNode involved fun _ => rfl)
            (fun _ _ => ?_) same
          apply (worksFor_prepareWith resolves involved device).bind
          intro _ _
          exact worksFor_settle involved demanded device
  · exact worksFor_pure _

/-- A resolution changes no more than it should, however many requirements it
goes through. -/
private theorem worksFor_resolveWithin (depth : Nat) :
    ∀ id before, start.Involves root id →
      WorksFor start root (resolveWithin depth id) before := by
  induction depth with
  | zero => exact fun _ _ _ => worksFor_throw _
  | succ depth induction =>
      exact fun _ _ involved => worksFor_resolveWith induction involved

private theorem worksFor_resolve (involved : start.Involves root id) :
    WorksFor start root (Submission.resolve id) before :=
  worksFor_resolveWithin (id + 1) id before involved

private theorem worksFor_prepare (involved : start.Involves root id)
    (device : Device) : WorksFor start root (prepare id device) before :=
  worksFor_prepareWith (fun _ _ => worksFor_resolve) involved device

end Required

section Submit

variable {start : TaskGraph} {root : NodeId} {before : Scheduler}

private theorem worksFor_launch (operation : Operation) (device : Device) :
    WorksFor start root (launch root operation device) before := by
  simp only [launch]
  apply worksFor_get_bind
  apply worksFor_ofExcept_bind
  intro selected
  apply (worksFor_dispatch root device operation _ _).bind
  intro handle _
  exact worksFor_changeNode (.inl rfl) fun _ => rfl

/-- The source of a copy lies in the window of the requirement that guards
it. -/
private theorem worksFor_keepSourceValid (copy : Copy) :
    WorksFor start root (keepSourceValid root copy) before := by
  simp only [keepSourceValid]
  apply worksFor_get_bind
  split
  · rename_i guarded
    intro same
    obtain ⟨guard, member, guards⟩ := List.any_eq_true.mp guarded
    obtain ⟨required, edge, found⟩ := List.mem_filterMap.mp member
    simp only [guardsSource, Bool.and_eq_true] at guards
    obtain ⟨_, inside⟩ := guards
    split at inside
    · rename_i requirement states
      simp only [Bool.and_eq_true, beq_iff_eq] at inside
      obtain ⟨⟨named, _⟩, inside⟩ := inside
      have involved : before.graph.Involves root required := .inr (.single edge)
      have demanded : start.Demands root requirement :=
        .of_sameNodes same.symm ⟨required, guard, involved, found,
          Operation.requirement?_eq_some_iff.mp states⟩
      rw [← named]
      refine worksFor_getRegion_bind (fun _ _ => ?_) same
      refine worksFor_changeRegion demanded fun region _ => ?_
      exact (Region.changesWithin_markValid region copy.source.device
        copy.sourceBox).mono
        fun _ => Box.mem_of_contains inside
    · cases inside
  · exact worksFor_pure ()

private theorem worksFor_undertake (device : Device) (operation : Operation) :
    WorksFor start root (undertake root device operation) before := by
  cases operation with
  | requirement requirement =>
      apply (worksFor_resolve (.inl rfl)).bind
      intro _ _
      exact worksFor_pure ()
  | kernel kernel =>
      apply (worksFor_prepare (.inl rfl) device).bind
      intro _ _
      exact worksFor_launch _ device
  | copy copy =>
      apply (worksFor_prepare (.inl rfl) device).bind
      intro _ _
      apply (worksFor_launch _ device).bind
      intro _ _
      exact worksFor_keepSourceValid copy

theorem worksFor_submitNew : WorksFor start root (submitNew root) before := by
  rw [submitNew_eq_bind]
  apply worksFor_getNode_bind
  intro node _
  split
  · exact worksFor_throw _
  · rename_i device _
    refine .bind (worksFor_changeNode (.inl rfl) fun _ => rfl) fun _ _ => ?_
    rw [carryOut_eq]
    apply (worksFor_undertake device node.operation).bind
    intro _ _
    simp only [registerSubmitted]
    apply worksFor_getNode_bind
    intro _ _
    exact worksFor_modify rfl

end Submit

section Parts

variable {root : NodeId} {before : Scheduler}

theorem WorksFor.confined {Value : Type} {action : Action Value}
    (works : WorksFor before.graph root action before) :
    before.graph.Confined root (Action.outcome action before).graph :=
  confined_of_touches (Action.leads_outcome (works (.refl before.graph)))
    (.refl before.graph)

/-- To resolve a requirement on its own changes nothing but what its node
involves. -/
theorem confined_resolve (id : NodeId) (before : Scheduler) :
    before.graph.Confined id (Action.outcome (resolve id) before).graph :=
  WorksFor.confined (worksFor_resolve (.inl rfl))

/-- To prepare a node on its own changes nothing but what the node involves. -/
theorem confined_prepare (id : NodeId) (device : Device) (before : Scheduler) :
    before.graph.Confined id
      (Action.outcome (prepare id device) before).graph :=
  WorksFor.confined (worksFor_prepare (.inl rfl) device)

end Parts

end Submission

end CoherentTasks
