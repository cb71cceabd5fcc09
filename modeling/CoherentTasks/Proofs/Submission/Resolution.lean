import CoherentTasks.Proofs.Submission.Settlement

/-!
# Resolving requirements

Everything that is done to resolve a requirement, and to prepare a node,
consists of moves, also when it stops with an error. When it does not, the
requirement is submitted, and so is everything that the prepared node requires.
Nodes that are required have smaller numbers, so a node still waits when what it
requires has been resolved.
-/

namespace CoherentTasks.Submission

open CoherentTasks.Computation
open CoherentTasks.Graph (Node Requirement TaskGraph)

variable {root bound : NodeId}

/-- The node of this number states a requirement. -/
def StatesRequirement (graph : TaskGraph) (id : NodeId) : Prop :=
  ∃ node requirement,
    graph.node? id = some node ∧ node.operation = .requirement requirement

theorem statesRequirement_iff {graph : TaskGraph} {id : NodeId} {node : Node}
    (found : graph.node? id = some node) :
    StatesRequirement graph id ↔ node.operation.isRequirement = true := by
  rw [Graph.Operation.isRequirement_iff]
  constructor
  · intro states
    obtain ⟨other, requirement, isOther, operation⟩ := states
    rw [found] at isOther
    cases isOther
    exact ⟨requirement, operation⟩
  · intro states
    obtain ⟨requirement, operation⟩ := states
    exact ⟨node, requirement, found, operation⟩

theorem StatesRequirement.of_sameNodes {graph other : TaskGraph}
    (same : graph.SameNodes other) {id : NodeId}
    (states : StatesRequirement graph id) : StatesRequirement other id := by
  obtain ⟨node, requirement, found, operation⟩ := states
  obtain ⟨counterpart, isNode, unchanged, _⟩ := same.node found
  exact ⟨counterpart, requirement, isNode, unchanged.trans operation⟩

theorem Directs.of_sameNodes {graph other : TaskGraph}
    (same : graph.SameNodes other) {id : NodeId}
    (directs : Directs graph root id) : Directs other root id :=
  directs.imp_right (StatesRequirement.of_sameNodes same)

/-- The outcome of resolving a requirement: it was submitted before, or it has
just been settled. -/
def Resolved (root id : NodeId) (before after : Scheduler) : Prop :=
  (before.graph.Submitted id ∧ before = after) ∨
  ∃ node requirement device region copies made between,
    Moves root (id + 1) before between ∧
    Settles root id node requirement device region copies made between after

theorem Resolved.submitted {id : NodeId} {before after : Scheduler}
    (resolved : Resolved root id before after) : after.graph.Submitted id := by
  rcases resolved with ⟨submitted, rfl⟩ | ⟨_, _, _, _, _, _, _, _, settles⟩
  · exact submitted
  · exact settles.takesUp.submitted_self

/-- What a way to resolve requirements has to achieve. -/
def Resolves (root : NodeId) (resolve : NodeId → Action Resolution) : Prop :=
  ∀ id before, before.graph.WellFormed → StatesRequirement before.graph id →
    InTurn before.graph root id → Leads (Move root (id + 1)) (resolve id) before
      fun _ after => Resolved root id before after

theorem leads_assignDevices (device : Device) (ids : List NodeId)
    (before : Scheduler) :
    Leads (Move root bound) (assignDevices device ids) before fun _ after =>
      after.graph.regions = before.graph.regions ∧
        ∀ id, after.graph.state? id = before.graph.state? id := by
  induction ids generalizing before with
  | nil => exact leads_pure ⟨rfl, fun _ => rfl⟩
  | cons id ids induction =>
      simp only [assignDevices]
      apply Action.leads_getNode_bind
      intro node found
      have fits : node.device = none →
          node.hint.getD (node.hint.getD device) = node.hint.getD device := by
        cases node.hint <;> simp
      refine (leads_modify
        (.assign id _ node ⟨rfl, rfl, .refl _⟩ found fits rfl)).bind ?_
      intro _ _ _ equal
      subst equal
      apply (induction _).mono
      intro _ after _ result
      obtain ⟨sameRegions, sameStates⟩ := result
      refine ⟨sameRegions, fun other => (sameStates other).trans ?_⟩
      exact TaskGraph.state?_updateNode _ _ _ fun _ => rfl

/-- A node is being prepared for `root`. Of what it requires, `done` is
submitted and `ids` comes next. -/
structure Preparing (root dependent : NodeId) (done ids : List NodeId)
    (before : Scheduler) : Prop where
  wellFormed : before.graph.WellFormed
  directs : Directs before.graph root dependent
  shape : before.graph.requirementsOf dependent = done ++ ids
  submitted : ∀ id ∈ done, before.graph.Submitted id

namespace Preparing

variable {dependent id : NodeId} {done ids : List NodeId}
  {before between : Scheduler}

theorem start (wellFormed : before.graph.WellFormed)
    (directs : Directs before.graph root dependent)
    (moves : Moves root bound before between) :
    Preparing root dependent [] (before.graph.requirementsOf dependent)
      between where
  wellFormed := Moves.wellFormed moves wellFormed
  directs := directs.of_sameNodes (Moves.sameNodes moves)
  shape := ((Moves.sameNodes moves).requirementsOf dependent).symm
  submitted := fun _ absent => absurd absent List.not_mem_nil

theorem edge (preparing : Preparing root dependent done (id :: ids) before) :
    before.graph.Requires dependent id := by
  simp only [TaskGraph.Requires]
  rw [preparing.shape]
  exact List.mem_append_right _ List.mem_cons_self

theorem below (preparing : Preparing root dependent done (id :: ids) before) :
    id < dependent :=
  preparing.wellFormed.earlier preparing.edge

theorem inTurn (preparing : Preparing root dependent done (id :: ids) before) :
    InTurn before.graph root id :=
  .inr ⟨dependent, done, ids, preparing.directs, preparing.shape,
    preparing.submitted⟩

/-- Once the next node is submitted, one more is done. -/
theorem next (preparing : Preparing root dependent done (id :: ids) before)
    (moves : Moves root bound before between)
    (here : between.graph.Submitted id) :
    Preparing root dependent (done ++ [id]) ids between where
  wellFormed := Moves.wellFormed moves preparing.wellFormed
  directs := preparing.directs.of_sameNodes (Moves.sameNodes moves)
  shape := by
    rw [← (Moves.sameNodes moves).requirementsOf, preparing.shape,
      List.append_assoc]
    rfl
  submitted := by
    intro other member
    rcases List.mem_append.mp member with earlier | isId
    · exact Moves.submitted moves (preparing.submitted other earlier)
    · rw [List.mem_singleton.mp isId]
      exact here

private theorem all_submitted
    (preparing : Preparing root dependent done [] before) {required : NodeId}
    (edge : before.graph.Requires dependent required) :
    before.graph.Submitted required := by
  simp only [TaskGraph.Requires] at edge
  rw [preparing.shape, List.append_nil] at edge
  exact preparing.submitted required edge

end Preparing

private theorem leads_settleRequired {resolve : NodeId → Action Resolution}
    (resolves : Resolves root resolve) {dependent : NodeId}
    {done ids : List NodeId} {before : Scheduler}
    (preparing : Preparing root dependent done ids before) :
    Leads (Move root dependent) (settleRequired resolve dependent ids) before
      fun _ after =>
      ∀ required, after.graph.Requires dependent required →
        after.graph.Submitted required := by
  induction ids generalizing done before with
  | nil => exact leads_pure fun _ edge => preparing.all_submitted edge
  | cons id ids induction =>
      simp only [settleRequired]
      apply Action.leads_getNode_bind
      intro node found
      split
      · rename_i isRequirement
        have leads := resolves id before preparing.wellFormed
          ((statesRequirement_iff found).mpr isRequirement) preparing.inTurn
        apply (leads.widen fun _ _ move => move.widen preparing.below).bind
        intro _ between moves resolved
        exact induction (preparing.next moves resolved.submitted)
      · split
        · exact leads_throw_bind
        · split
          · exact leads_throw_bind
          · rename_i isSubmitted
            have here : before.graph.Submitted id :=
              (TaskGraph.submitted_iff found).mpr (by simpa using isSubmitted)
            have stays : Moves root dependent before before := .refl
            exact induction (preparing.next stays here)

private theorem leads_prepareWith {resolve : NodeId → Action Resolution}
    (resolves : Resolves root resolve) {id : NodeId} (device : Device)
    {before : Scheduler} (wellFormed : before.graph.WellFormed)
    (directs : Directs before.graph root id) :
    Leads (Move root id) (prepareWith resolve id device) before fun _ after =>
      ∀ required,
        after.graph.Requires id required → after.graph.Submitted required := by
  simp only [prepareWith]
  apply leads_get_bind
  apply (leads_assignDevices device _ before).bind
  intro _ between moves _
  exact leads_settleRequired resolves (.start wellFormed directs moves)

section Resolution

variable {resolve : NodeId → Action Resolution} {id : NodeId} {node : Node}
  {requirement : Requirement} {device : Device} {before : Scheduler}

/-- What is done for a requirement that still waits: everything that it requires
is resolved, and then its window is made usable. -/
def resolveWaiting (resolve : NodeId → Action Resolution) (id : NodeId)
    (requirement : Requirement) (device : Device) : Action Resolution := do
  Action.changeNode id (·.assign device)
  prepareWith resolve id device
  settle id requirement device

/-- The steps before the window is made usable, and then the work for the
window. -/
theorem resolveWaiting_eq (resolve : NodeId → Action Resolution) (id : NodeId)
    (requirement : Requirement) (device : Device) :
    resolveWaiting resolve id requirement device =
      (do
        Action.changeNode id (·.assign device)
        prepareWith resolve id device) >>= fun _ =>
          settle id requirement device := by
  simp only [resolveWaiting, bind_assoc]

/-- The node of a requirement is bound and everything that it requires is
submitted, while the node itself still waits. -/
structure Readied (root id : NodeId) (node : Node) (requirement : Requirement)
    (device : Device) (before : Scheduler) : Prop where
  found : before.graph.node? id = some node
  states : node.operation = .requirement requirement
  bound : node.device = some device
  waits : node.state = .unsubmitted
  prepared : ∀ required ∈ node.requirements, before.graph.Submitted required
  inTurn : InTurn before.graph root id

theorem leads_prepareWaiting (resolves : Resolves root resolve)
    (wellFormed : before.graph.WellFormed)
    (found : before.graph.node? id = some node)
    (states : node.operation = .requirement requirement)
    (waits : node.state = .unsubmitted)
    (chosen : node.device.or node.hint = some device)
    (inTurn : InTurn before.graph root id) :
    Leads (Move root id)
      (do Action.changeNode id (·.assign device); prepareWith resolve id device)
      before fun _ after =>
        ∃ later, Readied root id later requirement device after := by
  have fits : node.device = none → node.hint.getD device = device := by
    intro unbound
    rw [unbound, Option.none_or] at chosen
    rw [chosen]
    rfl
  refine (leads_modify
    (.assign id device node ⟨rfl, rfl, .refl _⟩ found fits rfl)).bind ?_
  intro _ _ assigned equal
  subst equal
  have isNode : (before.graph.updateNode id (·.assign device)).node? id =
      some (node.assign device) :=
    TaskGraph.node?_updateNode_self found
  have held : (node.assign device).device = some device := by
    simp only [Node.assign]
    cases bound : node.device with
    | none => rfl
    | some earlier =>
        rw [bound, Option.some_or] at chosen
        exact chosen
  have directs :
      Directs (before.graph.updateNode id (·.assign device)) root id :=
    .inr ⟨node.assign device, requirement, isNode, states⟩
  apply (leads_prepareWith resolves device
    (Moves.wellFormed assigned wellFormed) directs).mono
  intro _ after moves prepared
  obtain ⟨later, isLater, same⟩ := Moves.device moves isNode held
  obtain ⟨counterpart, isCounterpart, operation, requirements, _⟩ :=
    (Moves.sameNodes moves).node isNode
  rw [isLater] at isCounterpart
  cases isCounterpart
  have stillWaits : later.state = .unsubmitted :=
    Moves.state_of_unsubmitted moves (Nat.le_refl id) isNode waits isLater
  exact ⟨later, isLater, operation.trans states, same, stillWaits,
    fun required member =>
      prepared required (TaskGraph.requires_iff.mpr ⟨later, isLater, member⟩),
    Moves.inTurn moves (Moves.inTurn assigned inTurn)⟩

private theorem leads_resolveWaiting (resolves : Resolves root resolve)
    (wellFormed : before.graph.WellFormed)
    (found : before.graph.node? id = some node)
    (states : node.operation = .requirement requirement)
    (waits : node.state = .unsubmitted)
    (chosen : node.device.or node.hint = some device)
    (inTurn : InTurn before.graph root id) :
    Leads (Move root (id + 1)) (resolveWaiting resolve id requirement device)
      before fun _ after => Resolved root id before after := by
  have prepares :=
    leads_prepareWaiting resolves wellFormed found states waits chosen inTurn
  rw [resolveWaiting_eq]
  apply (prepares.widen fun _ _ move => move.widen (Nat.le_succ id)).bind
  intro _ between moves result
  obtain ⟨later, readied⟩ := result
  apply (leads_settle readied.found readied.states readied.bound readied.waits
    readied.prepared readied.inTurn (Nat.lt_succ_self id)).mono
  intro _ after _ result
  obtain ⟨settled, region, copies, made, middle, further, settles⟩ := result
  exact .inr ⟨settled, requirement, device, region, copies, made, middle,
    moves.trans further, settles⟩

/-- A requirement for which something fails is not settled. -/
private theorem resolveWaiting_error (resolves : Resolves root resolve)
    (wellFormed : before.graph.WellFormed)
    (found : before.graph.node? id = some node)
    (states : node.operation = .requirement requirement)
    (waits : node.state = .unsubmitted)
    (chosen : node.device.or node.hint = some device)
    (inTurn : InTurn before.graph root id) {cause : Error} {after : Scheduler}
    (failed : resolveWaiting resolve id requirement device before =
      .error cause after) : Moves root id before after := by
  have prepares :=
    leads_prepareWaiting resolves wellFormed found states waits chosen inTurn
  rw [resolveWaiting_eq] at failed
  rcases bind_error_iff.mp failed with stopped | ⟨_, between, passed, stopped⟩
  · exact prepares.error stopped
  · obtain ⟨moves, later, readied⟩ := prepares.ok passed
    exact moves.trans (settle_error readied.found readied.states readied.bound
      readied.waits readied.prepared readied.inTurn stopped)

/-- The ways in which the resolution of a requirement can begin. -/
theorem resolveWith_cases (resolve : NodeId → Action Resolution)
    (found : before.graph.node? id = some node)
    (states : node.operation = .requirement requirement) :
    (node.isSubmitted = true ∧
      resolveWith resolve id before = .ok .alreadySubmitted before) ∨
    (∃ cause, resolveWith resolve id before = .error cause before) ∨
    ∃ device, node.state = .unsubmitted ∧
      node.device.or node.hint = some device ∧ resolveWith resolve id before =
        resolveWaiting resolve id requirement device before := by
  have first : Action.getNode id before = .ok node before :=
    Action.getNode_ok_iff.mpr ⟨found, rfl⟩
  simp only [resolveWith]
  simp only [bind, EStateM.bind, first, states]
  cases isSubmitted : node.isSubmitted with
  | true => exact .inl ⟨rfl, rfl⟩
  | false =>
      cases isCancelled : node.isCancelled with
      | true => exact .inr (.inl ⟨_, rfl⟩)
      | false =>
          have waits : node.state = .unsubmitted :=
            Node.waits_of_not (by simp [isSubmitted]) (by simp [isCancelled])
          cases chosen : node.device.or node.hint with
          | none => exact .inr (.inl ⟨_, rfl⟩)
          | some device => exact .inr (.inr ⟨device, waits, rfl, rfl⟩)

private theorem resolves_resolveWith (resolves : Resolves root resolve) :
    Resolves root (resolveWith resolve) := by
  intro id before wellFormed stated inTurn
  obtain ⟨node, requirement, found, states⟩ := stated
  rcases resolveWith_cases resolve found states with
    ⟨isSubmitted, result⟩ | ⟨cause, result⟩ | ⟨device, waits, chosen, result⟩
  · simp only [Leads]
    rw [result]
    exact ⟨.refl, .inl ⟨(TaskGraph.submitted_iff found).mpr isSubmitted, rfl⟩⟩
  · simp only [Leads]
    rw [result]
  · simp only [Leads]
    rw [result]
    exact leads_resolveWaiting resolves wellFormed found states waits
      chosen inTurn

end Resolution

theorem resolves_resolveWithin (depth : Nat) :
    Resolves root (resolveWithin depth) := by
  induction depth with
  | zero => exact fun _ _ _ _ _ => leads_throw
  | succ depth induction => exact resolves_resolveWith induction

theorem resolves_resolve : Resolves root resolve :=
  fun id => resolves_resolveWithin (id + 1) id

/-- What stops the resolution of a requirement comes before the requirement is
settled. -/
theorem resolve_error {id : NodeId} {before after : Scheduler} {cause : Error}
    (wellFormed : before.graph.WellFormed)
    (stated : StatesRequirement before.graph id)
    (inTurn : InTurn before.graph root id)
    (failed : resolve id before = .error cause after) :
    Moves root id before after := by
  obtain ⟨node, requirement, found, states⟩ := stated
  simp only [resolve, resolveWithin] at failed
  rcases resolveWith_cases (resolveWithin id) found states with
    ⟨_, result⟩ | ⟨_, result⟩ | ⟨device, waits, chosen, result⟩
  · rw [failed] at result
    cases result
  · rw [failed] at result
    cases result
    exact .refl
  · rw [failed] at result
    exact resolveWaiting_error (resolves_resolveWithin id) wellFormed found
      states waits chosen inTurn result.symm

/-- To resolve what is not a requirement does nothing. -/
theorem outcome_resolve_of_not {id : NodeId} {before : Scheduler}
    (other : ¬ StatesRequirement before.graph id) :
    Action.outcome (resolve id) before = before := by
  simp only [Action.outcome, resolve, resolveWithin, resolveWith]
  cases found : before.graph.node? id with
  | none =>
      have missing :
          Action.getNode id before = .error (.nodeNotFound id) before :=
        Action.getNode_error_iff.mpr ⟨found, rfl, rfl⟩
      simp only [bind, EStateM.bind, missing]
  | some node =>
      have first : Action.getNode id before = .ok node before :=
        Action.getNode_ok_iff.mpr ⟨found, rfl⟩
      simp only [bind, EStateM.bind, first]
      cases operation : node.operation with
      | requirement requirement =>
          exact absurd ⟨node, requirement, found, operation⟩ other
      | kernel kernel => rfl
      | copy copy => rfl

theorem leads_prepare {id : NodeId} (device : Device) {before : Scheduler}
    (wellFormed : before.graph.WellFormed)
    (directs : Directs before.graph root id) :
    Leads (Move root id) (prepare id device) before fun _ after =>
      ∀ required,
        after.graph.Requires id required → after.graph.Submitted required :=
  leads_prepareWith resolves_resolve device wellFormed directs

end CoherentTasks.Submission
