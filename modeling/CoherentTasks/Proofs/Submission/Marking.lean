import CoherentTasks.Proofs.Submission.Listing
import CoherentTasks.Proofs.Submission.Marks
import CoherentTasks.Proofs.Submission.Recursion

/-!
# States that are written

A node is marked when its work is handed over, or when it needs none. The
functions that mark nodes are stated here for any way to write a state, and it
is shown that a node is only ever marked while it waits for its submission: what
a marking does to any other node does not matter, it may even fail there. A
state that was written stays for as long as the node is there, and fits to those
of the nodes that the node requires.
-/

namespace CoherentTasks.Submission

open CoherentTasks.Backend (Executor)
open CoherentTasks.Computation
open CoherentTasks.Graph (Binding Node Operation Requirement State TaskGraph)

/-- A way to write the state of a node. -/
abbrev Marking := NodeId → State → Action Unit

namespace Marking

/-- The state is written, whatever it was. -/
def overwrite : Marking :=
  fun id state => Action.changeNode id ({ · with state })

/-- The state is written on a node that waits for its submission. For any other
node this is a failure. -/
def asserted (failure : Error) : Marking := fun id state => do
  let node ← Action.getNode id
  if node.isUnsubmitted then overwrite id state else throw failure

/-- On a node that waits for its submission the state is written. On other nodes
anything may happen. -/
def Sound (marking : Marking) : Prop :=
  ∀ id state before, before.graph.state? id = some .unsubmitted →
    marking id state before = overwrite id state before

theorem sound_asserted (failure : Error) : (asserted failure).Sound := by
  intro id state before waits
  obtain ⟨node, found, unsubmitted⟩ := Option.map_eq_some_iff.mp waits
  have first : Action.getNode id before = .ok node before :=
    Action.getNode_ok_iff.mpr ⟨found, rfl⟩
  simp only [asserted, bind, EStateM.bind, first]
  rw [if_pos (Node.isUnsubmitted_iff.mpr unsubmitted)]

end Marking

section Definitions

variable (marking : Marking)

def submitTransfersBy (id : NodeId) (device : Device)
    (transfers : List (Graph.Copy × Executor × Binding)) :
    Action Resolution := do
  match transfers with
  | [] =>
    marking id .satisfied
    return .satisfied
  | (_, _, binding) :: _ =>
    let scheduler ← get
    let dependencies := dependenciesOf scheduler.graph scheduler.signals id
    let handles ← dispatchCopies id device dependencies transfers
    marking id (.submitted (.join handles) binding)
    return .transferred transfers.length

def concludeBy (id : NodeId) (requirement : Requirement) (device : Device)
    (transfers : List (Graph.Copy × Executor × Binding)) :
    Action Resolution := do
  let resolution ← submitTransfersBy marking id device transfers
  markAccess requirement device
  Action.record (.settled id requirement device)
  return resolution

def settleBy (id : NodeId) (requirement : Requirement) (device : Device) :
    Action Resolution :=
  choose id requirement device >>= concludeBy marking id requirement device

def resolveWithBy (resolve : NodeId → Action Resolution) (id : NodeId) :
    Action Resolution := do
  let node ← Action.getNode id
  match node.operation with
  | .requirement requirement =>
    if node.isSubmitted then return .alreadySubmitted
    else if node.isCancelled then throw (.cancelledRequirement id)
    else
      match node.device.or node.hint with
      | none => throw (.unboundRequirement id)
      | some device =>
        Action.changeNode id (·.assign device)
        prepareWith resolve id device
        settleBy marking id requirement device
  | _ => return .notARequirement

def resolveWithinBy : Nat → NodeId → Action Resolution
  | 0, id => throw (.nodeNotFound id)
  | depth + 1, id => resolveWithBy marking (resolveWithinBy depth) id

def resolveBy (id : NodeId) : Action Resolution :=
  resolveWithinBy marking (id + 1) id

def prepareBy (id : NodeId) (device : Device) : Action Unit :=
  prepareWith (resolveBy marking) id device

def launchBy (id : NodeId) (operation : Operation) (device : Device) :
    Action Unit := do
  let scheduler ← get
  let (executor, binding) ←
    Action.ofExcept (selectExecutor scheduler.registry device operation)
  let dependencies := dependenciesOf scheduler.graph scheduler.signals id
  let handle ← Action.dispatch id device operation executor dependencies
  marking id (.submitted handle binding)

def carryOutBy (id : NodeId) (device : Device) : Operation → Action Unit
  | .requirement _ => do
    let _ ← resolveBy marking id
    registerSubmitted id
  | .kernel kernel => do
    prepareBy marking id device
    launchBy marking id (.kernel kernel) device
    registerSubmitted id
  | .copy copy => do
    prepareBy marking id device
    launchBy marking id (.copy copy) device
    keepSourceValid id copy
    registerSubmitted id

def submitNewBy (id : NodeId) : Action Unit := do
  let node ← Action.getNode id
  match node.hint with
  | none => throw .unboundNode
  | some device =>
    Action.changeNode id (·.assign device)
    carryOutBy marking id device node.operation

def submitBy (id : NodeId) : Action Unit := fun before =>
  match before.graph.node? id with
  | none => .error (.nodeNotFound id) before
  | some node =>
    if node.isUnsubmitted then
      match submitNewBy marking id before with
      | .ok _ after => .ok () after
      | .error cause after => .error cause (giveUp before after id cause)
    else .ok () before

end Definitions

open Marking (overwrite)

private theorem settleBy_overwrite : settleBy overwrite = settle := by
  funext id requirement device
  rw [settle_eq]
  rfl

private theorem resolveWithinBy_overwrite :
    resolveWithinBy overwrite = resolveWithin := by
  funext depth
  induction depth with
  | zero => rfl
  | succ depth induction =>
      funext id
      simp only [resolveWithinBy, resolveWithin]
      rw [induction]
      simp only [resolveWithBy]
      rw [settleBy_overwrite]
      rfl

private theorem resolveBy_overwrite : resolveBy overwrite = resolve := by
  funext id
  simp only [resolveBy, resolve]
  rw [resolveWithinBy_overwrite]

private theorem prepareBy_overwrite : prepareBy overwrite = prepare := by
  funext id device
  simp only [prepareBy, prepare]
  rw [resolveBy_overwrite]

theorem submitBy_overwrite : submitBy overwrite = submit := by
  have launches : launchBy overwrite = launch := rfl
  have carries : carryOutBy overwrite = carryOut := by
    funext id device operation
    cases operation <;> simp only [carryOutBy, carryOut, resolveBy_overwrite,
      prepareBy_overwrite, launches]
  have new : submitNewBy overwrite = submitNew := by
    funext id
    simp only [submitNewBy]
    rw [carries]
    exact (submitNew_eq_bind id).symm
  funext id before
  simp only [submitBy]
  rw [new]
  rfl

section Sound

variable {marking : Marking} {id : NodeId} {before : Scheduler}

private theorem submitTransfersBy_eq (sound : marking.Sound)
    (waits : before.graph.state? id = some .unsubmitted) (device : Device)
    (transfers : List (Graph.Copy × Executor × Binding)) :
    submitTransfersBy marking id device transfers before =
      submitTransfers id device transfers before := by
  cases transfers with
  | nil => exact bind_eq_bind (sound id _ before waits) fun _ _ _ => rfl
  | cons transfer transfers =>
      obtain ⟨copy, executor, binding⟩ := transfer
      simp only [submitTransfersBy, submitTransfers]
      apply bind_eq_bind rfl
      intro scheduler _ began
      obtain ⟨rfl, rfl⟩ := get_ok_iff.mp began
      apply bind_eq_bind rfl
      intro handles between dispatched
      obtain ⟨made, after, result, graph, _⟩ :=
        dispatchCopies_ok id device
          (dependenciesOf before.graph before.signals id)
          ((copy, executor, binding) :: transfers) before
      rw [dispatched] at result
      cases result
      apply bind_eq_bind _ fun _ _ _ => rfl
      apply sound
      rw [graph]
      exact waits

private theorem settleBy_eq (sound : marking.Sound) {node : Node}
    (found : before.graph.node? id = some node)
    (waits : node.state = .unsubmitted) (requirement : Requirement)
    (device : Device) :
    settleBy marking id requirement device before =
      settle id requirement device before := by
  rw [settle_eq]
  apply bind_eq_bind rfl
  intro transfers between chosen
  have leads :
      Leads (Move id (id + 1)) (choose id requirement device) before _ :=
    leads_choose found
  obtain ⟨_, pointer, _, isNode, _⟩ := leads.ok chosen
  apply bind_eq_bind _ fun _ _ _ => rfl
  apply submitTransfersBy_eq sound
  exact TaskGraph.state?_of_node? isNode waits

private theorem resolveWithinBy_eq (sound : marking.Sound) (depth : Nat)
    (id : NodeId) {before : Scheduler} (wellFormed : before.graph.WellFormed) :
    resolveWithinBy marking depth id before =
      resolveWithin depth id before := by
  induction depth generalizing id before with
  | zero => rfl
  | succ depth induction =>
      simp only [resolveWithinBy, resolveWithin, resolveWithBy, resolveWith]
      apply bind_eq_bind rfl
      intro node _ first
      obtain ⟨found, rfl⟩ := Action.getNode_ok_iff.mp first
      cases states : node.operation with
      | kernel kernel => rfl
      | copy copy => rfl
      | requirement requirement =>
          simp only
          split
          · rfl
          · rename_i notSubmitted
            split
            · rfl
            · rename_i notCancelled
              have waits : node.state = .unsubmitted := by
                cases state : node.state <;>
                  simp_all [Node.isSubmitted, Node.isCancelled]
              cases chosen : node.device.or node.hint with
              | none => rfl
              | some device =>
                  have leads :=
                    leads_prepareWaiting (resolves_resolveWithin depth)
                      wellFormed found states waits chosen (.inl rfl)
                  apply bind_eq_bind rfl
                  intro _ assigned binds
                  have assignedWell : assigned.graph.WellFormed := by
                    cases binds
                    exact wellFormed_assign wellFormed id device
                  apply bind_eq_bind
                    (prepareWith_eq (fun _ => resolves_resolveWithin depth)
                      (fun id _ _ => induction id) device assignedWell)
                  intro _ between prepared
                  obtain ⟨_, _, readied⟩ :=
                    leads.ok (bind_ok_iff.mpr ⟨(), assigned, binds, prepared⟩)
                  exact settleBy_eq sound readied.found readied.waits
                    requirement device

private theorem resolveBy_eq (sound : marking.Sound) (id : NodeId)
    (wellFormed : before.graph.WellFormed) :
    resolveBy marking id before = resolve id before :=
  resolveWithinBy_eq sound (id + 1) id wellFormed

private theorem prepareBy_eq (sound : marking.Sound) (id : NodeId)
    (device : Device) (wellFormed : before.graph.WellFormed) :
    prepareBy marking id device before = prepare id device before :=
  prepareWith_eq (fun _ => resolves_resolve)
    (fun id _ _ => resolveBy_eq sound id) device wellFormed

private theorem launchBy_eq (sound : marking.Sound)
    (waits : before.graph.state? id = some .unsubmitted) (operation : Operation)
    (device : Device) :
    launchBy marking id operation device before =
      launch id operation device before := by
  simp only [launchBy, launch]
  apply bind_eq_bind rfl
  intro scheduler _ began
  obtain ⟨rfl, rfl⟩ := get_ok_iff.mp began
  apply bind_eq_bind rfl
  intro selected _ selects
  obtain ⟨_, rfl⟩ := Action.ofExcept_ok_iff.mp selects
  apply bind_eq_bind rfl
  intro handle between dispatched
  cases dispatched
  exact sound id _ _ waits

/-- What is prepared and then launched still waits when it is launched. -/
private theorem prepareBy_launchBy_eq (sound : marking.Sound)
    (wellFormed : before.graph.WellFormed)
    (waits : before.graph.state? id = some .unsubmitted) (operation : Operation)
    (device : Device)
    (rest : Action Unit) :
    (do
        prepareBy marking id device; launchBy marking id operation device; rest)
        before =
      (do prepare id device; launch id operation device; rest) before := by
  apply bind_eq_bind (prepareBy_eq sound id device wellFormed)
  intro _ ready prepared
  have moves : Moves id id before ready :=
    ((leads_prepare device wellFormed (.inl rfl)).ok prepared).1
  apply bind_eq_bind _ fun _ _ _ => rfl
  apply launchBy_eq sound
  rw [Moves.state?_of_le moves (Nat.le_refl id)]
  exact waits

private theorem carryOutBy_eq (sound : marking.Sound)
    (wellFormed : before.graph.WellFormed)
    (waits : before.graph.state? id = some .unsubmitted) (operation : Operation)
    (device : Device) :
    carryOutBy marking id device operation before =
      carryOut id device operation before := by
  cases operation with
  | requirement requirement =>
      exact bind_eq_bind (resolveBy_eq sound id wellFormed) fun _ _ _ => rfl
  | kernel kernel =>
      exact prepareBy_launchBy_eq sound wellFormed waits _ device _
  | copy copy => exact prepareBy_launchBy_eq sound wellFormed waits _ device _

private theorem submitNewBy_eq (sound : marking.Sound)
    (wellFormed : before.graph.WellFormed)
    (waits : before.graph.state? id = some .unsubmitted) :
    submitNewBy marking id before = submitNew id before := by
  rw [submitNew_eq_bind]
  simp only [submitNewBy]
  apply bind_eq_bind rfl
  intro node _ first
  obtain ⟨found, rfl⟩ := Action.getNode_ok_iff.mp first
  cases hinted : node.hint with
  | none => rfl
  | some device =>
      apply bind_eq_bind rfl
      intro _ assigned binds
      cases binds
      have same :
          (before.graph.updateNode id (·.assign device)).state? id =
            before.graph.state? id :=
        TaskGraph.state?_updateNode _ _ _ fun _ => rfl
      exact carryOutBy_eq sound (wellFormed_assign wellFormed id device)
        (same.trans waits) _ device

private theorem submitBy_eq (sound : marking.Sound) (id : NodeId)
    (wellFormed : before.graph.WellFormed) :
    submitBy marking id before = submit id before := by
  simp only [submitBy, submit]
  cases found : before.graph.node? id with
  | none => rfl
  | some node =>
      simp only
      split
      · rename_i unsubmitted
        have waits : before.graph.state? id = some .unsubmitted :=
          TaskGraph.state?_of_node? found
            (Node.isUnsubmitted_iff.mp unsubmitted)
        have same := submitNewBy_eq sound wellFormed waits
        cases submits : submitNew id before <;> simp only [same, submits]
      · rfl

end Sound

end CoherentTasks.Submission

namespace CoherentTasks.Scheduler

open CoherentTasks.Computation (Leads)
open CoherentTasks.Graph (State TaskGraph)
open CoherentTasks.Submission

variable {first second third before after : Scheduler} {id : NodeId}

namespace Follows

theorem of_moves {root bound : NodeId} (moves : Moves root bound before after) :
    before.Follows after := by
  induction moves with
  | refl => exact .refl before
  | tail _ move induction =>
      apply induction.trans
      rcases move.still_or_takesUp with still | ⟨_, _, _, takes⟩
      · exact .of_still still move.length_slots
      · exact .of_takesUp takes move.length_slots

theorem of_submits {success : Bool}
    (submits : Submits id before after success) : before.Follows after := by
  cases submits with
  | idle _ same => exact same ▸ .refl before
  | rejects cause same => exact same ▸ .of_giveUp before before id cause
  | resolves states moves submitted => exact .of_moves moves
  | launches node device dispatch ready launched asks moves launches finishes =>
      apply (Follows.of_moves moves).trans
      apply (Follows.of_takesUp launches.takesUp launches.length_slots).trans
      exact .of_quiet finishes.node? finishes.length_slots finishes.quiet
  | fails device stopped cause asks moves same =>
      apply (Follows.of_moves moves).trans
      exact same ▸ .of_giveUp before stopped id cause

end Follows

/-- Every node that did not wait for its submission is as it was, or gone. What
is gone stays so. -/
structure Retains (before after : Scheduler) : Prop where
  longer : before.graph.slots.length ≤ after.graph.slots.length
  states : ∀ id < before.graph.slots.length,
    before.graph.state? id ≠ some .unsubmitted →
    after.graph.state? id = before.graph.state? id ∨
    after.graph.state? id = none

namespace Retains

private theorem of_states
    (longer : before.graph.slots.length ≤ after.graph.slots.length)
    (states : ∀ id < before.graph.slots.length,
      before.graph.state? id ≠ some .unsubmitted →
      after.graph.state? id = before.graph.state? id) : before.Retains after :=
  ⟨longer, fun id below settled => .inl (states id below settled)⟩

private theorem of_slots (same : after.graph.slots = before.graph.slots) :
    before.Retains after := by
  apply of_states (Nat.le_of_eq (congrArg List.length same.symm))
  intro id _ _
  simp only [TaskGraph.state?, TaskGraph.node?]
  rw [same]

theorem of_follows (follows : before.Follows after) : before.Retains after :=
  .of_states (Nat.le_of_eq follows.length.symm) fun id _ => follows.states id

theorem trans (start : first.Retains second) (rest : second.Retains third) :
    first.Retains third where
  longer := start.longer.trans rest.longer
  states id below settled := by
    have stillBelow := Nat.lt_of_lt_of_le below start.longer
    rcases start.states id below settled with same | gone
    · rw [← same] at settled ⊢
      exact rest.states id stillBelow settled
    · have settledThen : second.graph.state? id ≠ some .unsubmitted := by
        rw [gone]
        simp
      right
      rcases rest.states id stillBelow settledThen with same | goneThen
      · exact same.trans gone
      · exact goneThen

theorem addNode {operation : Graph.Operation} {requirements : List NodeId}
    {hint : Option Device} {graph : TaskGraph}
    (added :
      before.graph.addNode operation requirements hint = .ok (id, graph)) :
    before.Retains { before with graph } := by
  apply of_states
  · show before.graph.slots.length ≤ graph.slots.length
    rw [TaskGraph.length_slots_addNode added]
    exact Nat.le_succ _
  · exact fun other below _ =>
      TaskGraph.state?_addNode_other added
        (TaskGraph.ne_addNode_of_lt added below)

theorem step (wellFormed : before.graph.WellFormed) (step : Step before after) :
    before.Retains after := by
  cases step with
  | addRegion name range elementSize => exact .of_slots rfl
  | changeRegion id change grows => exact .of_slots rfl
  | addNode operation requirements hint id graph added => exact .addNode added
  | addCopy copy requirements hint id graph added =>
      exact .addNode (TaskGraph.addNode_of_addCopy added)
  | submit id => exact .of_follows (.of_submits (submits_submit wellFormed))
  | abort id =>
      apply of_states (Nat.le_of_eq (TaskGraph.length_slots_abort _ id).symm)
      exact fun other _ settled => TaskGraph.state?_abort_of_ne settled
  | complete fired => exact .of_slots rfl

theorem use (wellFormed : before.graph.WellFormed) (use : Use before after) :
    before.Retains after := by
  cases use with
  | step step => exact .step wellFormed step
  | resolve id =>
      by_cases states : StatesRequirement before.graph id
      · have leads :
            Leads (Move id (id + 1)) (Submission.resolve id) before _ :=
          resolves_resolve id before wellFormed states (.inl rfl)
        exact .of_follows (.of_moves (Action.leads_outcome leads))
      · rw [outcome_resolve_of_not states]
        exact .of_slots rfl
  | prepare id device =>
      have leads : Leads (Move id id) (Submission.prepare id device) before _ :=
        leads_prepare device wellFormed (.inl rfl)
      exact .of_follows (.of_moves (Action.leads_outcome leads))
  | restore saved => exact .of_slots rfl
  | prune =>
      let removed := before.graph.isRemovable before.signals
      refine ⟨Nat.le_of_eq
        (TaskGraph.length_slots_without before.graph removed).symm, ?_⟩
      intro id _ _
      cases gone : removed id with
      | true =>
          exact .inr
            (TaskGraph.state?_without_of_removed before.graph removed gone)
      | false =>
          exact .inl
            (TaskGraph.state?_without_of_kept before.graph removed gone)
  | purge => exact .of_slots rfl

/-- During any use of a graph. -/
theorem uses (met : before.InUse)
    (uses : Relation.ReflTransGen Use before after) :
    before.Retains after ∧ after.InUse := by
  induction uses with
  | refl => exact ⟨.of_slots rfl, met⟩
  | tail _ last induction =>
      obtain ⟨retains, metThen⟩ := induction
      exact ⟨retains.trans (.use metThen.intact.wellFormed last),
        metThen.use last⟩

end Retains

/-- Whenever a graph is used, what a submitted node requires is submitted, and
what a cancelled node requires is submitted or cancelled, if it is there. A
state that was written stays for as long as the node is there. To submit a node,
to resolve a requirement and to prepare a node, only nodes that wait for their
submission are marked. -/
theorem states_inUse {scheduler : Scheduler} (met : scheduler.InUse) :
    (∀ dependent required, scheduler.graph.Submitted dependent →
      scheduler.graph.Requires dependent required →
      scheduler.graph.state? required = none ∨
      scheduler.graph.Submitted required) ∧
    (∀ dependent required, scheduler.graph.state? dependent = some .cancelled →
      scheduler.graph.Requires dependent required →
      scheduler.graph.state? required = none ∨
      scheduler.graph.Submitted required ∨
      scheduler.graph.state? required = some .cancelled) ∧
    (∀ later, Relation.ReflTransGen Use scheduler later → ∀ id state,
      state ≠ .unsubmitted → scheduler.graph.state? id = some state →
      later.graph.state? id = some state ∨ later.graph.state? id = none) ∧
    ∀ marking : Marking, marking.Sound →
      (∀ id, submitBy marking id scheduler = submit id scheduler) ∧
      (∀ id, resolveBy marking id scheduler = resolve id scheduler) ∧
      ∀ id device, prepareBy marking id device scheduler =
        prepare id device scheduler := by
  have intact := met.intact
  refine ⟨intact.closed, ?_, ?_, ?_⟩
  · intro dependent required cancelled edge
    have settled := intact.abandoned dependent required cancelled edge
    cases found : scheduler.graph.state? required with
    | none => exact .inl rfl
    | some state =>
        right
        cases state with
        | unsubmitted => exact absurd found settled
        | satisfied => exact .inl (.inl found)
        | submitted handle executor =>
            exact .inl (.inr ⟨handle, executor, found⟩)
        | cancelled => exact .inr rfl
  · intro later uses id state written found
    have settled : scheduler.graph.state? id ≠ some .unsubmitted := by
      rw [found]
      exact fun same => written (Option.some.inj same)
    obtain ⟨node, isNode, _⟩ := Option.map_eq_some_iff.mp found
    have below := TaskGraph.lt_of_node?_eq_some isNode
    rw [← found]
    exact (Retains.uses met uses).1.states id below settled
  · intro marking sound
    refine ⟨fun id => ?_, fun id => ?_, fun id device => ?_⟩
    · exact submitBy_eq sound id intact.wellFormed
    · exact resolveBy_eq sound id intact.wellFormed
    · exact prepareBy_eq sound id device intact.wellFormed

/-- After the failed submission of `sharingAfterFailure`, the node that was
given up stays cancelled, what it requires does not wait, and the other kernel
is submitted without a node being marked twice. -/
theorem states_sharingAfterFailure :
    sharingAfterFailure.InUse ∧
    sharingAfterFailure.graph.state? 2 = some .cancelled ∧
    (sharingAfterFailure.graph.state? 0 = none ∨
      sharingAfterFailure.graph.Submitted 0 ∨
      sharingAfterFailure.graph.state? 0 = some .cancelled) ∧
    (∀ later, Relation.ReflTransGen Use sharingAfterFailure later →
      later.graph.state? 2 = some .cancelled ∨ later.graph.state? 2 = none) ∧
    Action.succeeds (submitBy (.asserted .unboundNode) 3) sharingAfterFailure =
      true := by
  have met : sharingAfterFailure.InUse :=
    (reachable_sharing.step (.submit 2)).inUse
  have shape :
      (sharingAfterFailure.graph.node? 2).map
          (fun node => (node.isCancelled, node.requirements)) =
        some (true, [0, 1]) := by decide +kernel
  obtain ⟨node, found, parts⟩ := Option.map_eq_some_iff.mp shape
  obtain ⟨isCancelled, requirements⟩ := Prod.mk.inj parts
  have cancelled : sharingAfterFailure.graph.state? 2 = some .cancelled := by
    simp only [TaskGraph.state?]
    rw [found, Option.map_some]
    cases state : node.state <;> simp_all [Graph.Node.isCancelled]
  have edge : sharingAfterFailure.graph.Requires 2 0 :=
    TaskGraph.requires_iff.mpr ⟨node, found, requirements ▸ List.mem_cons_self⟩
  obtain ⟨_, abandoned, stays, marks⟩ := states_inUse met
  refine ⟨met, cancelled, abandoned 2 0 cancelled edge, ?_, ?_⟩
  · exact fun later uses =>
      stays later uses 2 .cancelled (fun same => by cases same) cancelled
  · simp only [Action.succeeds]
    rw [(marks _ (Marking.sound_asserted .unboundNode)).1 3]
    exact (by
      decide +kernel : Action.succeeds (submit 3) sharingAfterFailure = true)

end CoherentTasks.Scheduler
