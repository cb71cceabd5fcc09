import CoherentTasks.Proofs.Graph.Cancellation
import CoherentTasks.Proofs.Submission.Resolution

/-!
# What a submission does

A submission does nothing, or it resolves a requirement, or it launches a node
after everything that the node requires, or it fails before the node was
launched. In the last case the regions are put back as they were, apart from new
copies that hold nothing.
-/

namespace CoherentTasks.Submission

open CoherentTasks.Computation
open CoherentTasks.Graph (Copy Node Operation TaskGraph)
open Scheduler (Quiet)

/-- The bookkeeping after a launch. The source of a copy may be marked as valid
again, if a requirement of its node guards it. -/
structure Finishes (id : NodeId) (operation : Operation)
    (before after : Scheduler) : Prop where
  quiet : Quiet before after
  graph : after.graph = before.graph ∨ ∃ copy required guard,
    operation = .copy copy ∧ before.graph.Requires id required ∧
    before.graph.node? required = some guard ∧ guardsSource copy guard = true ∧
    after.graph = before.graph.updateRegion copy.source.region
      (·.markValid copy.source.device copy.sourceBox)

/-- The node waits for its submission and asks for the device. -/
def Eligible (graph : TaskGraph) (id : NodeId) (device : Device) : Prop :=
  ∃ node, graph.node? id = some node ∧ node.hint = some device ∧
    node.state = .unsubmitted

theorem Eligible.unsubmitted {graph : TaskGraph} {id : NodeId} {device : Device}
    (eligible : Eligible graph id device) :
    graph.state? id = some .unsubmitted := by
  obtain ⟨node, found, _, waits⟩ := eligible
  exact TaskGraph.state?_of_node? found waits

/-- What the submission of a node does, and whether it succeeds. It is rejected
at once if the node asks for no device. -/
inductive Submits (id : NodeId) (before after : Scheduler) : Bool → Prop where
  | idle (success : Bool) (same : before = after) :
      Submits id before after success
  | rejects (cause : Error) (same : giveUp before before id cause = after) :
      Submits id before after false
  | resolves (states : StatesRequirement before.graph id)
      (moves : Moves id (id + 1) before after)
      (submitted : after.graph.Submitted id) : Submits id before after true
  | launches (node : Node) (device : Device) (dispatch : Dispatch)
      (ready launched : Scheduler) (asks : Eligible before.graph id device)
      (moves : Moves id id before ready)
      (launches : Launches id node device dispatch ready launched)
      (finishes : Finishes id node.operation launched after) :
      Submits id before after true
  | fails (device : Device) (stopped : Scheduler) (cause : Error)
      (asks : Eligible before.graph id device)
      (moves : Moves id id before stopped)
      (same : giveUp before stopped id cause = after) :
      Submits id before after false

section Launch

variable {id : NodeId} {node : Node} {device : Device}
  {before after : Scheduler}

private theorem launch_ok (found : before.graph.node? id = some node)
    (explicit : node.operation.isRequirement = false)
    (hinted : node.hint = some device)
    (bound : ∃ place, node.device = some place)
    (waits : node.state = .unsubmitted)
    (prepared : ∀ required ∈ node.requirements, before.graph.Submitted required)
    (result : launch id node.operation device before = .ok () after) :
    ∃ dispatch, Launches id node device dispatch before after := by
  simp only [launch] at result
  obtain ⟨_, _, first, result⟩ := bind_ok_iff.mp result
  obtain ⟨rfl, rfl⟩ := get_ok_iff.mp first
  obtain ⟨⟨executor, binding⟩, _, selected, result⟩ := bind_ok_iff.mp result
  obtain ⟨chosen, rfl⟩ := Action.ofExcept_ok_iff.mp selected
  obtain ⟨handle, between, dispatched, result⟩ := bind_ok_iff.mp result
  cases dispatched
  cases result
  have handed :=
    Scheduler.handsOver_dispatch before id device node.operation executor
      (dependenciesOf before.graph before.signals id)
  refine ⟨_, found, explicit, hinted, bound, waits, prepared,
    ⟨handed.dispatches, handed.operations, handed.created, handed.fired,
      handed.each, handed.registry⟩,
    Scheduler.deeds_dispatch .., ⟨binding, rfl⟩, ?_⟩
  intro handle other state
  have taken : (before.graph.updateNode id ({ · with
      state := .submitted (.single before.signals.next) binding })).state? id =
        some (.submitted (.single before.signals.next) binding) :=
    TaskGraph.state?_of_node? (TaskGraph.node?_updateNode_self found) rfl
  cases taken.symm.trans state
  exact device_of_selectExecutor chosen

theorem launch_error {operation : Operation} {cause : Error}
    (result : launch id operation device before = .error cause after) :
    before = after := by
  simp only [launch] at result
  rcases bind_error_iff.mp result with failed | ⟨_, _, first, result⟩
  · exact absurd failed get_ne_error
  · obtain ⟨rfl, rfl⟩ := get_ok_iff.mp first
    rcases bind_error_iff.mp result
      with failed | ⟨⟨executor, binding⟩, _, selected, result⟩
    · exact (Action.ofExcept_error_iff.mp failed).2
    · rcases bind_error_iff.mp result with failed | ⟨_, _, _, failed⟩
      · cases failed
      · cases failed

theorem Launches.made {dispatch : Dispatch}
    (launches : Launches id node device dispatch before after) :
    after.dispatches = before.dispatches ++ [dispatch] ∧ dispatch.node = id ∧
      dispatch.device = device ∧ dispatch.operation = node.operation := by
  obtain ⟨ofNode, onDevice, _⟩ :=
    launches.handed.each dispatch List.mem_cons_self
  exact ⟨launches.handed.dispatches, ofNode, onDevice,
    (List.cons.inj launches.handed.operations).1⟩

theorem Launches.sameNodes {dispatch : Dispatch}
    (launches : Launches id node device dispatch before after) :
    before.graph.SameNodes after.graph :=
  launches.takesUp.sameNodes

theorem Launches.regions {dispatch : Dispatch}
    (launches : Launches id node device dispatch before after) :
    after.graph.regions = before.graph.regions := by
  obtain ⟨executor, graph⟩ := launches.graph
  rw [graph]
  rfl

theorem Launches.length_slots {dispatch : Dispatch}
    (launches : Launches id node device dispatch before after) :
    after.graph.slots.length = before.graph.slots.length := by
  obtain ⟨executor, graph⟩ := launches.graph
  rw [graph]
  exact TaskGraph.length_slots_updateNode _ _ _

theorem Launches.node? {dispatch : Dispatch}
    (launches : Launches id node device dispatch before after) :
    ∃ state, after.graph.node? id = some { node with state } := by
  obtain ⟨executor, graph⟩ := launches.graph
  refine ⟨takenUp [dispatch] executor, ?_⟩
  rw [graph]
  exact TaskGraph.node?_updateNode_self launches.found

end Launch

section Bookkeeping

variable {id : NodeId} {before : Scheduler}

theorem registerSubmitted_ok {node : Node}
    (found : before.graph.node? id = some node) :
    ∃ after, registerSubmitted id before = .ok () after ∧ Quiet before after ∧
      after.graph = before.graph := by
  refine ⟨{ before with
    submitted := before.submitted.register id node.handle? },
    ?_, ⟨rfl, rfl, .refl _⟩, rfl⟩
  simp only [registerSubmitted]
  exact bind_ok_iff.mpr
    ⟨node, before, Action.getNode_ok_iff.mpr ⟨found, rfl⟩, rfl⟩

/-- A requirement that guards the source of a copy names the region of the
source. -/
theorem tracked_of_guardsSource (wellFormed : before.graph.WellFormed)
    {copy : Copy} {guard : Node} {required : NodeId}
    (found : before.graph.node? required = some guard)
    (guards : guardsSource copy guard = true) :
    ∃ region, before.graph.region? copy.source.region = some region := by
  simp only [guardsSource] at guards
  cases operation : guard.operation with
  | kernel _ => simp [operation, Operation.requirement?] at guards
  | copy _ => simp [operation, Operation.requirement?] at guards
  | requirement requirement =>
      simp only [operation, Operation.requirement?,
        Bool.and_eq_true, beq_iff_eq] at guards
      rw [← guards.2.1.1]
      exact wellFormed.tracked found operation

private theorem keepSourceValid_ok (id : NodeId)
    (wellFormed : before.graph.WellFormed) (copy : Copy) :
    ∃ after, keepSourceValid id copy before = .ok () after ∧
      Finishes id (.copy copy) before after := by
  by_cases guarded :
    ((before.graph.requirementsOf id).filterMap before.graph.node?).any
        (guardsSource copy) = true
  · obtain ⟨guard, member, guards⟩ := List.any_eq_true.mp guarded
    obtain ⟨required, edge, found⟩ := List.mem_filterMap.mp member
    obtain ⟨region, isRegion⟩ := tracked_of_guardsSource wellFormed found guards
    let kept : Scheduler := { before with
      graph := before.graph.updateRegion copy.source.region
        (·.markValid copy.source.device copy.sourceBox) }
    refine ⟨kept, ?_, ⟨rfl, rfl, .refl _⟩,
      .inr ⟨copy, required, guard, rfl, edge, found, guards, rfl⟩⟩
    simp only [keepSourceValid]
    refine bind_ok_iff.mpr ⟨before, before, rfl, ?_⟩
    simp only [guarded, if_true]
    exact bind_ok_iff.mpr
      ⟨region, before, Action.getRegion_ok_iff.mpr ⟨isRegion, rfl⟩, rfl⟩
  · refine ⟨before, ?_, ⟨rfl, rfl, .refl _⟩, .inl rfl⟩
    simp only [keepSourceValid]
    refine bind_ok_iff.mpr ⟨before, before, rfl, ?_⟩
    simp only [guarded]
    rfl

theorem Finishes.then_note {operation : Operation}
    {first second third : Scheduler}
    (finishes : Finishes id operation first second) (quiet : Quiet second third)
    (graph : third.graph = second.graph) :
    Finishes id operation first third where
  quiet :=
    ⟨quiet.signals.trans finishes.quiet.signals,
      quiet.deeds.trans finishes.quiet.deeds,
      finishes.quiet.registry.trans quiet.registry⟩
  graph := by
    rw [graph]
    exact finishes.graph

theorem Finishes.regionsGrow {operation : Operation} {first second : Scheduler}
    (finishes : Finishes id operation first second) :
    first.graph.RegionsGrow second.graph := by
  rcases finishes.graph with same | ⟨copy, _, _, _, _, _, _, marked⟩
  · exact TaskGraph.regionsGrow_of_eq (by rw [same])
  · rw [marked]
    exact TaskGraph.regionsGrow_updateRegion _ _
      fun region => region.grows_markValid _ _

theorem Finishes.length_slots {operation : Operation} {first second : Scheduler}
    (finishes : Finishes id operation first second) :
    second.graph.slots.length = first.graph.slots.length := by
  rcases finishes.graph with same | ⟨copy, _, _, _, _, _, _, marked⟩
  · rw [same]
  · rw [marked]
    rfl

theorem Finishes.node? {operation : Operation} {first second : Scheduler}
    (finishes : Finishes id operation first second) (other : NodeId) :
    second.graph.node? other = first.graph.node? other := by
  rcases finishes.graph with same | ⟨copy, _, _, _, _, _, _, marked⟩
  · rw [same]
  · rw [marked, TaskGraph.node?_updateRegion]

theorem Finishes.state? {operation : Operation} {first second : Scheduler}
    (finishes : Finishes id operation first second) (other : NodeId) :
    second.graph.state? other = first.graph.state? other :=
  TaskGraph.state?_congr (finishes.node? other)

end Bookkeeping

section Submit

variable {id : NodeId} {node : Node} {device : Device}
  {before after : Scheduler}

/-- A node that waits still does so when everything that it requires was
prepared. -/
theorem prepare_launch_ok {ready : Scheduler}
    (wellFormed : before.graph.WellFormed)
    (found : before.graph.node? id = some node)
    (explicit : node.operation.isRequirement = false)
    (hinted : node.hint = some device)
    (bound : ∃ place, node.device = some place)
    (waits : node.state = .unsubmitted)
    (prepares : prepare id device before = .ok () ready)
    (result : launch id node.operation device ready = .ok () after) :
    Moves id id before ready ∧
    ∃ later dispatch, later.operation = node.operation ∧
      Launches id later device dispatch ready after := by
  obtain ⟨moves, prepared⟩ :=
    (leads_prepare device wellFormed (.inl rfl)).ok prepares
  obtain ⟨later, isLater, operation, requirements, hint⟩ :=
    (Moves.sameNodes moves).node found
  have stillBound : ∃ place, later.device = some place := by
    obtain ⟨place, held⟩ := bound
    obtain ⟨same, isSame, still⟩ := Moves.device moves found held
    rw [isLater] at isSame
    cases isSame
    exact ⟨place, still⟩
  have stillWaits : later.state = .unsubmitted :=
    Moves.state_of_unsubmitted moves (Nat.le_refl id) found waits isLater
  rw [← operation] at result explicit
  obtain ⟨dispatch, launches⟩ :=
    launch_ok isLater explicit (hint.trans hinted) stillBound stillWaits
      (fun required member =>
        prepared required (TaskGraph.requires_iff.mpr ⟨later, isLater, member⟩))
      result
  exact ⟨moves, later, dispatch, operation, launches⟩

private theorem prepare_launch_error {cause : Error}
    (wellFormed : before.graph.WellFormed)
    {operation : Operation} {rest : Action Unit}
    (never : ∀ ready launched, prepare id device before = .ok () ready →
      launch id operation device ready = .ok () launched →
        rest launched ≠ .error cause after)
    (result : (do prepare id device; launch id operation device; rest) before =
      .error cause after) : Moves id id before after := by
  have leads : Leads (Move id id) (prepare id device) before _ :=
    leads_prepare device wellFormed (.inl rfl)
  rcases bind_error_iff.mp result with failed | ⟨_, ready, prepares, result⟩
  · exact leads.error failed
  · rcases bind_error_iff.mp result
      with failed | ⟨_, launched, launches, failed⟩
    · rw [← launch_error failed]
      exact (leads.ok prepares).1
    · exact absurd failed (never ready launched prepares launches)

/-- What is left to be done for a node once it is bound to the device that it
asked for. -/
def carryOut (id : NodeId) (device : Device) : Operation → Action Unit
  | .requirement _ => do
    let _ ← resolve id
    registerSubmitted id
  | .kernel kernel => do
    prepare id device
    launch id (.kernel kernel) device
    registerSubmitted id
  | .copy copy => do
    prepare id device
    launch id (.copy copy) device
    keepSourceValid id copy
    registerSubmitted id

/-- What is left to be done, apart from registering the node. -/
def undertake (id : NodeId) (device : Device) : Operation → Action Unit
  | .requirement _ => do
    let _ ← resolve id
  | .kernel kernel => do
    prepare id device
    launch id (.kernel kernel) device
  | .copy copy => do
    prepare id device
    launch id (.copy copy) device
    keepSourceValid id copy

theorem carryOut_eq (id : NodeId) (device : Device) (operation : Operation) :
    carryOut id device operation =
      undertake id device operation >>= fun _ => registerSubmitted id := by
  cases operation with
  | requirement requirement =>
      simp only [carryOut, undertake, bind_assoc, pure_bind]
  | kernel kernel => simp only [carryOut, undertake, bind_assoc]
  | copy copy => simp only [carryOut, undertake, bind_assoc]

theorem submitNew_eq_bind (id : NodeId) :
    submitNew id = Action.getNode id >>= fun node =>
      match node.hint with
      | none => throw .unboundNode
      | some device => Action.changeNode id (·.assign device) >>= fun _ =>
          carryOut id device node.operation := by
  simp only [submitNew]
  refine congrArg (Action.getNode id >>= ·) (funext fun node => ?_)
  cases node.hint with
  | none => rfl
  | some device => cases node.operation <;> rfl

theorem submitNew_eq (found : before.graph.node? id = some node)
    (hinted : node.hint = some device) :
    submitNew id before = carryOut id device node.operation { before with
      graph := before.graph.updateNode id (·.assign device) } := by
  have first : Action.getNode id before = .ok node before :=
    Action.getNode_ok_iff.mpr ⟨found, rfl⟩
  simp only [submitNew]
  simp only [bind, EStateM.bind, first, hinted]
  cases node.operation <;> rfl

theorem submitNew_of_no_hint (found : before.graph.node? id = some node)
    (unhinted : node.hint = none) :
    submitNew id before = .error .unboundNode before := by
  have first : Action.getNode id before = .ok node before :=
    Action.getNode_ok_iff.mpr ⟨found, rfl⟩
  simp only [submitNew]
  simp only [bind, EStateM.bind, first, unhinted]
  rfl

/-- What is left to be done for a node behind its launch. -/
def conclusion (id : NodeId) : Operation → Action Unit
  | .copy copy => do
    keepSourceValid id copy
    registerSubmitted id
  | _ => registerSubmitted id

theorem carryOut_of_explicit (id : NodeId) (device : Device)
    {operation : Operation}
    (explicit : operation.isRequirement = false) :
    carryOut id device operation =
      (do
        prepare id device; launch id operation device
        conclusion id operation) := by
  cases operation with
  | requirement requirement => cases explicit
  | kernel kernel => rfl
  | copy copy => rfl

theorem conclusion_ok (operation : Operation)
    (wellFormed : before.graph.WellFormed)
    (found : before.graph.node? id = some node) :
    ∃ after, conclusion id operation before = .ok () after ∧
      Finishes id operation before after := by
  obtain ⟨after, registers, quiet, graph⟩ := registerSubmitted_ok found
  cases operation with
  | requirement requirement => exact ⟨after, registers, quiet, .inl graph⟩
  | kernel kernel => exact ⟨after, registers, quiet, .inl graph⟩
  | copy copy =>
      obtain ⟨kept, keeps, finishes⟩ := keepSourceValid_ok id wellFormed copy
      obtain ⟨after, registers, quiet, graph⟩ :=
        registerSubmitted_ok ((finishes.node? id).trans found)
      exact ⟨after, bind_ok_iff.mpr ⟨(), kept, keeps, registers⟩,
        finishes.then_note quiet graph⟩

/-- Once a node was launched, nothing can fail any more. -/
theorem conclude_launch_ok {ready : Scheduler}
    (wellFormed : before.graph.WellFormed)
    (found : before.graph.node? id = some node)
    (explicit : node.operation.isRequirement = false)
    (hinted : node.hint = some device)
    (bound : ∃ place, node.device = some place)
    (waits : node.state = .unsubmitted)
    (prepares : prepare id device before = .ok () ready)
    (result : launch id node.operation device ready = .ok () after) :
    ∃ later dispatch finished,
      Moves id id before ready ∧ Launches id later device dispatch ready after ∧
      conclusion id node.operation after = .ok () finished ∧
      Finishes id later.operation after finished := by
  obtain ⟨moves, later, dispatch, same, launches⟩ :=
    prepare_launch_ok wellFormed found explicit hinted bound waits
      prepares result
  have launchedWell : after.graph.WellFormed :=
    (Moves.wellFormed moves wellFormed).later launches.sameNodes
      (TaskGraph.regionsGrow_of_eq launches.regions)
  obtain ⟨state, isNode⟩ := launches.node?
  obtain ⟨finished, concludes, finishes⟩ :=
    conclusion_ok node.operation launchedWell isNode
  rw [← same] at finishes
  exact ⟨later, dispatch, finished, moves, launches, concludes, finishes⟩

/-- From the state in which the node is bound to its device, carrying out its
operation consists of moves and, if it succeeds, of a launch behind them. -/
private theorem carryOut_ok (wellFormed : before.graph.WellFormed)
    (found : before.graph.node? id = some node)
    (hinted : node.hint = some device)
    (bound : ∃ place, node.device = some place)
    (waits : node.state = .unsubmitted)
    (result : carryOut id device node.operation before = .ok () after) :
    (StatesRequirement before.graph id ∧ Moves id (id + 1) before after ∧
      after.graph.Submitted id) ∨
    ∃ later dispatch ready launched, Moves id id before ready ∧
      Launches id later device dispatch ready launched ∧
      Finishes id later.operation launched after := by
  cases explicit : node.operation.isRequirement with
  | true =>
      obtain ⟨requirement, operation⟩ := Operation.isRequirement_iff.mp explicit
      rw [operation] at result
      have states : StatesRequirement before.graph id :=
        ⟨node, requirement, found, operation⟩
      obtain ⟨_, resolved, resolves, registers⟩ := bind_ok_iff.mp result
      obtain ⟨moves, reached⟩ :=
        (resolves_resolve id before wellFormed states (.inl rfl)).ok resolves
      obtain ⟨later, isLater, _⟩ := (Moves.sameNodes moves).node found
      obtain ⟨_, registered, quiet, graph⟩ := registerSubmitted_ok isLater
      rw [registers] at registered
      cases registered
      refine .inl ⟨states, moves.tail (.note quiet graph), ?_⟩
      rw [graph]
      exact reached.submitted
  | false =>
      rw [carryOut_of_explicit id device explicit] at result
      obtain ⟨_, ready, prepares, result⟩ := bind_ok_iff.mp result
      obtain ⟨_, launched, launches, concludes⟩ := bind_ok_iff.mp result
      obtain ⟨later, dispatch, finished, moves, launches,
          concluded, finishes⟩ :=
        conclude_launch_ok wellFormed found explicit hinted bound waits
          prepares launches
      rw [concludes] at concluded
      cases concluded
      exact .inr ⟨later, dispatch, ready, launched, moves, launches, finishes⟩

/-- What stops a node comes before the node is taken up. -/
private theorem carryOut_error {cause : Error}
    (wellFormed : before.graph.WellFormed)
    (found : before.graph.node? id = some node)
    (hinted : node.hint = some device)
    (bound : ∃ place, node.device = some place)
    (waits : node.state = .unsubmitted)
    (result : carryOut id device node.operation before = .error cause after) :
    Moves id id before after := by
  cases explicit : node.operation.isRequirement with
  | true =>
      obtain ⟨requirement, operation⟩ := Operation.isRequirement_iff.mp explicit
      rw [operation] at result
      have states : StatesRequirement before.graph id :=
        ⟨node, requirement, found, operation⟩
      rcases bind_error_iff.mp result
        with failed | ⟨_, resolved, resolves, failed⟩
      · exact resolve_error wellFormed states (.inl rfl) failed
      · obtain ⟨moves, _⟩ :=
          (resolves_resolve id before wellFormed states (.inl rfl)).ok resolves
        obtain ⟨later, isLater, _⟩ := (Moves.sameNodes moves).node found
        obtain ⟨_, registered, _⟩ := registerSubmitted_ok isLater
        rw [failed] at registered
        cases registered
  | false =>
      rw [carryOut_of_explicit id device explicit] at result
      refine prepare_launch_error wellFormed
        (fun ready launched prepares launches failed => ?_) result
      obtain ⟨_, _, _, _, _, concluded, _⟩ :=
        conclude_launch_ok wellFormed found explicit hinted bound waits
          prepares launches
      rw [failed] at concluded
      cases concluded

/-- The submission of a node stops only before the node was launched. -/
theorem submitNew_error {cause : Error} (wellFormed : before.graph.WellFormed)
    (waits : before.graph.state? id = some .unsubmitted)
    (failed : submitNew id before = .error cause after) :
    Moves id id before after := by
  obtain ⟨node, found, state⟩ := Option.map_eq_some_iff.mp waits
  cases hinted : node.hint with
  | none =>
      rw [submitNew_of_no_hint found hinted] at failed
      cases failed
      exact .refl
  | some device =>
      rw [submitNew_eq found hinted] at failed
      let assigned : Scheduler :=
        { before with graph := before.graph.updateNode id (·.assign device) }
      have move : Move id id before assigned :=
        .assign id device node ⟨rfl, rfl, .refl _⟩ found
          (fun _ => by rw [hinted]; rfl) rfl
      have isNode : assigned.graph.node? id = some (node.assign device) :=
        TaskGraph.node?_updateNode_self found
      exact .head move
        (carryOut_error (Moves.wellFormed (.single move) wellFormed) isNode
          hinted ⟨_, rfl⟩ state failed)

end Submit

/-- Whatever a submission does is one of these things. -/
theorem submits_submit {id : NodeId} {before : Scheduler}
    (wellFormed : before.graph.WellFormed) :
    Submits id before (Action.outcome (submit id) before)
      (Action.succeeds (submit id) before) := by
  simp only [Action.outcome, Action.succeeds, submit]
  cases found : before.graph.node? id with
  | none => exact .idle _ rfl
  | some node =>
      simp only
      by_cases unsubmitted : node.isUnsubmitted = true
      · have waits := Node.isUnsubmitted_iff.mp unsubmitted
        rw [if_pos unsubmitted]
        cases hinted : node.hint with
        | none =>
            rw [submitNew_of_no_hint found hinted]
            exact .rejects .unboundNode rfl
        | some device =>
            rw [submitNew_eq found hinted]
            let assigned : Scheduler :=
              { before with
                graph := before.graph.updateNode id (·.assign device) }
            have fits :
                node.device = none → node.hint.getD device = device := by
              rw [hinted]
              exact fun _ => rfl
            have move (bound : NodeId) : Move id bound before assigned :=
              .assign id device node ⟨rfl, rfl, .refl _⟩ found fits rfl
            have isNode : assigned.graph.node? id = some (node.assign device) :=
              TaskGraph.node?_updateNode_self found
            have assignedWell := Moves.wellFormed (.single (move id)) wellFormed
            cases result : carryOut id device node.operation assigned with
            | ok _ after =>
                rcases carryOut_ok assignedWell isNode hinted ⟨_, rfl⟩
                  waits result with
                  ⟨states, moves, submitted⟩ | ⟨later, dispatch, ready,
                    launched, moves, launches, finishes⟩
                · exact .resolves (states.of_sameNodes (move id).sameNodes.symm)
                    (.head (move (id + 1)) moves) submitted
                · exact .launches later device dispatch ready launched
                    ⟨node, found, hinted, waits⟩ (.head (move id) moves)
                    launches finishes
            | error cause after =>
                have moves :=
                  carryOut_error assignedWell isNode hinted ⟨_, rfl⟩
                    waits result
                exact .fails device after cause ⟨node, found, hinted, waits⟩
                  (.head (move id) moves) rfl
      · rw [if_neg unsubmitted]
        exact .idle _ rfl

end CoherentTasks.Submission
