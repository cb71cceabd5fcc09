import CoherentTasks.Proofs.Submission.Failure

/-!
# Why submissions fail

Each cause for which a submission fails, with what holds in the state in which
it stops. The search for what a node requires never runs out of steps, because
required nodes have smaller numbers, and a region that a requirement names is
always there. So these are all the causes that there are.
-/

namespace CoherentTasks.Submission

open CoherentTasks.Backend (Executor Registry)
open CoherentTasks.Coherence (Region)
open CoherentTasks.Computation
open CoherentTasks.Geometry (Box Triple)
open CoherentTasks.Graph (Binding Copy Node Operation Requirement TaskGraph)

/-- The requirement is being resolved for `root` and is bound to the device. -/
structure Sought (root id : NodeId) (requirement : Requirement)
    (device : Device) (scheduler : Scheduler) : Prop where
  bound : ∃ node, scheduler.graph.node? id = some node ∧
    node.operation = .requirement requirement ∧ node.device = some device
  inTurn : InTurn scheduler.graph root id

/-- What stops the submission of `root`, and where. -/
inductive Obstacle (root : NodeId) (cause : Error) (stopped : Scheduler) :
    Prop where
  | unbound (same : cause = .unboundNode)
  | unboundRequirement (id : NodeId) (same : cause = .unboundRequirement id)
  | cancelledRequirement (id : NodeId) (same : cause = .cancelledRequirement id)
  | cancelledPredecessor (required dependent : NodeId)
      (same : cause = .cancelledPredecessor required dependent)
  | unsubmittedPredecessor (required dependent : NodeId)
      (same : cause = .unsubmittedPredecessor required dependent)
      (directs : Directs stopped.graph root dependent)
      (inTurn : InTurn stopped.graph root dependent)
      (edge : stopped.graph.Requires dependent required)
      (explicit : ¬ StatesRequirement stopped.graph required)
      (waits : stopped.graph.state? required = some .unsubmitted)
  | missing (required dependent : NodeId)
      (same : cause = .nodeNotFound required)
      (edge : stopped.graph.Requires dependent required)
      (absent : stopped.graph.node? required = none)
  | tooLarge (name : String) (range : Triple)
      (same : cause = .bufferTooLarge name range)
  | refused (bytes : Nat) (name : String) (device : Device)
      (same : cause = .allocationRefused bytes name device)
  | noSource (part : Box) (name : String) (device : Device)
      (same : cause = .noUpdateSource part name device)
  | allocation (id : NodeId) (requirement : Requirement) (device : Device)
      (alignment bytes : Nat)
      (sought : Sought root id requirement device stopped)
      (failed : stopped.registry.allocate device alignment bytes = .error cause)
  | transfer (id : NodeId) (requirement : Requirement) (device : Device)
      (region : Region) (copies : List Copy) (copy : Copy)
      (sought : Sought root id requirement device stopped)
      (tracked : stopped.graph.region? requirement.region = some region)
      (planned : planTransfers region device requirement.window = .ok copies)
      (member : copy ∈ copies)
      (failed :
        selectExecutor stopped.registry device (.copy copy) = .error cause)
  | launch (node : Node) (device : Device)
      (found : stopped.graph.node? root = some node)
      (explicit : node.operation.isRequirement = false)
      (hinted : node.hint = some device)
      (failed :
        selectExecutor stopped.registry device node.operation = .error cause)

variable {root bound id : NodeId} {before after : Scheduler}
  {requirement : Requirement} {device : Device}

theorem Sought.moves (sought : Sought root id requirement device before)
    (moves : Moves root bound before after) :
    Sought root id requirement device after := by
  obtain ⟨node, found, states, held⟩ := sought.bound
  obtain ⟨later, isLater, stillHeld⟩ := Moves.device moves found held
  obtain ⟨counterpart, isCounterpart, operation, _⟩ :=
    (Moves.sameNodes moves).node found
  rw [isLater] at isCounterpart
  cases isCounterpart
  exact ⟨⟨later, isLater, operation.trans states, stillHeld⟩,
    Moves.inTurn moves sought.inTurn⟩

theorem Sought.tracked (sought : Sought root id requirement device before)
    (wellFormed : before.graph.WellFormed) :
    ∃ region, before.graph.region? requirement.region = some region := by
  obtain ⟨node, found, states, _⟩ := sought.bound
  exact wellFormed.tracked found states

section Requirement

/-- Nothing can be fetched from anywhere, if no plan is found. -/
private theorem noUpdateSource_of_fetch {region : Region} {steps : Nat}
    {stack : List Box} {cause : Error}
    (failed : fetch region device steps stack = .error cause) :
    ∃ part, cause = .noUpdateSource part region.name device := by
  induction steps generalizing stack with
  | zero => cases failed
  | succ steps induction =>
      cases stack with
      | nil => cases failed
      | cons box stack =>
          simp only [fetch] at failed
          split at failed
          · cases failed
            exact ⟨box, rfl⟩
          · rcases bind_eq_error_iff.mp failed with stopped | ⟨_, _, never⟩
            · exact induction stopped
            · cases never

private theorem noUpdateSource_of_planTransfers {region : Region} {window : Box}
    {cause : Error}
    (failed : planTransfers region device window = .error cause) :
    ∃ part, cause = .noUpdateSource part region.name device := by
  simp only [planTransfers] at failed
  rcases bind_eq_error_iff.mp failed with stopped | ⟨_, _, never⟩
  · obtain ⟨box, _, stopped⟩ := exists_error_of_mapM stopped
    exact noUpdateSource_of_fetch stopped
  · cases never

private theorem stops_ensureAllocation (wellFormed : before.graph.WellFormed)
    (sought : Sought root id requirement device before) :
    Stops (Obstacle root)
      (ensureAllocation requirement.region device) before := by
  obtain ⟨region, tracked⟩ := sought.tracked wellFormed
  simp only [ensureAllocation]
  apply (Action.stops_getRegion tracked).bind
  intro found _ got
  obtain ⟨_, rfl⟩ := Action.getRegion_ok_iff.mp got
  split
  · exact stops_pure _ before
  · split
    · exact stops_throw (.tooLarge _ _ rfl)
    · rename_i bytes size
      apply Stops.bind
      · simp only [Action.requestMemory]
        apply (stops_get before).bind
        intro _ _ read
        obtain ⟨rfl, rfl⟩ := get_ok_iff.mp read
        apply Stops.bind
        · apply Action.stops_ofExcept
          exact fun cause failed =>
            .allocation id requirement device _ _ sought failed
        · intro _ between _
          apply (stops_modify _ between).bind
          exact fun _ last _ => stops_pure _ last
      · intro granted between _
        cases granted with
        | none => exact stops_throw (.refused _ _ _ rfl)
        | some pointer => exact stops_modify _ between

private theorem stops_bindPointer (wellFormed : before.graph.WellFormed)
    (sought : Sought root id requirement device before) :
    Stops (Obstacle root)
      (bindPointer id requirement.region device) before := by
  obtain ⟨region, tracked⟩ := sought.tracked wellFormed
  simp only [bindPointer]
  apply (Action.stops_getRegion tracked).bind
  exact fun found between _ => stops_modify _ between

private theorem stops_selectTransfers (wellFormed : before.graph.WellFormed)
    (sought : Sought root id requirement device before) :
    Stops (Obstacle root) (selectTransfers requirement device) before := by
  obtain ⟨region, tracked⟩ := sought.tracked wellFormed
  simp only [selectTransfers]
  split
  · exact stops_pure _ before
  · apply (Action.stops_getRegion tracked).bind
    intro found _ got
    obtain ⟨isFound, rfl⟩ := Action.getRegion_ok_iff.mp got
    apply Stops.bind
    · apply Action.stops_ofExcept
      intro cause failed
      obtain ⟨part, same⟩ := noUpdateSource_of_planTransfers failed
      exact .noSource part _ _ same
    · intro copies _ chosen
      obtain ⟨planned, rfl⟩ := Action.ofExcept_ok_iff.mp chosen
      apply (stops_get before).bind
      intro _ _ read
      obtain ⟨rfl, rfl⟩ := get_ok_iff.mp read
      apply stops_mapM
      · intro copy result after selected
        obtain ⟨_, _, selected, returned⟩ := bind_ok_iff.mp selected
        obtain ⟨_, rfl⟩ := Action.ofExcept_ok_iff.mp selected
        exact (pure_ok_iff.mp returned).2
      · intro copy member
        apply Stops.bind
        · apply Action.stops_ofExcept
          exact fun cause failed =>
            .transfer id requirement device found copies copy sought isFound
              planned member failed
        · exact fun _ between _ => stops_pure _ between

/-- Only to choose the copies can fail. -/
private theorem stops_settle {node : Node}
    (wellFormed : before.graph.WellFormed)
    (readied : Readied root id node requirement device before) :
    Stops (Obstacle root) (settle id requirement device) before := by
  have sought : Sought root id requirement device before :=
    ⟨⟨node, readied.found, readied.states, readied.bound⟩, readied.inTurn⟩
  have leads : Leads (Move root id) (choose id requirement device) before _ :=
    leads_choose readied.found
  rw [settle_eq]
  apply Stops.bind
  · simp only [choose]
    apply (stops_modify _ before).bind
    intro _ first recorded
    have moved : Moves root id before first := by
      rw [← modify_ok_iff.mp recorded]
      exact .single (.note (.record before rfl) rfl)
    apply (stops_ensureAllocation (Moves.wellFormed moved wellFormed)
      (sought.moves moved)).bind
    intro _ second ensured
    have allocates :
        Leads (Move root id) (ensureAllocation requirement.region device)
          first _ :=
      leads_ensureAllocation _ _ _
    have moved := moved.trans (allocates.ok ensured).1
    apply (stops_bindPointer (Moves.wellFormed moved wellFormed)
      (sought.moves moved)).bind
    intro _ third pointed
    have binds :
        Leads (Move root id) (bindPointer id requirement.region device)
          second _ :=
      leads_bindPointer _ _ _ _
    have moved := moved.trans (binds.ok pointed).1
    exact stops_selectTransfers (Moves.wellFormed moved wellFormed)
      (sought.moves moved)
  · intro transfers between chosen
    obtain ⟨moves, pointer, region, isNode, tracked, allocated,
        executed, planned⟩ := leads.ok chosen
    have inTurn := Moves.inTurn moves readied.inTurn
    obtain ⟨_, after, _, concluded, _⟩ :=
      settles_conclude isNode readied.states readied.bound readied.waits
        (fun required member =>
          Moves.submitted moves (readied.prepared required member))
        inTurn tracked allocated executed planned
    rw [stops_iff]
    intro cause stopped failed
    rw [failed] at concluded
    cases concluded

end Requirement

section Resolution

/-- Whatever stops the resolution of a requirement in its turn is an
obstacle. -/
def StopsAtObstacles (root : NodeId) (resolve : NodeId → Action Resolution)
    (id : NodeId) : Prop :=
  ∀ before, before.graph.WellFormed → StatesRequirement before.graph id →
    InTurn before.graph root id → Stops (Obstacle root) (resolve id) before

variable {resolve : NodeId → Action Resolution} {node : Node}

private theorem stops_assignDevices {dependent : NodeId} (device : Device)
    (ids : List NodeId)
    (edges : ∀ id ∈ ids, before.graph.Requires dependent id) :
    Stops (Obstacle root) (assignDevices device ids) before := by
  induction ids generalizing before with
  | nil => exact stops_pure _ before
  | cons id ids induction =>
      simp only [assignDevices]
      apply Stops.bind
      · apply Action.stops_getNode
        exact fun absent =>
          .missing id dependent rfl (edges id List.mem_cons_self) absent
      · intro node _ got
        obtain ⟨_, rfl⟩ := Action.getNode_ok_iff.mp got
        apply (stops_modify _ before).bind
        intro _ between changed
        obtain rfl := modify_ok_iff.mp changed
        apply induction
        intro other member
        have same : before.graph.SameNodes
            (before.graph.updateNode id (·.assign (node.hint.getD device))) :=
          TaskGraph.sameNodes_updateNode _ _ fun _ => rfl
        exact same.requires ▸ edges other (List.mem_cons_of_mem _ member)

private theorem stops_settleRequired (resolves : Resolves root resolve)
    {dependent : NodeId}
    (halts : ∀ id < dependent, StopsAtObstacles root resolve id)
    {done ids : List NodeId}
    (preparing : Preparing root dependent done ids before)
    (inTurn : InTurn before.graph root dependent) :
    Stops (Obstacle root) (settleRequired resolve dependent ids) before := by
  induction ids generalizing done before with
  | nil => exact stops_pure _ before
  | cons id ids induction =>
      simp only [settleRequired]
      apply Stops.bind
      · apply Action.stops_getNode
        exact fun absent => .missing id dependent rfl preparing.edge absent
      · intro node _ got
        obtain ⟨found, rfl⟩ := Action.getNode_ok_iff.mp got
        split
        · rename_i isRequirement
          have stated : StatesRequirement before.graph id :=
            (statesRequirement_iff found).mpr isRequirement
          have leads :=
            (resolves id before preparing.wellFormed stated
              preparing.inTurn).widen
              fun _ _ move => move.widen preparing.below
          apply (halts id preparing.below before preparing.wellFormed stated
            preparing.inTurn).bind
          intro _ between resolved
          obtain ⟨moves, reached⟩ := leads.ok resolved
          exact induction (preparing.next moves reached.submitted)
            (Moves.inTurn moves inTurn)
        · rename_i isNot
          split
          · exact stops_throw (.cancelledPredecessor id dependent rfl)
          · split
            · rename_i isNotCancelled isNotSubmitted
              have waits : node.state = .unsubmitted :=
                Node.waits_of_not (by simpa using isNotSubmitted) isNotCancelled
              exact stops_throw (.unsubmittedPredecessor id dependent rfl
                preparing.directs inTurn preparing.edge
                ((statesRequirement_iff found).not.mpr isNot)
                (TaskGraph.state?_of_node? found waits))
            · rename_i isSubmitted
              have here : before.graph.Submitted id :=
                (TaskGraph.submitted_iff found).mpr (by simpa using isSubmitted)
              have stays : Moves root dependent before before := .refl
              exact induction (preparing.next stays here) inTurn

private theorem stops_prepareWith (resolves : Resolves root resolve)
    (halts : ∀ required < id, StopsAtObstacles root resolve required)
    (device : Device) (wellFormed : before.graph.WellFormed)
    (directs : Directs before.graph root id)
    (inTurn : InTurn before.graph root id) :
    Stops (Obstacle root) (prepareWith resolve id device) before := by
  simp only [prepareWith]
  apply (stops_get before).bind
  intro _ _ read
  obtain ⟨rfl, rfl⟩ := get_ok_iff.mp read
  apply (stops_assignDevices device _ fun _ member => member).bind
  intro _ between assigned
  have leads :
      Leads (Move root id)
        (assignDevices device (before.graph.requirementsOf id)) before _ :=
    leads_assignDevices device _ before
  have moves := (leads.ok assigned).1
  exact stops_settleRequired resolves halts (.start wellFormed directs moves)
    (Moves.inTurn moves inTurn)

private theorem stops_resolveWaiting (resolves : Resolves root resolve)
    (halts : ∀ required < id, StopsAtObstacles root resolve required)
    (wellFormed : before.graph.WellFormed)
    (found : before.graph.node? id = some node)
    (states : node.operation = .requirement requirement)
    (waits : node.state = .unsubmitted)
    (chosen : node.device.or node.hint = some device)
    (inTurn : InTurn before.graph root id) :
    Stops (Obstacle root)
      (resolveWaiting resolve id requirement device) before := by
  have prepares :=
    leads_prepareWaiting resolves wellFormed found states waits chosen inTurn
  rw [resolveWaiting_eq]
  apply Stops.bind
  · apply (stops_modify _ before).bind
    intro _ between changed
    obtain rfl := modify_ok_iff.mp changed
    have fits : node.device = none → node.hint.getD device = device := by
      intro unbound
      rw [unbound, Option.none_or] at chosen
      rw [chosen]
      rfl
    have moves : Moves root id before
        { before with graph := before.graph.updateNode id (·.assign device) } :=
      .single (.assign id device node ⟨rfl, rfl, .refl _⟩ found fits rfl)
    have directs : Directs before.graph root id :=
      .inr ⟨node, requirement, found, states⟩
    exact stops_prepareWith resolves halts device
      (Moves.wellFormed moves wellFormed)
      (directs.of_sameNodes (Moves.sameNodes moves)) (Moves.inTurn moves inTurn)
  · intro _ between prepared
    obtain ⟨moves, later, readied⟩ := prepares.ok prepared
    exact stops_settle (Moves.wellFormed moves wellFormed) readied

private theorem stopsAtObstacles_resolveWith (resolves : Resolves root resolve)
    (halts : ∀ required < id, StopsAtObstacles root resolve required) :
    StopsAtObstacles root (resolveWith resolve) id := by
  intro before wellFormed stated inTurn
  obtain ⟨node, requirement, found, states⟩ := stated
  simp only [resolveWith]
  apply Stops.bind
  · apply Action.stops_getNode
    intro absent
    rw [found] at absent
    cases absent
  · intro same _ got
    obtain ⟨isNode, rfl⟩ := Action.getNode_ok_iff.mp got
    rw [found] at isNode
    cases isNode
    simp only [states]
    split
    · exact stops_pure _ before
    · rename_i isNotSubmitted
      split
      · exact stops_throw (.cancelledRequirement id rfl)
      · rename_i isNotCancelled
        cases chosen : node.device.or node.hint with
        | none => exact stops_throw (.unboundRequirement id rfl)
        | some device =>
            have waits := Node.waits_of_not isNotSubmitted isNotCancelled
            exact stops_resolveWaiting resolves halts wellFormed found states
              waits chosen inTurn

/-- Chains of required nodes are never longer than the depth. -/
private theorem stopsAtObstacles_resolveWithin {depth : Nat}
    (deep : id < depth) : StopsAtObstacles root (resolveWithin depth) id := by
  induction depth generalizing id with
  | zero => exact absurd deep (Nat.not_lt_zero id)
  | succ depth induction =>
      apply stopsAtObstacles_resolveWith (resolves_resolveWithin depth)
      intro required below
      exact induction (Nat.lt_of_lt_of_le below (Nat.le_of_lt_succ deep))

end Resolution

private theorem stopsAtObstacles_resolve : StopsAtObstacles root resolve id :=
  stopsAtObstacles_resolveWithin (Nat.lt_succ_self id)

private theorem stops_prepare (device : Device)
    (wellFormed : before.graph.WellFormed) :
    Stops (Obstacle root) (prepare root device) before :=
  stops_prepareWith resolves_resolve (fun _ _ => stopsAtObstacles_resolve)
    device wellFormed (.inl rfl) (.inl rfl)

section Submit

variable {node : Node}

private theorem stops_launch (found : before.graph.node? root = some node)
    (explicit : node.operation.isRequirement = false)
    (hinted : node.hint = some device) :
    Stops (Obstacle root) (launch root node.operation device) before := by
  simp only [launch]
  apply (stops_get before).bind
  intro _ _ read
  obtain ⟨rfl, rfl⟩ := get_ok_iff.mp read
  apply Stops.bind
  · apply Action.stops_ofExcept
    exact fun cause failed => .launch node device found explicit hinted failed
  · intro selected between _
    apply Stops.bind
    · exact Action.stops_dispatch _ _ _ _ _ between
    · exact fun _ last _ => stops_modify _ last

private theorem stops_carryOut (wellFormed : before.graph.WellFormed)
    (found : before.graph.node? root = some node)
    (hinted : node.hint = some device)
    (bound : ∃ place, node.device = some place)
    (waits : node.state = .unsubmitted) :
    Stops (Obstacle root) (carryOut root device node.operation) before := by
  cases explicit : node.operation.isRequirement with
  | true =>
      obtain ⟨requirement, operation⟩ := Operation.isRequirement_iff.mp explicit
      have stated : StatesRequirement before.graph root :=
        ⟨node, requirement, found, operation⟩
      rw [operation]
      simp only [carryOut]
      apply (stopsAtObstacles_resolve before wellFormed stated (.inl rfl)).bind
      intro _ between resolved
      obtain ⟨moves, _⟩ :=
        (resolves_resolve root before wellFormed stated (.inl rfl)).ok resolved
      obtain ⟨later, isLater, _⟩ := (Moves.sameNodes moves).node found
      obtain ⟨after, registers, _⟩ := registerSubmitted_ok isLater
      exact stops_of_ok registers
  | false =>
      rw [carryOut_of_explicit root device explicit]
      have leads : Leads (Move root root) (prepare root device) before _ :=
        leads_prepare device wellFormed (.inl rfl)
      apply (stops_prepare device wellFormed).bind
      intro _ ready prepares
      obtain ⟨later, isLater, operation, _, hint⟩ :=
        (Moves.sameNodes (leads.ok prepares).1).node found
      apply Stops.bind
      · rw [← operation] at explicit ⊢
        exact stops_launch isLater explicit (hint.trans hinted)
      · intro _ launched launches
        obtain ⟨_, _, finished, _, _, concludes, _⟩ :=
          conclude_launch_ok wellFormed found explicit hinted bound waits
            prepares launches
        exact stops_of_ok concludes

private theorem stops_submitNew (wellFormed : before.graph.WellFormed)
    (waits : before.graph.state? root = some .unsubmitted) :
    Stops (Obstacle root) (submitNew root) before := by
  obtain ⟨node, found, state⟩ := Option.map_eq_some_iff.mp waits
  rw [submitNew_eq_bind]
  apply Stops.bind
  · apply Action.stops_getNode
    intro absent
    rw [found] at absent
    cases absent
  · intro same _ got
    obtain ⟨isNode, rfl⟩ := Action.getNode_ok_iff.mp got
    rw [found] at isNode
    cases isNode
    cases hinted : node.hint with
    | none => exact stops_throw (.unbound rfl)
    | some device =>
        apply (stops_modify _ before).bind
        intro _ _ changed
        obtain rfl := modify_ok_iff.mp changed
        have fits : node.device = none → node.hint.getD device = device := by
          rw [hinted]
          exact fun _ => rfl
        let assigned : Scheduler :=
          { before with
            graph := before.graph.updateNode root (·.assign device) }
        have moves : Moves root root before assigned :=
          .single (.assign root device node ⟨rfl, rfl, .refl _⟩ found fits rfl)
        have isNode : assigned.graph.node? root = some (node.assign device) :=
          TaskGraph.node?_updateNode_self found
        have carries :
            Stops (Obstacle root)
              (carryOut root device (node.assign device).operation) assigned :=
          stops_carryOut (Moves.wellFormed moves wellFormed) isNode hinted
            ⟨_, rfl⟩ state
        exact carries

/-- A submission that fails was stopped at an obstacle, in a state to which
moves lead, before it gave up and told so. -/
theorem obstacle_of_submit_error {cause : Error}
    (wellFormed : before.graph.WellFormed)
    (waits : before.graph.state? root = some .unsubmitted)
    (failed : submit root before = .error cause after) :
    ∃ stopped, Moves root root before stopped ∧ Obstacle root cause stopped ∧
      after = giveUp before stopped root cause ∧
      after.failures = before.failures.map (· ++ [⟨root, cause⟩]) := by
  obtain ⟨stopped, result, given⟩ := submitNew_of_submit_error waits failed
  obtain ⟨_, failures⟩ := books_of_submitNew_error result
  refine ⟨stopped, submitNew_error wellFormed waits result,
    (stops_submitNew wellFormed waits).error result, given, ?_⟩
  rw [given, ← failures]
  rfl

end Submit

end CoherentTasks.Submission
