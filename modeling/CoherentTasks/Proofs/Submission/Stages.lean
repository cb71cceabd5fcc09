import CoherentTasks.Proofs.Submission.Holding
import CoherentTasks.Proofs.Submission.Marks
import CoherentTasks.Proofs.Submission.Scope
import CoherentTasks.Proofs.Submission.Windows

/-!
# Copies behind a read and a write

A node may copy a window of a buffer itself, behind a requirement to read its
source and one to write its destination. Its submission settles the read, then
the write, and then launches the copy. What the write has made invalid in the
source is marked as valid again.
-/

namespace CoherentTasks.Submission

open CoherentTasks.Computation
open CoherentTasks.Coherence (Region)
open CoherentTasks.Geometry (Box Triple)
open CoherentTasks.Graph (Copy Node Operation Requirement TaskGraph)

/-- What was settled in between does not drop the contents of its window. -/
def Preserves (before after : Scheduler) : Prop :=
  ∀ id node requirement, before.graph.node? id = some node →
    node.operation = .requirement requirement → node.state = .unsubmitted →
      after.graph.Submitted id → requirement.mode.discards = false

section Preserves

variable {root bound : NodeId} {before between after : Scheduler}

theorem Preserves.first (preserves : Preserves before after)
    (rest : Moves root bound between after) : Preserves before between :=
  fun id node requirement found states waits submitted =>
    preserves id node requirement found states waits
      (Moves.submitted rest submitted)

theorem Preserves.second (preserves : Preserves before after)
    (start : Moves root bound before between) : Preserves between after := by
  intro id node requirement found states waits submitted
  obtain ⟨earlier, isNode, operation, _⟩ :=
    (Moves.sameNodes start).symm.node found
  refine preserves id earlier requirement isNode (operation.trans states)
    ?_ submitted
  have state : between.graph.state? id = some .unsubmitted :=
    TaskGraph.state?_of_node? found waits
  apply TaskGraph.state_of_state? isNode
  by_contra settled
  exact settled ((Moves.state?_of_ne start settled).symm.trans state)

end Preserves

section Pair

variable {root bound id reads writes : NodeId} {node : Node}
  {requirement : Requirement} {device : Device} {region : Region}
  {copies : List Copy} {made : List Dispatch} {before between after : Scheduler}

theorem Settles.device?
    (settles :
      Settles root id node requirement device region copies made before after) :
    after.graph.device? id = some device := by
  obtain ⟨state, found⟩ := settles.node?
  simp only [TaskGraph.device?]
  rw [found]
  exact settles.bound

theorem Moves.device? (moves : Moves root bound before after)
    (held : before.graph.device? id = some device) :
    after.graph.device? id = some device := by
  obtain ⟨node, found, bound⟩ := Option.bind_eq_some_iff.mp held
  obtain ⟨later, isLater, stillBound⟩ := Moves.device moves found bound
  exact Option.bind_eq_some_iff.mpr ⟨later, isLater, stillBound⟩

/-- What is settled is the requirement that the node stated from the start. -/
theorem Settles.requirement_eq {stated : Requirement} {earlier : Node}
    (settles :
      Settles root id node requirement device region copies made between after)
    (same : before.graph.SameNodes between.graph)
    (found : before.graph.node? id = some earlier)
    (states : earlier.operation = .requirement stated) :
    requirement = stated := by
  obtain ⟨counterpart, isNode, operation, _⟩ := same.node found
  rw [settles.found] at isNode
  cases isNode
  have equal := settles.states.symm.trans (operation.trans states)
  cases equal
  rfl

/-- A node with two requirements that wait is prepared by settling one and then
the other, if the first does not depend on the second. -/
private theorem prepare_pair_ok (wellFormed : before.graph.WellFormed)
    (both : before.graph.requirementsOf id = [reads, writes])
    (states : ∀ required ∈ [reads, writes],
      StatesRequirement before.graph required ∧
      before.graph.state? required = some .unsubmitted)
    (apart : ¬ before.graph.DependsOn reads writes) (different : writes ≠ reads)
    (prepares : prepare id device before = .ok () after) :
    ∃ start middle between, (Moves id id before start ∧
      ∃ node requirement device region copies made, Settles id reads node
        requirement device region copies made start middle) ∧
      (Moves id id middle between ∧
        ∃ node requirement device region copies made, Settles id writes node
          requirement device region copies made between after) := by
  obtain ⟨readStates, readWaits⟩ := states reads List.mem_cons_self
  obtain ⟨writeStates, writeWaits⟩ :=
    states writes (List.mem_cons_of_mem _ List.mem_cons_self)
  obtain ⟨bound, binds, _, sameStates, settles⟩ := prepare_ok prepares
  have sameBound := Moves.sameNodes binds
  have preparing := Preparing.start wellFormed (.inl rfl) binds
  rw [both] at settles preparing
  obtain ⟨_, middle, resolves, moves, resolved, preparing, settles⟩ :=
    settleRequired_cons_ok preparing (readStates.of_sameNodes sameBound) settles
  obtain ⟨_, _, _, _, resolvedThen, _, rest⟩ := settleRequired_cons_ok preparing
    (writeStates.of_sameNodes (sameBound.trans (Moves.sameNodes moves))) settles
  cases rest
  -- The second requirement is not settled before its turn.
  have stillWaits : middle.graph.state? writes = some .unsubmitted := by
    have outside : ¬ bound.graph.Involves reads writes := by
      intro involved
      exact involved.elim different (sameBound.dependsOn ▸ apart)
    have spared := (confined_resolve reads bound).state?_of_apart outside
    rw [Action.outcome_of_ok resolves] at spared
    exact (spared.trans (sameStates writes)).trans writeWaits
  have below (required : NodeId) (member : required ∈ [reads, writes]) :
      required + 1 ≤ id := by
    apply wellFormed.earlier
    simp only [TaskGraph.Requires]
    rw [both]
    exact member
  have widen {first last : Scheduler} {required : NodeId}
      (member : required ∈ [reads, writes])
      (moves : Moves id (required + 1) first last) : Moves id id first last :=
    Relation.ReflTransGen.mono
      (fun _ _ move => move.widen (below required member)) _ _ moves
  rcases resolved
    with ⟨submitted, _⟩ | ⟨_, _, _, _, _, _, start, further, settlesRead⟩
  · exact absurd ((sameStates reads).trans readWaits) submitted.not_unsubmitted
  · rcases resolvedThen
      with ⟨submitted, _⟩ | ⟨_, _, _, _, _, _, between, last, settlesWrite⟩
    · exact absurd stillWaits submitted.not_unsubmitted
    · exact ⟨start, middle, between,
        ⟨binds.trans (widen List.mem_cons_self further), _, _, _, _, _, _,
          settlesRead⟩, ⟨widen (List.mem_cons_of_mem _ List.mem_cons_self) last,
            _, _, _, _, _, _, settlesWrite⟩⟩

/-- To prepare a node leaves the states of those that it does not depend on. -/
private theorem state?_prepare_of_apart {other : NodeId}
    (wellFormed : before.graph.WellFormed)
    (prepares : prepare id device before = .ok () after)
    (apart : ¬ before.graph.DependsOn id other) :
    after.graph.state? other = before.graph.state? other := by
  by_cases isRoot : other = id
  · have leads : Leads (Move id id) (prepare id device) before _ :=
      leads_prepare device wellFormed (.inl rfl)
    rw [isRoot]
    exact Moves.state?_of_le (leads.ok prepares).1 (Nat.le_refl id)
  · have outside : ¬ before.graph.Involves id other :=
      fun involved => involved.elim isRoot apart
    have spared := (confined_prepare id device before).state?_of_apart outside
    rw [Action.outcome_of_ok prepares] at spared
    exact spared

end Pair

section Source

variable {id required : NodeId} {copy : Copy} {before after : Scheduler}

/-- Once a copy was launched, its source is valid where a requirement guards
it. -/
private theorem holds_source_of_conclusion {guard : Node} {region : Region}
    (edge : before.graph.Requires id required)
    (found : before.graph.node? required = some guard)
    (guards : guardsSource copy guard = true)
    (tracked : before.graph.region? copy.source.region = some region)
    (allocated : region.hasAllocation copy.source.device = true)
    (concludes : conclusion id (.copy copy) before = .ok () after) :
    ∀ position ∈ copy.sourceBox,
      after.graph.Holds copy.source.region copy.source.device position := by
  intro position inside
  obtain ⟨_, kept, keeps, registers⟩ := bind_ok_iff.mp concludes
  simp only [keepSourceValid] at keeps
  obtain ⟨_, _, first, keeps⟩ := bind_ok_iff.mp keeps
  obtain ⟨rfl, rfl⟩ := get_ok_iff.mp first
  have guarded :
      ((before.graph.requirementsOf id).filterMap before.graph.node?).any
          (guardsSource copy) = true :=
    List.any_eq_true.mpr
      ⟨guard, List.mem_filterMap.mpr ⟨required, edge, found⟩, guards⟩
  rw [if_pos guarded] at keeps
  obtain ⟨_, _, looked, marks⟩ := bind_ok_iff.mp keeps
  obtain ⟨_, rfl⟩ := Action.getRegion_ok_iff.mp looked
  cases marks
  simp only [registerSubmitted] at registers
  obtain ⟨_, _, isNode, registers⟩ := bind_ok_iff.mp registers
  obtain ⟨_, rfl⟩ := Action.getNode_ok_iff.mp isNode
  cases registers
  exact (TaskGraph.holds_markValid tracked).mpr
    (.inr ⟨rfl, rfl, allocated, inside⟩)

end Source

/-- The node copies a window that it requires to be read into one that it then
requires to be written. All three nodes wait. No requirement behind the two that
waits drops the contents of its window. -/
structure ReadsAndWrites (graph : TaskGraph) (id reads writes : NodeId)
    (copy : Copy) : Prop where
  copies : ∃ node, graph.node? id = some node ∧ node.operation = .copy copy ∧
    node.requirements = [reads, writes] ∧ node.state = .unsubmitted
  source : ∃ node, graph.node? reads = some node ∧
    node.operation = .requirement ⟨copy.source.region, copy.sourceBox, .read⟩ ∧
      node.state = .unsubmitted
  destination : ∃ node, graph.node? writes = some node ∧ node.operation =
    .requirement ⟨copy.destination.region, copy.destinationBox, .discardWrite⟩ ∧
    node.state = .unsubmitted
  behind : ∀ required node requirement,
    graph.DependsOn reads required ∨ graph.DependsOn writes required →
    graph.node? required = some node →
    node.operation = .requirement requirement → node.state = .unsubmitted →
    requirement.mode.discards = false

section Stages

variable {id reads writes : NodeId} {copy : Copy}
  {before between ready after : Scheduler}

namespace ReadsAndWrites

theorem apart (setting : ReadsAndWrites before.graph id reads writes copy) :
    ¬ before.graph.DependsOn reads writes := by
  intro reached
  obtain ⟨node, found, states, waits⟩ := setting.destination
  cases setting.behind writes node _ (.inl reached) found states waits

theorem different (setting : ReadsAndWrites before.graph id reads writes copy) :
    writes ≠ reads := by
  intro equal
  subst equal
  obtain ⟨read, isRead, readStates, _⟩ := setting.source
  obtain ⟨write, isWrite, writeStates, _⟩ := setting.destination
  rw [isRead] at isWrite
  cases isWrite
  exact absurd (readStates.symm.trans writeStates) (by simp)

theorem requirementsOf
    (setting : ReadsAndWrites before.graph id reads writes copy) :
    before.graph.requirementsOf id = [reads, writes] := by
  obtain ⟨node, found, _, requirements, _⟩ := setting.copies
  simp only [TaskGraph.requirementsOf]
  rw [found]
  exact requirements

theorem requires (setting : ReadsAndWrites before.graph id reads writes copy)
    {required : NodeId} (member : required ∈ [reads, writes]) :
    before.graph.Requires id required := by
  simp only [TaskGraph.Requires]
  rw [setting.requirementsOf]
  exact member

theorem states (setting : ReadsAndWrites before.graph id reads writes copy) :
    ∀ required ∈ [reads, writes], StatesRequirement before.graph required ∧
      before.graph.state? required = some .unsubmitted := by
  obtain ⟨read, isRead, readStates, readWaits⟩ := setting.source
  obtain ⟨write, isWrite, writeStates, writeWaits⟩ := setting.destination
  intro required member
  rcases List.mem_cons.mp member with rfl | member
  · exact ⟨⟨read, _, isRead, readStates⟩,
      TaskGraph.state?_of_node? isRead readWaits⟩
  · cases List.mem_singleton.mp member
    exact ⟨⟨write, _, isWrite, writeStates⟩,
      TaskGraph.state?_of_node? isWrite writeWaits⟩

/-- The nodes that the copy depends on are the two requirements and what lies
behind them. -/
private theorem cases_of_dependsOn
    (setting : ReadsAndWrites before.graph id reads writes copy)
    {required : NodeId} (reached : before.graph.DependsOn id required) :
    required = reads ∨ required = writes ∨
    before.graph.DependsOn reads required ∨
    before.graph.DependsOn writes required := by
  obtain ⟨first, edge, rest⟩ := Relation.TransGen.head'_iff.mp reached
  simp only [TaskGraph.Requires] at edge
  rw [setting.requirementsOf] at edge
  have direct : first = reads ∨ first = writes := by simpa using edge
  rcases Relation.reflTransGen_iff_eq_or_transGen.mp rest with rfl | behind
  · exact direct.imp_right .inl
  · rcases direct with rfl | rfl
    · exact .inr (.inr (.inl behind))
    · exact .inr (.inr (.inr behind))

/-- Until the write is settled, only requirements were settled that keep the
contents of their windows. -/
theorem preserves (setting : ReadsAndWrites before.graph id reads writes copy)
    (spared : ∀ other, ¬ before.graph.DependsOn id other →
      ready.graph.state? other = before.graph.state? other)
    (kept : ∀ other,
      between.graph.Submitted other → ready.graph.Submitted other)
    (waits : between.graph.state? writes = some .unsubmitted) :
    Preserves before between := by
  intro other node requirement found states unsubmitted submitted
  have reached : before.graph.DependsOn id other := by
    by_contra apart
    have stillWaits : ready.graph.state? other = some .unsubmitted := by
      rw [spared other apart]
      exact TaskGraph.state?_of_node? found unsubmitted
    exact (kept other submitted).not_unsubmitted stillWaits
  rcases setting.cases_of_dependsOn reached with rfl | rfl | behind
  · obtain ⟨read, isRead, readStates, _⟩ := setting.source
    rw [isRead] at found
    cases found
    cases readStates.symm.trans states
    rfl
  · exact absurd waits submitted.not_unsubmitted
  · exact setting.behind other node requirement behind found states unsubmitted

/-- To prepare the copy is to settle the read, as it was stated, and then the
write. -/
theorem prepare_ok {start : Scheduler} {device : Device}
    (wellFormed : start.graph.WellFormed)
    (setting : ReadsAndWrites before.graph id reads writes copy)
    (same : before.graph.SameNodes start.graph)
    (unchanged : ∀ other, start.graph.state? other = before.graph.state? other)
    (prepares : prepare id device start = .ok () ready) :
    ∃ reading middle between source destination,
      Moves id id start reading ∧ Moves id id middle between ∧
      (∃ node region copies made,
        Settles id reads node ⟨copy.source.region, copy.sourceBox, .read⟩ source
          region copies made reading middle) ∧
      (∃ node region copies made, Settles id writes node
        ⟨copy.destination.region, copy.destinationBox, .discardWrite⟩
        destination region copies made between ready) := by
  obtain ⟨_, isRead, readStates, _⟩ := setting.source
  obtain ⟨_, isWrite, writeStates, _⟩ := setting.destination
  have both : start.graph.requirementsOf id = [reads, writes] :=
    (same.requirementsOf id).symm.trans setting.requirementsOf
  have states :
      ∀ required ∈ [reads, writes], StatesRequirement start.graph required ∧
        start.graph.state? required = some .unsubmitted :=
    fun required member =>
    ⟨(setting.states required member).1.of_sameNodes same,
      (unchanged required).trans (setting.states required member).2⟩
  obtain ⟨reading, middle, between,
      ⟨first, _, _, source, readRegion, readCopies, readMade, settlesRead⟩,
      ⟨second, _, _, destination, writeRegion, writeCopies, writeMade,
        settlesWrite⟩⟩ :=
    prepare_pair_ok wellFormed both states (same.dependsOn ▸ setting.apart)
      setting.different prepares
  have sameReading := same.trans (Moves.sameNodes first)
  have sameBetween :=
    (sameReading.trans settlesRead.takesUp.sameNodes).trans
      (Moves.sameNodes second)
  cases settlesRead.requirement_eq sameReading isRead readStates
  cases settlesWrite.requirement_eq sameBetween isWrite writeStates
  exact ⟨reading, middle, between, source, destination, first, second,
    ⟨_, _, _, _, settlesRead⟩, ⟨_, _, _, _, settlesWrite⟩⟩

end ReadsAndWrites

/-- The stages of the submission of such a copy: the read is settled, then the
write, and then the copy is launched. -/
structure Stages (id reads writes : NodeId) (copy : Copy) (dispatch : Dispatch)
    (before start middle between ready launched after : Scheduler) : Prop where
  toMiddle : Moves id id before middle
  read : ∃ node region copies made,
    Settles id reads node ⟨copy.source.region, copy.sourceBox, .read⟩
      copy.source.device region copies made start middle
  second : Moves id id middle between
  write : ∃ node region copies made, Settles id writes node
    ⟨copy.destination.region, copy.destinationBox, .discardWrite⟩
    copy.destination.device region copies made between ready
  toReady : Moves id id middle ready
  preserves : Preserves before between
  launches : ∃ node device, node.operation = .copy copy ∧
    Launches id node device dispatch ready launched
  concludes : conclusion id (.copy copy) launched = .ok () after
  finishes : Finishes id (.copy copy) launched after

/-- Devices stay as they are once the copy can be launched. -/
private theorem device?_of_launches {node : Node} {device : Device}
    {dispatch : Dispatch} {operation : Operation} {launched : Scheduler}
    (launches : Launches id node device dispatch ready launched)
    (finishes : Finishes id operation launched after) (other : NodeId) :
    after.graph.device? other = ready.graph.device? other := by
  obtain ⟨executor, shape⟩ := launches.graph
  calc after.graph.device? other
      = launched.graph.device? other := by
        simp only [TaskGraph.device?]
        rw [finishes.node?]
    _ = ready.graph.device? other := by
        rw [shape]
        exact TaskGraph.device?_updateNode _ _ _ fun _ => rfl

theorem stages_of_submit (wellFormed : before.graph.WellFormed)
    (setting : ReadsAndWrites before.graph id reads writes copy)
    (result : submit id before = .ok () after)
    (onSource : after.graph.device? reads = some copy.source.device)
    (onDestination :
      after.graph.device? writes = some copy.destination.device) :
    ∃ dispatch start middle between ready launched, Stages id reads writes copy
      dispatch before start middle between ready launched after := by
  obtain ⟨node, found, copies, _, waits⟩ := setting.copies
  have explicit : node.operation.isRequirement = false := by rw [copies]; rfl
  obtain ⟨chosen, ready, launched, later, dispatch, prepares, move, moves,
      operation, launches, concludes⟩ :=
    submit_explicit_ok wellFormed found explicit
      (Node.isUnsubmitted_iff.mpr waits) result
  rw [copies] at operation concludes
  have readyWell := Moves.wellFormed moves wellFormed
  obtain ⟨state, isLaunched⟩ := launches.node?
  obtain ⟨_, concluded, finishes⟩ :=
    conclusion_ok (.copy copy) (readyWell.later launches.sameNodes
      (TaskGraph.regionsGrow_of_eq launches.regions)) isLaunched
  cases concluded.symm.trans concludes
  let assigned : Scheduler :=
    { before with graph := before.graph.updateNode id (·.assign chosen) }
  have sameAssigned : before.graph.SameNodes assigned.graph := move.sameNodes
  have assignedWell : assigned.graph.WellFormed :=
    Moves.wellFormed (.single move) wellFormed
  have sameState (other : NodeId) :
      assigned.graph.state? other = before.graph.state? other :=
    TaskGraph.state?_updateNode _ _ _ fun _ => rfl
  obtain ⟨start, middle, between, source, destination, first, second,
    ⟨_, _, _, _, settlesRead⟩, ⟨_, _, _, _, settlesWrite⟩⟩ :=
    setting.prepare_ok assignedWell sameAssigned sameState prepares
  have readsBelow : reads < id :=
    wellFormed.earlier (setting.requires List.mem_cons_self)
  have writesBelow : writes < id :=
    wellFormed.earlier
      (setting.requires (List.mem_cons_of_mem _ List.mem_cons_self))
  have toStart : Moves id id before start := .head move first
  have toMiddle : Moves id id before middle :=
    toStart.tail (.settle _ _ _ _ _ _ _ readsBelow settlesRead)
  have toReady : Moves id id middle ready :=
    second.tail (.settle _ _ _ _ _ _ _ writesBelow settlesWrite)
  -- Each access was settled on the device of its side.
  have isSource : source = copy.source.device := by
    rw [device?_of_launches launches finishes,
      toReady.device? settlesRead.device?] at onSource
    exact Option.some.inj onSource
  have isDestination : destination = copy.destination.device := by
    rw [device?_of_launches launches finishes, settlesWrite.device?]
      at onDestination
    exact Option.some.inj onDestination
  subst isSource isDestination
  refine ⟨dispatch, start, middle, between, ready, launched, toMiddle,
    ⟨_, _, _, _, settlesRead⟩, second, ⟨_, _, _, _, settlesWrite⟩, toReady, ?_,
    ⟨later, chosen, operation, launches⟩, concludes, finishes⟩
  apply setting.preserves
  case spared =>
    intro other apart
    show ready.graph.state? other = before.graph.state? other
    rw [sameAssigned.dependsOn] at apart
    exact (state?_prepare_of_apart assignedWell prepares apart).trans
      (sameState other)
  case kept =>
    exact fun other submitted => submitted_of_state?_eq submitted
      (settlesWrite.takesUp.state?_of_submitted submitted)
  case waits => exact settlesWrite.takesUp.waits

namespace Stages

variable {dispatch : Dispatch} {start middle launched : Scheduler}

/-- The window that was read is valid on the device of the source until the
write is settled. -/
theorem holds_source
    (stages : Stages id reads writes copy dispatch before start middle between
      ready launched after) :
    ∀ position ∈ copy.sourceBox,
      middle.graph.Holds copy.source.region copy.source.device position := by
  obtain ⟨_, _, _, _, settles⟩ := stages.read
  exact fun position inside => settles.holds_iff.mpr (.inr ⟨rfl, rfl, inside⟩)

theorem sameNodes
    (stages : Stages id reads writes copy dispatch before start middle between
      ready launched after) : before.graph.SameNodes launched.graph := by
  obtain ⟨_, _, _, launches⟩ := stages.launches
  exact ((Moves.sameNodes stages.toMiddle).trans
    (Moves.sameNodes stages.toReady)).trans
    launches.sameNodes

/-- The read requirement guards the source of the copy. -/
theorem guards (inside : before.graph.WindowsInside)
    (setting : ReadsAndWrites before.graph id reads writes copy)
    (onSource : after.graph.device? reads = some copy.source.device)
    (stages : Stages id reads writes copy dispatch before start middle between
      ready launched after) :
    ∃ guard, launched.graph.node? reads = some guard ∧
      guardsSource copy guard = true := by
  obtain ⟨guard, found, bound⟩ := Option.bind_eq_some_iff.mp onSource
  rw [stages.finishes.node?] at found
  obtain ⟨read, isRead, states, _⟩ := setting.source
  obtain ⟨counterpart, isGuard, operation, _⟩ := stages.sameNodes.node isRead
  rw [found] at isGuard
  cases isGuard
  obtain ⟨_, _, contained⟩ :=
    TaskGraph.tracked_of_checkWindow (inside reads read _ isRead states)
  refine ⟨guard, found, ?_⟩
  simp only [guardsSource, bound, operation.trans states,
    Operation.requirement?, beq_self_eq_true, AccessMode.discards,
    Bool.not_false, Bool.true_and]
  exact Box.contains_self contained

/-- So the source is valid when the copy was launched, whatever the write has
made invalid. -/
theorem marked (inside : before.graph.WindowsInside)
    (setting : ReadsAndWrites before.graph id reads writes copy)
    (onSource : after.graph.device? reads = some copy.source.device)
    (stages : Stages id reads writes copy dispatch before start middle between
      ready launched after) :
    ∀ position ∈ copy.sourceBox,
      after.graph.Holds copy.source.region copy.source.device position := by
  intro position member
  obtain ⟨_, _, _, launches⟩ := stages.launches
  obtain ⟨guard, found, guards⟩ := stages.guards inside setting onSource
  obtain ⟨region, tracked, valid⟩ := stages.holds_source position member
  obtain ⟨later, isLater, grows⟩ := ((Moves.regionsGrow stages.toReady).trans
    (TaskGraph.regionsGrow_of_eq launches.regions)).later tracked
  have edge : launched.graph.Requires id reads :=
    stages.sameNodes.requires ▸ setting.requires List.mem_cons_self
  exact holds_source_of_conclusion edge found guards isLater
    (grows.kept _ (Region.hasAllocation_of_mem_validOn valid)) stages.concludes
    position member

/-- Apart from the two windows, only what was valid before the write and is not
in the destination stays valid. -/
theorem valid (wellFormed : before.graph.WellFormed)
    (stages : Stages id reads writes copy dispatch before start middle between
      ready launched after) {place : RegionId} {device : Device}
    {position : Triple} (holds : after.graph.Holds place device position) :
    (place = copy.destination.region ∧ device = copy.destination.device ∧
      position ∈ copy.destinationBox) ∨
    (place = copy.source.region ∧ device = copy.source.device ∧
      position ∈ copy.sourceBox) ∨
    (¬ (place = copy.destination.region ∧ position ∈ copy.destinationBox) ∧
      between.graph.Holds place device position) := by
  obtain ⟨_, _, _, launches⟩ := stages.launches
  obtain ⟨_, _, _, _, settles⟩ := stages.write
  have launchedWell : launched.graph.WellFormed :=
    wellFormed.later stages.sameNodes
      (((Moves.regionsGrow stages.toMiddle).trans
        (Moves.regionsGrow stages.toReady)).trans
        (TaskGraph.regionsGrow_of_eq launches.regions))
  rcases (stages.finishes.holds launchedWell).2 place device position holds with
    earlier | ⟨other, same, isSource⟩
  · rw [TaskGraph.holds_of_regions launches.regions, settles.holds_iff]
      at earlier
    rcases earlier with ⟨held, current⟩ | validated
    · by_cases changed :
        place = copy.destination.region ∧ position ∈ copy.destinationBox
      · have here : device = copy.destination.device := by
          by_contra different
          exact current ⟨rfl, changed.1, different, changed.2⟩
        exact .inl ⟨changed.1, here, changed.2⟩
      · exact .inr (.inr ⟨changed, held⟩)
    · exact .inl validated
  · cases same
    exact .inr (.inl isSource)

end Stages

end Stages

end CoherentTasks.Submission
