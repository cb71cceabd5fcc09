import CoherentTasks.Proofs.Scenario.Conflicts
import CoherentTasks.Proofs.Scenario.Running
import CoherentTasks.Proofs.Submission.Ordering

/-!
# Races

Operations of a scenario that conflict are ordered by their dependency lists,
with one exception: a copy that was made for an access that only reads is
unknown to the other readers of the same elements.
-/

namespace CoherentTasks.Scenario

open CoherentTasks.Backend (Registry)
open CoherentTasks.Completion (Handle Signal)
open CoherentTasks.Computation
open CoherentTasks.Geometry (Box Triple)
open CoherentTasks.Graph (Node Operation Requirement TaskGraph)
open CoherentTasks.Submission

variable {sorting : Sorting}

/-- The node has an access to the buffer that writes. -/
def MayWrite (graph : TaskGraph) (writer : NodeId) (place : RegionId) : Prop :=
  ∃ id requirement hint,
    graph.Requires writer id ∧ Asks graph id requirement hint ∧
    requirement.mode.writes = true ∧ requirement.region = place

/-- The element is still valid where an operation of the node has read it, or a
node that writes was submitted that comes behind. -/
def Retained (graph : TaskGraph) (scheduler : Scheduler) (reader : NodeId)
    (place : RegionId) (device : Device) (position : Triple) : Prop :=
  scheduler.graph.Holds place device position ∨
  ∃ writer, scheduler.graph.Submitted writer ∧ MayWrite graph writer place ∧
    (writer = reader ∨ graph.DependsOn writer reader)

/-- What is known of the operations handed over in a run. -/
structure Traced (graph : TaskGraph) (scheduler : Scheduler) : Prop where
  attributed : ∀ dispatch ∈ scheduler.dispatches, Attributed graph dispatch
  retained : ∀ dispatch ∈ scheduler.dispatches, ∀ place device position,
    Reads graph dispatch place device position →
      Retained graph scheduler dispatch.node place device position
  ordered : scheduler.dispatches.Pairwise (Ordered graph)

section Submission

variable {graph : TaskGraph} {root : NodeId} {before after : Scheduler}

/-- A new operation belongs to `root`, or was made for a requirement of
`root`. -/
structure IsNew (graph : TaskGraph) (root : NodeId) (before : Scheduler)
    (dispatch : Dispatch) : Prop where
  attributed : Attributed graph dispatch
  own : dispatch.node = root ∨
    (graph.Requires root dispatch.node ∧ StatesRequirement graph dispatch.node)
  missing : ∀ place device position,
    Supplies graph dispatch place device position →
    ¬ before.graph.Holds place device position

theorem IsNew.requires {dispatch : Dispatch}
    (isNew : IsNew graph root before dispatch) (staged : Staged graph)
    (explicit : Explicit graph root) {id : NodeId} {requirement : Requirement}
    (acts : ActsFor graph dispatch id requirement) :
    graph.Requires root id ∧
    ∀ node, graph.DependsOn id node → graph.DependsOn dispatch.node node := by
  obtain ⟨own, hint, asks⟩ := acts
  rcases own with rfl | requires
  · rcases isNew.own with isRoot | ⟨required, _⟩
    · exact absurd asks.statesRequirement
        (isRoot ▸ explicit.not_statesRequirement)
    · exact ⟨required, fun _ reached => reached⟩
  · rcases isNew.own with isRoot | ⟨_, states⟩
    · exact ⟨isRoot ▸ requires, fun _ reached => .head requires reached⟩
    · exact absurd asks.statesRequirement
        (staged.behind dispatch.node states id requires).not_statesRequirement

/-- A new operation is ordered behind the earlier ones with which it
conflicts. -/
theorem Traced.ordered_new (traced : Traced graph before)
    (orderly : Orderly graph before) (staged : Staged graph)
    (explicit : Explicit graph root)
    (waits : before.graph.state? root = some .unsubmitted)
    {old dispatch : Dispatch} (made : old ∈ before.dispatches)
    (isNew : IsNew graph root before dispatch) :
    Ordered graph old dispatch := by
  have submitted := orderly.consistent.submitted_node made
  have behind {id other : NodeId} {requirement otherRequirement : Requirement}
      (acts : ActsFor graph dispatch id requirement)
      (earlier : ActsFor graph old other otherRequirement)
      (same : otherRequirement.region = requirement.region)
      (writes : otherRequirement.mode.writes = true ∨
        requirement.mode.writes = true) :
      graph.DependsOn dispatch.node old.node := by
    obtain ⟨required, onward⟩ := isNew.requires staged explicit acts
    obtain ⟨own, _, otherAsks⟩ := earlier
    obtain ⟨_, _, asks⟩ := acts
    exact onward _ (orderly.dependsOn_submitted staged waits required asks own
      otherAsks submitted same writes)
  intro place device position conflict
  rcases conflict with ⟨writes, touches⟩ | ⟨reads, writes⟩
  · obtain ⟨other, otherRequirement, earlier, there, kind⟩ :=
      (traced.attributed old made).of_writes writes
    rcases kind with mayWrite | supplies
    · obtain ⟨id, requirement, acts, here⟩ :
          ∃ id requirement, ActsFor graph dispatch id requirement ∧
            requirement.region = place := by
        rcases touches with reads | writesToo
        · exact isNew.attributed.of_reads reads
        · obtain ⟨id, requirement, acts, here, _⟩ :=
            isNew.attributed.of_writes writesToo
          exact ⟨id, requirement, acts, here⟩
      exact .inr
        (.inl (behind acts earlier (there.trans here.symm) (.inl mayWrite)))
    · exact .inr (.inr supplies)
  · refine .inr (.inl ?_)
    obtain ⟨other, otherRequirement, earlier, there⟩ :=
      (traced.attributed old made).of_reads reads
    obtain ⟨id, requirement, acts, here, kind⟩ :=
      isNew.attributed.of_writes writes
    rcases kind with mayWrite | supplies
    · exact behind acts earlier (there.trans here.symm) (.inr mayWrite)
    · -- The element is fetched again, so a write has come between.
      rcases traced.retained old made place device position reads with
        holds | ⟨writer, isSubmitted,
          ⟨written, change, _, requires, asksToo, mayWrite, same⟩, further⟩
      · exact absurd holds (isNew.missing place device position supplies)
      · obtain ⟨required, onward⟩ := isNew.requires staged explicit acts
        obtain ⟨_, _, asks⟩ := acts
        have toWriter :=
          onward _ (orderly.dependsOn_submitted staged waits required asks
            (.inr requires) asksToo isSubmitted (same.trans here.symm)
            (.inl mayWrite))
        rcases further with rfl | beyond
        · exact toWriter
        · exact toWriter.trans beyond

theorem Retained.mono {reader : NodeId} {place : RegionId} {device : Device}
    {position : Triple}
    (retained : Retained graph before reader place device position)
    (holds : before.graph.Holds place device position →
      after.graph.Holds place device position)
    (submitted : ∀ id, before.graph.Submitted id → after.graph.Submitted id) :
    Retained graph after reader place device position := by
  rcases retained with held | ⟨writer, isSubmitted, behind⟩
  · exact .inl (holds held)
  · exact .inr ⟨writer, submitted writer isSubmitted, behind⟩

/-- What is valid stays so before the launch, unless the node to be launched
writes. -/
theorem Underway.holds_or_mayWrite {ready : Scheduler}
    (underway : Underway root before ready)
    (same : graph.SameNodes before.graph) {place : RegionId} {holder : Device}
    {position : Triple}
    (valid : before.graph.Holds place holder position ∨
      ∃ id requirement device, Settled root id requirement device before ready ∧
        Validates requirement device place holder position) :
    ready.graph.Holds place holder position ∨ MayWrite graph root place := by
  by_cases outdated : ∃ id requirement device,
    Settled root id requirement device before ready ∧
    Outdates requirement device place holder position
  · obtain ⟨id, requirement, device, settled, writes, here, _⟩ := outdated
    exact .inr ⟨id, requirement, some device, same.requires ▸ settled.required,
      settled.asks.of_sameNodes same.symm, writes, here.symm⟩
  · refine .inl (underway.steady place holder position ?_ valid)
    exact fun id requirement device settled outdates =>
      outdated ⟨id, requirement, device, settled, outdates⟩

/-- A node that writes is behind all earlier operations that have read the
buffer. -/
theorem Traced.dependsOn_reader (traced : Traced graph before)
    (orderly : Orderly graph before) (staged : Staged graph)
    (waits : before.graph.state? root = some .unsubmitted) {place : RegionId}
    (mayWrite : MayWrite graph root place) {dispatch : Dispatch}
    (made : dispatch ∈ before.dispatches) {device : Device} {position : Triple}
    (reads : Reads graph dispatch place device position) :
    graph.DependsOn root dispatch.node := by
  obtain ⟨id, requirement, hint, required, asks, writes, here⟩ := mayWrite
  obtain ⟨other, otherRequirement, ⟨own, _, otherAsks⟩, there⟩ :=
    (traced.attributed dispatch made).of_reads reads
  exact .head required (orderly.dependsOn_submitted staged waits required asks
    own otherAsks (orderly.consistent.submitted_node made)
    (there.trans here.symm) (.inr writes))

theorem Traced.append (traced : Traced graph before)
    (orderly : Orderly graph before) (staged : Staged graph)
    (explicit : Explicit graph root)
    (waits : before.graph.state? root = some .unsubmitted)
    {made : List Dispatch}
    (dispatches : after.dispatches = before.dispatches ++ made)
    (isNew : ∀ dispatch ∈ made, IsNew graph root before dispatch)
    (retained : ∀ dispatch, dispatch ∈ before.dispatches ∨ dispatch ∈ made →
      ∀ place device position, Reads graph dispatch place device position →
        Retained graph after dispatch.node place device position)
    (ordered : made.Pairwise (Ordered graph)) : Traced graph after where
  attributed dispatch member := by
    rw [dispatches] at member
    rcases List.mem_append.mp member with old | new
    · exact traced.attributed dispatch old
    · exact (isNew dispatch new).attributed
  retained dispatch member := by
    rw [dispatches] at member
    exact retained dispatch (List.mem_append.mp member)
  ordered := by
    rw [dispatches]
    exact List.pairwise_append.mpr ⟨traced.ordered, ordered,
      fun old isOld dispatch isMade => traced.ordered_new orderly staged
        explicit waits isOld (isNew dispatch isMade)⟩

section Fetched

variable {now : Scheduler} {made : List Dispatch}

theorem Fetched.isNew (fetched : Fetched root before now made)
    (same : graph.SameNodes before.graph) :
    ∀ dispatch ∈ made, IsNew graph root before dispatch := by
  intro dispatch member
  obtain ⟨_, requirement, device, copy, fetch⟩ := fetched.each dispatch member
  refine ⟨fetch.attributed same, .inr ⟨same.requires ▸ fetch.required, ?_⟩, ?_⟩
  · exact (fetch.asks.of_sameNodes same.symm).statesRequirement
  · intro place holder position supplies
    obtain ⟨_, writes⟩ := supplies
    obtain ⟨rfl, rfl, inside⟩ := (writes_copy_iff fetch.operation).mp writes
    rw [fetch.destination]
    exact fetch.missing position inside

theorem Fetched.ordered (fetched : Fetched root before now made) :
    made.Pairwise (Ordered graph) := by
  refine List.Pairwise.imp_of_mem ?_ fetched.apart
  intro first second isFirst isSecond apart
  obtain ⟨_, _, _, _, fetch⟩ := fetched.each first isFirst
  obtain ⟨_, _, _, _, fetchToo⟩ := fetched.each second isSecond
  exact ordered_of_apart fetch fetchToo apart

/-- What the copies have read was valid when the submission began. -/
theorem Fetched.holds_of_reads (fetched : Fetched root before now made)
    {dispatch : Dispatch} (member : dispatch ∈ made) {place : RegionId}
    {holder : Device} {position : Triple}
    (reads : Reads graph dispatch place holder position) :
    before.graph.Holds place holder position := by
  obtain ⟨_, requirement, device, copy, fetch⟩ := fetched.each dispatch member
  obtain ⟨rfl, rfl, inside⟩ := (reads_copy_iff fetch.operation).mp reads
  rw [fetch.source]
  exact fetch.taken position inside

end Fetched

section Launch

variable {node : Node} {device : Device} {dispatch : Dispatch}
  {ready launched : Scheduler}

private theorem isNew_launch
    (launches : Launches root node device dispatch ready launched)
    (same : graph.SameNodes ready.graph) (staged : Staged graph)
    (explicit : Explicit graph root) : IsNew graph root before dispatch := by
  obtain ⟨_, ofNode, _, operation⟩ := launches.made
  refine ⟨fun copy copied => .inl ?_, .inl ofNode, ?_⟩
  · rw [ofNode]
    exact accesses_of_launches launches same staged
      (operation.symm.trans copied)
  · intro place holder position supplies
    obtain ⟨⟨requirement, hint, asks, _⟩, _⟩ := supplies
    exact absurd asks.statesRequirement
      (ofNode ▸ explicit.not_statesRequirement)

/-- What the launched operation reads was made valid for it, or is overwritten
by its own node. -/
private theorem retained_launch
    (launches : Launches root node device dispatch ready launched)
    (same : graph.SameNodes before.graph) (staged : Staged graph)
    (underway : Underway root before ready) {place : RegionId} {holder : Device}
    {position : Triple} (reads : Reads graph dispatch place holder position) :
    ready.graph.Holds place holder position ∨ MayWrite graph root place := by
  obtain ⟨_, ofNode, _, operation⟩ := launches.made
  cases isOperation : dispatch.operation with
  | kernel kernel =>
      simp only [Reads] at reads
      rw [isOperation, ofNode] at reads
      obtain ⟨id, requirement, required, asks, _, here, inside⟩ := reads
      exact underway.holds_or_mayWrite same (.inr ⟨id, requirement, holder,
        settled_of_launches launches same underway required asks, here,
        rfl, inside⟩)
  | copy copy =>
      obtain ⟨rfl, _, _⟩ := (reads_copy_iff isOperation).mp reads
      obtain ⟨window, reading, writing, accesses⟩ :=
        accesses_of_launches launches (same.trans underway.sameNodes) staged
          (operation.symm.trans isOperation)
      exact .inr ⟨writing, _, _, accesses.requires.2, accesses.writes, rfl, rfl⟩
  | requirement _ =>
      simp only [Reads] at reads
      rw [isOperation] at reads
      exact reads.elim

/-- What was valid or submitted before the launch still is, and the launched
node is submitted. -/
private theorem kept_of_launch
    (launches : Launches root node device dispatch ready launched)
    (finishes : Finishes root node.operation launched after)
    (wellFormed : ready.graph.WellFormed) :
    (∀ place holder position, ready.graph.Holds place holder position →
      after.graph.Holds place holder position) ∧
    ∀ id, id = root ∨ ready.graph.Submitted id → after.graph.Submitted id := by
  have launchedWell := wellFormed.later launches.sameNodes
    (TaskGraph.regionsGrow_of_eq launches.regions)
  constructor
  · intro place holder position held
    exact (finishes.holds launchedWell).1 place holder position
      ((TaskGraph.holds_of_regions launches.regions).mpr held)
  · intro id earlier
    exact submitted_of_state?_eq (launches.takesUp.submitted_iff.mpr earlier)
      (finishes.state? id)

theorem Traced.launches (traced : Traced graph before)
    (orderly : Orderly graph before) (staged : Staged graph)
    (explicit : Explicit graph root) (asks : Eligible before.graph root device)
    (moves : Moves root root before ready)
    (launches : Launches root node device dispatch ready launched)
    (finishes : Finishes root node.operation launched after) :
    Traced graph after := by
  have awaited := orderly.awaited staged explicit asks
  have underway := awaited.underway_of_moves moves
  have same := orderly.sameNodes
  obtain ⟨made, fetched⟩ := awaited.fetched_of_moves moves
  obtain ⟨dispatches, ofNode, _⟩ := launches.made
  obtain ⟨holds, submitted⟩ :=
    kept_of_launch launches finishes (Moves.wellFormed moves awaited.wellFormed)
  have retained {reader : NodeId} {place : RegionId} {holder : Device}
      {position : Triple}
      (behind : MayWrite graph root place →
        root = reader ∨ graph.DependsOn root reader)
      (kept : ready.graph.Holds place holder position ∨
        MayWrite graph root place) :
      Retained graph after reader place holder position := by
    rcases kept with held | mayWrite
    · exact .inl (holds _ _ _ held)
    · exact .inr ⟨root, submitted root (.inl rfl), mayWrite, behind mayWrite⟩
  refine traced.append orderly staged explicit asks.unsubmitted
    (show after.dispatches = before.dispatches ++ (made ++ [dispatch]) by
      rw [finishes.quiet.dispatches, dispatches, fetched.dispatches,
        List.append_assoc])
    (fun other member => ?isNew)
      (fun other member place holder position reads => ?retained) ?ordered
  case isNew =>
    rcases List.mem_append.mp member with isFetch | isLaunch
    · exact fetched.isNew same other isFetch
    · rw [List.mem_singleton.mp isLaunch]
      exact isNew_launch launches (same.trans underway.sameNodes)
        staged explicit
  case retained =>
    rcases member with old | new
    · rcases traced.retained other old place holder position reads with
        held | ⟨writer, isSubmitted, behind⟩
      · exact retained (fun mayWrite => .inr (traced.dependsOn_reader orderly
          staged asks.unsubmitted mayWrite old reads))
          (underway.holds_or_mayWrite same (.inl held))
      · exact .inr ⟨writer,
          submitted writer (.inr (Moves.submitted moves isSubmitted)), behind⟩
    · rcases List.mem_append.mp new with isFetch | isLaunch
      · obtain ⟨_, _, _, _, fetch⟩ := fetched.each other isFetch
        exact retained
          (fun _ => .inr (.single (same.requires ▸ fetch.required)))
          (underway.holds_or_mayWrite same
            (.inl (fetched.holds_of_reads isFetch reads)))
      · cases List.mem_singleton.mp isLaunch
        exact retained (fun _ => .inl ofNode.symm)
          (retained_launch launches same staged underway reads)
  case ordered =>
    refine List.pairwise_append.mpr
      ⟨fetched.ordered, List.pairwise_singleton _ _, ?_⟩
    intro first isFirst second isSecond place holder position _
    obtain ⟨_, _, _, _, fetch⟩ := fetched.each first isFirst
    rw [List.mem_singleton.mp isSecond, ofNode]
    exact .inr (.inl (.single (same.requires ▸ fetch.required)))

end Launch

theorem Traced.fails (traced : Traced graph before)
    (orderly : Orderly graph before) (staged : Staged graph)
    (explicit : Explicit graph root) {device : Device}
    (asks : Eligible before.graph root device) {stopped : Scheduler}
    {bound : NodeId} (moves : Moves root bound before stopped) (cause : Error) :
    Traced graph (giveUp before stopped root cause) := by
  obtain ⟨made, fetched⟩ :=
    (orderly.awaited staged explicit asks).fetched_of_moves moves
  have same := orderly.sameNodes
  have holds {place : RegionId} {holder : Device} {position : Triple} :
      (giveUp before stopped root cause).graph.Holds place holder position ↔
        before.graph.Holds place holder position :=
    holds_giveUp (Moves.regionsGrow moves)
  refine traced.append orderly staged explicit asks.unsubmitted
    fetched.dispatches (fetched.isNew same)
    (fun other member place holder position reads => ?_) fetched.ordered
  rcases member with old | new
  · exact (traced.retained other old place holder position reads).mono holds.mpr
      fun id submitted =>
        submitted_giveUp_iff.mpr (Moves.submitted moves submitted)
  · exact .inl (holds.mpr (fetched.holds_of_reads new reads))

/-- A submission keeps conflicting operations ordered, whether it succeeds or
fails. -/
theorem Traced.submits (traced : Traced graph before)
    (orderly : Orderly graph before) (staged : Staged graph)
    (explicit : Explicit graph root) {success : Bool}
    (submits : Submits root before after success) : Traced graph after := by
  cases submits with
  | idle _ same => exact same ▸ traced
  | rejects cause same =>
      subst same
      refine ⟨traced.attributed,
        fun dispatch made place device position reads => ?_, traced.ordered⟩
      exact (traced.retained dispatch made place device position reads).mono
        (holds_giveUp (TaskGraph.regionsGrow_of_eq rfl)).mpr
        fun id => submitted_giveUp_iff.mpr
  | resolves states moves submitted =>
      exact absurd (states.of_sameNodes orderly.sameNodes.symm)
        explicit.not_statesRequirement
  | launches node device dispatch ready launched asks moves launches finishes =>
      exact traced.launches orderly staged explicit asks moves launches finishes
  | fails device stopped cause asks moves same =>
      subst same
      exact traced.fails orderly staged explicit asks moves cause

end Submission

/-- Of two operations, the one with the smaller signal was handed over first. -/
private theorem pairwise_of_signal_lt {scheduler : Scheduler}
    (consistent : scheduler.Consistent) {related : Dispatch → Dispatch → Prop}
    (pairwise : scheduler.dispatches.Pairwise related) {first second : Dispatch}
    (isFirst : first ∈ scheduler.dispatches)
    (isSecond : second ∈ scheduler.dispatches)
    (less : first.signal < second.signal) : related first second := by
  have numbered {place : Nat} (inside : place < scheduler.dispatches.length) :
      scheduler.dispatches[place].signal = place := by
    have same := congrArg (·[place]?) consistent.numbered
    simp only [List.getElem?_map, List.getElem?_eq_getElem inside,
      Option.map_some] at same
    obtain ⟨_, value⟩ := List.getElem?_eq_some_iff.mp same.symm
    rw [List.getElem_range] at value
    exact value.symm
  obtain ⟨earlier, inside, rfl⟩ := List.mem_iff_getElem.mp isFirst
  obtain ⟨later, insideToo, rfl⟩ := List.mem_iff_getElem.mp isSecond
  rw [numbered inside, numbered insideToo] at less
  exact List.pairwise_iff_getElem.mp pairwise earlier later inside
    insideToo less

/-- The node of an operation that is not complete is outstanding. -/
private theorem outstanding_of_pending {scheduler : Scheduler}
    (consistent : scheduler.Consistent) {dispatch : Dispatch}
    (made : dispatch ∈ scheduler.dispatches)
    (pending : scheduler.signals.isFired dispatch.signal = false) :
    scheduler.graph.Outstanding scheduler.signals dispatch.node := by
  obtain ⟨handle, executor, state, member⟩ := consistent.owned dispatch made
  refine ⟨handle, executor, state, ?_⟩
  rw [Bool.eq_false_iff]
  intro complete
  rw [Handle.isComplete_iff handle |>.mp complete dispatch.signal member]
    at pending
  cases pending

theorem Runs.traced {graph : TaskGraph} {run next : Run} {summary : Summary}
    (runs : Runs graph run) (idle : run.scheduler.dispatches = [])
    (proceeds : run.Proceeds next summary) : Traced graph next.scheduler := by
  refine runs.keeps (Traced graph) ?begins
    (fun orderly explicit submits traced =>
      traced.submits orderly runs.staged explicit submits)
    (fun _ traced => ?completes) proceeds
  case begins =>
    constructor
    · intro dispatch made
      rw [idle] at made
      cases made
    · intro dispatch made
      rw [idle] at made
      cases made
    · rw [idle]
      exact .nil
  case completes => exact ⟨traced.attributed, traced.retained, traced.ordered⟩

/-- The first operation brings the element for an access that only reads, and
the second belongs to a node that does not depend on that access. -/
def Exposed (graph : TaskGraph) (first second : Dispatch) (place : RegionId)
    (device : Device) (position : Triple) : Prop :=
  Supplies graph first place device position ∧ first.node ≠ second.node ∧
    ¬ graph.DependsOn second.node first.node

/-- Two operations of a run that conflict while the first is not complete belong
to one node, or the dependency lists lead from the second to the first, exactly
if the first does not bring the element for an access that only reads and with
which the node of the second has nothing to do. -/
theorem awaits_iff_of_conflict {scenario : Scenario}
    (valid : scenario.validateBy sorting = .ok ()) {registry : Registry}
    {simulated : Bool} {run : Run} (topological : sorting.Topological)
    (prepares : scenario.prepareOnBy sorting registry simulated = .ok run)
    {next : Run} {summary : Summary} (proceeds : run.Proceeds next summary)
    (disciplined : next.scheduler.Disciplined) {first second : Dispatch}
    (isFirst : first ∈ next.scheduler.dispatches)
    (isSecond : second ∈ next.scheduler.dispatches)
    (less : first.signal < second.signal)
    (pending : next.scheduler.signals.isFired first.signal = false)
    {place : RegionId} {device : Device} {position : Triple}
    (conflict :
      Conflict run.scheduler.graph first second place device position) :
    (first.node = second.node ∨
        Relation.TransGen next.scheduler.Awaits second.node first.node) ↔
      ¬ Exposed run.scheduler.graph first second place device position := by
  obtain ⟨runs, prepared⟩ := runs_of_prepareOn valid topological prepares
  obtain ⟨⟨_, _, orderly⟩, _⟩ := runs.of_proceeds proceeds
  have consistent := orderly.consistent
  have traced := runs.traced prepared.idle proceeds
  have outstanding := outstanding_of_pending consistent isFirst pending
  have awaits_iff : run.scheduler.graph.DependsOn second.node first.node ↔
      Relation.TransGen next.scheduler.Awaits second.node first.node := by
    rw [orderly.sameNodes.dependsOn]
    exact ⟨fun reached =>
      consistent.awaits_outstanding disciplined isSecond reached outstanding,
      consistent.dependsOn_of_awaits⟩
  rw [← awaits_iff]
  constructor
  · intro ordered exposed
    obtain ⟨_, different, notBehind⟩ := exposed
    rcases ordered with same | behind
    · exact different same
    · exact notBehind behind
  · intro notExposed
    by_contra neither
    obtain ⟨different, notBehind⟩ := not_or.mp neither
    rcases pairwise_of_signal_lt consistent traced.ordered isFirst isSecond less
      place device position conflict with same | behind | supplies
    · exact different same
    · exact notBehind behind
    · exact notExposed ⟨supplies, different, notBehind⟩

/-- A buffer that begins on the host, and two kernels that read it on another
device. -/
def twoReaders : Scenario where
  alignment := 64
  devices := .ofList [("cuda:0", .standard)]
  buffers := .ofList [("A", ⟨4, [4], some "host:0"⟩)]
  nodes :=
    let reader : NodeEntry :=
      ⟨some "k", none, some "cuda:0", none, [], [⟨"A", "read", ⟨none, none⟩⟩]⟩
    .ofList [("first", reader), ("second", reader)]

private theorem twoReaders_submitted :
    twoReaders.validate = .ok () ∧
      twoReaders.prepareOn recordingBackends false = .ok twoReaders.recorded ∧
        twoReaders.recorded.submitAll none = .ok twoReaders.submitted ∧
          twoReaders.submitted.1.scheduler.Disciplined := by
  refine ⟨eq_ok_getD (by decide +kernel) (), eq_ok_getD (by decide +kernel) _,
    eq_ok_getD (by decide +kernel) _, ?_⟩
  simp only [Scheduler.Disciplined]
  decide +kernel

/-- Both kernels read the element that the copy brings, but only the first owns
the copy. -/
private theorem twoReaders_conflict :
    ∃ first ∈ twoReaders.submitted.1.scheduler.dispatches, first.node = 0 ∧
      first.signal = 0 ∧ ∀ reader : NodeId, reader = 1 ∨ reader = 3 →
        ∃ second ∈ twoReaders.submitted.1.scheduler.dispatches,
          second.node = reader ∧ 0 < second.signal ∧
          Conflict twoReaders.recorded.scheduler.graph first second 0 ⟨.cuda, 0⟩
            ⟨0, 0, 0⟩ := by
  have made (place : Nat) (facts : NodeId × Operation × Signal)
      (shape : (twoReaders.submitted.1.scheduler.dispatches[place]?).map
        (fun dispatch => (dispatch.node, dispatch.operation, dispatch.signal)) =
        some facts) :
      ∃ dispatch ∈ twoReaders.submitted.1.scheduler.dispatches,
        dispatch.node = facts.1 ∧ dispatch.operation = facts.2.1 ∧
        dispatch.signal = facts.2.2 := by
    obtain ⟨dispatch, found, rfl⟩ := Option.map_eq_some_iff.mp shape
    exact ⟨dispatch, List.mem_of_getElem? found, rfl, rfl, rfl⟩
  have inside : (⟨0, 0, 0⟩ : Triple) ∈ Box.ofExtent ⟨4, 1, 1⟩ := by decide
  have reads (required : NodeId) {second : Dispatch} {reader : NodeId}
      (ofNode : second.node = reader)
      (isKernel : second.operation = .kernel ⟨"k", none⟩)
      (requires :
        required ∈ twoReaders.recorded.scheduler.graph.requirementsOf reader)
      (states : (twoReaders.recorded.scheduler.graph.node? required).map
        (fun node => (node.operation, node.hint)) =
        some (.requirement ⟨0, .ofExtent ⟨4, 1, 1⟩, .read⟩, some ⟨.cuda, 0⟩)) :
      Reads twoReaders.recorded.scheduler.graph second 0 ⟨.cuda, 0⟩
        ⟨0, 0, 0⟩ := by
    obtain ⟨node, found, shape⟩ := Option.map_eq_some_iff.mp states
    obtain ⟨operation, hinted⟩ := Prod.mk.inj shape
    simp only [Reads]
    rw [isKernel, ofNode]
    exact ⟨required, _, requires, ⟨node, found, operation, hinted⟩, rfl,
      rfl, inside⟩
  obtain ⟨first, isFirst, ofNode, operation, created⟩ :=
    made 0 (0, .copy
      ⟨⟨.hostDevice, ⟨0, 0, 0⟩, 0⟩, ⟨⟨.cuda, 0⟩, ⟨0, 0, 0⟩, 0⟩, ⟨4, 1, 1⟩⟩, 0)
      (by decide +kernel)
  have writes :
      Writes twoReaders.recorded.scheduler.graph first 0 ⟨.cuda, 0⟩ ⟨0, 0, 0⟩ :=
    (writes_copy_iff operation).mpr ⟨rfl, rfl, inside⟩
  refine ⟨first, isFirst, ofNode, created, ?_⟩
  intro reader isReader
  rcases isReader with rfl | rfl
  · obtain ⟨second, isSecond, ofNode, operation, created⟩ :=
      made 1 (1, .kernel ⟨"k", none⟩, 1) (by decide +kernel)
    refine ⟨second, isSecond, ofNode, created ▸ Nat.one_pos,
      .inl ⟨writes, .inl ?_⟩⟩
    exact reads 0 ofNode operation (by decide +kernel) (by decide +kernel)
  · obtain ⟨second, isSecond, ofNode, operation, created⟩ :=
      made 2 (3, .kernel ⟨"k", none⟩, 2) (by decide +kernel)
    refine ⟨second, isSecond, ofNode, created ▸ Nat.two_pos,
      .inl ⟨writes, .inl ?_⟩⟩
    exact reads 2 ofNode operation (by decide +kernel) (by decide +kernel)

/-- The kernel that owns the copy is behind it. -/
theorem awaits_twoReaders :
    Relation.TransGen twoReaders.submitted.1.scheduler.Awaits 1 0 := by
  obtain ⟨valid, prepares, submits, disciplined⟩ := twoReaders_submitted
  obtain ⟨first, isFirst, ofNode, created, conflicts⟩ := twoReaders_conflict
  obtain ⟨second, isSecond, ofNodeToo, less, conflict⟩ := conflicts 1 (.inl rfl)
  have pending :
      twoReaders.submitted.1.scheduler.signals.isFired first.signal =
        false := by
    rw [created]
    decide +kernel
  have requires :
      (0 : NodeId) ∈ twoReaders.recorded.scheduler.graph.requirementsOf 1 := by
    decide +kernel
  have notExposed :
      ¬ Exposed twoReaders.recorded.scheduler.graph first second 0 ⟨.cuda, 0⟩
        ⟨0, 0, 0⟩ := by
    intro exposed
    obtain ⟨_, _, notBehind⟩ := exposed
    rw [ofNode, ofNodeToo] at notBehind
    exact notBehind (.single requires)
  rcases (awaits_iff_of_conflict valid topological_sort prepares
    (proceeds_of_submitAll submits) disciplined isFirst isSecond
    (created ▸ less) pending conflict).mpr notExposed with same | awaits
  · rw [ofNode, ofNodeToo] at same
    cases same
  · rwa [ofNode, ofNodeToo] at awaits

/-- Conflicting operations are not always ordered: the other kernel is not told
of the copy. -/
theorem not_always_ordered :
    ¬ ∀ (scenario : Scenario) (registry : Registry) (simulated : Bool)
        (run next : Run) (summary : Summary),
      scenario.validate = .ok () →
      scenario.prepareOn registry simulated = .ok run →
      run.submitAll none = .ok (next, summary) → next.scheduler.Disciplined →
      ∀ first ∈ next.scheduler.dispatches, ∀ second ∈ next.scheduler.dispatches,
        first.signal < second.signal →
        next.scheduler.signals.isFired first.signal = false →
        ∀ place device position, Conflict run.scheduler.graph first second place
          device position → first.node = second.node ∨
            Relation.TransGen next.scheduler.Awaits second.node first.node := by
  intro always
  obtain ⟨valid, prepares, submits, disciplined⟩ := twoReaders_submitted
  rw [← Prod.mk.eta (p := twoReaders.submitted)] at submits
  obtain ⟨first, isFirst, ofNode, created, conflicts⟩ := twoReaders_conflict
  obtain ⟨second, isSecond, ofNodeToo, less, conflict⟩ := conflicts 3 (.inr rfl)
  have pending :
      twoReaders.submitted.1.scheduler.signals.isFired first.signal =
        false := by
    rw [created]
    decide +kernel
  have waitsForNothing :
      ∀ dispatch ∈ twoReaders.submitted.1.scheduler.dispatches,
        dispatch.node = 3 → dispatch.waitsFor = [] := by decide +kernel
  rcases always _ _ _ _ _ _ valid prepares submits disciplined first isFirst
    second isSecond (created ▸ less) pending _ _ _ conflict with same | awaits
  · rw [ofNode, ofNodeToo] at same
    cases same
  · rw [ofNodeToo] at awaits
    obtain ⟨_, ⟨dispatch, made, isThird, listed⟩, _⟩ :=
      Relation.TransGen.head'_iff.mp awaits
    rw [waitsForNothing dispatch made isThird] at listed
    cases listed

end CoherentTasks.Scenario
