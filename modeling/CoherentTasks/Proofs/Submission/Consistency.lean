import CoherentTasks.Proofs.Submission.Submit

/-!
# Consistency of nodes and dispatches

The states of the nodes and the operations handed to executors tell the same
story: submitted nodes require only submitted ones, a node's handle stands for
its operations, and every operation was given the outstanding work that a walk
from its node met. Submissions and completions keep it so.
-/

namespace CoherentTasks

open CoherentTasks.Completion (Handle Signals)
open CoherentTasks.Graph (Node TaskGraph)
open CoherentTasks.Submission

namespace Graph.TaskGraph

theorem passage_isSatisfied_iff {graph : TaskGraph} {here next : NodeId} :
    graph.Passage (·.isSatisfied) here next ↔
      graph.state? here = some .satisfied ∧ graph.Requires here next := by
  simp only [Passage, Requires, requirementsOf, state?]
  cases graph.node? here with
  | none => simp
  | some node => simp [Node.isSatisfied_iff]

/-- The nodes of a graph are kept, and those that were submitted before or after
were so at both times, in the same state. -/
structure Carries (before after : TaskGraph) : Prop where
  kept : ∀ id node, before.node? id = some node →
    ∃ later, after.node? id = some later ∧ later.created = node.created
  states : ∀ id, before.Submitted id ∨ after.Submitted id →
    after.state? id = before.state? id

theorem Submitted.exists_node {graph : TaskGraph} {id : NodeId}
    (submitted : graph.Submitted id) : ∃ node, graph.node? id = some node := by
  rcases submitted with satisfied | ⟨handle, executor, outstanding⟩
  · obtain ⟨node, found, _⟩ := Option.map_eq_some_iff.mp satisfied
    exact ⟨node, found⟩
  · obtain ⟨node, found, _⟩ := Option.map_eq_some_iff.mp outstanding
    exact ⟨node, found⟩

namespace Carries

variable {before after : TaskGraph} {id : NodeId}

theorem of_same (same : before.SameNodes after)
    (states : ∀ id, before.Submitted id ∨ after.Submitted id →
      after.state? id = before.state? id) : before.Carries after where
  kept id node found := by
    obtain ⟨later, isLater, agree⟩ := same.node found
    exact ⟨later, isLater, Node.created_eq_iff.mpr agree⟩
  states := states

theorem submitted_iff (carries : before.Carries after) :
    after.Submitted id ↔ before.Submitted id := by
  constructor
  · intro submitted
    exact submitted_of_state?_eq submitted
      (carries.states id (.inr submitted)).symm
  · intro submitted
    exact submitted_of_state?_eq submitted (carries.states id (.inl submitted))

theorem state?_iff (carries : before.Carries after) {handle : Handle}
    {executor : Graph.Binding} :
    after.state? id = some (.submitted handle executor) ↔
      before.state? id = some (.submitted handle executor) := by
  constructor
  · intro state
    exact (carries.states id (.inr (.inr ⟨handle, executor, state⟩))).symm.trans
      state
  · intro state
    exact (carries.states id (.inl (.inr ⟨handle, executor, state⟩))).trans
      state

theorem requires_iff (carries : before.Carries after)
    (submitted : before.Submitted id) {required : NodeId} :
    after.Requires id required ↔ before.Requires id required := by
  obtain ⟨node, found⟩ := submitted.exists_node
  obtain ⟨later, isLater, same⟩ := carries.kept id node found
  have requirements := (Node.created_eq_iff.mp same).2.1
  simp only [Requires, requirementsOf, found, isLater, requirements]

end Carries

/-- Whatever a submitted node requires was submitted. -/
def Closed (graph : TaskGraph) : Prop :=
  ∀ dependent required, graph.Submitted dependent →
    graph.Requires dependent required → graph.Submitted required

theorem Closed.dependsOn {graph : TaskGraph} (closed : graph.Closed)
    {dependent required : NodeId} (submitted : graph.Submitted dependent)
    (reached : graph.DependsOn dependent required) :
    graph.Submitted required := by
  induction reached with
  | single edge => exact closed _ _ submitted edge
  | tail _ edge induction => exact closed _ _ induction edge

theorem Carries.dependsOn_iff {before after : TaskGraph}
    (carries : before.Carries after) (closed : before.Closed)
    {dependent required : NodeId} (submitted : before.Submitted dependent) :
    after.DependsOn dependent required ↔
      before.DependsOn dependent required := by
  constructor
  · intro reached
    suffices both : before.DependsOn dependent required ∧
        before.Submitted required from both.1
    induction reached with
    | single edge =>
        have same := (carries.requires_iff submitted).mp edge
        exact ⟨.single same, closed _ _ submitted same⟩
    | tail _ edge induction =>
        have same := (carries.requires_iff induction.2).mp edge
        exact ⟨.tail induction.1 same, closed _ _ induction.2 same⟩
  · intro reached
    suffices both : after.DependsOn dependent required ∧
        before.Submitted required from both.1
    induction reached with
    | single edge =>
        exact ⟨.single ((carries.requires_iff submitted).mpr edge),
          closed _ _ submitted edge⟩
    | tail _ edge induction =>
        exact ⟨.tail induction.1 ((carries.requires_iff induction.2).mpr edge),
          closed _ _ induction.2 edge⟩

/-- From a submitted node, or one whose requirements are submitted, a walk
through satisfied nodes meets the same nodes later. -/
theorem meets_of_states {before after : TaskGraph} {root id : NodeId}
    (first : ∀ next, after.Requires root next →
      before.Requires root next ∧ before.Submitted next)
    (closed : before.Closed)
    (same : ∀ here,
      before.Submitted here → after.state? here = before.state? here ∧
        ∀ next, after.Requires here next → before.Requires here next)
    (met : after.Meets (·.isSatisfied) root id) :
    before.Meets (·.isSatisfied) root id := by
  refine (meets_of_within before.Submitted first
    (fun here next submitted edge => ?_) met).1
  obtain ⟨satisfied, further⟩ := passage_isSatisfied_iff.mp edge
  obtain ⟨sameState, sameEdges⟩ := same here submitted
  have edgeBefore := sameEdges next further
  exact ⟨passage_isSatisfied_iff.mpr ⟨sameState ▸ satisfied, edgeBefore⟩,
    closed _ _ submitted edgeBefore⟩

end Graph.TaskGraph

namespace Scheduler

/-- The states of the nodes and the operations handed to executors fit
together. -/
structure Consistent (scheduler : Scheduler) : Prop where
  wellFormed : scheduler.graph.WellFormed
  closed : scheduler.graph.Closed
  /-- An operation belongs to a submitted node, whose handle stands for it. -/
  owned : ∀ dispatch ∈ scheduler.dispatches, ∃ handle executor,
    scheduler.graph.state? dispatch.node = some (.submitted handle executor) ∧
      dispatch.signal ∈ handle.signals
  /-- A handle stands for operations of its node, and for at least one. -/
  backed : ∀ id handle executor,
    scheduler.graph.state? id = some (.submitted handle executor) →
    (∃ dispatch ∈ scheduler.dispatches, dispatch.node = id) ∧
    ∀ signal ∈ handle.signals, ∃ dispatch ∈ scheduler.dispatches,
      dispatch.node = id ∧ dispatch.signal = signal
  /-- An operation waits for all work that a walk from its node meets, unless it
  is complete. -/
  listed : ∀ dispatch ∈ scheduler.dispatches, ∀ id,
    scheduler.graph.Meets (·.isSatisfied) dispatch.node id → ∀ handle executor,
      scheduler.graph.state? id = some (.submitted handle executor) →
      handle.isComplete scheduler.signals = true ∨
      ⟨id, handle⟩ ∈ dispatch.dependencies
  /-- An operation waits only for nodes that its node depends on. -/
  truthful : ∀ dispatch ∈ scheduler.dispatches,
    ∀ dependency ∈ dispatch.dependencies,
      scheduler.graph.DependsOn dispatch.node dependency.node ∧
      ∃ executor, scheduler.graph.state? dependency.node =
        some (.submitted dependency.handle executor)
  /-- Signals are numbered in the order of the operations. -/
  numbered :
    scheduler.dispatches.map (·.signal) = List.range scheduler.signals.next
  /-- The operations of required nodes came first. -/
  layered : ∀ later ∈ scheduler.dispatches, ∀ earlier ∈ scheduler.dispatches,
    scheduler.graph.DependsOn later.node earlier.node →
    earlier.signal < later.signal

namespace Consistent

variable {before after : Scheduler}

theorem submitted_node (consistent : before.Consistent) {dispatch : Dispatch}
    (made : dispatch ∈ before.dispatches) :
    before.graph.Submitted dispatch.node := by
  obtain ⟨handle, executor, state, _⟩ := consistent.owned dispatch made
  exact .inr ⟨handle, executor, state⟩

theorem signal_lt (consistent : before.Consistent) {dispatch : Dispatch}
    (made : dispatch ∈ before.dispatches) :
    dispatch.signal < before.signals.next := by
  have member : dispatch.signal ∈ before.dispatches.map (·.signal) :=
    List.mem_map_of_mem made
  rw [consistent.numbered] at member
  exact List.mem_range.mp member

/-- Nothing is submitted or handed over, and no signal is created. Signals may
fire, and unsubmitted nodes may be added, bound and cancelled. -/
theorem carry (consistent : before.Consistent)
    (wellFormed : after.graph.WellFormed)
    (carries : before.graph.Carries after.graph)
    (dispatches : after.dispatches = before.dispatches)
    (later : before.signals.Extends after.signals)
    (next : after.signals.next = before.signals.next) : after.Consistent where
  wellFormed := wellFormed
  closed dependent required submitted edge := by
    have submittedBefore := carries.submitted_iff.mp submitted
    have edgeBefore := (carries.requires_iff submittedBefore).mp edge
    exact carries.submitted_iff.mpr
      (consistent.closed _ _ submittedBefore edgeBefore)
  owned dispatch made := by
    rw [dispatches] at made
    obtain ⟨handle, executor, state, member⟩ := consistent.owned dispatch made
    exact ⟨handle, executor, carries.state?_iff.mpr state, member⟩
  backed id handle executor state := by
    rw [dispatches]
    exact consistent.backed id handle executor (carries.state?_iff.mp state)
  listed dispatch made id met handle executor state := by
    rw [dispatches] at made
    have submitted := consistent.submitted_node made
    have metBefore : before.graph.Meets (·.isSatisfied) dispatch.node id := by
      refine TaskGraph.meets_of_states (fun next edge => ?_) consistent.closed
        (fun here isSubmitted => ⟨carries.states here (.inl isSubmitted),
          fun next edge => (carries.requires_iff isSubmitted).mp edge⟩) met
      have edgeBefore := (carries.requires_iff submitted).mp edge
      exact ⟨edgeBefore, consistent.closed _ _ submitted edgeBefore⟩
    rcases consistent.listed dispatch made id metBefore handle executor
      (carries.state?_iff.mp state) with complete | member
    · exact .inl (Handle.isComplete_mono later complete)
    · exact .inr member
  truthful dispatch made dependency member := by
    rw [dispatches] at made
    obtain ⟨reached, executor, state⟩ :=
      consistent.truthful dispatch made dependency member
    exact ⟨(carries.dependsOn_iff consistent.closed
      (consistent.submitted_node made)).mpr reached,
      executor, carries.state?_iff.mpr state⟩
  numbered := by rw [dispatches, next, consistent.numbered]
  layered second isSecond first isFirst reached := by
    rw [dispatches] at isSecond isFirst
    exact consistent.layered second isSecond first isFirst
      ((carries.dependsOn_iff consistent.closed
        (consistent.submitted_node isSecond)).mp reached)

theorem later_of_still (consistent : before.Consistent)
    (still : Still before after) (grow : before.graph.RegionsGrow after.graph) :
    after.Consistent := by
  refine consistent.carry (consistent.wellFormed.later still.sameNodes grow)
    (.of_same still.sameNodes fun id _ => still.states id)
    still.quiet.dispatches ?_ ?_
  · rw [still.quiet.signals]
    exact .refl _
  · rw [still.quiet.signals]

section TakesUp

variable {id : NodeId} {made : List Dispatch}

theorem state?_eq_of_takesUp (takes : TakesUp id made before after)
    {handle : Handle} {executor : Graph.Binding}
    (state : after.graph.state? id = some (.submitted handle executor)) :
    made ≠ [] ∧ handle.signals = made.map (·.signal) := by
  obtain ⟨other, taken⟩ := takes.state
  rw [taken] at state
  simp only [takenUp] at state
  split at state
  · cases state
  · rename_i some
    cases state
    refine ⟨some, ?_⟩
    rw [Handle.signals_join, ← Handle.signalsOf_single (made.map (·.signal)),
      List.map_map]
    rfl

theorem mem_dispatches_iff (takes : TakesUp id made before after)
    {dispatch : Dispatch} :
    dispatch ∈ after.dispatches ↔
      dispatch ∈ before.dispatches ∨ dispatch ∈ made := by
  obtain ⟨device, operations, handed⟩ := takes.handed
  rw [handed.dispatches]
  exact List.mem_append

theorem node_of_takesUp (takes : TakesUp id made before after)
    {dispatch : Dispatch} (member : dispatch ∈ made) :
    dispatch.node = id ∧
    dispatch.dependencies = dependenciesOf before.graph before.signals id := by
  obtain ⟨device, operations, handed⟩ := takes.handed
  obtain ⟨ofNode, _, dependencies⟩ := handed.each dispatch member
  exact ⟨ofNode, dependencies⟩

theorem extends_of_takesUp (takes : TakesUp id made before after) :
    before.signals.Extends after.signals := by
  obtain ⟨device, operations, handed⟩ := takes.handed
  obtain ⟨flags, _, signals⟩ := handed.fired
  rw [signals]
  exact Signals.extends_append _ flags

/-- The new signals are those of the new operations. -/
private theorem numbered_of_takesUp (consistent : before.Consistent)
    (takes : TakesUp id made before after) :
    after.dispatches.map (·.signal) = List.range after.signals.next := by
  obtain ⟨device, operations, handed⟩ := takes.handed
  obtain ⟨flags, count, signals⟩ := handed.fired
  have next : after.signals.next = before.signals.next + made.length := by
    rw [signals, ← count]
    exact List.length_append
  rw [handed.dispatches, List.map_append, consistent.numbered, handed.created,
    next, List.range_add, List.range'_eq_map_range]

private theorem signal_of_takesUp (consistent : before.Consistent)
    (takes : TakesUp id made before after) {old new : Dispatch}
    (isOld : old ∈ before.dispatches) (isNew : new ∈ made) :
    old.signal < new.signal := by
  obtain ⟨device, operations, handed⟩ := takes.handed
  have isCreated :
      new.signal ∈ List.range' before.signals.next made.length := by
    rw [← handed.created]
    exact List.mem_map_of_mem isNew
  exact Nat.lt_of_lt_of_le (consistent.signal_lt isOld)
    (List.mem_range'_1.mp isCreated).1

private theorem submitted_of_takesUp (takes : TakesUp id made before after)
    {other : NodeId} (submitted : before.graph.Submitted other) :
    after.graph.Submitted other :=
  submitted_of_state?_eq submitted (takes.state?_of_submitted submitted)

private theorem closed_of_takesUp (consistent : before.Consistent)
    (takes : TakesUp id made before after) : after.graph.Closed := by
  intro dependent required submitted edge
  rw [← takes.sameNodes.requires] at edge
  by_cases here : dependent = id
  · subst here
    exact submitted_of_takesUp takes (takes.prepared required edge)
  · exact submitted_of_takesUp takes (consistent.closed _ _
      (submitted_of_state?_eq submitted (takes.others _ here).symm) edge)

/-- Everything that the node depends on was submitted before. -/
private theorem ancestor_of_takesUp (consistent : before.Consistent)
    (takes : TakesUp id made before after) {other : NodeId}
    (reached : before.graph.DependsOn id other) :
    before.graph.Submitted other := by
  obtain ⟨first, edge, rest⟩ := Relation.TransGen.head'_iff.mp reached
  rcases Relation.reflTransGen_iff_eq_or_transGen.mp rest with same | further
  · rw [same]
    exact takes.prepared first edge
  · exact consistent.closed.dependsOn (takes.prepared first edge) further

/-- A walk that starts at submitted nodes meets nothing new. -/
private theorem meets_of_takesUp (consistent : before.Consistent)
    (takes : TakesUp id made before after) {root other : NodeId}
    (first : ∀ next,
      before.graph.Requires root next → before.graph.Submitted next)
    (met : after.graph.Meets (·.isSatisfied) root other) :
    before.graph.Meets (·.isSatisfied) root other := by
  have requires := takes.sameNodes.requires
  refine TaskGraph.meets_of_states (fun next edge => ?_) consistent.closed
    (fun here submitted =>
      ⟨takes.state?_of_submitted submitted, fun next edge => requires ▸ edge⟩)
    met
  have edgeBefore : before.graph.Requires root next := requires ▸ edge
  exact ⟨edgeBefore, first next edgeBefore⟩

private theorem owned_of_takesUp (consistent : before.Consistent)
    (takes : TakesUp id made before after) {dispatch : Dispatch}
    (member : dispatch ∈ after.dispatches) :
    ∃ handle executor,
      after.graph.state? dispatch.node = some (.submitted handle executor) ∧
      dispatch.signal ∈ handle.signals := by
  rcases (mem_dispatches_iff takes).mp member with earlier | fresh
  · obtain ⟨handle, executor, state, isOwn⟩ := consistent.owned dispatch earlier
    exact ⟨handle, executor,
      (takes.state?_of_submitted (.inr ⟨handle, executor, state⟩)).trans state,
      isOwn⟩
  · obtain ⟨executor, state⟩ := takes.state
    have some : made ≠ [] := List.ne_nil_of_mem fresh
    simp only [takenUp] at state
    rw [if_neg some] at state
    have signals := (state?_eq_of_takesUp takes state).2
    rw [← (node_of_takesUp takes fresh).1] at state
    refine ⟨_, executor, state, ?_⟩
    rw [signals]
    exact List.mem_map_of_mem fresh

private theorem backed_of_takesUp (consistent : before.Consistent)
    (takes : TakesUp id made before after) {other : NodeId} {handle : Handle}
    {executor : Graph.Binding}
    (state : after.graph.state? other = some (.submitted handle executor)) :
    (∃ dispatch ∈ after.dispatches, dispatch.node = other) ∧
    ∀ signal ∈ handle.signals, ∃ dispatch ∈ after.dispatches,
      dispatch.node = other ∧ dispatch.signal = signal := by
  by_cases here : other = id
  · subst here
    obtain ⟨some, signals⟩ := state?_eq_of_takesUp takes state
    constructor
    · obtain ⟨dispatch, member⟩ := List.exists_mem_of_ne_nil made some
      exact ⟨dispatch, (mem_dispatches_iff takes).mpr (.inr member),
        (node_of_takesUp takes member).1⟩
    · intro signal member
      rw [signals] at member
      obtain ⟨dispatch, isMade, same⟩ := List.mem_map.mp member
      exact ⟨dispatch, (mem_dispatches_iff takes).mpr (.inr isMade),
        (node_of_takesUp takes isMade).1, same⟩
  · rw [takes.others other here] at state
    obtain ⟨⟨dispatch, member, ofNode⟩, all⟩ :=
      consistent.backed other handle executor state
    refine ⟨⟨dispatch, (mem_dispatches_iff takes).mpr (.inl member), ofNode⟩,
      fun signal isSignal => ?_⟩
    obtain ⟨source, isSource, matching⟩ := all signal isSignal
    exact ⟨source, (mem_dispatches_iff takes).mpr (.inl isSource), matching⟩

private theorem listed_of_takesUp (consistent : before.Consistent)
    (takes : TakesUp id made before after) {dispatch : Dispatch}
    (member : dispatch ∈ after.dispatches) {other : NodeId}
    (met : after.graph.Meets (·.isSatisfied) dispatch.node other)
    {handle : Handle} {executor : Graph.Binding}
    (state : after.graph.state? other = some (.submitted handle executor)) :
    handle.isComplete after.signals = true ∨
    ⟨other, handle⟩ ∈ dispatch.dependencies := by
  have later := extends_of_takesUp takes
  rcases (mem_dispatches_iff takes).mp member with earlier | fresh
  · have submitted := consistent.submitted_node earlier
    have metThen := meets_of_takesUp consistent takes
      (fun next edge => consistent.closed _ _ submitted edge) met
    rw [takes.state?_of_submitted
      (consistent.closed.dependsOn submitted metThen.dependsOn)] at state
    rcases consistent.listed dispatch earlier other metThen handle
      executor state with
      complete | isListed
    · exact .inl (Handle.isComplete_mono later complete)
    · exact .inr isListed
  · obtain ⟨ofNode, dependencies⟩ := node_of_takesUp takes fresh
    rw [ofNode] at met
    have metThen := meets_of_takesUp consistent takes takes.prepared met
    rw [takes.state?_of_submitted
      (ancestor_of_takesUp consistent takes metThen.dependsOn)] at state
    cases complete : handle.isComplete before.signals with
    | true => exact .inl (Handle.isComplete_mono later complete)
    | false =>
        right
        rw [dependencies]
        exact mem_dependenciesOf_iff.mpr ⟨metThen, complete, executor, state⟩

private theorem truthful_of_takesUp (consistent : before.Consistent)
    (takes : TakesUp id made before after) {dispatch : Dispatch}
    (member : dispatch ∈ after.dispatches) {dependency : Dependency}
    (isListed : dependency ∈ dispatch.dependencies) :
    after.graph.DependsOn dispatch.node dependency.node ∧
    ∃ executor, after.graph.state? dependency.node =
      some (.submitted dependency.handle executor) := by
  rw [← takes.sameNodes.dependsOn]
  rcases (mem_dispatches_iff takes).mp member with earlier | fresh
  · obtain ⟨reached, executor, state⟩ :=
      consistent.truthful dispatch earlier dependency isListed
    exact ⟨reached, executor,
      (takes.state?_of_submitted (.inr ⟨_, executor, state⟩)).trans state⟩
  · obtain ⟨ofNode, dependencies⟩ := node_of_takesUp takes fresh
    rw [dependencies] at isListed
    obtain ⟨met, _, executor, state⟩ := mem_dependenciesOf_iff.mp isListed
    rw [ofNode]
    exact ⟨met.dependsOn, executor,
      (takes.state?_of_submitted (.inr ⟨_, executor, state⟩)).trans state⟩

private theorem layered_of_takesUp (consistent : before.Consistent)
    (takes : TakesUp id made before after) {later earlier : Dispatch}
    (isLater : later ∈ after.dispatches)
    (isEarlier : earlier ∈ after.dispatches)
    (reached : after.graph.DependsOn later.node earlier.node) :
    earlier.signal < later.signal := by
  rw [← takes.sameNodes.dependsOn] at reached
  rcases (mem_dispatches_iff takes).mp isLater with laterOld | laterNew
  · have submitted :=
      consistent.closed.dependsOn (consistent.submitted_node laterOld) reached
    rcases (mem_dispatches_iff takes).mp isEarlier with earlierOld | earlierNew
    · exact consistent.layered later laterOld earlier earlierOld reached
    · rw [(node_of_takesUp takes earlierNew).1] at submitted
      exact absurd takes.waits submitted.not_unsubmitted
  · rcases (mem_dispatches_iff takes).mp isEarlier with earlierOld | earlierNew
    · exact signal_of_takesUp consistent takes earlierOld laterNew
    · rw [(node_of_takesUp takes laterNew).1,
        (node_of_takesUp takes earlierNew).1] at reached
      exact absurd (consistent.wellFormed.dependsOn_lt reached)
        (Nat.lt_irrefl id)

/-- A node is taken up. What is new about it concerns no node that was submitted
before. -/
theorem later_of_takesUp (consistent : before.Consistent)
    (takes : TakesUp id made before after)
    (grow : before.graph.RegionsGrow after.graph) : after.Consistent where
  wellFormed := consistent.wellFormed.later takes.sameNodes grow
  closed := closed_of_takesUp consistent takes
  owned _ member := owned_of_takesUp consistent takes member
  backed _ _ _ state := backed_of_takesUp consistent takes state
  listed _ member _ met _ _ state :=
    listed_of_takesUp consistent takes member met state
  truthful _ member _ isListed :=
    truthful_of_takesUp consistent takes member isListed
  numbered := numbered_of_takesUp consistent takes
  layered _ isLater _ isEarlier reached :=
    layered_of_takesUp consistent takes isLater isEarlier reached

end TakesUp

end Consistent

end Scheduler

end CoherentTasks
