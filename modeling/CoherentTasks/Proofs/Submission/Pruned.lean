import CoherentTasks.Proofs.Submission.Listing
import CoherentTasks.Proofs.Submission.Lockstep

/-!
# Submissions after pruning

Submitting a node after finished nodes were removed has the same result, and
hands over the same operations, as submitting it without. But the walk that
collects dependencies goes through nodes that needed no work. When such a node
was removed, the walk does not get to what lies behind it any more, and an
operation may be handed over before the work that it has to wait for is
complete.
-/

namespace CoherentTasks

open CoherentTasks.Completion (Signals)
open CoherentTasks.Computation
open CoherentTasks.Geometry (Box)
open CoherentTasks.Graph (Node Operation TaskGraph)
open CoherentTasks.Submission

/-- The operation that was handed over, whatever it waits for. -/
def Dispatch.bare (dispatch : Dispatch) : Dispatch :=
  { dispatch with dependencies := [] }

/-- Lists of the same operations, of which each has the list that its node is
given, are equal. -/
private theorem eq_of_bare {left right : List Dispatch}
    (list : NodeId → List Dependency)
    (same : left.map Dispatch.bare = right.map Dispatch.bare)
    (leftLists : ∀ dispatch ∈ left, dispatch.dependencies = list dispatch.node)
    (rightLists : ∀ dispatch ∈ right,
      dispatch.dependencies = list dispatch.node) : left = right := by
  induction left generalizing right with
  | nil => exact (List.map_eq_nil_iff.mp same.symm).symm
  | cons first rest induction =>
      cases right with
      | nil => cases same
      | cons other others =>
          obtain ⟨sameFirst, sameRest⟩ := List.cons.inj same
          obtain ⟨isFirst, areRest⟩ := List.forall_mem_cons.mp leftLists
          obtain ⟨isOther, areOthers⟩ := List.forall_mem_cons.mp rightLists
          rw [induction sameRest areRest areOthers]
          obtain ⟨node, device, operation, executor, dependencies, signal⟩ :=
            first
          obtain ⟨_, _, _, _, others, _⟩ := other
          cases sameFirst
          simp only at isFirst isOther
          rw [isFirst, isOther]

namespace Submission

/-- Two states of the same submission, one of them without the nodes that were
removed before. -/
structure Thinned (before full thin : Scheduler) : Prop where
  graph :
    thin.graph = full.graph.without (before.graph.isRemovable before.signals)
  sameNodes : before.graph.SameNodes full.graph
  waits : ∀ id, full.graph.state? id = some .unsubmitted →
    before.graph.state? id = some .unsubmitted
  registry : thin.registry = full.registry
  alignment : thin.alignment = full.alignment
  signals : thin.signals = full.signals
  submitted : thin.submitted = full.submitted
  failures : thin.failures = full.failures
  dispatches :
    thin.dispatches.map Dispatch.bare = full.dispatches.map Dispatch.bare

private theorem thinned_prune (before : Scheduler) :
    Thinned before before before.prune where
  graph := TaskGraph.prune_eq before.graph before.signals
  sameNodes := .refl _
  waits _ unsubmitted := unsubmitted
  registry := rfl
  alignment := rfl
  signals := rfl
  submitted := rfl
  failures := rfl
  dispatches := rfl

namespace Thinned

variable {before full thin : Scheduler}

theorem changeNode (thinned : Thinned before full thin) (id : NodeId)
    {change : Node → Node} (progresses : Progresses change) :
    Thinned before { full with graph := full.graph.updateNode id change }
      { thin with graph := thin.graph.updateNode id change } :=
  { thinned with
    graph := by rw [thinned.graph, TaskGraph.updateNode_without]
    sameNodes := thinned.sameNodes.trans
      (TaskGraph.sameNodes_updateNode full.graph id progresses.created)
    waits := fun other unsubmitted => by
      apply thinned.waits other
      obtain ⟨node, found, state⟩ := Option.map_eq_some_iff.mp unsubmitted
      rw [TaskGraph.node?_updateNode] at found
      split at found
      · obtain ⟨earlier, isEarlier, rfl⟩ := Option.map_eq_some_iff.mp found
        exact Option.map_eq_some_iff.mpr
          ⟨earlier, isEarlier, progresses.waits earlier state⟩
      · exact Option.map_eq_some_iff.mpr ⟨node, found, state⟩ }

theorem record (thinned : Thinned before full thin) (event : Event) :
    Thinned before (full.record event) (thin.record event) :=
  { thinned with
    dispatches := by
      rw [Scheduler.dispatches_record, Scheduler.dispatches_record,
        List.map_append, List.map_append, thinned.dispatches] }

theorem dispatch (thinned : Thinned before full thin) (id : NodeId)
    (device : Device) (operation : Operation) (executor : Backend.Executor)
    (first second : List Dependency) :
    Thinned before (full.dispatch id device operation executor first).2
      (thin.dispatch id device operation executor second).2 :=
  { thinned with
    signals := by
      simp only [Scheduler.dispatch, Scheduler.signals_record]
      rw [thinned.signals]
    dispatches := by
      rw [(Scheduler.handsOver_dispatch full id device operation executor
        first).dispatches, (Scheduler.handsOver_dispatch thin id device
          operation executor second).dispatches,
        List.map_append, List.map_append, thinned.dispatches, thinned.signals]
      rfl }

end Thinned

/-- Removed nodes are not met by a submission, except on the walks that collect
dependencies. -/
private theorem lockstep_thinned (before : Scheduler) :
    Lockstep (Thinned before) (fun _ _ => True)
      (fun id => before.graph.state? id = some .unsubmitted)
      (fun id => before.graph.isRemovable before.signals id = false) where
  node := fun thinned _ kept => by
    rw [thinned.graph]
    exact TaskGraph.node?_without_of_kept _ _ kept
  opened := fun thinned _ unsubmitted => thinned.waits _ unsubmitted
  behind := fun thinned id waits required edge => by
    rw [← thinned.sameNodes.requirementsOf id] at edge
    exact TaskGraph.isRemovable_of_required waits edge
  region := fun thinned _ => by
    rw [thinned.graph]
    rfl
  registry := fun thinned => thinned.registry
  alignment := fun thinned => thinned.alignment
  next := fun thinned => by rw [thinned.signals]
  dependencies := fun _ _ _ => trivial
  changeNode := fun thinned id _ progresses => thinned.changeNode id progresses
  changeRegion := fun thinned _ _ =>
    { thinned with
      graph := by rw [thinned.graph, TaskGraph.updateRegion_without] }
  record := fun thinned event => thinned.record event
  request := fun thinned _ => { thinned with registry := rfl }
  dispatch := fun thinned id device operation executor first second _ =>
    thinned.dispatch id device operation executor first second

section Submit

variable {before full thin : Scheduler} {id : NodeId}

private theorem beside_registerSubmitted (thinned : Thinned before full thin)
    (waits : before.graph.state? id = some .unsubmitted) :
    Beside (Thinned before) (registerSubmitted id) (registerSubmitted id)
      full thin := by
  simp only [registerSubmitted]
  apply (lockstep_thinned before).getNode_bind thinned
    (TaskGraph.isRemovable_of_unsubmitted waits)
  intro node _
  refine beside_modify { thinned with submitted := ?_ }
  simp only
  rw [thinned.submitted]

private theorem beside_submitNew (thinned : Thinned before full thin)
    (waits : before.graph.state? id = some .unsubmitted) :
    Beside (Thinned before) (submitNew id) (submitNew id) full thin := by
  have lockstep := lockstep_thinned before
  have kept : before.graph.isRemovable before.signals id = false :=
    TaskGraph.isRemovable_of_unsubmitted waits
  rw [submitNew_eq_bind]
  apply lockstep.getNode_bind thinned kept
  intro node _
  cases node.hint with
  | none => exact beside_throw thinned
  | some device =>
      simp only [carryOut_eq]
      apply (beside_modify
        (lockstep.changeNode thinned id (progresses_assign device))).bind
      intro _ _ _ thinned
      apply (lockstep.undertake thinned kept waits device node.operation).bind
      intro _ _ _ thinned
      exact beside_registerSubmitted thinned waits

theorem Thinned.giveUp {cause : Error} (thinned : Thinned before full thin)
    (waits : full.graph.state? id = some .unsubmitted) :
    Thinned before (giveUp before full id cause)
      (giveUp before.prune thin id cause) := by
  let removed := before.graph.isRemovable before.signals
  let restored := full.graph.restore before.graph.snapshot
  have sameRestored :
      thin.graph.restore before.prune.graph.snapshot =
        restored.without removed := by
    rw [thinned.graph]
    rfl
  have kept :
      ∀ other,
        restored.state? other = some .unsubmitted → removed other = false :=
    fun other unsubmitted =>
      TaskGraph.isRemovable_of_unsubmitted (thinned.waits other unsubmitted)
  refine { thinned with
    graph := ?_, sameNodes := ?_, waits := ?_, failures := ?_ }
  · simp only [Submission.giveUp]
    rw [sameRestored]
    exact TaskGraph.abort_without restored removed kept waits
  · exact thinned.sameNodes.trans (TaskGraph.sameNodes_abort restored id)
  · intro other unsubmitted
    have changed :
        (restored.abort id).2.state? other = restored.state? other ∨ _ :=
      TaskGraph.state?_abort other
    rcases changed with same | ⟨waited, _⟩
    · exact thinned.waits other (same.symm.trans unsubmitted)
    · exact thinned.waits other waited
  · simp only [Submission.giveUp]
    rw [thinned.failures]

private theorem beside_submit (wellFormed : before.graph.WellFormed)
    (waits : before.graph.state? id = some .unsubmitted) :
    Beside (Thinned before) (submit id) (submit id) before before.prune := by
  obtain ⟨node, found, state⟩ := Option.map_eq_some_iff.mp waits
  have foundThere : before.prune.graph.node? id = some node :=
    (TaskGraph.node?_without_of_kept _ _
      (TaskGraph.isRemovable_of_unsubmitted waits)).trans found
  have beside := beside_submitNew (thinned_prune before) waits
  simp only [Beside, submit]
  rw [found, foundThere]
  simp only [Node.isUnsubmitted_iff.mpr state, if_true]
  cases result : submitNew id before with
  | ok value full =>
      obtain ⟨thin, there, thinned⟩ := beside.ok result
      rw [there]
      exact ⟨trivial, thinned⟩
  | error cause full =>
      obtain ⟨thin, there, thinned⟩ := beside.error result
      rw [there]
      have moves := submitNew_error wellFormed waits result
      exact ⟨rfl, thinned.giveUp
        ((Moves.state?_of_le moves (Nat.le_refl id)).trans waits)⟩

end Submit

private theorem outstanding?_of_removable {graph : TaskGraph}
    {signals : Signals} {id : NodeId}
    (removable : graph.isRemovable signals id = true) :
    graph.state? id ≠ some .unsubmitted ∧
    outstanding? graph signals id = none := by
  obtain ⟨⟨node, found, retired⟩, _⟩ := TaskGraph.isRemovable_iff.mp removable
  simp only [Node.isRetired, Node.isComplete, Node.isCancelled] at retired
  simp only [TaskGraph.state?, outstanding?]
  rw [found]
  cases state : node.state <;> simp_all

/-- When the removed nodes have no outstanding work themselves, the list lacks
exactly the nodes that the walk does not meet any more. -/
private theorem dependenciesOf_without {graph : TaskGraph}
    {removed : NodeId → Bool} {signals : Signals}
    (idle : ∀ other,
      removed other = true → outstanding? graph signals other = none)
    (id : NodeId) :
    dependenciesOf (graph.without removed) signals id =
      (dependenciesOf graph signals id).filter fun dependency =>
        dependency.node ∈ (graph.without removed).walk (·.isSatisfied) id := by
  have same (other : NodeId) :
      outstanding? (graph.without removed) signals other =
        outstanding? graph signals other := by
    cases gone : removed other with
    | true =>
        simp only [outstanding?]
        rw [TaskGraph.node?_without, gone, if_pos rfl]
        exact (idle other gone).symm
    | false =>
        exact outstanding?_congr
          (TaskGraph.state?_without_of_kept graph removed gone) fun _ _ _ => rfl
  rw [dependenciesOf_eq, dependenciesOf_eq, TaskGraph.length_slots_without,
    List.filter_filterMap]
  apply List.filterMap_congr
  intro other _
  rw [same]
  by_cases met : other ∈ (graph.without removed).walk (·.isSatisfied) id
  · have metBefore : other ∈ graph.walk (·.isSatisfied) id :=
      TaskGraph.mem_walk_iff.mpr (TaskGraph.meets_of_without graph removed
        (TaskGraph.mem_walk_iff.mp met))
    rw [if_pos met, if_pos metBefore]
    rw [filter_outstanding? graph signals other
      (decide <| · ∈ (graph.without removed).walk (·.isSatisfied) id)]
    simp [met]
  · rw [if_neg met]
    split
    · rw [filter_outstanding? graph signals other
        (decide <| · ∈ (graph.without removed).walk (·.isSatisfied) id)]
      simp [met]
    · rfl

theorem Thinned.dependenciesOf_eq {before full thin : Scheduler}
    (thinned : Thinned before full thin) (intact : before.Intact)
    (follows : before.Follows full) (id : NodeId) :
    dependenciesOf thin.graph thin.signals id =
      (dependenciesOf full.graph full.signals id).filter fun dependency =>
        dependency.node ∈ thin.graph.walk (·.isSatisfied) id := by
  rw [thinned.graph, thinned.signals]
  refine dependenciesOf_without (fun other removable => ?_) id
  obtain ⟨settled, nothing⟩ := outstanding?_of_removable removable
  rw [follows.outstanding?_eq intact settled]
  exact nothing

end Submission

namespace Scheduler

open CoherentTasks.Action (cause? handed outcome)

/-- How the submission of a node goes after pruning, compared with how it goes
without. The result, the operations and the states of the nodes that are left
are the same. The lists of dependencies are the same exactly if the walks that
collect them still meet everything that is on them. -/
structure SubmitsAlike (id : NodeId) (before : Scheduler) : Prop where
  result : cause? (submit id) before.prune = cause? (submit id) before
  graph : (outcome (submit id) before.prune).graph =
    (outcome (submit id) before).graph.without
      (before.graph.isRemovable before.signals)
  operations : (handed (submit id) before.prune).map Dispatch.bare =
    (handed (submit id) before).map Dispatch.bare
  lists : handed (submit id) before.prune = handed (submit id) before ↔
    ∀ dispatch ∈ handed (submit id) before,
      ∀ dependency ∈ dispatch.dependencies,
        (outcome (submit id) before.prune).graph.Meets (·.isSatisfied)
          dispatch.node dependency.node

section Alike

variable {id : NodeId} {before : Scheduler}

private theorem thinned_submit (met : before.InUse)
    (waits : before.graph.state? id = some .unsubmitted) :
    cause? (submit id) before.prune = cause? (submit id) before ∧
      Thinned before (outcome (submit id) before)
        (outcome (submit id) before.prune) :=
  Action.outcome_of_beside (beside_submit met.intact.wellFormed waits)

/-- What is handed over with and without pruning, with the lists of both. -/
private theorem listed_prune (met : before.InUse)
    (waits : before.graph.state? id = some .unsubmitted) :
    ∃ made left, Listed made before (outcome (submit id) before) ∧
      Listed left before.prune (outcome (submit id) before.prune) ∧
      left.map Dispatch.bare = made.map Dispatch.bare := by
  have intact := met.intact
  have pruned := intact.prune
  have submits : Submits id before (outcome (submit id) before) _ :=
    submits_submit intact.wellFormed
  have submitsThere :
      Submits id before.prune (outcome (submit id) before.prune) _ :=
    submits_submit pruned.wellFormed
  obtain ⟨made, listed⟩ := Listed.of_submits intact submits
  obtain ⟨left, listedThere⟩ := Listed.of_submits pruned submitsThere
  refine ⟨made, left, listed, listedThere, ?_⟩
  have all := (thinned_submit met waits).2.dispatches
  rw [listed.dispatches, listedThere.dispatches, List.map_append,
    List.map_append] at all
  exact List.append_cancel_left all

private theorem handed_prune_eq_iff (met : before.InUse)
    (waits : before.graph.state? id = some .unsubmitted) :
    handed (submit id) before.prune = handed (submit id) before ↔
      ∀ dispatch ∈ handed (submit id) before,
        ∀ dependency ∈ dispatch.dependencies,
          (outcome (submit id) before.prune).graph.Meets (·.isSatisfied)
            dispatch.node dependency.node := by
  obtain ⟨made, left, listed, listedThere, operations⟩ := listed_prune met waits
  have lists :=
    (thinned_submit met waits).2.dependenciesOf_eq met.intact listed.follows
  rw [Action.handed_eq listed.dispatches,
    Action.handed_eq listedThere.dispatches]
  constructor
  · intro equal dispatch member dependency isListed
    rw [listedThere.lists dispatch (equal ▸ member), lists] at isListed
    have onWalk := (List.mem_filter.mp isListed).2
    exact TaskGraph.mem_walk_iff.mp (by simpa using onWalk)
  · intro found
    refine eq_of_bare _ operations listedThere.lists fun dispatch member => ?_
    rw [lists, ← listed.lists dispatch member]
    symm
    apply List.filter_eq_self.mpr
    intro dependency isListed
    simpa using TaskGraph.mem_walk_iff.mpr
      (found dispatch member dependency isListed)

theorem submitsAlike (met : before.InUse)
    (waits : before.graph.state? id = some .unsubmitted) :
    SubmitsAlike id before := by
  obtain ⟨sameCause, thinned⟩ := thinned_submit met waits
  constructor
  case result => exact sameCause
  case graph => exact thinned.graph
  case operations =>
    obtain ⟨made, left, listed, listedThere, operations⟩ :=
      listed_prune met waits
    rw [Action.handed_eq listed.dispatches,
      Action.handed_eq listedThere.dispatches]
    exact operations
  case lists => exact handed_prune_eq_iff met waits

/-- Pruning is transparent as long as nothing is outstanding behind the nodes
without work that it removes. -/
theorem handed_prune_eq (met : before.InUse)
    (waits : before.graph.state? id = some .unsubmitted)
    (idle : ∀ removed other,
      before.graph.isRemovable before.signals removed = true →
      before.graph.state? removed = some .satisfied →
      before.graph.Meets (·.isSatisfied) removed other →
      outstanding? before.graph before.signals other = none) :
    handed (submit id) before.prune = handed (submit id) before := by
  have intact := met.intact
  obtain ⟨made, listed⟩ :=
    Listed.of_submits intact (submits_submit intact.wellFormed)
  have follows := listed.follows
  apply (handed_prune_eq_iff met waits).mpr
  intro dispatch member dependency isListed
  rw [Action.handed_eq listed.dispatches] at member
  rw [listed.lists dispatch member] at isListed
  obtain ⟨reached, incomplete, executor, state⟩ :=
    mem_dependenciesOf_iff.mp isListed
  rw [(thinned_submit met waits).2.graph]
  refine TaskGraph.meets_without _ _
    (TaskGraph.isRemovable_of_unsubmitted (listed.fresh dispatch member))
    (fun here next removable passes leads => ?_) reached
  obtain ⟨settled, _⟩ := outstanding?_of_removable removable
  have ready : before.Ready here :=
    fun required edge => intact.settled_of_requires settled edge
  have leadsBefore := (follows.meets_iff intact ready).mp leads
  have satisfied : before.graph.state? here = some .satisfied := by
    rw [← follows.states here settled]
    exact (TaskGraph.passage_isSatisfied_iff.mp passes).1
  have nothing := idle here _ removable satisfied leadsBefore
  rw [← follows.outstanding?_eq intact
    (intact.settled_of_meets ready leadsBefore)] at nothing
  rw [outstanding?_eq_some_iff.mpr ⟨rfl, incomplete, executor, state⟩]
    at nothing
  cases nothing

end Alike

/-- A buffer on the host, a kernel, two requirements that come after it one by
one, and another kernel behind them. -/
def chained : Scheduler :=
  let start := create 128 (.ofList [Backend.recording .host false none]) false
  let graph :=
    (start.graph.addRegion "A" ⟨4, 1, 1⟩ 4).updateRegion 0
      (·.seed .hostDevice 0)
  let read : Operation := .requirement ⟨0, .ofExtent ⟨4, 1, 1⟩, .read⟩
  { start with graph := { graph with slots :=
      [some (Node.create (.kernel ⟨"first", none⟩) [] (some .hostDevice)),
        some (Node.create read [0] (some .hostDevice)),
        some (Node.create read [1] (some .hostDevice)),
        some (Node.create (.kernel ⟨"last", none⟩) [2] (some .hostDevice))] } }

private theorem reachable_chained : chained.Reachable := by
  let read : Operation := .requirement ⟨0, .ofExtent ⟨4, 1, 1⟩, .read⟩
  have empty :=
    Reachable.create 128 (.ofList [Backend.recording .host false none]) false
  have buffer := empty.step (.addRegion "A" ⟨4, 1, 1⟩ 4)
  have seeded :=
    buffer.step (.changeRegion 0 (·.seed .hostDevice 0)
      fun region => region.grows_seed .hostDevice 0)
  have first :=
    seeded.step
      (.addNode (.kernel ⟨"first", none⟩) [] (some .hostDevice) 0 _ rfl)
  have inner := first.step (.addNode read [0] (some .hostDevice) 1 _ rfl)
  have outer := inner.step (.addNode read [1] (some .hostDevice) 2 _ rfl)
  exact outer.step
    (.addNode (.kernel ⟨"last", none⟩) [2] (some .hostDevice) 3 _ rfl)

/-- The first kernel was submitted and is not complete. The requirements needed
no work. -/
def chainedHalfway : Scheduler :=
  outcome (submit 2) (outcome (submit 0) chained)

private theorem reachable_chainedHalfway : chainedHalfway.Reachable :=
  (reachable_chained.step (.submit 0)).step (.submit 2)

theorem submitsAlike_chainedHalfway : SubmitsAlike 3 chainedHalfway :=
  submitsAlike reachable_chainedHalfway.inUse rfl

/-- Pruning is not always transparent: it removes the inner requirement, and the
last kernel does not wait for the first one any more. -/
theorem not_always_transparent :
    ¬ ∀ (before : Scheduler) (id : NodeId), before.Reachable →
      before.graph.state? id = some .unsubmitted →
        cause? (submit id) before.prune = cause? (submit id) before ∧
          handed (submit id) before.prune = handed (submit id) before := by
  intro always
  have same := (always chainedHalfway 3 reachable_chainedHalfway rfl).2
  have pruned :
      (handed (submit 3) chainedHalfway.prune).map (·.waitsFor) = [[]] := by
    decide +kernel
  have full : (handed (submit 3) chainedHalfway).map (·.waitsFor) = [[0]] := by
    decide +kernel
  rw [same, full] at pruned
  cases pruned

end Scheduler

end CoherentTasks
