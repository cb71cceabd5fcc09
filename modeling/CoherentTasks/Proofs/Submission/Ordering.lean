import CoherentTasks.Proofs.Submission.Run

/-!
# Short lists of dependencies lose no order

An operation is handed only the outstanding work that a walk through satisfied
nodes meets, not everything that its node depends on. Provided that executors
complete an operation only after what it waits for, the rest is found again in
the lists of the operations in between.
-/

namespace CoherentTasks

open CoherentTasks.Completion (Handle Signals)
open CoherentTasks.Graph (Node Operation TaskGraph)
open CoherentTasks.Submission

namespace Graph.TaskGraph

/-- The work of the node was handed over and is not complete. -/
def Outstanding (graph : TaskGraph) (signals : Signals) (id : NodeId) : Prop :=
  ∃ handle executor, graph.state? id = some (.submitted handle executor) ∧
    handle.isComplete signals = false

/-- On the way to a node with work, a walk from the start meets a first node
with work. -/
theorem exists_met_with_work {graph : TaskGraph} (closed : graph.Closed)
    {dependent required : NodeId} (submitted : graph.Submitted dependent)
    (reached : graph.DependsOn dependent required)
    (worked : ∃ handle executor,
      graph.state? required = some (.submitted handle executor)) :
    ∃ met, graph.Meets (·.isSatisfied) dependent met ∧ (∃ handle executor,
      graph.state? met = some (.submitted handle executor)) ∧
      (met = required ∨ graph.DependsOn met required) := by
  induction reached using Relation.TransGen.head_induction_on with
  | single edge => exact ⟨required, ⟨required, edge, .refl⟩, worked, .inl rfl⟩
  | @head dependent next edge rest induction =>
      rcases closed dependent next submitted edge with satisfied | outstanding
      · obtain ⟨met, ⟨first, required, leads⟩, work, onward⟩ :=
          induction (closed dependent next submitted edge)
        have passage := passage_isSatisfied_iff.mpr ⟨satisfied, required⟩
        exact ⟨met, ⟨next, edge, .head passage leads⟩, work, onward⟩
      · exact ⟨next, ⟨next, edge, .refl⟩, outstanding, .inr rest⟩

end Graph.TaskGraph

namespace Scheduler

/-- Some operation of the first node was handed the second as a dependency. -/
def Awaits (scheduler : Scheduler) (dependent required : NodeId) : Prop :=
  ∃ dispatch ∈ scheduler.dispatches,
    dispatch.node = dependent ∧ required ∈ dispatch.waitsFor

/-- Executors completed an operation only after all that it was told to wait
for. -/
def Disciplined (scheduler : Scheduler) : Prop :=
  ∀ dispatch ∈ scheduler.dispatches,
    scheduler.signals.isFired dispatch.signal = true →
    ∀ dependency ∈ dispatch.dependencies,
      dependency.handle.isComplete scheduler.signals = true

namespace Consistent

variable {scheduler : Scheduler}

/-- If the work of a node is complete, so is that of every node that it depends
on. -/
theorem complete_of_complete (consistent : scheduler.Consistent)
    (disciplined : scheduler.Disciplined) {dependent : NodeId} {handle : Handle}
    {executor : Graph.Binding}
    (state :
      scheduler.graph.state? dependent = some (.submitted handle executor))
    (complete : handle.isComplete scheduler.signals = true) {required : NodeId}
    (reached : scheduler.graph.DependsOn dependent required) :
    ¬ scheduler.graph.Outstanding scheduler.signals required := by
  -- Required nodes have smaller numbers.
  induction dependent
    using Nat.strong_induction_on generalizing handle executor with
  | h dependent induction =>
      intro pending
      obtain ⟨other, place, work, notComplete⟩ := pending
      obtain ⟨met, meets, ⟨metHandle, metExecutor, metState⟩, onward⟩ :=
        TaskGraph.exists_met_with_work consistent.closed
          (.inr ⟨handle, executor, state⟩) reached ⟨other, place, work⟩
      obtain ⟨⟨dispatch, made, ofNode⟩, _⟩ :=
        consistent.backed dependent handle executor state
      subst ofNode
      have fired : scheduler.signals.isFired dispatch.signal = true := by
        obtain ⟨own, place, ownState, member⟩ := consistent.owned dispatch made
        rw [state] at ownState
        cases ownState
        exact Handle.isComplete_iff handle |>.mp complete dispatch.signal member
      have metComplete : metHandle.isComplete scheduler.signals = true := by
        rcases consistent.listed dispatch made met meets metHandle
          metExecutor metState with
          already | isListed
        · exact already
        · exact disciplined dispatch made fired _ isListed
      rcases onward with rfl | further
      · rw [work] at metState
        cases metState
        rw [metComplete] at notComplete
        cases notComplete
      · exact induction met (consistent.wellFormed.dependsOn_lt meets.dependsOn)
          metState metComplete further ⟨other, place, work, notComplete⟩

/-- Outstanding work that the node of an operation depends on is reached through
dependency lists. -/
theorem awaits_outstanding (consistent : scheduler.Consistent)
    (disciplined : scheduler.Disciplined) {dispatch : Dispatch}
    (made : dispatch ∈ scheduler.dispatches) {required : NodeId}
    (reached : scheduler.graph.DependsOn dispatch.node required)
    (outstanding : scheduler.graph.Outstanding scheduler.signals required) :
    Relation.TransGen scheduler.Awaits dispatch.node required := by
  generalize isNode : dispatch.node = dependent at reached
  induction dependent using Nat.strong_induction_on generalizing dispatch with
  | h dependent induction =>
      subst isNode
      obtain ⟨handle, executor, work, notComplete⟩ := outstanding
      obtain ⟨met, meets, ⟨metHandle, metExecutor, metState⟩, onward⟩ :=
        TaskGraph.exists_met_with_work consistent.closed
          (consistent.submitted_node made) reached ⟨handle, executor, work⟩
      rcases consistent.listed dispatch made met meets metHandle
        metExecutor metState with
        complete | isListed
      · rcases onward with rfl | further
        · rw [work] at metState
          cases metState
          rw [complete] at notComplete
          cases notComplete
        · exact absurd ⟨handle, executor, work, notComplete⟩
            (consistent.complete_of_complete disciplined metState
              complete further)
      · have awaits : scheduler.Awaits dispatch.node met :=
          ⟨dispatch, made, rfl, List.mem_map_of_mem isListed⟩
        rcases onward with rfl | further
        · exact .single awaits
        · obtain ⟨⟨next, isMade, ofNode⟩, _⟩ :=
            consistent.backed met metHandle metExecutor metState
          have less := consistent.wellFormed.dependsOn_lt meets.dependsOn
          exact .head awaits (induction met less isMade ofNode further)

/-- The signals below the handle of a required node were created before those of
the operation. -/
private theorem lt_of_dependsOn (consistent : scheduler.Consistent)
    {dispatch : Dispatch} (made : dispatch ∈ scheduler.dispatches)
    {required : NodeId}
    (reached : scheduler.graph.DependsOn dispatch.node required)
    {handle : Handle} {executor : Graph.Binding}
    (state :
      scheduler.graph.state? required = some (.submitted handle executor)) :
    ∀ signal ∈ handle.signals, signal < dispatch.signal := by
  intro signal member
  obtain ⟨earlier, isMade, rfl, rfl⟩ :=
    (consistent.backed required handle executor state).2 signal member
  exact consistent.layered dispatch made earlier isMade reached

theorem outstanding_upTo_iff (consistent : scheduler.Consistent)
    {dispatch : Dispatch} (made : dispatch ∈ scheduler.dispatches)
    {required : NodeId}
    (reached : scheduler.graph.DependsOn dispatch.node required) :
    scheduler.graph.Outstanding
        (scheduler.signals.upTo dispatch.signal) required ↔
      scheduler.graph.Outstanding scheduler.signals required := by
  simp only [TaskGraph.Outstanding]
  refine exists_congr
    fun handle => exists_congr fun executor => and_congr_right fun state => ?_
  have earlier := consistent.lt_of_dependsOn made reached state
  have same : handle.isComplete (scheduler.signals.upTo dispatch.signal) =
      handle.isComplete scheduler.signals := by
    rw [Bool.eq_iff_iff, Handle.isComplete_iff, Handle.isComplete_iff]
    refine forall_congr' fun signal => forall_congr' fun member => ?_
    rw [Signals.isFired_upTo (earlier signal member)]
  rw [same]

/-- Dependency lists name only nodes on which the node of the operation
depends. -/
theorem dependsOn_of_awaits (consistent : scheduler.Consistent)
    {dependent required : NodeId}
    (awaits : Relation.TransGen scheduler.Awaits dependent required) :
    scheduler.graph.DependsOn dependent required := by
  have each {dependent required : NodeId}
      (awaits : scheduler.Awaits dependent required) :
      scheduler.graph.DependsOn dependent required := by
    obtain ⟨dispatch, made, rfl, isListed⟩ := awaits
    obtain ⟨dependency, member, rfl⟩ := List.mem_map.mp isListed
    exact (consistent.truthful dispatch made dependency member).1
  induction awaits with
  | single awaits => exact each awaits
  | tail _ awaits induction => exact induction.trans (each awaits)

end Consistent

/-- Whatever an operation's node depends on, and was outstanding when the
operation was handed over, is reached through the dependency lists. The signals
that count are those created before the operation's own; right after the
submission that made the operation they are as they were at that moment, because
a submission fires only signals that it has just created. -/
theorem awaits_of_dependsOn {scheduler : Scheduler}
    (reached : scheduler.Reachable) (disciplined : scheduler.Disciplined)
    {dispatch : Dispatch} (made : dispatch ∈ scheduler.dispatches)
    {required : NodeId}
    (depends : scheduler.graph.DependsOn dispatch.node required)
    (outstanding : scheduler.graph.Outstanding
      (scheduler.signals.upTo dispatch.signal) required) :
    Relation.TransGen scheduler.Awaits dispatch.node required :=
  reached.consistent.awaits_outstanding disciplined made depends
    ((reached.consistent.outstanding_upTo_iff made depends).mp outstanding)

/-- Three kernels that come after each other, on an executor that waits to be
told. -/
def threeWaiting : Scheduler :=
  let kernel (requirements : List NodeId) : Option Node :=
    some (Node.create (.kernel ⟨"kernel", none⟩) requirements (some ⟨.cuda, 0⟩))
  { create 128 (.ofList [Backend.recording .cuda false none]) false with
    graph := ⟨[kernel [], kernel [0], kernel [1]], []⟩ }

/-- All three are submitted, and none is complete. -/
def threeInARow : Scheduler :=
  Action.outcome (submit 2)
    (Action.outcome (submit 1) (Action.outcome (submit 0) threeWaiting))

private theorem reachable_threeInARow : threeInARow.Reachable := by
  let operation : Operation := .kernel ⟨"kernel", none⟩
  have empty :=
    Reachable.create 128 (.ofList [Backend.recording .cuda false none]) false
  have one := empty.step (.addNode operation [] (some ⟨.cuda, 0⟩) 0 _ rfl)
  have two := one.step (.addNode operation [0] (some ⟨.cuda, 0⟩) 1 _ rfl)
  have three : threeWaiting.Reachable :=
    two.step (.addNode operation [1] (some ⟨.cuda, 0⟩) 2 _ rfl)
  exact ((three.step (.submit 0)).step (.submit 1)).step (.submit 2)

/-- The last of the three is not told to wait for the first, but the lists lead
there. -/
theorem awaits_first_of_three :
    ∃ dispatch ∈ threeInARow.dispatches, 0 ∉ dispatch.waitsFor ∧
      Relation.TransGen threeInARow.Awaits dispatch.node 0 := by
  have made :
      ⟨2, ⟨.cuda, 0⟩, .kernel ⟨"kernel", none⟩, .recording .cuda false,
          [⟨1, .single 1⟩], 2⟩ ∈
        threeInARow.dispatches := List.mem_of_getElem? (i := 2) rfl
  have disciplined : threeInARow.Disciplined := by
    simp only [Disciplined]
    decide +kernel
  have second : threeInARow.graph.Requires 2 1 := by
    simp only [TaskGraph.Requires]
    decide +kernel
  have first : threeInARow.graph.Requires 1 0 := by
    simp only [TaskGraph.Requires]
    decide +kernel
  exact ⟨_, made, by decide, awaits_of_dependsOn reachable_threeInARow
    disciplined made (.tail (.single second) first) ⟨.single 0, _, rfl, rfl⟩⟩

end Scheduler

end CoherentTasks
