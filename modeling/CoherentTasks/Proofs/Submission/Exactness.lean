import CoherentTasks.Proofs.Submission.Listing
import CoherentTasks.Proofs.Submission.Ordering
import Mathlib.Order.WellFounded

/-!
# Lists of dependencies are exact

An operation is handed over with a list of exactly the nodes whose work is
outstanding and to which requirement edges lead through satisfied nodes. Those
nodes were handed over before, and everything else that the walk meets is
satisfied or complete. Required nodes have smaller numbers, so the operations
never wait for each other in a circle.
-/

namespace CoherentTasks

open CoherentTasks.Completion (Handle Signals)
open CoherentTasks.Graph (Node Operation TaskGraph)
open CoherentTasks.Submission

namespace Scheduler

/-- The operation waits for exactly the outstanding work that a walk from its
node met. The signals that count are those that were created before the
operation's own. -/
structure WaitsExactly (scheduler : Scheduler) (dispatch : Dispatch) :
    Prop where
  ascending : dispatch.waitsFor.Pairwise (· < ·)
  listed : ∀ required, required ∈ dispatch.waitsFor ↔
    scheduler.graph.Meets (·.isSatisfied) dispatch.node required ∧
    scheduler.graph.Outstanding
      (scheduler.signals.upTo dispatch.signal) required
  /-- Each node is listed with its own handle. -/
  handles : ∀ dependency ∈ dispatch.dependencies,
    ∃ executor, scheduler.graph.state? dependency.node =
      some (.submitted dependency.handle executor)
  others : dispatch.node ∉ dispatch.waitsFor
  /-- All operations of a listed node were handed over before, and there is
  one. -/
  earlier : ∀ front back, scheduler.dispatches = front ++ dispatch :: back →
    ∀ required ∈ dispatch.waitsFor, (∃ other ∈ front, other.node = required) ∧
      ∀ other ∈ back, other.node ≠ required
  /-- The walk meets no node that has neither work nor been satisfied. -/
  submitted : ∀ met, scheduler.graph.Meets (·.isSatisfied) dispatch.node met →
    scheduler.graph.Submitted met

namespace Consistent

variable {scheduler : Scheduler} {dispatch : Dispatch}

private theorem ascending_signals (consistent : scheduler.Consistent) :
    scheduler.dispatches.Pairwise
      fun earlier later => earlier.signal < later.signal := by
  rw [← List.pairwise_map, consistent.numbered]
  exact List.pairwise_lt_range

/-- What an operation waits for was handed over before it. -/
private theorem earlier_of_waitsFor (consistent : scheduler.Consistent)
    {front back : List Dispatch}
    (split : scheduler.dispatches = front ++ dispatch :: back)
    {required : NodeId} (waits : required ∈ dispatch.waitsFor) :
    (∃ other ∈ front, other.node = required) ∧
    ∀ other ∈ back, other.node ≠ required := by
  have made : dispatch ∈ scheduler.dispatches := by
    rw [split]
    exact List.mem_append_right _ List.mem_cons_self
  obtain ⟨dependency, isListed, rfl⟩ := List.mem_map.mp waits
  obtain ⟨reached, executor, state⟩ :=
    consistent.truthful dispatch made dependency isListed
  have before (other : Dispatch) (isMade : other ∈ scheduler.dispatches)
      (ofNode : other.node = dependency.node) :
      other.signal < dispatch.signal :=
    consistent.layered dispatch made other isMade (ofNode ▸ reached)
  have ascending := consistent.ascending_signals
  rw [split] at ascending before
  have later :=
    (List.pairwise_cons.mp (List.pairwise_append.mp ascending).2.1).1
  constructor
  · obtain ⟨⟨other, isMade, ofNode⟩, _⟩ := consistent.backed _ _ _ state
    rw [split] at isMade
    have less := before other isMade ofNode
    rcases List.mem_append.mp isMade with isFront | isRest
    · exact ⟨other, isFront, ofNode⟩
    · rcases List.mem_cons.mp isRest with rfl | isBack
      · exact absurd less (Nat.lt_irrefl _)
      · exact absurd less (Nat.lt_asymm (later other isBack))
  · intro other isBack ofNode
    have isMade :=
      List.mem_append_right front (List.mem_cons_of_mem dispatch isBack)
    exact absurd (before other isMade ofNode)
      (Nat.lt_asymm (later other isBack))

/-- An operation whose list can be read off the present state waits for exactly
the right nodes. -/
private theorem waitsExactly (consistent : scheduler.Consistent)
    (made : dispatch ∈ scheduler.dispatches)
    (lists : dispatch.dependencies =
      dependenciesOf scheduler.graph scheduler.signals dispatch.node) :
    scheduler.WaitsExactly dispatch := by
  constructor
  case ascending =>
    simp only [Dispatch.waitsFor]
    rw [lists]
    exact ascending_dependenciesOf _ _ _
  case listed =>
    intro required
    simp only [Dispatch.waitsFor]
    rw [lists, List.mem_map]
    constructor
    · intro isListed
      obtain ⟨dependency, member, rfl⟩ := isListed
      obtain ⟨met, outstanding, executor, state⟩ :=
        mem_dependenciesOf_iff.mp member
      exact ⟨met, (consistent.outstanding_upTo_iff made met.dependsOn).mpr
        ⟨dependency.handle, executor, state, outstanding⟩⟩
    · intro waits
      obtain ⟨met, outstanding⟩ := waits
      obtain ⟨handle, executor, state, notComplete⟩ :=
        (consistent.outstanding_upTo_iff made met.dependsOn).mp outstanding
      exact ⟨⟨required, handle⟩,
        mem_dependenciesOf_iff.mpr ⟨met, notComplete, executor, state⟩, rfl⟩
  case handles =>
    intro dependency member
    exact (consistent.truthful dispatch made dependency member).2
  case others =>
    intro waits
    have circle :=
      consistent.dependsOn_of_awaits (.single ⟨dispatch, made, rfl, waits⟩)
    exact absurd (consistent.wellFormed.dependsOn_lt circle) (Nat.lt_irrefl _)
  case earlier =>
    intro front back split required waits
    exact consistent.earlier_of_waitsFor split waits
  case submitted =>
    intro met meets
    exact consistent.closed.dependsOn (consistent.submitted_node made)
      meets.dependsOn

private theorem not_awaits_self (consistent : scheduler.Consistent)
    (node : NodeId) : ¬ Relation.TransGen scheduler.Awaits node node := by
  intro circle
  have less :=
    consistent.wellFormed.dependsOn_lt (consistent.dependsOn_of_awaits circle)
  exact absurd less (Nat.lt_irrefl node)

/-- Among any operations, one of the node with the smallest number waits for
none of them. -/
private theorem exists_waits_for_none (consistent : scheduler.Consistent)
    {chosen : Set Dispatch} (some : chosen.Nonempty)
    (made : ∀ dispatch ∈ chosen, dispatch ∈ scheduler.dispatches) :
    ∃ dispatch ∈ chosen, ∀ other ∈ chosen, other.node ∉ dispatch.waitsFor := by
  obtain ⟨first, isChosen, least⟩ :=
    WellFounded.has_min (measure (·.node)).wf chosen some
  refine ⟨first, isChosen, fun other isOther waits => ?_⟩
  have reached :=
    consistent.dependsOn_of_awaits
      (.single ⟨first, made first isChosen, rfl, waits⟩)
  exact least other isOther (consistent.wellFormed.dependsOn_lt reached)

end Consistent

/-- Every operation that a submission hands over waits for exactly the
outstanding work that a walk from its node meets. No operations of the run,
taken together, wait for each other. -/
theorem waitsExactly_of_submit {before : Scheduler} (reached : before.Reachable)
    (id : NodeId) :
    let after := Action.outcome (submit id) before
    (∀ dispatch ∈ Action.handed (submit id) before,
      after.WaitsExactly dispatch) ∧
    (∀ node, ¬ Relation.TransGen after.Awaits node node) ∧
    ∀ chosen : Set Dispatch, chosen.Nonempty →
      (∀ dispatch ∈ chosen, dispatch ∈ after.dispatches) → ∃ dispatch ∈ chosen,
        ∀ other ∈ chosen, other.node ∉ dispatch.waitsFor := by
  intro after
  have consistent : after.Consistent := (reached.step (.submit id)).consistent
  refine ⟨?_, consistent.not_awaits_self,
    fun _ some made => consistent.exists_waits_for_none some made⟩
  intro dispatch handed
  have submits : Submits id before after _ :=
    submits_submit reached.consistent.wellFormed
  obtain ⟨made, listed⟩ := Listed.of_submits reached.inUse.intact submits
  rw [Action.handed_eq listed.dispatches] at handed
  have isMade : dispatch ∈ after.dispatches := by
    rw [listed.dispatches]
    exact List.mem_append_right _ handed
  exact consistent.waitsExactly isMade (listed.lists dispatch handed)

/-- Two kernels of three were submitted, of which the second comes after a
requirement that was satisfied at once, and this one after the first kernel. -/
def bridged : Scheduler :=
  let kernel (requirements : List NodeId) : Option Node :=
    some (Node.create (.kernel ⟨"kernel", none⟩) requirements (some ⟨.cuda, 0⟩))
  let start := create 128 (.ofList [Backend.recording .host false none,
    Backend.recording .cuda false none]) false
  let graph :=
    (start.graph.addRegion "A" ⟨4, 1, 1⟩ 4).updateRegion 0
      (·.seed .hostDevice 0)
  let guard : Option Node :=
    some (Node.create (.requirement ⟨0, .ofExtent ⟨4, 1, 1⟩, .read⟩) [0]
      (some .hostDevice))
  Action.outcome (submit 2) (Action.outcome (submit 0) { start with graph :=
      { graph with slots := [kernel [], guard, kernel [1], kernel [2, 1]] } })

private theorem reachable_bridged : bridged.Reachable := by
  let kernel : Operation := .kernel ⟨"kernel", none⟩
  have empty :=
    Reachable.create 128 (.ofList
      [Backend.recording .host false none, Backend.recording .cuda false none])
      false
  have buffer := empty.step (.addRegion "A" ⟨4, 1, 1⟩ 4)
  have seeded :=
    buffer.step (.changeRegion 0 (·.seed .hostDevice 0)
      fun region => region.grows_seed .hostDevice 0)
  have first := seeded.step (.addNode kernel [] (some ⟨.cuda, 0⟩) 0 _ rfl)
  have guard :=
    first.step (.addNode (.requirement ⟨0, .ofExtent ⟨4, 1, 1⟩, .read⟩) [0]
      (some .hostDevice) 1 _ rfl)
  have second := guard.step (.addNode kernel [1] (some ⟨.cuda, 0⟩) 2 _ rfl)
  have third := second.step (.addNode kernel [2, 1] (some ⟨.cuda, 0⟩) 3 _ rfl)
  exact (third.step (.submit 0)).step (.submit 2)

/-- The third kernel waits for both others, for the first one through the
satisfied requirement. -/
theorem waitsExactly_bridged :
    (Action.handed (submit 3) bridged).map (·.waitsFor) = [[0, 2]] ∧
      (bridged.graph.node? 1).map (·.isSatisfied) = some true ∧
      ∀ dispatch ∈ Action.handed (submit 3) bridged,
        (Action.outcome (submit 3) bridged).WaitsExactly dispatch :=
  ⟨by decide +kernel, by decide +kernel,
    (waitsExactly_of_submit reachable_bridged 3).1⟩

end Scheduler

end CoherentTasks
