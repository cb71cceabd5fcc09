import CoherentTasks.Proofs.Scenario.Progress
import CoherentTasks.Proofs.Submission.Obstacle
import CoherentTasks.Proofs.Submission.Registration

/-!
# What becomes of kernels and copies

A submission decides about one kernel or copy and leaves the others as they are.
The node is launched, or it is cancelled: an abort reaches further only through
nodes that wait, and when everything that comes before the node was submitted or
cancelled, there are none among the kernels and copies.
-/

namespace CoherentTasks.Scenario

open CoherentTasks.Backend (Registry)
open CoherentTasks.Graph (TaskGraph)
open CoherentTasks.Submission

variable {graph : TaskGraph} {root bound id : NodeId} {before after : Scheduler}

/-- Moves take up requirements only. -/
private theorem state?_of_explicit (moves : Moves root bound before after)
    (explicit : Explicit before.graph id) :
    after.graph.state? id = before.graph.state? id := by
  induction moves with
  | refl => rfl
  | tail earlier move induction =>
      rcases move.still_or_settles
        with ⟨still, _⟩ | ⟨other, _, _, _, _, _, _, settles⟩
      · exact (still.states id).trans induction
      · have different : id ≠ other := by
          intro same
          subst same
          have states : StatesRequirement _ id :=
            ⟨_, _, settles.found, settles.states⟩
          exact (explicit.of_sameNodes
            (Moves.sameNodes earlier)).not_statesRequirement states
        exact (settles.takesUp.others id different).trans induction

/-- Nothing before the node waits for its submission any more, apart from
requirements. -/
def Ready (graph : TaskGraph) (root : NodeId) (scheduler : Scheduler) : Prop :=
  ∀ other, Explicit graph other → graph.DependsOn root other →
    scheduler.graph.state? other ≠ some .unsubmitted

/-- A kernel or copy that is submitted is launched. -/
theorem launched_of_submit_ok (orderly : Orderly graph before)
    (explicit : Explicit graph root)
    (waits : before.graph.state? root = some .unsubmitted)
    (done : submit root before = .ok () after) :
    (∃ handle executor,
      after.graph.state? root = some (.submitted handle executor)) ∧
    (∀ other, Explicit graph other → other ≠ root →
      after.graph.state? other = before.graph.state? other) ∧
    after.failures = before.failures := by
  have wellFormed := orderly.consistent.wellFormed
  obtain ⟨_, _, submitted, _, failures⟩ :=
    registered_of_submit_ok wellFormed waits done
  have submits : Submits root before _ _ := submits_submit wellFormed
  rw [Action.outcome_of_ok done, Action.succeeds_of_ok done] at submits
  generalize isSuccess : true = success at submits
  cases submits with
  | idle _ same => exact absurd waits (same ▸ submitted.not_unsubmitted)
  | rejects => cases isSuccess
  | resolves states =>
      exact absurd (states.of_sameNodes orderly.sameNodes.symm)
        explicit.not_statesRequirement
  | launches node device dispatch ready launched asks moves launches finishes =>
      have takes := launches.takesUp
      obtain ⟨executor, state⟩ := takes.state
      refine ⟨⟨_, executor, (finishes.state? root).trans state⟩, ?_, failures⟩
      intro other isExplicit different
      have unmoved :=
        state?_of_explicit moves (isExplicit.of_sameNodes orderly.sameNodes)
      exact ((finishes.state? other).trans (takes.others other different)).trans
        unmoved
  | fails => cases isSuccess

section Failure

variable {cause : Error}

/-- When a node that waits stops a kernel or copy, it comes before it. -/
private theorem dependsOn_of_directs {scheduler : Scheduler}
    (staged : Staged scheduler.graph) (explicit : Explicit scheduler.graph root)
    {dependent required : NodeId}
    (directs : Directs scheduler.graph root dependent)
    (inTurn : InTurn scheduler.graph root dependent)
    (edge : scheduler.graph.Requires dependent required) :
    scheduler.graph.DependsOn root required := by
  rcases directs with rfl | states
  · exact .single edge
  · obtain ⟨own, _⟩ := staged.own_requirement explicit states inTurn
    exact .head own (.single edge)

private theorem explicit_of_not_statesRequirement {node : Graph.Node}
    (found : graph.node? id = some node)
    (stated : ¬ StatesRequirement graph id) : Explicit graph id :=
  ⟨node, found,
    Bool.eq_false_iff.mpr ((statesRequirement_iff found).not.mp stated)⟩

/-- A node that is ready is not stopped by one that waits. -/
theorem Ready.ne_unsubmittedPredecessor (ready : Ready graph root before)
    (staged : Staged graph) (same : graph.SameNodes before.graph)
    (explicit : Explicit graph root) (moves : Moves root bound before after)
    (obstacle : Obstacle root cause after) (predecessor dependent : NodeId) :
    cause ≠ .unsubmittedPredecessor predecessor dependent := by
  intro stopped
  subst stopped
  cases obstacle with
  | unsubmittedPredecessor required asking equal directs inTurn edge
      stated waits =>
      have sameNow := same.trans (Moves.sameNodes moves)
      have reached := dependsOn_of_directs (staged.of_sameNodes sameNow)
        (explicit.of_sameNodes sameNow) directs inTurn edge
      obtain ⟨node, found, _⟩ := Option.map_eq_some_iff.mp waits
      have isExplicit := explicit_of_not_statesRequirement found stated
      apply ready required (isExplicit.of_sameNodes sameNow.symm)
      · rw [sameNow.dependsOn]
        exact reached
      · exact unsubmitted_of_moves moves waits
  | allocation _ _ _ _ _ _ failed =>
      obtain ⟨kind, _⟩ := Registry.allocate_error failed
      cases kind
  | transfer _ _ _ _ _ _ _ _ _ _ failed =>
      obtain ⟨kind, _⟩ := selectExecutor_error rfl failed
      cases kind
  | launch _ _ _ isExplicit _ failed =>
      obtain ⟨kind, _⟩ := selectExecutor_error isExplicit failed
      cases kind
  | _ => contradiction

/-- A kernel or copy that fails is cancelled, and no other if it was ready. -/
theorem cancelled_of_submit_error (orderly : Orderly graph before)
    (staged : Staged graph) (explicit : Explicit graph root)
    (ready : Ready graph root before)
    (waits : before.graph.state? root = some .unsubmitted)
    (failed : submit root before = .error cause after) :
    after.graph.state? root = some .cancelled ∧ (∀ other, Explicit graph other →
      other ≠ root → after.graph.state? other = before.graph.state? other) ∧
    (∀ predecessor dependent,
      cause ≠ .unsubmittedPredecessor predecessor dependent) ∧
    after.failures = before.failures.map (· ++ [⟨root, cause⟩]) := by
  obtain ⟨stopped, moves, obstacle, given, failures⟩ :=
    obstacle_of_submit_error orderly.consistent.wellFormed waits failed
  have sameNow := orderly.sameNodes.trans (Moves.sameNodes moves)
  have stillWaits : stopped.graph.state? root = some .unsubmitted :=
    (Moves.state?_of_le moves (Nat.le_refl root)).trans waits
  refine ⟨?_, ?_, ready.ne_unsubmittedPredecessor staged orderly.sameNodes
    explicit moves obstacle, failures⟩
  · rw [given]
    exact TaskGraph.state?_abort_root_of_eq stillWaits
  · intro other isExplicit different
    have unmoved :=
      state?_of_explicit moves (isExplicit.of_sameNodes orderly.sameNodes)
    have kept : after.graph.state? other = stopped.graph.state? other ∨
        (stopped.graph.state? other = some .unsubmitted ∧
          after.graph.state? other = some .cancelled) := by
      rw [given]
      exact TaskGraph.state?_abort other
    rcases kept with same | ⟨waited, cancelled⟩
    · exact same.trans unmoved
    · rw [given] at cancelled
      have member :
          other ∈
            (stopped.graph.restore before.graph.snapshot).cancellations root :=
        TaskGraph.mem_cancellations_of_abort waited cancelled
      rcases (TaskGraph.mem_cancellations_iff.mp member).2 with met | isRoot
      · have reached : stopped.graph.DependsOn root other := met.dependsOn
        rw [← sameNow.dependsOn] at reached
        exact absurd (unmoved.symm.trans waited)
          (ready other isExplicit reached)
      · exact absurd isRoot different

end Failure

end CoherentTasks.Scenario
