import CoherentTasks.Proofs.Submission.Failure
import CoherentTasks.Proofs.Submission.Marking

/-!
# The register of submitted nodes

A submission that succeeds registers its node, and nothing else writes to the
register. A registered node was submitted, and the handle beside it in the
register is the one in its state.
-/

namespace CoherentTasks

open CoherentTasks.Completion (Submission)
open CoherentTasks.Graph (Node TaskGraph)
open CoherentTasks.Submission

variable {before after : Scheduler} {id : NodeId}

namespace Submission

/-- A node that does not wait is left alone. -/
theorem outcome_submit_of_settled
    (settled : before.graph.state? id ≠ some .unsubmitted) :
    Action.outcome (submit id) before = before := by
  simp only [Action.outcome, submit]
  cases found : before.graph.node? id with
  | none => rfl
  | some node =>
      simp only
      rw [if_neg]
      intro unsubmitted
      exact settled (TaskGraph.state?_of_node? found
        (Node.isUnsubmitted_iff.mp unsubmitted))

/-- The submission of a node that waits, when it succeeds. -/
theorem registered_of_submit_ok (wellFormed : before.graph.WellFormed)
    (waits : before.graph.state? id = some .unsubmitted)
    (done : submit id before = .ok () after) :
    ∃ node, after.graph.node? id = some node ∧ after.graph.Submitted id ∧
      after.submitted = before.submitted.register id node.handle? ∧
        after.failures = before.failures := by
  obtain ⟨first, isFirst, state⟩ := Option.map_eq_some_iff.mp waits
  have newly :=
    submitNew_of_submit_ok isFirst (Node.isUnsubmitted_iff.mpr state) done
  obtain ⟨node, found, registered, failures⟩ := books_of_submitNew_ok newly
  refine ⟨node, found, ?_, registered, failures⟩
  have submits : Submits id before _ _ := submits_submit wellFormed
  rw [Action.outcome_of_ok done, Action.succeeds_of_ok done] at submits
  generalize isSuccess : true = success at submits
  cases submits with
  | idle _ same =>
      rw [← same] at registered
      have counts := congrArg (·.submissions.length) registered
      simp [Completion.Submitted.register] at counts
  | rejects => cases isSuccess
  | resolves states moves submitted => exact submitted
  | launches last device dispatch ready launched asks moves launches finishes =>
      exact submitted_of_state?_eq launches.takesUp.submitted_self
        (finishes.state? id)
  | fails => cases isSuccess

end Submission

namespace Scheduler

/-- A node that was submitted keeps its state. -/
private theorem state?_step (wellFormed : before.graph.WellFormed)
    (step : Step before after) (submitted : before.graph.Submitted id) :
    after.graph.state? id = before.graph.state? id := by
  cases step with
  | addRegion name range elementSize => rfl
  | changeRegion region change grows => rfl
  | addNode operation requirements hint new graph added =>
      exact (TaskGraph.carries_addNode added).states id (.inl submitted)
  | addCopy copy requirements hint new graph added =>
      have asNode := TaskGraph.addNode_of_addCopy added
      exact (TaskGraph.carries_addNode asNode).states id (.inl submitted)
  | submit root =>
      exact (Follows.of_submits (submits_submit wellFormed)).states id
        submitted.not_unsubmitted
  | abort root => exact TaskGraph.state?_abort_of_ne submitted.not_unsubmitted
  | complete fired => rfl

/-- The register names this node as its state has it: without a handle if
nothing had to be done for it, and otherwise with the handle of its work. -/
def Records (graph : TaskGraph) (submission : Submission) : Prop :=
  match submission.handle with
  | none => graph.state? submission.node = some .satisfied
  | some handle =>
    ∃ executor, graph.state? submission.node = some (.submitted handle executor)

theorem Records.submitted {graph : TaskGraph} {submission : Submission}
    (records : Records graph submission) : graph.Submitted submission.node := by
  simp only [Records] at records
  split at records
  · exact .inl records
  · obtain ⟨executor, state⟩ := records
    exact .inr ⟨_, executor, state⟩

theorem Records.of_state? {graph later : TaskGraph} {submission : Submission}
    (records : Records graph submission)
    (same : later.state? submission.node = graph.state? submission.node) :
    Records later submission := by
  simp only [Records]
  rw [same]
  exact records

private theorem records_of_submitted {graph : TaskGraph} {node : Node}
    (found : graph.node? id = some node) (submitted : graph.Submitted id) :
    Records graph ⟨id, node.handle?⟩ := by
  simp only [Records, TaskGraph.state?, Node.handle?]
  rw [found]
  rw [TaskGraph.submitted_iff found] at submitted
  cases state : node.state with
  | unsubmitted => simp [Node.isSubmitted, state] at submitted
  | satisfied => exact congrArg some state
  | submitted handle executor => exact ⟨executor, congrArg some state⟩
  | cancelled => simp [Node.isSubmitted, state] at submitted

/-- Every entry of the register agrees with the state of its node. -/
def Accounted (scheduler : Scheduler) : Prop :=
  ∀ submission ∈ scheduler.submitted.submissions,
    Records scheduler.graph submission

theorem Accounted.keep (accounted : before.Accounted)
    (same : after.submitted = before.submitted)
    (states : ∀ other, before.graph.Submitted other →
      after.graph.state? other = before.graph.state? other) :
    after.Accounted := by
  intro submission member
  rw [same] at member
  have records := accounted submission member
  exact records.of_state? (states _ records.submitted)

theorem Accounted.step (accounted : before.Accounted)
    (wellFormed : before.graph.WellFormed) (step : Step before after) :
    after.Accounted := by
  have states (other : NodeId) (submitted : before.graph.Submitted other) :
      after.graph.state? other = before.graph.state? other :=
    state?_step wellFormed step submitted
  cases step with
  | submit root =>
      by_cases waits : before.graph.state? root = some .unsubmitted
      · cases result : submit root before with
        | error cause after =>
            rw [Action.outcome_of_error result] at states ⊢
            obtain ⟨stopped, _, submitted, _, given⟩ :=
              moves_of_submit_error wellFormed waits result
            refine accounted.keep ?_ states
            rw [given]
            exact submitted
        | ok value after =>
            rw [Action.outcome_of_ok result] at states ⊢
            obtain ⟨node, found, isSubmitted, registered, _⟩ :=
              registered_of_submit_ok wellFormed waits result
            intro submission member
            rw [registered] at member
            rcases List.mem_append.mp member with earlier | isNew
            · have records := accounted submission earlier
              exact records.of_state? (states _ records.submitted)
            · rw [List.mem_singleton.mp isNew]
              exact records_of_submitted found isSubmitted
      · rw [outcome_submit_of_settled waits]
        exact accounted
  | addRegion name range elementSize => exact accounted.keep rfl states
  | changeRegion region change grows => exact accounted.keep rfl states
  | addNode operation requirements hint new graph added =>
      exact accounted.keep rfl states
  | addCopy copy requirements hint new graph added =>
      exact accounted.keep rfl states
  | abort root => exact accounted.keep rfl states
  | complete fired => exact accounted.keep rfl states

theorem Reachable.accounted {scheduler : Scheduler}
    (reached : scheduler.Reachable) : scheduler.Accounted := by
  induction reached with
  | create alignment registry observed =>
      exact fun submission absent => absurd absent List.not_mem_nil
  | step reached step induction =>
      exact induction.step reached.consistent.wellFormed step

end Scheduler

end CoherentTasks
