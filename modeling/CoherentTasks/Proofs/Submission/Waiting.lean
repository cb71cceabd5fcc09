import CoherentTasks.Proofs.Submission.Ordering
import CoherentTasks.Proofs.Submission.Registration
import Mathlib.Data.List.Nodup

/-!
# What the register waits for

Once nothing in the register is pending, the work of the registered nodes is
complete, and so is that of every node on which one with work depends. There may
be more: copies that were handed over for a submission that failed, or for a
node that in the end had no work of its own. They are waited for only if another
node that depends on them was registered with a handle.
-/

namespace CoherentTasks.Scheduler

open CoherentTasks.Completion (Handle Signal Signals Submission)
open CoherentTasks.Graph (TaskGraph)
open CoherentTasks.Submission

variable {scheduler : Scheduler}

/-- The node, or one that depends on it, was registered with a handle. -/
def Covered (scheduler : Scheduler) (id : NodeId) : Prop :=
  ∃ submission ∈ scheduler.submitted.submissions,
    submission.handle.isSome = true ∧
    (submission.node = id ∨ scheduler.graph.DependsOn submission.node id)

/-- Nothing in the register is outstanding. -/
def Drained (scheduler : Scheduler) : Prop :=
  scheduler.submitted.pending scheduler.signals = 0

/-- At a later moment, when these signals have fired. -/
def afterFiring (scheduler : Scheduler) (fired : List Signal) : Scheduler :=
  { scheduler with signals := scheduler.signals.fireAll fired }

/-- Waiting until nothing in the register is pending is enough for an operation:
whatever completes until then, in an order that executors keep to, the operation
does. -/
def WaitedFor (scheduler : Scheduler) (dispatch : Dispatch) : Prop :=
  ∀ fired, (scheduler.afterFiring fired).Disciplined →
    (scheduler.afterFiring fired).Drained →
    (scheduler.afterFiring fired).signals.isFired dispatch.signal = true

private theorem drained_iff :
    scheduler.Drained ↔ ∀ submission ∈ scheduler.submitted.submissions,
      ∀ handle, submission.handle = some handle →
        handle.isComplete scheduler.signals = true := by
  simp only [Drained, Completion.Submitted.pending]
  rw [List.countP_eq_zero]
  refine forall₂_congr fun submission member => ?_
  simp only [Completion.Submission.isPending]
  cases submission.handle with
  | none => simp
  | some handle => simp

theorem Covered.required {id required : NodeId} (covered : scheduler.Covered id)
    (reached : scheduler.graph.DependsOn id required) :
    scheduler.Covered required := by
  obtain ⟨submission, member, worked, place⟩ := covered
  refine ⟨submission, member, worked, .inr ?_⟩
  rcases place with rfl | further
  · exact reached
  · exact further.trans reached

namespace Consistent

/-- Two operations do not share a signal. -/
private theorem eq_of_signal_eq (consistent : scheduler.Consistent)
    {first second : Dispatch} (isFirst : first ∈ scheduler.dispatches)
    (isSecond : second ∈ scheduler.dispatches)
    (same : first.signal = second.signal) : first = second := by
  have distinct : (scheduler.dispatches.map (·.signal)).Nodup := by
    rw [consistent.numbered]
    exact List.nodup_range
  exact List.inj_on_of_nodup_map distinct isFirst isSecond same

/-- An operation of a node with complete work is complete. -/
private theorem fired_of_complete (consistent : scheduler.Consistent)
    {dispatch : Dispatch} (made : dispatch ∈ scheduler.dispatches)
    {handle : Handle} {executor : Graph.Binding}
    (state :
      scheduler.graph.state? dispatch.node = some (.submitted handle executor))
    (complete : handle.isComplete scheduler.signals = true) :
    scheduler.signals.isFired dispatch.signal = true := by
  obtain ⟨own, place, ownState, member⟩ := consistent.owned dispatch made
  rw [state] at ownState
  cases ownState
  exact (Handle.isComplete_iff handle).mp complete dispatch.signal member

/-- When nothing in the register is outstanding, all covered work is
complete. -/
private theorem fired_of_covered (consistent : scheduler.Consistent)
    (accounted : scheduler.Accounted) (disciplined : scheduler.Disciplined)
    (drained : scheduler.Drained) {dispatch : Dispatch}
    (made : dispatch ∈ scheduler.dispatches)
    (covered : scheduler.Covered dispatch.node) :
    scheduler.signals.isFired dispatch.signal = true := by
  obtain ⟨submission, member, worked, place⟩ := covered
  obtain ⟨handle, registered⟩ := Option.isSome_iff_exists.mp worked
  have complete := drained_iff.mp drained submission member handle registered
  have records := accounted submission member
  simp only [Records] at records
  rw [registered] at records
  obtain ⟨executor, state⟩ := records
  rcases place with same | reached
  · rw [same] at state
    exact consistent.fired_of_complete made state complete
  · obtain ⟨own, place, ownState, _⟩ := consistent.owned dispatch made
    apply consistent.fired_of_complete made ownState
    by_contra pending
    exact consistent.complete_of_complete disciplined state complete reached
      ⟨own, place, ownState, Bool.eq_false_iff.mpr pending⟩

end Consistent

section Least

open Classical in
/-- The signals of the operations that are covered. -/
noncomputable def coveredSignals (scheduler : Scheduler) : List Signal :=
  (scheduler.dispatches.filter
    fun dispatch => scheduler.Covered dispatch.node).map (·.signal)

private theorem mem_coveredSignals_iff {signal : Signal} :
    signal ∈ scheduler.coveredSignals ↔ ∃ dispatch ∈ scheduler.dispatches,
      scheduler.Covered dispatch.node ∧ dispatch.signal = signal := by
  simp only [coveredSignals]
  rw [List.mem_map]
  simp only [List.mem_filter, decide_eq_true_iff, and_assoc]

variable (consistent : scheduler.Consistent)

include consistent

private theorem isFired_afterCovered_iff {dispatch : Dispatch}
    (made : dispatch ∈ scheduler.dispatches) :
    (scheduler.afterFiring scheduler.coveredSignals).signals.isFired
          dispatch.signal = true ↔
      scheduler.signals.isFired dispatch.signal = true ∨
      scheduler.Covered dispatch.node := by
  simp only [afterFiring]
  rw [Signals.isFired_fireAll_iff, mem_coveredSignals_iff]
  refine or_congr_right ⟨fun fired => ?_, fun covered => ?_⟩
  · obtain ⟨⟨other, isMade, covered, same⟩, _⟩ := fired
    exact consistent.eq_of_signal_eq isMade made same ▸ covered
  · exact ⟨⟨dispatch, made, covered, rfl⟩, consistent.signal_lt made⟩

/-- The handle of a covered node is complete then. -/
private theorem complete_afterCovered {id : NodeId} {handle : Handle}
    {executor : Graph.Binding}
    (state : scheduler.graph.state? id = some (.submitted handle executor))
    (covered : scheduler.Covered id) :
    handle.isComplete (scheduler.afterFiring scheduler.coveredSignals).signals =
      true := by
  rw [Handle.isComplete_iff]
  intro signal member
  obtain ⟨dispatch, made, rfl, rfl⟩ :=
    (consistent.backed id handle executor state).2 signal member
  exact (isFired_afterCovered_iff consistent made).mpr (.inr covered)

private theorem disciplined_afterCovered (disciplined : scheduler.Disciplined) :
    (scheduler.afterFiring scheduler.coveredSignals).Disciplined := by
  intro dispatch made fired dependency member
  have isMade : dispatch ∈ scheduler.dispatches := made
  rcases (isFired_afterCovered_iff consistent isMade).mp fired
    with already | covered
  · exact Handle.isComplete_mono (Signals.extends_fireAll _ _)
      (disciplined dispatch isMade already dependency member)
  · obtain ⟨reached, executor, state⟩ :=
      consistent.truthful dispatch isMade dependency member
    exact complete_afterCovered consistent state (covered.required reached)

private theorem drained_afterCovered (accounted : scheduler.Accounted) :
    (scheduler.afterFiring scheduler.coveredSignals).Drained := by
  rw [drained_iff]
  intro submission member handle registered
  have isMember : submission ∈ scheduler.submitted.submissions := member
  have records := accounted submission isMember
  simp only [Records] at records
  rw [registered] at records
  obtain ⟨executor, state⟩ := records
  apply complete_afterCovered consistent state
  exact ⟨submission, isMember,
    Option.isSome_iff_exists.mpr ⟨handle, registered⟩, .inl rfl⟩

end Least

/-- Waiting until nothing in the register is pending is enough for an operation
exactly if it is complete already, or if its node or one that depends on it was
registered with a handle. -/
theorem waitedFor_iff (reached : scheduler.Reachable)
    (disciplined : scheduler.Disciplined) {dispatch : Dispatch}
    (made : dispatch ∈ scheduler.dispatches) :
    scheduler.WaitedFor dispatch ↔
      scheduler.signals.isFired dispatch.signal = true ∨
      scheduler.Covered dispatch.node := by
  have consistent := reached.consistent
  constructor
  · intro waited
    apply (isFired_afterCovered_iff consistent made).mp
    exact waited scheduler.coveredSignals
      (disciplined_afterCovered consistent disciplined)
      (drained_afterCovered consistent reached.accounted)
  · intro given fired laterDisciplined drained
    have later := reached.step (.complete fired)
    rcases given with already | covered
    · exact Signals.extends_fireAll _ fired dispatch.signal already
    · exact later.consistent.fired_of_covered later.accounted laterDisciplined
        drained made covered

/-- The copy that is handed over for the requirement that two kernels share. -/
def sharedCopy : Dispatch :=
  ⟨0, ⟨.cuda, 0⟩,
    .copy ⟨⟨.hostDevice, ⟨0, 0, 0⟩, 0⟩, ⟨⟨.cuda, 0⟩, ⟨0, 0, 0⟩, 0⟩, ⟨4, 1, 1⟩⟩,
    .recording .cuda false, [], 0⟩

/-- If the kernel is submitted for which it was handed over, the copy is waited
for together with it. -/
theorem waitedFor_sharedCopy :
    (Action.outcome (submit 3) sharing).WaitedFor sharedCopy := by
  let finished := Action.outcome (submit 3) sharing
  have made : sharedCopy ∈ finished.dispatches :=
    List.mem_of_getElem? (i := 0) rfl
  have disciplined : finished.Disciplined := by
    simp only [Disciplined]
    decide +kernel
  have registered :
      (⟨3, some (.single 1)⟩ : Submission) ∈ finished.submitted.submissions :=
    List.mem_of_getElem? (i := 0) rfl
  have edge : finished.graph.Requires 3 0 := by
    simp only [TaskGraph.Requires]
    decide +kernel
  have covered : finished.Covered sharedCopy.node :=
    ⟨_, registered, rfl, .inr (.single edge)⟩
  exact (waitedFor_iff (reachable_sharing.step (.submit 3))
    disciplined made).mpr
    (.inr covered)

/-- Nothing in the register being pending does not mean that everything is
complete: the copy that was handed over for a submission that failed is not in
the register. -/
theorem not_always_all_complete :
    ¬ ∀ scheduler : Scheduler, scheduler.Reachable → scheduler.Disciplined →
      scheduler.Drained → ∀ dispatch ∈ scheduler.dispatches,
        scheduler.signals.isFired dispatch.signal = true := by
  intro always
  have made : sharedCopy ∈ sharingAfterFailure.dispatches :=
    List.mem_of_getElem? (i := 0) rfl
  have disciplined : sharingAfterFailure.Disciplined := by
    simp only [Disciplined]
    decide +kernel
  have drained : sharingAfterFailure.Drained := by
    simp only [Drained]
    decide +kernel
  have complete :=
    always sharingAfterFailure (reachable_sharing.step (.submit 2)) disciplined
      drained sharedCopy made
  have outstanding :
      sharingAfterFailure.signals.isFired sharedCopy.signal = false := by
    decide +kernel
  rw [outstanding] at complete
  cases complete

end CoherentTasks.Scheduler
