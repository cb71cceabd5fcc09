import CoherentTasks.Completion.Submitted
import CoherentTasks.Proofs.Completion.Leaves

/-!
# Forgetting what is complete

A purge of the register drops nodes without outstanding work. What is
outstanding below the handles that are left is the same as before.
-/

namespace CoherentTasks.Completion

namespace Signals

/-- Those of the signals that have not fired. -/
def outstanding (signals : Signals) (list : List Signal) : List Signal :=
  list.filter (!signals.isFired ·)

variable {signals before after : Signals} {list : List Signal}

theorem outstanding_eq_nil_iff :
    signals.outstanding list = [] ↔
      ∀ signal ∈ list, signals.isFired signal = true := by
  simp only [outstanding, List.filter_eq_nil_iff, Bool.not_eq_true',
    Bool.not_eq_false]

theorem outstanding_append (first second : List Signal) :
    signals.outstanding (first ++ second) =
      signals.outstanding first ++ signals.outstanding second :=
  List.filter_append ..

/-- What is outstanding later was so before. -/
theorem outstanding_later (later : before.Extends after) :
    after.outstanding (before.outstanding list) = after.outstanding list := by
  simp only [outstanding, List.filter_filter]
  apply List.filter_congr
  intro signal _
  cases fired : before.isFired signal with
  | false => simp
  | true => simp [later signal fired]

end Signals

theorem Submission.isPending_of_later {before after : Signals}
    (later : before.Extends after) {submission : Submission}
    (pending : submission.isPending after = true) :
    submission.isPending before = true := by
  simp only [isPending] at *
  cases given : submission.handle with
  | none =>
      rw [given] at pending
      cases pending
  | some handle =>
      rw [given] at pending
      simp only [Bool.not_eq_true', Bool.eq_false_iff] at *
      exact fun complete => pending (Handle.isComplete_mono later complete)

namespace Submitted

variable {signals before after : Signals} {submitted other : Submitted}

/-- What is left later is the same, whether or not there was a purge in
between. -/
theorem purge_later (later : before.Extends after) :
    (submitted.purge before).purge after = submitted.purge after := by
  simp only [purge, List.filter_filter]
  congr 1
  apply List.filter_congr
  intro submission _
  cases pending : submission.isPending after with
  | false => rfl
  | true => simp [Submission.isPending_of_later later pending]

theorem purge_register (same : submitted.purge signals = other.purge signals)
    (node : NodeId) (handle : Option Handle) :
    (submitted.register node handle).purge signals =
      (other.register node handle).purge signals := by
  simp only [purge, register, List.filter_append, Submitted.mk.injEq] at *
  rw [same]

theorem pending_eq_length_purge (submitted : Submitted) :
    submitted.pending signals = (submitted.purge signals).submissions.length :=
  List.countP_eq_length_filter

/-- A purge drops only handles without anything outstanding below them. -/
theorem outstanding_purge (submitted : Submitted) :
    signals.outstanding (Handle.signalsOf (submitted.purge signals).handles) =
      signals.outstanding (Handle.signalsOf submitted.handles) := by
  obtain ⟨submissions⟩ := submitted
  simp only [handles, purge]
  induction submissions with
  | nil => rfl
  | cons submission rest induction =>
      obtain ⟨node, given⟩ := submission
      cases given with
      | none => exact induction
      | some handle =>
          by_cases complete : handle.isComplete signals = true
          · have none :=
              Signals.outstanding_eq_nil_iff.mpr
                (Handle.isComplete_iff handle |>.mp complete)
            rw [List.filter_cons_of_neg
              (by simp [Submission.isPending, complete]), induction]
            simp only [List.filterMap_cons, Handle.signalsOf]
            rw [Signals.outstanding_append, none, List.nil_append]
          · rw [List.filter_cons_of_pos
              (by simpa [Submission.isPending] using complete)]
            simp only [List.filterMap_cons, Handle.signalsOf]
            rw [Signals.outstanding_append,
              Signals.outstanding_append, induction]

end Submitted

end CoherentTasks.Completion
