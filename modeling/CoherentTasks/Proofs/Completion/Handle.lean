import CoherentTasks.Completion.Handle
import Mathlib.Order.Basic

/-!
# Completion of handles

A handle is complete exactly when every signal below it has fired. A signal that
has fired stays so, and new signals do not change what is known about the
earlier ones.
-/

namespace CoherentTasks.Completion

namespace Signals

private theorem isFired_iff {signals : Signals} {signal : Signal} :
    signals.isFired signal = true ↔ signals.fired[signal]? = some true := by
  simp only [isFired]
  rw [List.getD_eq_getElem?_getD]
  cases signals.fired[signal]? <;> simp

private theorem lt_next_of_isFired {signals : Signals} {signal : Signal}
    (fired : signals.isFired signal = true) : signal < signals.next :=
  (List.getElem?_eq_some_iff.mp (isFired_iff.mp fired)).1

/-- Everything that had fired before has fired after. -/
def Extends (before after : Signals) : Prop :=
  ∀ signal, before.isFired signal = true → after.isFired signal = true

theorem Extends.refl (signals : Signals) : signals.Extends signals :=
  fun _ fired => fired

theorem Extends.trans {first second third : Signals}
    (start : first.Extends second) (rest : second.Extends third) :
    first.Extends third :=
  fun signal fired => rest signal (start signal fired)

theorem isFired_append {signals : Signals} (flags : List Bool) {signal : Signal}
    (old : signal < signals.next) :
    (Signals.mk (signals.fired ++ flags)).isFired signal =
      signals.isFired signal := by
  simp only [isFired]
  rw [List.getD_eq_getElem?_getD, List.getD_eq_getElem?_getD,
    List.getElem?_append_left old]

theorem extends_append (signals : Signals) (flags : List Bool) :
    signals.Extends ⟨signals.fired ++ flags⟩ := by
  intro signal fired
  rw [isFired_append flags (lt_next_of_isFired fired)]
  exact fired

theorem extends_fire (signals : Signals) (signal : Signal) :
    signals.Extends (signals.fire signal) := by
  intro other fired
  rw [isFired_iff] at fired ⊢
  have bound := (List.getElem?_eq_some_iff.mp fired).1
  simp only [fire]
  by_cases same : signal = other
  · subst same
    simp [bound]
  · rw [List.getElem?_set_ne same]
    exact fired

private theorem next_fire (signals : Signals) (signal : Signal) :
    (signals.fire signal).next = signals.next :=
  List.length_set

theorem extends_fireAll (signals : Signals) (fired : List Signal) :
    signals.Extends (signals.fireAll fired) := by
  simp only [fireAll]
  induction fired generalizing signals with
  | nil => exact .refl signals
  | cons signal rest induction =>
      exact (extends_fire signals signal).trans (induction _)

theorem next_fireAll (signals : Signals) (fired : List Signal) :
    (signals.fireAll fired).next = signals.next := by
  simp only [fireAll]
  induction fired generalizing signals with
  | nil => rfl
  | cons signal rest induction =>
      rw [List.foldl_cons, induction, next_fire]

private theorem isFired_fire_iff {signals : Signals} {signal other : Signal} :
    (signals.fire signal).isFired other = true ↔ signals.isFired other = true ∨
      (other = signal ∧ other < signals.next) := by
  simp only [isFired_iff, fire, next]
  by_cases same : other = signal
  · subst same
    rw [List.getElem?_set_self']
    cases found : signals.fired[other]? with
    | none => simpa using List.getElem?_eq_none_iff.mp found
    | some flag => simp [(List.getElem?_eq_some_iff.mp found).1]
  · rw [List.getElem?_set_ne (Ne.symm same)]
    simp [same]

theorem isFired_fireAll_iff {signals : Signals} {fired : List Signal}
    {signal : Signal} :
    (signals.fireAll fired).isFired signal = true ↔
      signals.isFired signal = true ∨
      (signal ∈ fired ∧ signal < signals.next) := by
  simp only [fireAll]
  induction fired generalizing signals with
  | nil => simp
  | cons first rest induction =>
      rw [List.foldl_cons, induction, isFired_fire_iff, next_fire,
        List.mem_cons, or_and_right, or_assoc]

/-- The signals that were created before a given one. -/
def upTo (signals : Signals) (signal : Signal) : Signals :=
  ⟨signals.fired.take signal⟩

theorem isFired_upTo {signals : Signals} {moment signal : Signal}
    (earlier : signal < moment) :
    (signals.upTo moment).isFired signal = signals.isFired signal := by
  simp only [isFired, upTo]
  rw [List.getD_eq_getElem?_getD, List.getD_eq_getElem?_getD,
    List.getElem?_take_of_lt earlier]

end Signals

namespace Handle

variable {state : Signals}

mutual

theorem isComplete_iff :
    ∀ handle : Handle, handle.isComplete state = true ↔
      ∀ signal ∈ handle.signals, state.isFired signal = true
  | .single signal => by simp [isComplete, signals]
  | .joined members => by
      rw [isComplete, signals]
      exact areComplete_iff members

theorem areComplete_iff :
    ∀ handles : List Handle, areComplete state handles = true ↔
      ∀ signal ∈ signalsOf handles, state.isFired signal = true
  | [] => by simp [areComplete, signalsOf]
  | handle :: rest => by
      rw [areComplete, signalsOf, Bool.and_eq_true, isComplete_iff handle,
        areComplete_iff rest, List.forall_mem_append]

end

theorem isComplete_mono {before after : Signals} (later : before.Extends after)
    {handle : Handle} (complete : handle.isComplete before = true) :
    handle.isComplete after = true := by
  rw [isComplete_iff] at complete ⊢
  exact fun signal member => later signal (complete signal member)

/-- New signals do not matter to an earlier handle. -/
theorem isComplete_append {flags : List Bool} {handle : Handle}
    (created : ∀ signal ∈ handle.signals, signal < state.next) :
    handle.isComplete ⟨state.fired ++ flags⟩ = handle.isComplete state := by
  rw [Bool.eq_iff_iff, isComplete_iff, isComplete_iff]
  refine forall₂_congr fun signal member => ?_
  rw [Signals.isFired_append flags (created signal member)]

theorem signals_join (handles : List Handle) :
    (join handles).signals = signalsOf handles := by
  match handles with
  | [] => rfl
  | [handle] => simp [join, signalsOf]
  | first :: second :: rest => rfl

theorem signalsOf_single (created : List Signal) :
    signalsOf (created.map .single) = created := by
  induction created with
  | nil => rfl
  | cons signal rest induction => simp [signalsOf, signals, induction]

end Handle

end CoherentTasks.Completion
