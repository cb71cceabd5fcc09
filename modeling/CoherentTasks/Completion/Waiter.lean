import CoherentTasks.Completion.Handle

/-!
# Waiters

A waiter remembers the signals below the handles that it waits for and works
them off from left to right, as far as they have fired, whenever it is polled.
-/

namespace CoherentTasks.Completion

/-- The signals that a waiter has still to see. -/
structure Waiter where
  remaining : List Signal
  deriving DecidableEq, Repr

namespace Waiter

def ofHandles (handles : List Handle) : Waiter :=
  ⟨Handle.signalsOf handles⟩

/-- Looks at the signals, up to the first one that has not fired. -/
def poll (signals : Signals) (waiter : Waiter) : Waiter :=
  ⟨waiter.remaining.dropWhile signals.isFired⟩

def isReady (waiter : Waiter) : Bool :=
  waiter.remaining.isEmpty

end Waiter

end CoherentTasks.Completion
