import CoherentTasks.Journal

/-!
# Simulated time

An operation on a simulated executor starts once everything that it waits for is
complete, and is complete itself after the latency of the executor's device.
Time passes in steps of milliseconds.
-/

namespace CoherentTasks

open CoherentTasks.Completion (Signal Signals)

/-- The time, and when the operations that have been started will be
complete. -/
structure Clock where
  now : Nat
  running : List (Signal × Nat)
  deriving DecidableEq, Repr

namespace Clock

def start : Clock := ⟨0, []⟩

def deadline? (clock : Clock) (signal : Signal) : Option Nat :=
  (clock.running.find? (·.1 == signal)).map (·.2)

/-- Starts a simulated operation if it can start, and completes it if it is
due. -/
def look (state : Clock × Signals) (dispatch : Dispatch) : Clock × Signals :=
  let (clock, signals) := state
  match dispatch.executor with
  | .plugged .. => state
  | .simulated _ latency =>
    if signals.isFired dispatch.signal then state
    else
      match clock.deadline? dispatch.signal with
      | some deadline =>
        if deadline ≤ clock.now
          then (clock, signals.fire dispatch.signal) else state
      | none =>
        if dispatch.dependencies.all (·.handle.isComplete signals) then
          if latency = 0 then (clock, signals.fire dispatch.signal)
          else
            ({ clock with running :=
                (dispatch.signal, clock.now + latency) :: clock.running },
              signals)
        else state

/-- Everything that happens at the present time. Operations wait only for
earlier ones, so one look at each, in the order of their dispatch, is enough. -/
def settle (dispatches : List Dispatch) (state : Clock × Signals) :
    Clock × Signals :=
  dispatches.foldl look state

/-- The next time at which a started operation will be complete. -/
def nextDeadline? (state : Clock × Signals) : Option Nat :=
  ((state.1.running.filter (!state.2.isFired ·.1)).map (·.2)).min?

/-- Lets time pass from deadline to deadline, up to `stop`, for at most the
given number of deadlines. -/
def passDeadlines (dispatches : List Dispatch) (stop : Nat) :
    Nat → Clock × Signals → Clock × Signals
  | 0, state => state
  | count + 1, state =>
    match nextDeadline? state with
    | some deadline =>
      if deadline ≤ stop then
        passDeadlines dispatches stop count
          (settle dispatches ({ state.1 with now := deadline }, state.2))
      else state
    | none => state

/-- Lets everything happen that is due at the present time, then lets
milliseconds pass. Every deadline completes an operation, so there are at most
as many as operations. -/
def pass (clock : Clock) (signals : Signals) (dispatches : List Dispatch)
    (milliseconds : Nat) : Clock × Signals :=
  let stop := clock.now + milliseconds
  let (last, fired) :=
    passDeadlines dispatches stop dispatches.length
      (settle dispatches (clock, signals))
  ({ last with now := stop }, fired)

end Clock

end CoherentTasks
