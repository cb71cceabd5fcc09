/-!
# Completion handles

An executor fires one signal per operation. A handle observes the signal of one
operation, or joins several handles; it is complete once every operation below
it is.
-/

namespace CoherentTasks.Completion

/-- Number of a signal, in the order of creation. -/
abbrev Signal := Nat

/-- Which of the signals created so far have fired. -/
structure Signals where
  fired : List Bool
  deriving DecidableEq, Repr

namespace Signals

def empty : Signals := ⟨[]⟩

def next (signals : Signals) : Signal :=
  signals.fired.length

def create (signals : Signals) : Signals :=
  ⟨signals.fired ++ [false]⟩

def fire (signals : Signals) (signal : Signal) : Signals :=
  ⟨signals.fired.set signal true⟩

def fireAll (signals : Signals) (fired : List Signal) : Signals :=
  fired.foldl fire signals

def isFired (signals : Signals) (signal : Signal) : Bool :=
  signals.fired.getD signal false

end Signals

/-- The observer's side of one or several operations. -/
inductive Handle where
  | single (signal : Signal)
  | joined (members : List Handle)

namespace Handle

/-- Combines handles; one alone is returned as it is. -/
def join : List Handle → Handle
  | [handle] => handle
  | handles => .joined handles

mutual

/-- Whether every operation below the handle is complete. -/
def isComplete (signals : Signals) : Handle → Bool
  | .single signal => signals.isFired signal
  | .joined members => areComplete signals members

def areComplete (signals : Signals) : List Handle → Bool
  | [] => true
  | handle :: rest => isComplete signals handle && areComplete signals rest

end

mutual

/-- Number of single operations below the handle. -/
def operationCount : Handle → Nat
  | .single _ => 1
  | .joined members => operationCounts members

def operationCounts : List Handle → Nat
  | [] => 0
  | handle :: rest => operationCount handle + operationCounts rest

end

mutual

/-- The signals below the handle, from left to right. -/
def signals : Handle → List Signal
  | .single signal => [signal]
  | .joined members => signalsOf members

def signalsOf : List Handle → List Signal
  | [] => []
  | handle :: rest => signals handle ++ signalsOf rest

end

def description (state : Signals) (handle : Handle) : String :=
  "CompletionHandle \x7b operations: " ++ toString handle.operationCount ++
    ", complete: " ++ toString (handle.isComplete state) ++ " \x7d"

end Handle

end CoherentTasks.Completion
