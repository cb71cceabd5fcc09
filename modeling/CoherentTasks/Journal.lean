import CoherentTasks.Backend.Basic
import CoherentTasks.Graph.Operation
import CoherentTasks.Completion.Handle

/-!
# Journals

What the scheduler did, step by step: which requirements it took up and settled,
which memory it asked for, and which operations it handed to executors.
-/

namespace CoherentTasks

open CoherentTasks.Backend (Executor)
open CoherentTasks.Completion (Handle Signal)
open CoherentTasks.Graph (Operation Requirement)

/-- A node that an operation has to wait for. -/
structure Dependency where
  node : NodeId
  handle : Handle

/-- An operation handed to an executor. A copy that was generated for a
requirement belongs to the node of the requirement. -/
structure Dispatch where
  node : NodeId
  device : Device
  operation : Operation
  executor : Executor
  dependencies : List Dependency
  signal : Signal

def Dispatch.waitsFor (dispatch : Dispatch) : List NodeId :=
  dispatch.dependencies.map (·.node)

/-- One step of the scheduler. -/
inductive Event where
  /-- The work for a requirement begins. -/
  | opened (node : NodeId) (device : Device)
  /-- Memory was requested for a copy of a region. -/
  | requested (region : RegionId) (device : Device) (granted : Option Pointer)
  /-- An operation was handed to an executor. -/
  | dispatched (dispatch : Dispatch)
  /-- The window of a requirement is usable, and the access is marked in its
  region. -/
  | settled (node : NodeId) (requirement : Requirement) (device : Device)

def Event.dispatch? : Event → Option Dispatch
  | .dispatched dispatch => some dispatch
  | _ => none

abbrev Journal := List Event

def Journal.dispatches (journal : Journal) : List Dispatch :=
  journal.filterMap Event.dispatch?

end CoherentTasks
