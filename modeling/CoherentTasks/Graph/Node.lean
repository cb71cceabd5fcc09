import CoherentTasks.Completion.Handle
import CoherentTasks.Graph.Operation

/-!
# Nodes

A node of a task graph and its way from creation to completion. It is submitted
at most once; work that was handed to an executor is never taken back.
-/

namespace CoherentTasks.Graph

open CoherentTasks.Completion (Handle Signals)

/-- The platform that ran an operation, and the device to which its node is
bound. -/
structure Binding where
  platform : Platform
  device : Device
  deriving DecidableEq, Repr

/-- How far a node has come. Completion is read off the handle of a submitted
node. -/
inductive State where
  | unsubmitted
  /-- Nothing had to be done for the node. -/
  | satisfied
  /-- The node's work was handed to an executor. -/
  | submitted (handle : Handle) (executor : Binding)
  | cancelled

inductive Status where
  | unsubmitted
  | satisfied
  | submitted
  | complete
  | cancelled
  deriving DecidableEq, Repr

def Status.name : Status → String
  | .unsubmitted => "unsubmitted"
  | .satisfied => "virtual"
  | .submitted => "submitted"
  | .complete => "complete"
  | .cancelled => "cancelled"

/-- A node: what it does, which nodes come before it, where it is to run, and
what became of it. -/
structure Node where
  operation : Operation
  requirements : List NodeId
  /-- The device that the creator of the node asked for. -/
  hint : Option Device
  /-- The device to which the node was bound. -/
  device : Option Device
  /-- The address of the buffer that a requirement was bound to. -/
  pointer : Option Pointer
  state : State

namespace Node

def create (operation : Operation) (requirements : List NodeId)
    (hint : Option Device) : Node :=
  ⟨operation, requirements, hint, none, none, .unsubmitted⟩

def isUnsubmitted (node : Node) : Bool :=
  match node.state with
  | .unsubmitted => true
  | _ => false

def isSatisfied (node : Node) : Bool :=
  match node.state with
  | .satisfied => true
  | _ => false

def isSubmitted (node : Node) : Bool :=
  match node.state with
  | .satisfied | .submitted .. => true
  | _ => false

def isCancelled (node : Node) : Bool :=
  match node.state with
  | .cancelled => true
  | _ => false

def handle? (node : Node) : Option Handle :=
  match node.state with
  | .submitted handle _ => some handle
  | _ => none

def executor? (node : Node) : Option Binding :=
  match node.state with
  | .submitted _ executor => some executor
  | _ => none

/-- Whether the node was submitted and no work is outstanding. -/
def isComplete (signals : Signals) (node : Node) : Bool :=
  match node.state with
  | .satisfied => true
  | .submitted handle _ => handle.isComplete signals
  | _ => false

/-- Whether nothing more will happen to the node. -/
def isRetired (signals : Signals) (node : Node) : Bool :=
  node.isComplete signals || node.isCancelled

def status (signals : Signals) (node : Node) : Status :=
  match node.state with
  | .unsubmitted => .unsubmitted
  | .satisfied => .satisfied
  | .submitted handle _ =>
    if handle.isComplete signals then .complete else .submitted
  | .cancelled => .cancelled

/-- Binds the node to a device, unless it is bound already. -/
def assign (node : Node) (device : Device) : Node :=
  { node with device := some (node.device.getD device) }

/-- Cancels the node, unless it was submitted. -/
def cancel (node : Node) : Node :=
  match node.state with
  | .unsubmitted => { node with state := .cancelled }
  | _ => node

end Node

end CoherentTasks.Graph
