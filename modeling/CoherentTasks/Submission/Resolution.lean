import CoherentTasks.Submission.Dependency
import CoherentTasks.Submission.Transfer
import CoherentTasks.Scheduler

/-!
# Resolution of requirements

To resolve a requirement is to make its window usable on its device: the nodes
that it requires come first, then memory is allocated if there is none, outdated
parts are fetched unless the access drops them, and the access is marked in the
region. A requirement without transfers needs no work.
-/

namespace CoherentTasks.Submission

open CoherentTasks.Backend (Executor Registry)
open CoherentTasks.Completion (Handle)
open CoherentTasks.Graph (Binding Copy Node Operation Requirement)

/-- What came of resolving a node. -/
inductive Resolution where
  | notARequirement
  | alreadySubmitted
  /-- Nothing had to be fetched. -/
  | satisfied
  /-- This many copies were dispatched. -/
  | transferred (count : Nat)
  deriving DecidableEq, Repr

/-- The executor of an operation: that of the platform on which it insists, or
else of the device's. -/
def selectExecutor (registry : Registry) (device : Device)
    (operation : Operation) : Except Error (Executor × Binding) :=
  if operation.isRequirement then .error .requirementNotExecutable
  else do
    let platform := operation.platform.getD device.platform
    return (← registry.executor platform device, ⟨platform, device⟩)

/-- Allocates the buffer on the device, unless it is there already. -/
def ensureAllocation (id : RegionId) (device : Device) : Action Unit := do
  let region ← Action.getRegion id
  if region.hasAllocation device then pure ()
  else
    match region.allocationSize? with
    | none => throw (.bufferTooLarge region.name region.range)
    | some bytes =>
      match ← Action.requestMemory id device bytes with
      | none => throw (.allocationRefused bytes region.name device)
      | some pointer => Action.changeRegion id (·.addAllocation device pointer)

/-- Binds the requirement of a node to the address of the buffer on the
device. -/
def bindPointer (id : NodeId) (region : RegionId) (device : Device) :
    Action Unit := do
  let pointer := (← Action.getRegion region).pointer? device
  Action.changeNode id ({ · with pointer })

/-- The copies that a requirement needs, each with its executor. A discarding
access needs none. -/
def selectTransfers (requirement : Requirement) (device : Device) :
    Action (List (Copy × Executor × Binding)) := do
  if requirement.mode.discards then pure []
  else
    let region ← Action.getRegion requirement.region
    let copies ←
      Action.ofExcept (planTransfers region device requirement.window)
    let registry := (← get).registry
    copies.mapM fun copy => do
      return (copy,
        ← Action.ofExcept (selectExecutor registry device (.copy copy)))

def dispatchCopies (id : NodeId) (device : Device)
    (dependencies : List Dependency) :
    List (Copy × Executor × Binding) → Action (List Handle)
  | [] => pure []
  | (copy, executor, _) :: rest => do
    let handle ← Action.dispatch id device (.copy copy) executor dependencies
    return handle :: (← dispatchCopies id device dependencies rest)

/-- Dispatches the copies of a requirement. The node waits for all of them and
counts as run by the executor of the first. -/
def submitTransfers (id : NodeId) (device : Device)
    (transfers : List (Copy × Executor × Binding)) : Action Resolution := do
  match transfers with
  | [] =>
    Action.changeNode id ({ · with state := .satisfied })
    return .satisfied
  | (_, _, binding) :: _ =>
    let scheduler ← get
    let dependencies := dependenciesOf scheduler.graph scheduler.signals id
    let handles ← dispatchCopies id device dependencies transfers
    Action.changeNode id
      ({ · with state := .submitted (.join handles) binding })
    return .transferred transfers.length

def markAccess (requirement : Requirement) (device : Device) : Action Unit := do
  let _ ← Action.getRegion requirement.region
  Action.changeRegion requirement.region fun region =>
    if requirement.mode.writes then region.markCurrent device requirement.window
    else region.markValid device requirement.window

/-- Makes the window of a requirement usable, once the nodes that it requires
are submitted. -/
def settle (id : NodeId) (requirement : Requirement) (device : Device) :
    Action Resolution := do
  Action.record (.opened id device)
  ensureAllocation requirement.region device
  bindPointer id requirement.region device
  let transfers ← selectTransfers requirement device
  let resolution ← submitTransfers id device transfers
  markAccess requirement device
  Action.record (.settled id requirement device)
  return resolution

/-- Binds nodes to the devices that they ask for, or else to the given one. -/
def assignDevices (device : Device) : List NodeId → Action Unit
  | [] => pure ()
  | id :: rest => do
    let node ← Action.getNode id
    Action.changeNode id (·.assign (node.hint.getD device))
    assignDevices device rest

/-- Resolves the requirements among the nodes that `dependent` requires. The
others must have been submitted. -/
def settleRequired (resolve : NodeId → Action Resolution) (dependent : NodeId) :
    List NodeId → Action Unit
  | [] => pure ()
  | id :: rest => do
    let node ← Action.getNode id
    if node.operation.isRequirement then
      let _ ← resolve id
    else if node.isCancelled then
      throw (.cancelledPredecessor id dependent)
    else if !node.isSubmitted then
      throw (.unsubmittedPredecessor id dependent)
    settleRequired resolve dependent rest

/-- Binds everything that a node requires, then resolves it. -/
def prepareWith (resolve : NodeId → Action Resolution) (id : NodeId)
    (device : Device) : Action Unit := do
  let required := (← get).graph.requirementsOf id
  assignDevices device required
  settleRequired resolve id required

/-- Resolves a node, given how to resolve those that it requires. -/
def resolveWith (resolve : NodeId → Action Resolution) (id : NodeId) :
    Action Resolution := do
  let node ← Action.getNode id
  match node.operation with
  | .requirement requirement =>
    if node.isSubmitted then return .alreadySubmitted
    else if node.isCancelled then throw (.cancelledRequirement id)
    else
      match node.device.or node.hint with
      | none => throw (.unboundRequirement id)
      | some device =>
        Action.changeNode id (·.assign device)
        prepareWith resolve id device
        settle id requirement device
  | _ => return .notARequirement

/-- Resolves a node whose chains of required nodes are shorter than the
depth. -/
def resolveWithin : Nat → NodeId → Action Resolution
  | 0, id => throw (.nodeNotFound id)
  | depth + 1, id => resolveWith (resolveWithin depth) id

/-- Resolves a node. Required nodes have smaller numbers, so the number of the
node bounds the length of the chains. A node that was submitted before is left
alone. -/
def resolve (id : NodeId) : Action Resolution :=
  resolveWithin (id + 1) id

/-- Binds everything that a node requires, then resolves it. -/
def prepare (id : NodeId) (device : Device) : Action Unit :=
  prepareWith resolve id device

end CoherentTasks.Submission
