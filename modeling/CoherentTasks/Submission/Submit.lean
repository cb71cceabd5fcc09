import CoherentTasks.Submission.Resolution

/-!
# Submission

A node is submitted together with the requirements that lead to it, or not at
all: when something fails, what the submission marked as valid is taken back,
and everything that still had to be submitted for the node is cancelled.
Operations dispatched before the failure keep running.
-/

namespace CoherentTasks.Submission

open CoherentTasks.Graph (Copy Node Operation)

def launch (id : NodeId) (operation : Operation) (device : Device) :
    Action Unit := do
  let scheduler ← get
  let (executor, binding) ←
    Action.ofExcept (selectExecutor scheduler.registry device operation)
  let dependencies := dependenciesOf scheduler.graph scheduler.signals id
  let handle ← Action.dispatch id device operation executor dependencies
  Action.changeNode id ({ · with state := .submitted handle binding })

/-- Whether a node is a requirement that made the source of a copy valid. -/
def guardsSource (copy : Copy) (node : Node) : Bool :=
  node.device == some copy.source.device &&
    match node.operation.requirement? with
    | some requirement =>
      requirement.region == copy.source.region && !requirement.mode.discards &&
        requirement.window.contains copy.sourceBox
    | none => false

/-- A copy only reads its source. If one of the requirements of its node made
the source valid, it stays so, although the write to the destination has just
invalidated it. -/
def keepSourceValid (id : NodeId) (copy : Copy) : Action Unit := do
  let graph := (← get).graph
  let required := (graph.requirementsOf id).filterMap graph.node?
  if required.any (guardsSource copy) then
    let _ ← Action.getRegion copy.source.region
    Action.changeRegion copy.source.region
      (·.markValid copy.source.device copy.sourceBox)

/-- Registers a submitted node, so that its work can be waited for. -/
def registerSubmitted (id : NodeId) : Action Unit := do
  let node ← Action.getNode id
  modify fun scheduler =>
    { scheduler with submitted := scheduler.submitted.register id node.handle? }

/-- Submits a node that waits for its submission. -/
def submitNew (id : NodeId) : Action Unit := do
  let node ← Action.getNode id
  match node.hint with
  | none => throw .unboundNode
  | some device =>
    Action.changeNode id (·.assign device)
    match node.operation with
    | .requirement _ =>
      let _ ← resolve id
    | .kernel kernel =>
      prepare id device
      launch id (.kernel kernel) device
    | .copy copy =>
      prepare id device
      launch id (.copy copy) device
      keepSourceValid id copy
    registerSubmitted id

/-- The scheduler after a failed submission: nothing that the submission marked
stays marked, the node and everything that still had to be submitted for it are
cancelled, and the observer is told. -/
def giveUp (before after : Scheduler) (id : NodeId) (cause : Error) :
    Scheduler :=
  let restored := after.graph.restore before.graph.snapshot
  { after with
    graph := (restored.abort id).2
    failures := after.failures.map (· ++ [⟨id, cause⟩]) }

/-- Submits a node. One that was submitted or cancelled before is left alone. -/
def submit (id : NodeId) : Action Unit := fun before =>
  match before.graph.node? id with
  | none => .error (.nodeNotFound id) before
  | some node =>
    if node.isUnsubmitted then
      match submitNew id before with
      | .ok _ after => .ok () after
      | .error cause after => .error cause (giveUp before after id cause)
    else .ok () before

end CoherentTasks.Submission
