import CoherentTasks.Backend.Registry
import CoherentTasks.Completion.Submitted
import CoherentTasks.Graph.Cancellation
import CoherentTasks.Graph.Pruning
import CoherentTasks.Journal

/-!
# Schedulers

A task graph together with everything that the scheduler works with, and the
steps of which its operations are made.
-/

namespace CoherentTasks

open CoherentTasks.Backend (Executor Registry)
open CoherentTasks.Coherence (Region)
open CoherentTasks.Completion (Handle Signals Submitted)
open CoherentTasks.Graph (Binding Node Operation TaskGraph)

structure Failure where
  node : NodeId
  cause : Error
  deriving DecidableEq, Repr

/-- A task graph, the backends that run it, and what happened so far. -/
structure Scheduler where
  /-- Alignment of the memory that the scheduler asks for. -/
  alignment : Nat
  registry : Registry
  graph : TaskGraph
  signals : Signals
  journal : Journal
  submitted : Submitted
  /-- The failed submissions, if an observer keeps them. -/
  failures : Option (List Failure)

namespace Scheduler

/-- A scheduler in which nothing has happened. -/
def create (alignment : Nat) (registry : Registry) (observed : Bool) :
    Scheduler :=
  ⟨alignment, registry, .empty, .empty, [], .empty,
    if observed then some [] else none⟩

def dispatches (scheduler : Scheduler) : List Dispatch :=
  scheduler.journal.dispatches

def record (scheduler : Scheduler) (event : Event) : Scheduler :=
  { scheduler with journal := scheduler.journal ++ [event] }

/-- Hands an operation to an executor. The signal fires when what the executor
gives back for the operation is complete. -/
def dispatch (scheduler : Scheduler) (node : NodeId) (device : Device)
    (operation : Operation) (executor : Executor)
    (dependencies : List Dependency) : Handle × Scheduler :=
  let signal := scheduler.signals.next
  let created := scheduler.signals.create
  let signals :=
    if executor.completesAtOnce signal node device operation then
      created.fire signal
    else created
  (.single signal,
    { scheduler with signals }.record
      (.dispatched ⟨node, device, operation, executor, dependencies, signal⟩))

/-- Completes dispatched operations of backends that were plugged in. -/
def completeRecorded (scheduler : Scheduler) (which : Dispatch → Bool) :
    Scheduler :=
  let chosen := scheduler.dispatches.filter fun dispatch =>
    !dispatch.executor.isSimulated && which dispatch
  { scheduler with
    signals := scheduler.signals.fireAll (chosen.map (·.signal)) }

def completeAll (scheduler : Scheduler) : Scheduler :=
  { scheduler with
    signals := scheduler.signals.fireAll (scheduler.dispatches.map (·.signal)) }

def prune (scheduler : Scheduler) : Scheduler :=
  { scheduler with graph := scheduler.graph.prune scheduler.signals }

def description (scheduler : Scheduler) : String :=
  "DirectScheduler \x7b registry: " ++ scheduler.registry.description ++
    ", options: SchedulerOptions \x7b allocation_alignment: " ++
    toString scheduler.alignment ++ " \x7d, has_observer: " ++
    toString scheduler.failures.isSome ++ " \x7d"

end Scheduler

/-- A computation that changes a scheduler and may stop with an error; what it
did before stays done. -/
abbrev Action := EStateM Error Scheduler

namespace Action

def ofExcept {Value : Type} : Except Error Value → Action Value
  | .ok value => pure value
  | .error cause => throw cause

def getNode (id : NodeId) : Action Node := do
  match (← get).graph.node? id with
  | some node => pure node
  | none => throw (.nodeNotFound id)

def changeNode (id : NodeId) (change : Node → Node) : Action Unit :=
  modify fun scheduler =>
    { scheduler with graph := scheduler.graph.updateNode id change }

def getRegion (id : RegionId) : Action Region := do
  match (← get).graph.region? id with
  | some region => pure region
  | none => throw (.regionNotFound id)

def changeRegion (id : RegionId) (change : Region → Region) : Action Unit :=
  modify fun scheduler =>
    { scheduler with graph := scheduler.graph.updateRegion id change }

def record (event : Event) : Action Unit :=
  modify (·.record event)

def dispatch (node : NodeId) (device : Device) (operation : Operation)
    (executor : Executor) (dependencies : List Dependency) : Action Handle :=
  modifyGet (·.dispatch node device operation executor dependencies)

/-- Asks for memory for a copy of a region. -/
def requestMemory (region : RegionId) (device : Device) (bytes : Nat) :
    Action (Option Pointer) := do
  let scheduler ← get
  let (granted, registry) ←
    ofExcept (scheduler.registry.allocate device scheduler.alignment bytes)
  modify fun scheduler =>
    { scheduler with registry }.record (.requested region device granted)
  return granted

end Action

end CoherentTasks
