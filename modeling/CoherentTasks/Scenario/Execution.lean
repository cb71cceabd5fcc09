import CoherentTasks.Scenario.Assembly
import CoherentTasks.Submission.Submit

/-!
# Running scenarios

A run builds the task graph of a scenario, puts the initial contents of its
buffers in place and submits its nodes in order, going on behind failures.
-/

namespace CoherentTasks.Scenario

open CoherentTasks.Backend (Registry)
open CoherentTasks.Coherence (Region)

/-- A scenario ready to be run, or being run. -/
structure Run where
  scheduler : Scheduler
  buffers : Table String RegionId
  nodes : Table String NodeId
  order : List String
  /-- Whether the run is on simulated devices. -/
  simulated : Bool

/-- The simulated device for a declared device. If several names of the scenario
mean it, the last counts. -/
def deviceEntry (scenario : Scenario) (device : Device) : DeviceEntry :=
  let named := scenario.devices.entries.filter fun (name, _) =>
    match Device.parse name with
    | .ok other => other == device
    | .error _ => false
  (named.getLast?.map (·.2)).getD .standard

/-- One simulated backend for each platform that has a device. -/
def simulatedRegistry (scenario : Scenario) : Check Registry := do
  let devices ← scenario.declaredDevices
  let platforms :=
    Platform.all.filter fun platform => devices.any (·.platform == platform)
  return .ofList <| platforms.map fun platform =>
    .simulated platform <| devices.map fun device =>
      let entry := scenario.deviceEntry device
      (device, entry.memory, entry.latency)

/-- Allocates a buffer on the device of its initial contents and marks it as
written there. -/
def seedRegion (name : String) (id : RegionId) (device : Device)
    (scheduler : Scheduler) : Except Error Scheduler :=
  match scheduler.graph.region? id with
  | none => throw (.regionNotFound id)
  | some region =>
    match region.allocationSize? with
    | none => throw (.bufferTooLarge region.name region.range)
    | some bytes => do
      match ← scheduler.registry.allocate device scheduler.alignment bytes with
      | (none, _) => throw (.initialAllocationRefused bytes name device)
      | (some pointer, registry) =>
        return { scheduler with
          registry
          graph := scheduler.graph.updateRegion id (·.seed device pointer) }

/-- Puts the initial contents of a buffer in place, if it has any. -/
def seedBuffer (buffers : Table String RegionId) (scheduler : Scheduler)
    (name : String) (buffer : BufferEntry) : Except Error Scheduler :=
  match buffer.initialDevice with
  | none => pure scheduler
  | some initial => do
    let device ←
      (spelled (.misspelledDevice (.initialOf name))
        (Device.parse initial)).mapError
        Error.scenario
    match buffers.get? name with
    | none => throw (.scenario (.unbuiltBuffer name))
    | some id => seedRegion name id device scheduler

def prepareOnBy (sorting : Sorting) (scenario : Scenario) (registry : Registry)
    (simulated : Bool) : Except Error Run := do
  let built ← scenario.buildBy sorting
  let fresh : Scheduler :=
    { Scheduler.create scenario.alignment registry true with
      graph := built.graph }
  let scheduler ←
    scenario.buffers.entries.foldlM (fun scheduler (name, buffer) =>
      seedBuffer built.buffers scheduler name buffer) fresh
  return ⟨scheduler, built.buffers, built.nodes, built.order, simulated⟩

def prepareSimulatedBy (sorting : Sorting) (scenario : Scenario) :
    Except Error Run := do
  scenario.prepareOnBy sorting
    (← scenario.simulatedRegistry.mapError .scenario) true

def prepareOn (scenario : Scenario) (registry : Registry) (simulated : Bool) :
    Except Error Run :=
  scenario.prepareOnBy Precedence.sort registry simulated

def prepareSimulated (scenario : Scenario) : Except Error Run :=
  scenario.prepareSimulatedBy Precedence.sort

/-- What came of submitting the nodes of a plan, in its order. -/
structure Summary where
  submitted : List String
  failed : List (String × Error)
  deriving DecidableEq, Repr

namespace Run

/-- The nodes to be submitted, in order: all of them, or a chosen one with
everything that comes before it. -/
def plan (run : Run) (chosen : Option String) : Except Error (List String) :=
  match chosen with
  | none => .ok run.order
  | some name =>
    match run.nodes.get? name with
    | none => .error (.scenario (.unknownRequest name))
    | some root =>
      let wanted := root :: run.scheduler.graph.ancestors root
      .ok (run.order.filter
        fun other => (run.nodes.get? other).any wanted.contains)

/-- Submits a node by name and notes the outcome. -/
def submitNode (state : Run × Summary) (name : String) :
    Except Error (Run × Summary) :=
  let (run, summary) := state
  match run.nodes.get? name with
  | none => .error (.scenario (.unknownNode name))
  | some id =>
    match Submission.submit id run.scheduler with
    | .ok _ scheduler =>
      .ok ({ run with scheduler },
        { summary with submitted := summary.submitted ++ [name] })
    | .error cause scheduler =>
      .ok ({ run with scheduler },
        { summary with failed := summary.failed ++ [(name, cause)] })

def submitAll (run : Run) (chosen : Option String) :
    Except Error (Run × Summary) := do
  (← run.plan chosen).foldlM submitNode (run, ⟨[], []⟩)

/-- Waits until all dispatched work is complete. -/
def finish (run : Run) : Run :=
  { run with scheduler := run.scheduler.completeAll }

end Run

end CoherentTasks.Scenario
