import CoherentTasks.Graph.Basic
import CoherentTasks.Scenario.Validation

/-!
# Building task graphs

Every buffer of a scenario becomes a region, and every node becomes an operation
and one requirement for each of its accesses. Conflicting accesses are kept in
order: an access comes behind the last writer of its buffer, and one that writes
also behind all readers since then.
-/

namespace CoherentTasks.Scenario

open CoherentTasks.Geometry (Box Triple)
open CoherentTasks.Graph (Copy Kernel Location Operation Requirement TaskGraph)

/-- Who used a buffer last: the last writer, and the readers since then. -/
structure Hazards where
  writer : Option NodeId
  readers : List NodeId
  deriving DecidableEq, Repr

namespace Hazards

def none : Hazards := ⟨Option.none, []⟩

/-- The nodes that an access of the given mode has to come behind. -/
def conflicts (hazards : Hazards) (mode : AccessMode) : List NodeId :=
  hazards.writer.toList ++ (if mode.writes then hazards.readers else [])

def note (hazards : Hazards) (node : NodeId) (mode : AccessMode) : Hazards :=
  if mode.writes then ⟨some node, []⟩
  else if node ∈ hazards.readers then hazards
  else { hazards with readers := hazards.readers ++ [node] }

end Hazards

/-- An access in terms of the graph. The endpoints of a copy have devices of
their own. -/
structure PlannedAccess where
  requirement : Requirement
  device : Option Device
  deriving DecidableEq, Repr

/-- A task graph under construction: where each buffer and each node of the
scenario is found in it, and who used each region last. -/
structure Assembly where
  graph : TaskGraph
  buffers : Table String RegionId
  nodes : Table String NodeId
  hazards : Table RegionId Hazards

/-- A task graph built from a scenario. -/
structure BuiltGraph where
  graph : TaskGraph
  buffers : Table String RegionId
  nodes : Table String NodeId
  order : List String

/-- The scenario's name for a node of the graph. -/
def BuiltGraph.nameOf? (built : BuiltGraph) (id : NodeId) : Option String :=
  (built.nodes.entries.find? (·.2 == id)).map (·.1)

def ascending (numbers : List Nat) : List Nat :=
  (Table.ofList (numbers.map (·, ()))).keys

namespace Assembly

def hazardsOf (assembly : Assembly) (region : RegionId) : Hazards :=
  (assembly.hazards.get? region).getD .none

end Assembly

/-- The region of a buffer that a node names, and its number of elements. -/
def lookUpBuffer (scenario : Scenario) (buffers : Table String RegionId)
    (node buffer : String) : Check (RegionId × Triple) :=
  match buffers.get? buffer,
    (scenario.buffers.get? buffer).bind BufferEntry.elements? with
  | some region, some elements => .ok (region, elements)
  | _, _ => .error (.unknownBuffer node buffer)

/-- The region and the window that a node names. -/
def lookUpWindow (scenario : Scenario) (buffers : Table String RegionId)
    (node buffer : String) (window : WindowEntry) : Check (RegionId × Box) := do
  let (region, elements) ← scenario.lookUpBuffer buffers node buffer
  match window.resolve? elements with
  | some window => return (region, window)
  | none => throw (.windowUndefined node buffer)

def nodeDevice (node name : String) : Check Device :=
  spelled (.misspelledNodeDevice node) (Device.parse name)

/-- The accesses of a node. A copy reads its window on one device and overwrites
it on another. -/
def planAccesses (scenario : Scenario) (buffers : Table String RegionId)
    (name : String) (node : NodeEntry) : Check (List PlannedAccess) :=
  match node.copy with
  | some copy => do
    let (region, window) ←
      scenario.lookUpWindow buffers name copy.buffer copy.window
    let source ← nodeDevice name copy.source
    let destination ← nodeDevice name copy.destination
    return [⟨⟨region, window, .read⟩, some source⟩,
      ⟨⟨region, window, .discardWrite⟩, some destination⟩]
  | none =>
    node.access.mapM fun access => do
      let (region, window) ←
        scenario.lookUpWindow buffers name access.buffer access.window
      let mode ← spelled (.misspelledMode name) (AccessMode.parse access.mode)
      return ⟨⟨region, window, mode⟩, none⟩

def operationOf (scenario : Scenario) (buffers : Table String RegionId)
    (name : String) (node : NodeEntry) : Check Operation :=
  match node.kernel, node.copy with
  | some kernel, _ => do
    let platform ← node.preferredBackend.mapM fun platform =>
      spelled (.misspelledPlatform name) (Platform.parse platform)
    return .kernel ⟨kernel, platform⟩
  | none, some copy => do
    let (region, window) ←
      scenario.lookUpWindow buffers name copy.buffer copy.window
    let source ← nodeDevice name copy.source
    let destination ← nodeDevice name copy.destination
    return .copy ⟨⟨source, window.offset, region⟩,
      ⟨destination, window.offset, region⟩, window.extent⟩
  | none, none => throw (.noOperation name)

def addBuffers (scenario : Scenario) :
    Check (TaskGraph × Table String RegionId) :=
  scenario.buffers.entries.foldlM (fun (graph, buffers) (name, buffer) =>
      match buffer.elements? with
      | none => throw (.invalidRange name)
      | some elements =>
        return (graph.addRegion name elements buffer.elementSize,
          buffers.insert name graph.regions.length))
    (TaskGraph.empty, Table.empty)

/-- Adds the requirement of an access; it comes behind the accesses that it
conflicts with. -/
def addAccess (hint : Option Device) (assembly : Assembly)
    (access : PlannedAccess) : Except Error (NodeId × Assembly) := do
  let hazards := assembly.hazardsOf access.requirement.region
  let (id, graph) ←
    assembly.graph.addNode (.requirement access.requirement)
      (ascending (hazards.conflicts access.requirement.mode))
      (access.device.or hint)
  return (id, { assembly with graph })

def addAccesses (hint : Option Device) (assembly : Assembly) :
    List PlannedAccess → Except Error (List NodeId × Assembly)
  | [] => .ok ([], assembly)
  | access :: rest => do
    let (id, assembly) ← addAccess hint assembly access
    let (ids, assembly) ← addAccesses hint assembly rest
    return (id :: ids, assembly)

/-- The node of the graph for a node that the scenario puts in front of
another. -/
def builtDependency (nodes : Table String NodeId) (node dependency : String) :
    Check NodeId :=
  match nodes.get? dependency with
  | some id => .ok id
  | none => .error (.unbuiltDependency node dependency)

def noteAccesses (id : NodeId) (hazards : Table RegionId Hazards)
    (accesses : List PlannedAccess) : Table RegionId Hazards :=
  accesses.foldl (fun hazards access =>
    let region := access.requirement.region
    hazards.insert region
      (((hazards.get? region).getD .none).note id access.requirement.mode))
      hazards

/-- Adds a node of the scenario, its requirements first. -/
def addScenarioNode (scenario : Scenario) (assembly : Assembly)
    (name : String) : Except Error Assembly := do
  let fromScenario {Result : Type} (check : Check Result) :
      Except Error Result :=
    check.mapError .scenario
  let node ←
    match scenario.nodes.get? name with
    | some node => pure node
    | none => throw (.scenario (.unknownNode name))
  let hint ← fromScenario (node.device.mapM (nodeDevice name))
  let before ←
    fromScenario (node.after.mapM (builtDependency assembly.nodes name))
  let accesses ← fromScenario (scenario.planAccesses assembly.buffers name node)
  let (required, assembly) ← addAccesses hint assembly accesses
  let operation ← fromScenario (scenario.operationOf assembly.buffers name node)
  let (id, graph) ← assembly.graph.addNode operation (before ++ required) hint
  return { assembly with
    graph
    nodes := assembly.nodes.insert name id
    hazards := noteAccesses id assembly.hazards accesses }

def buildBy (sorting : Sorting) (scenario : Scenario) :
    Except Error BuiltGraph := do
  let (graph, buffers) ← scenario.addBuffers.mapError .scenario
  let order ← scenario.submissionOrder sorting
  let assembly ←
    order.foldlM scenario.addScenarioNode ⟨graph, buffers, .empty, .empty⟩
  return ⟨assembly.graph, assembly.buffers, assembly.nodes, order⟩

def build (scenario : Scenario) : Except Error BuiltGraph :=
  scenario.buildBy Precedence.sort

end CoherentTasks.Scenario
