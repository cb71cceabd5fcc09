import CoherentTasks.Coherence.Region
import CoherentTasks.Error
import CoherentTasks.Graph.Node

/-!
# Task graphs

A graph owns its nodes and regions. The number of a node is its place in the
list of slots; the slot of a removed node stays empty. A node can only require
nodes that exist when it is added, so every requirement has a smaller number.
-/

namespace CoherentTasks.Graph

open CoherentTasks.Completion (Signals)
open CoherentTasks.Coherence (Region Snapshot)
open CoherentTasks.Geometry (Box Triple)

/-- Nodes and regions, each at the place given by its number. -/
structure TaskGraph where
  slots : List (Option Node)
  regions : List Region

namespace TaskGraph

def empty : TaskGraph := ⟨[], []⟩

/-- The node of this number, unless there is none or it was removed. -/
def node? (graph : TaskGraph) (id : NodeId) : Option Node :=
  (graph.slots[id]?).join

def contains (graph : TaskGraph) (id : NodeId) : Bool :=
  (graph.node? id).isSome

def ids (graph : TaskGraph) : List NodeId :=
  (List.range graph.slots.length).filter graph.contains

def size (graph : TaskGraph) : Nat :=
  graph.ids.length

def requirementsOf (graph : TaskGraph) (id : NodeId) : List NodeId :=
  match graph.node? id with
  | some node => node.requirements
  | none => []

def updateNode (graph : TaskGraph) (id : NodeId) (change : Node → Node) :
    TaskGraph :=
  { graph with slots := graph.slots.modify id (Option.map change) }

def region? (graph : TaskGraph) (id : RegionId) : Option Region :=
  graph.regions[id]?

/-- Adds the region of a new buffer; its number is the place behind the
others. -/
def addRegion (graph : TaskGraph) (name : String) (range : Triple)
    (elementSize : Nat) : TaskGraph :=
  { graph with
    regions :=
      graph.regions ++
        [Region.create graph.regions.length name range elementSize] }

def updateRegion (graph : TaskGraph) (id : RegionId)
    (change : Region → Region) : TaskGraph :=
  { graph with regions := graph.regions.modify id change }

def snapshot (graph : TaskGraph) : List Snapshot :=
  graph.regions.map Region.snapshot

/-- Puts saved states back into the first regions and keeps the others. -/
def restoreRegions : List Region → List Snapshot → List Region
  | region :: regions, saved :: rest =>
    region.restore saved :: restoreRegions regions rest
  | regions, _ => regions

/-- Puts back what was valid and current in every region. Newer regions keep
their state. -/
def restore (graph : TaskGraph) (saved : List Snapshot) : TaskGraph :=
  { graph with regions := restoreRegions graph.regions saved }

/-- A window must lie inside the buffer of an existing region. -/
def checkWindow (graph : TaskGraph) (id : RegionId) (window : Box) :
    Except Error Unit :=
  match graph.region? id with
  | none => .error (.regionNotFound id)
  | some region =>
    if region.containsWindow window then .ok ()
    else .error (.windowOutside window region.name region.range)

def checkOperation (graph : TaskGraph) : Operation → Except Error Unit
  | .requirement requirement =>
    graph.checkWindow requirement.region requirement.window
  | _ => .ok ()

/-- Adds a node; its number is the place behind the others. Everything that it
requires must exist. -/
def addNode (graph : TaskGraph) (operation : Operation)
    (requirements : List NodeId) (hint : Option Device) :
    Except Error (NodeId × TaskGraph) :=
  match requirements.find? (!graph.contains ·) with
  | some missing => .error (.nodeNotFound missing)
  | none => do
    graph.checkOperation operation
    return (graph.slots.length, { graph with slots :=
        graph.slots ++ [some (Node.create operation requirements hint)] })

/-- Adds a copy whose two windows lie inside their buffers. -/
def addCopy (graph : TaskGraph) (copy : Copy) (requirements : List NodeId)
    (hint : Option Device) : Except Error (NodeId × TaskGraph) := do
  graph.checkWindow copy.source.region copy.sourceBox
  graph.checkWindow copy.destination.region copy.destinationBox
  graph.addNode (.copy copy) requirements hint

end TaskGraph

end CoherentTasks.Graph
