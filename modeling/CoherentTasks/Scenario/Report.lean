import CoherentTasks.Scenario.Execution

/-!
# Reports

What became of the nodes and buffers of a run, and the text that is printed at
its end.
-/

namespace CoherentTasks.Scenario

open CoherentTasks.Geometry (Box)
open CoherentTasks.Graph (Status)

structure NodeReport where
  name : String
  id : NodeId
  status : Status
  device : Option Device
  deriving DecidableEq, Repr

/-- What is valid and current on a device in the end. -/
structure CopyReport where
  device : Device
  valid : List Box
  current : List Box
  deriving DecidableEq, Repr

structure BufferReport where
  name : String
  copies : List CopyReport
  deriving DecidableEq, Repr

/-- What is known after a run. Operations are counted only if the run is on
simulated devices. -/
structure Report where
  nodes : List NodeReport
  failures : List (String × Error)
  dispatches : Nat
  transfers : Nat
  buffers : List BufferReport
  deriving DecidableEq, Repr

def Run.nodeReport? (run : Run) (name : String) : Option NodeReport := do
  let id ← run.nodes.get? name
  let node ← run.scheduler.graph.node? id
  return ⟨name, id, node.status run.scheduler.signals, node.device⟩

def Run.bufferReport? (run : Run) (name : String) (id : RegionId) :
    Option BufferReport := do
  let region ← run.scheduler.graph.region? id
  return ⟨name, region.allocations.entries.map fun (device, allocation) =>
    ⟨device, allocation.valid.boxes, allocation.current.boxes⟩⟩

def Run.report (run : Run) (summary : Summary) : Report :=
  let counted := if run.simulated then run.scheduler.dispatches else []
  { nodes := run.order.filterMap run.nodeReport?
    failures := summary.failed
    dispatches := counted.length
    transfers := counted.countP (·.operation.isCopy)
    buffers :=
      run.buffers.entries.filterMap
        fun (name, id) => run.bufferReport? name id }

namespace Report

def isSuccess (report : Report) : Bool :=
  report.failures.isEmpty

def statusOf? (report : Report) (name : String) : Option Status :=
  (report.nodes.find? (·.name == name)).map (·.status)

def buffer? (report : Report) (name : String) : Option BufferReport :=
  report.buffers.find? (·.name == name)

/-- Boxes in a row; a dash stands for none. -/
def boxesText (boxes : List Box) : String :=
  if boxes.isEmpty then "-" else " ".intercalate (boxes.map Box.description)

def nodeLine (node : NodeReport) : String :=
  "  - " ++ node.name ++ " [" ++ node.status.name ++ "]" ++
    match node.device with
    | some device => " on " ++ device.name
    | none => ""

def bufferLines (buffer : BufferReport) : List String :=
  ("  - " ++ buffer.name) :: buffer.copies.map fun copy =>
    "      " ++ copy.device.name ++ ": valid " ++ boxesText copy.valid ++
      " current " ++ boxesText copy.current

/-- The lines about failed submissions; there are none if all went well. -/
def failureLines (failures : List (String × Error)) : List String :=
  if failures.isEmpty then []
  else
    ("failures (" ++ toString failures.length ++ "):") ::
      failures.map fun (name, cause) => "  - " ++ name ++ ": " ++ cause.message

def lines (report : Report) : List String :=
  ("nodes (" ++ toString report.nodes.length ++ "):") ::
    report.nodes.map nodeLine ++ ("dispatched " ++ toString report.dispatches ++
      " operations (" ++ toString report.transfers ++ " transfers)") ::
    failureLines report.failures ++
    ("buffers (" ++ toString report.buffers.length ++ "):") ::
    report.buffers.flatMap bufferLines

/-- The text of a report; every line is ended. -/
def text (report : Report) : String :=
  String.join (report.lines.map (· ++ "\n"))

end Report

end CoherentTasks.Scenario
