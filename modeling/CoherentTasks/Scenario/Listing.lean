import CoherentTasks.Scenario.Assembly

/-!
# Listings

The text that shows a scenario without running it.
-/

namespace CoherentTasks.Scenario

def deviceLine (name : String) (device : DeviceEntry) : String :=
  "  - " ++ name ++ ": memory " ++ toString device.memory ++
    " bytes, latency " ++ toString device.latency ++ " ms"

def bufferEntryLines (name : String) (buffer : BufferEntry) : List String :=
  ("  - " ++ name ++ ": range " ++ Text.numberList buffer.range ++ " x " ++
      toString buffer.elementSize ++ " bytes") ::
    match buffer.initialDevice with
    | some device => ["      initial_device: " ++ device]
    | none => []

/-- The lines of a node; `requirements` is the number of nodes that it requires
in the graph. -/
def nodeEntryLines (name : String) (node : NodeEntry)
    (requirements : Option Nat) : List String :=
  ["  - " ++ name] ++
    (node.kernel.map fun kernel => "      kernel: " ++ kernel).toList ++
    (node.copy.map fun copy => "      copy: " ++ copy.buffer ++ " " ++
      copy.source ++ " -> " ++ copy.destination).toList ++
    ["      device: " ++ node.device.getD "(unbound)"] ++
    (if node.after.isEmpty then []
      else ["      after: " ++ Text.textList node.after]) ++
    (node.access.map fun access =>
      "      access: " ++ access.buffer ++ " (" ++ access.mode ++ ")") ++
    (requirements.map
      fun count => "      requirements: " ++ toString count).toList

def listingLines (scenario : Scenario) (built : BuiltGraph) : List String :=
  ["dagrt dry-run",
      "  runtime.allocation_alignment = " ++ toString scenario.alignment, "",
      "devices (" ++ toString scenario.devices.size ++ "):"] ++
    (scenario.devices.entries.map
      fun (name, device) => deviceLine name device) ++
    ["buffers (" ++ toString scenario.buffers.size ++ "):"] ++
    (scenario.buffers.entries.flatMap
      fun (name, buffer) => bufferEntryLines name buffer) ++
    ["nodes (" ++ toString built.order.length ++ "), in submission order:"] ++
    (built.order.flatMap fun name => match scenario.nodes.get? name with
      | none => []
      | some node =>
        nodeEntryLines name node ((built.nodes.get? name).map
          fun id => (built.graph.requirementsOf id).length)) ++
    ["graph nodes (including implicit requirements): " ++
      toString built.graph.size]

/-- The text of a listing; every line is ended. -/
def listing (scenario : Scenario) : Except Error String := do
  let built ← scenario.build
  return String.join ((scenario.listingLines built).map (· ++ "\n"))

end CoherentTasks.Scenario
