import CoherentTasks.Table

/-!
# Scenarios

A scenario describes devices, buffers and a task graph. Everything in it is
named by texts, which are only looked at when the scenario is validated or
built.
-/

namespace CoherentTasks.Scenario

/-- A simulated device: its memory in bytes, and the milliseconds that an
operation takes. -/
structure DeviceEntry where
  memory : Nat
  latency : Nat
  deriving DecidableEq, Repr

def standardMemory : Nat := 1024 * 1024 * 1024

def DeviceEntry.standard : DeviceEntry := ⟨standardMemory, 0⟩

/-- A buffer: bytes of an element, number of elements along one to three axes,
and the device that holds its initial contents. -/
structure BufferEntry where
  elementSize : Nat
  range : List Nat
  initialDevice : Option String
  deriving DecidableEq, Repr

/-- A window as written: where it begins, and how far it goes. -/
structure WindowEntry where
  offset : Option (List Nat)
  extent : Option (List Nat)
  deriving DecidableEq, Repr

structure AccessEntry where
  buffer : String
  mode : String
  window : WindowEntry
  deriving DecidableEq, Repr

structure CopyEntry where
  buffer : String
  source : String
  destination : String
  window : WindowEntry
  deriving DecidableEq, Repr

/-- A kernel launch or a transfer. -/
structure NodeEntry where
  kernel : Option String
  copy : Option CopyEntry
  device : Option String
  preferredBackend : Option String
  after : List String
  access : List AccessEntry
  deriving DecidableEq, Repr

def standardAlignment : Nat := 128

end CoherentTasks.Scenario

namespace CoherentTasks

/-- Devices, buffers and nodes, each by name, and the alignment of
allocations. -/
structure Scenario where
  alignment : Nat
  devices : Table String Scenario.DeviceEntry
  buffers : Table String Scenario.BufferEntry
  nodes : Table String Scenario.NodeEntry
  deriving DecidableEq, Repr

end CoherentTasks
