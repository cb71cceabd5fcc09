import CoherentTasks.Backend.Memory
import CoherentTasks.Completion.Handle
import CoherentTasks.Graph.Operation
import CoherentTasks.Table

/-!
# Backends

A backend owns the memory and the executors of one platform. A simulated
backend has a fixed set of devices and takes some time for each operation. Any
other backend is plugged in and known by its answers only; one of those is the
recording backend, which serves every device and completes an operation at once
or when it is told to.
-/

namespace CoherentTasks.Backend

open CoherentTasks.Completion (Signal)
open CoherentTasks.Graph (Operation)

/-- A device of a simulated backend. Its latency, in milliseconds, is the time
of one operation. -/
structure SimulatedDevice where
  memory : Memory
  latency : Nat
  deriving DecidableEq, Repr

/-- What runs the operations handed to it. An executor of a backend that was
plugged in has completed some operations when it returns from taking them; the
others it completes at some later time. It may decide anew for each operation,
which its signal tells from all others. -/
inductive Executor where
  | simulated (device : Device) (latency : Nat)
  | plugged (platform : Platform)
      (completesAtOnce : Signal → NodeId → Device → Operation → Bool)

namespace Executor

def platform : Executor → Platform
  | .simulated device _ => device.platform
  | .plugged platform _ => platform

def isSimulated : Executor → Bool
  | .simulated .. => true
  | .plugged .. => false

/-- Whether an operation of a node is complete when the executor has taken
it. -/
def completesAtOnce (executor : Executor) (signal : Signal) (node : NodeId)
    (device : Device) (operation : Operation) : Bool :=
  match executor with
  | .simulated .. => false
  | .plugged _ completes => completes signal node device operation

def recording (platform : Platform) (completesAtOnce : Bool) : Executor :=
  .plugged platform fun _ _ _ _ => completesAtOnce

end Executor

/-- What grants or refuses memory, in view of all earlier requests to its
backend. -/
abbrev Allocator := Served → MemoryRequest → Option Pointer

/-- A backend of any make, known by its answers. For a device it may have an
allocator, an executor, both or neither. Nothing is assumed about the addresses
that its allocators grant, and its answers may change with the requests for
memory that it has served. -/
structure Plugin where
  name : String
  allocator? : Served → Device → Option Allocator
  executor? : Served → Device → Option Executor

/-- The recording backend of a platform. Its devices share one pool. -/
def Plugin.recording (platform : Platform) (completesAtOnce : Bool)
    (capacity : Option Nat) : Plugin where
  name := "fake-" ++ platform.name
  allocator? _ device :=
    if device.platform = platform then
      some fun served request =>
        ((Pool.after capacity served).allocate request.alignment
          request.bytes).1
    else none
  executor? _ _ := some (.recording platform completesAtOnce)

/-- What a backend has besides its platform. -/
inductive Resources where
  | simulated (devices : Table Device SimulatedDevice)
  | plugged (plugin : Plugin) (served : Served)

@[match_pattern]
abbrev Resources.recording (plugin : Plugin) (served : Served) : Resources :=
  .plugged plugin served

end CoherentTasks.Backend

namespace CoherentTasks

/-- The owner of a platform's memory and executors. -/
structure Backend where
  platform : Platform
  resources : Backend.Resources

end CoherentTasks

namespace CoherentTasks.Backend

/-- A simulated backend. Devices of other platforms are left out, and a device
that is given twice is as it was given last. -/
def simulated (platform : Platform) (devices : List (Device × Nat × Nat)) :
    Backend :=
  let own := devices.filter (·.1.platform = platform)
  ⟨platform, .simulated (Table.ofList (own.map
    fun (device, capacity, latency) =>
      (device, ⟨Memory.create device capacity, latency⟩)))⟩

/-- A backend that has not served any request. -/
def plugged (platform : Platform) (plugin : Plugin) : Backend :=
  ⟨platform, .plugged plugin []⟩

def recording (platform : Platform) (completesAtOnce : Bool)
    (capacity : Option Nat) : Backend :=
  plugged platform (.recording platform completesAtOnce capacity)

def name (backend : Backend) : String :=
  match backend.resources with
  | .simulated _ => "sim-" ++ backend.platform.name
  | .plugged plugin _ => plugin.name

/-- Asks for memory on a device; none is granted if it does not fit. There is no
answer at all for a device that the backend has no memory of. -/
def allocate? (backend : Backend) (device : Device) (alignment bytes : Nat) :
    Option (Option Pointer × Backend) :=
  match backend.resources with
  | .simulated devices =>
    (devices.get? device).map fun simulated =>
      match simulated.memory.allocate? alignment bytes with
      | none => (none, backend)
      | some (pointer, memory) =>
        (some pointer, ⟨backend.platform, .simulated
          (devices.insert device { simulated with memory })⟩)
  | .plugged plugin served =>
    (plugin.allocator? served device).map fun allocator =>
      let request : MemoryRequest := ⟨device, alignment, bytes⟩
      (allocator served request,
        ⟨backend.platform, .plugged plugin (served ++ [request])⟩)

/-- The executor for operations of nodes that are bound to a device. A simulated
backend runs those of a foreign device on its first own one. -/
def executor? (backend : Backend) (device : Device) : Option Executor :=
  match backend.resources with
  | .simulated devices =>
    match devices.get? device with
    | some simulated => some (.simulated device simulated.latency)
    | none => devices.entries.head?.map fun entry =>
        .simulated entry.1 entry.2.latency
  | .plugged plugin served => plugin.executor? served device

end CoherentTasks.Backend
