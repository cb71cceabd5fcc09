import CoherentTasks.Device
import CoherentTasks.Identifier
import CoherentTasks.Word

/-!
# Memory of backends

Two allocators that hand out memory from the start of a range on and never take
it back. The memory of a simulated device has a capacity and an address range of
its own; the pool of a recording backend serves all its devices.
-/

namespace CoherentTasks.Backend

/-- The least multiple of the alignment that is not less than the number. An
alignment of zero counts as one. -/
def alignUp (number alignment : Nat) : Nat :=
  let step := max alignment 1
  (number + (step - 1)) / step * step

/-- Memory of a simulated device. -/
structure Memory where
  base : Pointer
  capacity : Nat
  used : Nat
  deriving DecidableEq, Repr

namespace Memory

/-- The first address of a device: platform and index, in bit fields of a
machine word. -/
def baseOf (device : Device) : Pointer :=
  ((device.platform.rank + 1) <<< 40 ||| (device.index.toNat + 1) <<< 32) %
    Word.limit

def create (device : Device) (capacity : Nat) : Memory :=
  ⟨baseOf device, capacity, 0⟩

/-- Takes bytes at the next aligned offset. Nothing is taken if they do not fit,
or if the offset or their end is no machine word. The address itself is not
checked. -/
def allocate? (memory : Memory) (alignment bytes : Nat) :
    Option (Pointer × Memory) := do
  let _ ← Word.add? memory.used (max alignment 1 - 1)
  let start := alignUp memory.used alignment
  let stop ← Word.add? start bytes
  if stop ≤ memory.capacity then
    some (Word.wrap (memory.base + start), { memory with used := stop })
  else none

end Memory

/-- A request for memory on a device. -/
structure MemoryRequest where
  device : Device
  alignment : Nat
  bytes : Nat
  deriving DecidableEq, Repr

/-- The requests for memory that a backend has answered, the oldest first. -/
abbrev Served := List MemoryRequest

def Served.requests (served : Served) : Nat :=
  served.length

/-- Memory shared by all devices of a recording backend; the capacity may be
unlimited. -/
structure Pool where
  used : Nat
  capacity : Option Nat
  deriving DecidableEq, Repr

namespace Pool

def base : Pointer := 0x10000000

def create (capacity : Option Nat) : Pool :=
  ⟨0, capacity⟩

/-- Takes bytes at the next aligned offset, if they fit. Nothing is checked but
the capacity. -/
def allocate (pool : Pool) (alignment bytes : Nat) : Option Pointer × Pool :=
  let start := Word.wrap (alignUp pool.used alignment)
  let stop := Word.wrap (start + bytes)
  if pool.capacity.all (stop ≤ ·) then
    (some (Word.wrap (base + start)), { pool with used := stop })
  else (none, pool)

/-- The pool after the given requests. -/
def after (capacity : Option Nat) (served : Served) : Pool :=
  served.foldl
    (fun pool request => (pool.allocate request.alignment request.bytes).2)
    (create capacity)

end Pool

end CoherentTasks.Backend
