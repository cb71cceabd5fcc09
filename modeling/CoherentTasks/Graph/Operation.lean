import CoherentTasks.Access
import CoherentTasks.Device
import CoherentTasks.Geometry.Box
import CoherentTasks.Identifier

/-!
# Operations

What a node of a task graph does. Kernels and copies are explicit work for an
executor. A requirement only states that a window of a buffer must be usable on
the node's device.
-/

namespace CoherentTasks.Graph

open CoherentTasks.Geometry (Box Triple)

/-- A kernel launch; some kernels insist on a platform. -/
structure Kernel where
  name : String
  platform : Option Platform
  deriving DecidableEq, Repr

structure Location where
  device : Device
  offset : Triple
  region : RegionId
  deriving DecidableEq, Repr

structure Copy where
  source : Location
  destination : Location
  extent : Triple
  deriving DecidableEq, Repr

namespace Copy

def sourceBox (copy : Copy) : Box := ⟨copy.source.offset, copy.extent⟩

def destinationBox (copy : Copy) : Box := ⟨copy.destination.offset, copy.extent⟩

/-- A copy that touches the host is run by the platform of the other side; other
copies have no preference. -/
def platform (copy : Copy) : Option Platform :=
  match copy.source.device.isHost, copy.destination.device.isHost with
  | true, false => some copy.destination.device.platform
  | false, true => some copy.source.device.platform
  | _, _ => none

def label (copy : Copy) : String :=
  copy.source.device.name ++ " -> " ++ copy.destination.device.name

end Copy

/-- A window of a buffer that must be usable. -/
structure Requirement where
  region : RegionId
  window : Box
  mode : AccessMode
  deriving DecidableEq, Repr

/-- What a node does. -/
inductive Operation where
  | kernel (kernel : Kernel)
  | copy (copy : Copy)
  | requirement (requirement : Requirement)
  deriving DecidableEq, Repr

namespace Operation

def requirement? : Operation → Option Requirement
  | .requirement stated => some stated
  | _ => none

def isRequirement (operation : Operation) : Bool :=
  operation.requirement?.isSome

def isCopy : Operation → Bool
  | .copy _ => true
  | _ => false

/-- The platform that has to run the operation, whatever device the node is
bound to. -/
def platform : Operation → Option Platform
  | .kernel launched => launched.platform
  | .copy moved => moved.platform
  | .requirement _ => none

def kind : Operation → String
  | .kernel _ => "kernel"
  | .copy _ => "memcpy"
  | .requirement _ => "requirement"

def label : Operation → String
  | .kernel launched => launched.name
  | .copy moved => moved.label
  | .requirement stated => "requirement on " ++ regionLabel stated.region

end Operation

end CoherentTasks.Graph
