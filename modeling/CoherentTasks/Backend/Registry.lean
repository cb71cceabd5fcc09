import CoherentTasks.Backend.Basic
import CoherentTasks.Error

/-!
# Registries

The backends that the scheduler can use, at most one in force for each platform.
-/

namespace CoherentTasks.Backend

/-- Backends, the newest first. One that is registered later hides earlier ones
of its platform. -/
structure Registry where
  backends : List Backend

namespace Registry

def empty : Registry := ⟨[]⟩

def register (registry : Registry) (backend : Backend) : Registry :=
  ⟨backend :: registry.backends⟩

def ofList (backends : List Backend) : Registry :=
  backends.foldl register empty

/-- Every backend ever registered, the oldest first. -/
def history (registry : Registry) : List Backend :=
  registry.backends.reverse

def backend? (registry : Registry) (platform : Platform) : Option Backend :=
  registry.backends.find? (·.platform = platform)

/-- The backend in force for a platform, or an error. -/
def backend (registry : Registry) (platform : Platform) :
    Except Error Backend :=
  match registry.backend? platform with
  | some backend => .ok backend
  | none => .error (.noBackend platform)

/-- The backends in force, in the order of their platforms. -/
def inForce (registry : Registry) : List Backend :=
  Platform.all.filterMap registry.backend?

/-- Puts a backend in the place of the newest one of its platform. -/
def replaceNewest (changed : Backend) : List Backend → List Backend
  | [] => []
  | backend :: rest =>
    if backend.platform = changed.platform then changed :: rest
    else backend :: replaceNewest changed rest

def allocate (registry : Registry) (device : Device) (alignment bytes : Nat) :
    Except Error (Option Pointer × Registry) := do
  let backend ← registry.backend device.platform
  match backend.allocate? device alignment bytes with
  | none => throw (.noAllocator device)
  | some (pointer, changed) =>
    return (pointer, ⟨replaceNewest changed registry.backends⟩)

def executor (registry : Registry) (platform : Platform) (device : Device) :
    Except Error Executor := do
  let backend ← registry.backend platform
  match backend.executor? device with
  | none => throw (.noExecutor platform device)
  | some executor => return executor

/-- The names of the backends in force, as a list of quoted texts. -/
def description (registry : Registry) : String :=
  Text.textList (registry.inForce.map (·.name))

end Registry

end CoherentTasks.Backend
