import CoherentTasks.Scenario.Order
import CoherentTasks.Scenario.Window
import CoherentTasks.Word

/-!
# Validation of scenarios

A scenario is valid when everything that it names exists, its sizes are
sensible, its windows lie inside their buffers, and its nodes do not wait for
each other. The first fault found is reported.
-/

namespace CoherentTasks.Scenario

open CoherentTasks.Geometry (Axis Box Triple)

/-- A check that a scenario passes or fails with a fault. -/
abbrev Check (Result : Type) := Except Fault Result

/-- A condition without which a fault is reported. -/
def require (condition : Bool) (fault : Fault) : Check Unit :=
  if condition then .ok () else .error fault

/-- Turns a spelling fault into a fault of the scenario. -/
def spelled {Name : Type} (fault : SpellingError → Fault)
    (result : Except SpellingError Name) : Check Name :=
  result.mapError fault

/-- The devices of a scenario: the host, and those that it lists. -/
def declaredDevices (scenario : Scenario) : Check (List Device) := do
  let listed ← scenario.devices.keys.mapM fun name =>
    spelled (.invalidDevice name) (Device.parse name)
  return (Table.ofList ((Device.hostDevice :: listed).map (·, ()))).keys

/-- The device that a text names, if it is one of the given devices. -/
def knownDevice (devices : List Device) (role : DeviceRole) (name : String) :
    Check Device := do
  let device ← spelled (.misspelledDevice role) (Device.parse name)
  require (device ∈ devices) (.unknownDevice role device)
  return device

def isPowerOfTwo (number : Nat) : Bool :=
  number ≠ 0 && Nat.pow 2 number.log2 == number

def checkDevices (scenario : Scenario) : Check (List Device) := do
  let devices ← scenario.declaredDevices
  scenario.devices.entries.forM fun (name, entry) =>
    require (entry.memory ≠ 0) (.noMemory name)
  return devices

def checkBuffer (devices : List Device) (name : String) (buffer : BufferEntry) :
    Check Unit := do
  require (buffer.elementSize ≠ 0) (.zeroElementSize name)
  match buffer.elements? with
  | none => throw (.wrongDimensions name buffer.range)
  | some elements =>
    require (elements.toList.all (· ≠ 0)) (.zeroDimension name buffer.range)
    require (Word.multiplyAll? buffer.elementSize elements.toList).isSome
      (.bufferTooLarge name buffer.range buffer.elementSize)
    match buffer.initialDevice with
    | none => pure ()
    | some initial => let _ ← knownDevice devices (.initialOf name) initial

def bufferElements (scenario : Scenario) (node buffer : String) :
    Check Triple :=
  match (scenario.buffers.get? buffer).bind BufferEntry.elements? with
  | some elements => .ok elements
  | none => .error (.unknownBuffer node buffer)

/-- Whether a window has elements and lies inside a buffer of the given
range. -/
def fits (range : Triple) (window : Box) : Bool :=
  Axis.all.all fun axis =>
    0 < window.extent.get axis &&
    (Word.add? (window.offset.get axis) (window.extent.get axis)).any
      (· ≤ range.get axis)

def checkWindow (scenario : Scenario) (node buffer : String)
    (window : WindowEntry) : Check Unit := do
  let range ← scenario.bufferElements node buffer
  require ((window.resolve? range).any (fits range))
    (.windowOutside node buffer range)

def checkAccess (scenario : Scenario) (node : String) (access : AccessEntry) :
    Check Unit := do
  let _ ←
    spelled (.misspelledAccess node access.buffer)
      (AccessMode.parse access.mode)
  scenario.checkWindow node access.buffer access.window

def checkCopy (scenario : Scenario) (devices : List Device) (node : String)
    (copy : CopyEntry) : Check Unit := do
  let _ ← knownDevice devices (.sourceOf node) copy.source
  let _ ← knownDevice devices (.destinationOf node) copy.destination
  scenario.checkWindow node copy.buffer copy.window

def checkNode (scenario : Scenario) (devices : List Device) (name : String)
    (node : NodeEntry) : Check Unit := do
  match node.kernel, node.copy with
  | some _, some _ => throw (.kernelAndCopy name)
  | none, none => throw (.kernelOrCopyMissing name)
  | _, _ => pure ()
  match node.device with
  | none => pure ()
  | some device => let _ ← knownDevice devices (.deviceOf name) device
  match node.preferredBackend with
  | none => pure ()
  | some platform =>
    let _ ← spelled (.misspelledPlatform name) (Platform.parse platform)
  node.access.forM (scenario.checkAccess name)
  match node.copy with
  | none => pure ()
  | some copy => scenario.checkCopy devices name copy

def checkDependencies (scenario : Scenario) (name : String) (node : NodeEntry) :
    Check Unit :=
  node.after.forM fun dependency => do
    require (scenario.nodes.contains dependency)
      (.unknownDependency name dependency)
    require (dependency ≠ name) (.selfDependency name)

/-- Checks everything but the order of the nodes. -/
def checkContents (scenario : Scenario) : Check Unit := do
  require (scenario.nodes.size ≠ 0) .noNodes
  require (isPowerOfTwo scenario.alignment)
    (.alignmentNotPowerOfTwo scenario.alignment)
  let devices ← scenario.checkDevices
  scenario.buffers.entries.forM
    fun (name, buffer) => checkBuffer devices name buffer
  scenario.nodes.entries.forM
    fun (name, node) => scenario.checkNode devices name node
  scenario.nodes.entries.forM
    fun (name, node) => scenario.checkDependencies name node

def validateBy (sorting : Sorting) (scenario : Scenario) :
    Except Error Unit := do
  scenario.checkContents.mapError .scenario
  let _ ← scenario.submissionOrder sorting

def validate (scenario : Scenario) : Except Error Unit :=
  scenario.validateBy Precedence.sort

end CoherentTasks.Scenario
