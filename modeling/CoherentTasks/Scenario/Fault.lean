import CoherentTasks.Geometry.Box
import CoherentTasks.Spelling
import CoherentTasks.Text.Quoted

/-!
# Faults of scenarios

Everything that can be wrong with the contents of a scenario, and the wording of
each fault.
-/

namespace CoherentTasks.Scenario

open CoherentTasks.Geometry (Triple)

/-- The place of a scenario that names a device. -/
inductive DeviceRole where
  | initialOf (buffer : String)
  | deviceOf (node : String)
  | sourceOf (node : String)
  | destinationOf (node : String)
  deriving DecidableEq, Repr

def DeviceRole.description : DeviceRole → String
  | .initialOf buffer => "buffer '" ++ buffer ++ "' initial_device"
  | .deviceOf node => "node '" ++ node ++ "' device"
  | .sourceOf node => "node '" ++ node ++ "' copy source"
  | .destinationOf node => "node '" ++ node ++ "' copy destination"

inductive Fault where
  | noNodes
  | alignmentNotPowerOfTwo (alignment : Nat)
  | invalidDevice (name : String) (cause : SpellingError)
  | noMemory (device : String)
  | zeroElementSize (buffer : String)
  | wrongDimensions (buffer : String) (range : List Nat)
  | zeroDimension (buffer : String) (range : List Nat)
  | bufferTooLarge (buffer : String) (range : List Nat) (elementSize : Nat)
  | misspelledDevice (role : DeviceRole) (cause : SpellingError)
  | unknownDevice (role : DeviceRole) (device : Device)
  | kernelAndCopy (node : String)
  | kernelOrCopyMissing (node : String)
  | misspelledPlatform (node : String) (cause : SpellingError)
  | misspelledAccess (node buffer : String) (cause : SpellingError)
  | unknownBuffer (node buffer : String)
  | windowOutside (node buffer : String) (range : Triple)
  | unknownDependency (node dependency : String)
  | selfDependency (node : String)
  | invalidRange (buffer : String)
  | unknownNode (node : String)
  | misspelledNodeDevice (node : String) (cause : SpellingError)
  | unbuiltDependency (node dependency : String)
  | windowUndefined (node buffer : String)
  | misspelledMode (node : String) (cause : SpellingError)
  | noOperation (node : String)
  | unbuiltBuffer (buffer : String)
  | unknownRequest (node : String)
  deriving DecidableEq, Repr

def Fault.message : Fault → String
  | .noNodes => "scenario must contain at least one [node.<name>] section"
  | .alignmentNotPowerOfTwo alignment =>
    "[runtime].allocation_alignment must be a power of two (got " ++
      toString alignment ++ ")"
  | .invalidDevice name cause =>
    "invalid device id '" ++ name ++ "': " ++ cause.message
  | .noMemory device => "device '" ++ device ++ "' must have memory > 0"
  | .zeroElementSize buffer =>
    "buffer '" ++ buffer ++ "' must have element_size > 0"
  | .wrongDimensions buffer range =>
    "buffer '" ++ buffer ++ "' range must have one to three dimensions (got " ++
      Text.numberList range ++ ")"
  | .zeroDimension buffer range =>
    "buffer '" ++ buffer ++
      "' range must be non-zero in every dimension (got " ++
      Text.numberList range ++ ")"
  | .bufferTooLarge buffer range elementSize =>
    "buffer '" ++ buffer ++ "' of " ++ Text.numberList range ++
      " elements of " ++ toString elementSize ++
      " bytes is too large to allocate"
  | .misspelledDevice role cause => role.description ++ ": " ++ cause.message
  | .unknownDevice role device =>
    role.description ++ " refers to unknown device '" ++ device.name ++ "'"
  | .kernelAndCopy node =>
    "node '" ++ node ++ "' must set exactly one of `kernel` or `copy`, not both"
  | .kernelOrCopyMissing node =>
    "node '" ++ node ++ "' must set one of `kernel` or `copy`"
  | .misspelledPlatform node cause =>
    "node '" ++ node ++ "' preferred_backend: " ++ cause.message
  | .misspelledAccess node buffer cause =>
    "node '" ++ node ++ "' access to '" ++ buffer ++ "': " ++ cause.message
  | .unknownBuffer node buffer =>
    "node '" ++ node ++ "' refers to unknown buffer '" ++ buffer ++ "'"
  | .windowOutside node buffer range =>
    "node '" ++ node ++ "' window on buffer '" ++ buffer ++
      "' does not fit its range " ++ Text.numberList range.toList
  | .unknownDependency node dependency =>
    "node '" ++ node ++ "' has unknown dependency '" ++ dependency ++
      "' in `after`"
  | .selfDependency node =>
    "node '" ++ node ++ "' cannot depend on itself in `after`"
  | .invalidRange buffer => "buffer '" ++ buffer ++ "' has an invalid range"
  | .unknownNode node => "unknown node '" ++ node ++ "'"
  | .misspelledNodeDevice node cause =>
    "node '" ++ node ++ "': " ++ cause.message
  | .unbuiltDependency node dependency =>
    "node '" ++ node ++ "' depends on '" ++ dependency ++
      "', which has not been built"
  | .windowUndefined node buffer =>
    "node '" ++ node ++ "' window on buffer '" ++ buffer ++ "' does not fit"
  | .misspelledMode node cause =>
    "node '" ++ node ++ "' access mode: " ++ cause.message
  | .noOperation node => "node '" ++ node ++ "' is neither a kernel nor a copy"
  | .unbuiltBuffer buffer => "buffer '" ++ buffer ++ "' was not built"
  | .unknownRequest node => "unknown node '" ++ node ++ "' requested"

end CoherentTasks.Scenario
