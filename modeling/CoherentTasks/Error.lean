import CoherentTasks.Identifier
import CoherentTasks.Scenario.Fault

/-!
# Errors

The causes for which an operation of the scheduler or of a scenario fails, the
kind of each, and its wording.
-/

namespace CoherentTasks

open CoherentTasks.Geometry (Box Triple)

inductive ErrorKind where
  | memoryAllocation
  | noUpdateSource
  | featureNotSupported
  | backendUnavailable
  | nodeNotFound
  | regionNotFound
  | invalidAccess
  | configuration
  | cycle
  | inputFile
  | document
  deriving DecidableEq, Repr

def ErrorKind.label : ErrorKind → String
  | .memoryAllocation => "Memory allocation error"
  | .noUpdateSource => "No update source"
  | .featureNotSupported => "Feature not supported"
  | .backendUnavailable => "Backend unavailable"
  | .nodeNotFound => "Node not found"
  | .regionNotFound => "Data region not found"
  | .invalidAccess => "Invalid access"
  | .configuration => "Configuration error"
  | .cycle => "Cycle detected in DAG"
  | .inputFile => "IO error"
  | .document => "TOML parsing error"

inductive FileFault where
  | missing
  | isDirectory
  | notText
  deriving DecidableEq, Repr

def FileFault.message : FileFault → String
  | .missing => "No such file or directory (os error 2)"
  | .isDirectory => "Is a directory (os error 21)"
  | .notText => "stream did not contain valid UTF-8"

/-- The causes of failure. -/
inductive Error where
  | bufferTooLarge (buffer : String) (range : Triple)
  | allocationRefused (bytes : Nat) (buffer : String) (device : Device)
  | initialAllocationRefused (bytes : Nat) (buffer : String) (device : Device)
  | noUpdateSource (part : Box) (buffer : String) (device : Device)
  | unboundNode
  | unboundRequirement (node : NodeId)
  | cancelledRequirement (node : NodeId)
  | cancelledPredecessor (predecessor node : NodeId)
  | unsubmittedPredecessor (predecessor node : NodeId)
  | requirementNotExecutable
  | noBackend (platform : Platform)
  | noAllocator (device : Device)
  | noExecutor (platform : Platform) (device : Device)
  | nodeNotFound (node : NodeId)
  | regionNotFound (region : RegionId)
  | windowOutside (window : Box) (buffer : String) (range : Triple)
  | scenario (fault : Scenario.Fault)
  | cycle (node : String)
  | file (fault : FileFault)
  | document
  deriving DecidableEq, Repr

namespace Error

def kind : Error → ErrorKind
  | .bufferTooLarge .. | .allocationRefused .. | .initialAllocationRefused .. =>
    .memoryAllocation
  | .noUpdateSource .. => .noUpdateSource
  | .unboundNode | .unboundRequirement .. | .cancelledRequirement .. |
      .cancelledPredecessor ..
  | .unsubmittedPredecessor .. | .requirementNotExecutable =>
    .featureNotSupported
  | .noBackend .. | .noAllocator .. | .noExecutor .. => .backendUnavailable
  | .nodeNotFound .. => .nodeNotFound
  | .regionNotFound .. => .regionNotFound
  | .windowOutside .. => .invalidAccess
  | .scenario .. => .configuration
  | .cycle .. => .cycle
  | .file .. => .inputFile
  | .document => .document

/-- The wording of an error behind the label of its kind. -/
def detail : Error → String
  | .bufferTooLarge buffer range =>
    "buffer '" ++ buffer ++ "' of " ++ Text.numberList range.toList ++
      " elements is too large to allocate"
  | .allocationRefused bytes buffer device =>
    "lazy allocation of " ++ toString bytes ++ " bytes for buffer '" ++
      buffer ++ "' on " ++ device.name ++ " failed"
  | .initialAllocationRefused bytes buffer device =>
    "initial allocation of " ++ toString bytes ++ " bytes for buffer '" ++
      buffer ++ "' on " ++ device.name ++ " failed"
  | .noUpdateSource part buffer device =>
    "no device holds valid data for offset " ++
      Text.numberList part.offset.toList ++ " extent " ++
      Text.numberList part.extent.toList ++ " of buffer '" ++ buffer ++
      "' needed on " ++ device.name
  | .unboundNode =>
    "direct scheduler does not support DAG nodes not bound to devices"
  | .unboundRequirement node =>
    "requirement " ++ nodeLabel node ++ " is not bound to a device"
  | .cancelledRequirement node =>
    "requirement " ++ nodeLabel node ++
      " was cancelled and cannot be resubmitted"
  | .cancelledPredecessor predecessor node =>
    nodeLabel predecessor ++ " required by " ++ nodeLabel node ++
      " was cancelled"
  | .unsubmittedPredecessor predecessor node =>
    "direct scheduler does not support processing multiple unsubmitted " ++
      "nodes (" ++ nodeLabel predecessor ++ " required by " ++ nodeLabel node ++
      " has not been submitted)"
  | .requirementNotExecutable =>
    "requirements cannot be dispatched to an executor"
  | .noBackend platform => "no backend registered for '" ++ platform.name ++ "'"
  | .noAllocator device => "no allocator for device " ++ device.name
  | .noExecutor platform device =>
    "backend '" ++ platform.name ++
      "' has no executor for device " ++ device.name
  | .nodeNotFound node => nodeLabel node
  | .regionNotFound region => regionLabel region
  | .windowOutside window buffer range =>
    "window offset " ++ Text.numberList window.offset.toList ++ " extent " ++
      Text.numberList window.extent.toList ++ " exceeds buffer '" ++ buffer ++
      "' of " ++ Text.numberList range.toList ++ " elements"
  | .scenario fault => fault.message
  | .cycle node =>
    "cycle detected in node graph involving node '" ++ node ++ "'"
  | .file fault => fault.message
  | .document => "malformed scenario"

def message (error : Error) : String :=
  error.kind.label ++ ": " ++ error.detail

end Error

end CoherentTasks
