/-!
# Access modes

How an access uses its window of a buffer. The discarding modes promise to
overwrite the whole window, so that its earlier contents are never needed.
-/

namespace CoherentTasks

/-- How a window is accessed. -/
inductive AccessMode where
  | read
  | write
  | readWrite
  | discardWrite
  | discardReadWrite
  deriving DecidableEq, Repr

namespace AccessMode

/-- Whether the earlier contents of the window are dropped. -/
def discards : AccessMode → Bool
  | .discardWrite | .discardReadWrite => true
  | _ => false

def writes : AccessMode → Bool
  | .read => false
  | _ => true

def name : AccessMode → String
  | .read => "read"
  | .write => "write"
  | .readWrite => "read_write"
  | .discardWrite => "discard_write"
  | .discardReadWrite => "discard_read_write"

def standard : AccessMode := .readWrite

end AccessMode

end CoherentTasks
