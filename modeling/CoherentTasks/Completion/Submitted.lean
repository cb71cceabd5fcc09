import CoherentTasks.Completion.Waiter
import CoherentTasks.Identifier

/-!
# Submitted operations

The register of the nodes submitted so far. A node whose requirements needed no
work has no handle.
-/

namespace CoherentTasks.Completion

structure Submission where
  node : NodeId
  handle : Option Handle

def Submission.isPending (signals : Signals) (submission : Submission) : Bool :=
  match submission.handle with
  | some handle => !handle.isComplete signals
  | none => false

/-- The nodes submitted so far, in the order of submission. -/
structure Submitted where
  submissions : List Submission

namespace Submitted

def empty : Submitted := ⟨[]⟩

def register (submitted : Submitted) (node : NodeId) (handle : Option Handle) :
    Submitted :=
  ⟨submitted.submissions ++ [⟨node, handle⟩]⟩

/-- Number of nodes whose work is outstanding. -/
def pending (signals : Signals) (submitted : Submitted) : Nat :=
  submitted.submissions.countP (·.isPending signals)

def nodes (submitted : Submitted) : List NodeId :=
  submitted.submissions.map (·.node)

/-- Forgets the nodes without outstanding work. -/
def purge (signals : Signals) (submitted : Submitted) : Submitted :=
  ⟨submitted.submissions.filter (·.isPending signals)⟩

def handles (submitted : Submitted) : List Handle :=
  submitted.submissions.filterMap (·.handle)

/-- Waits for everything that is registered at the moment. -/
def waitAll (submitted : Submitted) : Waiter :=
  Waiter.ofHandles submitted.handles

end Submitted

end CoherentTasks.Completion
