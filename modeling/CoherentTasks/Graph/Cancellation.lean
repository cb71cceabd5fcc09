import CoherentTasks.Graph.Walk

/-!
# Cancellation

Giving up a node cancels everything that still had to be submitted for it.
-/

namespace CoherentTasks.Graph.TaskGraph

def awaitsSubmission (graph : TaskGraph) (id : NodeId) : Bool :=
  match graph.node? id with
  | some node => node.isUnsubmitted
  | none => false

/-- The unsubmitted nodes to be cancelled together with `root`, and the root at
the end. Behind a node that was submitted or cancelled there is nothing left to
cancel. -/
def cancellations (graph : TaskGraph) (root : NodeId) : List NodeId :=
  ((graph.walk Node.isUnsubmitted root) ++ [root]).filter graph.awaitsSubmission

def cancelAll (graph : TaskGraph) (ids : List NodeId) : TaskGraph :=
  ids.foldl (fun graph id => graph.updateNode id Node.cancel) graph

/-- Cancels a node and everything that still had to be submitted for it. -/
def abort (graph : TaskGraph) (root : NodeId) : List NodeId × TaskGraph :=
  let cancelled := graph.cancellations root
  (cancelled, graph.cancelAll cancelled)

end CoherentTasks.Graph.TaskGraph
