import CoherentTasks.Graph.Basic

/-!
# Walks

A depth-first walk along requirement edges. It goes on from a visited node to
some of its requirements, the last one first, and visits no node twice.
-/

namespace CoherentTasks.Graph

/-- Visits the nodes of the stack, its head first, and those that `onward` leads
to. Each step takes one number off the stack. -/
def visit (onward : NodeId → List NodeId) :
    Nat → List NodeId → List NodeId → List NodeId
  | 0, _, visited => visited
  | _ + 1, [], visited => visited
  | steps + 1, id :: stack, visited =>
    if id ∈ visited then visit onward steps stack visited
    else visit onward steps ((onward id).reverse ++ stack) (visited ++ [id])

namespace TaskGraph

def edgeCount (graph : TaskGraph) : Nat :=
  ((List.range graph.slots.length).map
    fun id => (graph.requirementsOf id).length).foldr
    (· + ·) 0

/-- The nodes met on a walk from the requirements of `root`, in the order of the
visits. The walk goes on behind the nodes for which `passes` holds. Every edge
is followed at most once, apart from those of the root, which bounds the number
of steps. -/
def walk (graph : TaskGraph) (passes : Node → Bool) (root : NodeId) :
    List NodeId :=
  let onward (id : NodeId) : List NodeId :=
    match graph.node? id with
    | some node => if passes node then node.requirements else []
    | none => []
  let first := graph.requirementsOf root
  visit onward (graph.edgeCount + first.length) first.reverse []

/-- All nodes that come before a node, in the order of the visits. -/
def ancestors (graph : TaskGraph) (root : NodeId) : List NodeId :=
  graph.walk (fun _ => true) root

end TaskGraph

end CoherentTasks.Graph
