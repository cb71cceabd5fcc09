import CoherentTasks.Graph.Basic

/-!
# Pruning

Finished nodes can be removed once no unfinished node requires them.
-/

namespace CoherentTasks.Graph.TaskGraph

open CoherentTasks.Completion (Signals)

/-- The nodes required by nodes that are not finished. -/
def referenced (graph : TaskGraph) (signals : Signals) : List NodeId :=
  graph.slots.flatMap fun
    | some node => if node.isRetired signals then [] else node.requirements
    | none => []

def isRemovable (graph : TaskGraph) (signals : Signals) (id : NodeId) : Bool :=
  match graph.node? id with
  | some node =>
    node.isRetired signals && !(graph.referenced signals).contains id
  | none => false

/-- Removes finished nodes that no unfinished node requires. Their numbers stay
out of use, and finished nodes may go on naming them. -/
def prune (graph : TaskGraph) (signals : Signals) : TaskGraph :=
  { graph with
    slots := graph.slots.mapIdx fun id slot =>
      if graph.isRemovable signals id then none else slot }

end CoherentTasks.Graph.TaskGraph
