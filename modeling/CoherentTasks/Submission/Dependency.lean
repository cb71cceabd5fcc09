import CoherentTasks.Graph.Walk
import CoherentTasks.Journal

/-!
# Dependencies

The nodes that an operation has to wait for: those required by its node, where a
node without work of its own stands for the nodes that it requires in turn.
Complete nodes are left out.
-/

namespace CoherentTasks.Submission

open CoherentTasks.Completion (Signals)
open CoherentTasks.Graph (TaskGraph)

/-- The handle of a node whose work is outstanding. -/
def outstanding? (graph : TaskGraph) (signals : Signals) (id : NodeId) :
    Option Dependency :=
  match graph.node? id with
  | none => none
  | some node =>
    match node.state with
    | .submitted handle _ =>
      if handle.isComplete signals then none else some ⟨id, handle⟩
    | _ => none

/-- What an operation of a node has to wait for, in the order of the node
numbers. -/
def dependenciesOf (graph : TaskGraph) (signals : Signals) (id : NodeId) :
    List Dependency :=
  let met := graph.walk (·.isSatisfied) id
  ((List.range graph.slots.length).filter met.contains).filterMap
    (outstanding? graph signals)

end CoherentTasks.Submission
