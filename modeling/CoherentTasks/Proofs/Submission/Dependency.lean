import CoherentTasks.Proofs.Completion.Handle
import CoherentTasks.Proofs.Graph.Walk
import CoherentTasks.Submission.Dependency

/-!
# What an operation waits for

The dependencies of an operation are the nodes that a walk through satisfied
nodes meets and whose work is outstanding, each with its handle.
-/

namespace CoherentTasks.Submission

open CoherentTasks.Completion (Signals)
open CoherentTasks.Graph (TaskGraph)

theorem outstanding?_eq_some_iff {graph : TaskGraph} {signals : Signals}
    {id : NodeId} {dependency : Dependency} :
    outstanding? graph signals id = some dependency ↔ dependency.node = id ∧
      dependency.handle.isComplete signals = false ∧ ∃ executor,
        graph.state? id = some (.submitted dependency.handle executor) := by
  simp only [outstanding?, TaskGraph.state?]
  cases graph.node? id with
  | none => simp
  | some node =>
      cases state : node.state with
      | unsubmitted => simp [state]
      | satisfied => simp [state]
      | cancelled => simp [state]
      | submitted handle executor =>
          obtain ⟨other, held⟩ := dependency
          by_cases complete : handle.isComplete signals = true
          · simp only [complete, if_true, state, Option.map_some]
            constructor
            · intro absurdity
              cases absurdity
            · intro waits
              obtain ⟨_, outstanding, binding, equal⟩ := waits
              cases equal
              rw [complete] at outstanding
              cases outstanding
          · have outstanding : handle.isComplete signals = false := by
              simpa using complete
            simp only [outstanding, Bool.false_eq_true, if_false, state,
              Option.map_some]
            constructor
            · intro equal
              cases equal
              exact ⟨rfl, outstanding, executor, rfl⟩
            · intro waits
              obtain ⟨sameNode, _, binding, equal⟩ := waits
              cases equal
              rw [← sameNode]

theorem mem_dependenciesOf_iff {graph : TaskGraph} {signals : Signals}
    {id : NodeId} {dependency : Dependency} :
    dependency ∈ dependenciesOf graph signals id ↔
      graph.Meets (·.isSatisfied) id dependency.node ∧
      dependency.handle.isComplete signals = false ∧
      ∃ executor, graph.state? dependency.node =
        some (.submitted dependency.handle executor) := by
  simp only [dependenciesOf]
  simp only [List.mem_filterMap, List.mem_filter, List.mem_range,
    outstanding?_eq_some_iff, List.contains_eq_mem, decide_eq_true_eq,
    TaskGraph.mem_walk_iff]
  constructor
  · intro listed
    obtain ⟨node, ⟨_, met⟩, rfl, outstanding, state⟩ := listed
    exact ⟨met, outstanding, state⟩
  · intro waits
    obtain ⟨met, outstanding, executor, state⟩ := waits
    obtain ⟨node, found, _⟩ := Option.map_eq_some_iff.mp state
    exact ⟨dependency.node, ⟨TaskGraph.lt_of_node?_eq_some found, met⟩, rfl,
      outstanding, executor, state⟩

/-- What is outstanding of a node is listed under its number. -/
theorem filter_outstanding? (graph : TaskGraph) (signals : Signals)
    (id : NodeId) (admits : NodeId → Bool) :
    (outstanding? graph signals id).filter (admits ·.node) =
      if admits id then outstanding? graph signals id else none := by
  cases found : outstanding? graph signals id with
  | none => simp
  | some dependency =>
      obtain ⟨ofNode, _⟩ := outstanding?_eq_some_iff.mp found
      simp only [Option.filter, ofNode]

/-- A node that is in the same state, and whose handle is as complete as before,
is as outstanding. -/
theorem outstanding?_congr {graph other : TaskGraph} {signals later : Signals}
    {id : NodeId} (same : other.state? id = graph.state? id)
    (complete : ∀ handle executor,
      graph.state? id = some (.submitted handle executor) →
      handle.isComplete later = handle.isComplete signals) :
    outstanding? other later id = outstanding? graph signals id := by
  apply Option.ext
  intro dependency
  rw [outstanding?_eq_some_iff, outstanding?_eq_some_iff, same]
  constructor
  · intro waits
    obtain ⟨ofNode, outstanding, executor, state⟩ := waits
    exact ⟨ofNode, (complete _ _ state).symm.trans outstanding, executor, state⟩
  · intro waits
    obtain ⟨ofNode, outstanding, executor, state⟩ := waits
    exact ⟨ofNode, (complete _ _ state).trans outstanding, executor, state⟩

/-- The dependencies are listed in the order of the node numbers, each node
once. -/
theorem ascending_dependenciesOf (graph : TaskGraph) (signals : Signals)
    (id : NodeId) :
    ((dependenciesOf graph signals id).map (·.node)).Pairwise (· < ·) := by
  rw [List.pairwise_map]
  simp only [dependenciesOf]
  refine List.Pairwise.filterMap _ ?_
    (List.Pairwise.filter _ List.pairwise_lt_range)
  intro first second less earlier isEarlier later isLater
  rw [(outstanding?_eq_some_iff.mp isEarlier).1,
    (outstanding?_eq_some_iff.mp isLater).1]
  exact less

/-- The dependencies, number by number. -/
theorem dependenciesOf_eq (graph : TaskGraph) (signals : Signals)
    (id : NodeId) :
    dependenciesOf graph signals id =
      (List.range graph.slots.length).filterMap fun other =>
      if other ∈ graph.walk (·.isSatisfied) id
        then outstanding? graph signals other else none := by
  simp only [dependenciesOf]
  rw [List.filterMap_filter]
  simp

end CoherentTasks.Submission
