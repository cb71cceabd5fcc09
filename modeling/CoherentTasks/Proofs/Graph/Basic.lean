import CoherentTasks.Graph.Basic
import CoherentTasks.Proofs.Coherence.Region
import Mathlib.Logic.Relation

/-!
# Nodes, their requirements and their states

What a node is for is fixed when it is added; only how far it has come changes.
This module separates the two: graphs that agree on the former have the same
requirement edges.
-/

namespace CoherentTasks.Graph

open CoherentTasks.Coherence (Region)

theorem Operation.requirement?_eq_some_iff {operation : Operation}
    {requirement : Requirement} :
    operation.requirement? = some requirement ↔
      operation = .requirement requirement := by
  simp only [requirement?]
  cases operation <;> simp

theorem Operation.isRequirement_iff {operation : Operation} :
    operation.isRequirement = true ↔
      ∃ requirement, operation = .requirement requirement := by
  simp only [isRequirement]
  simp only [Option.isSome_iff_exists, requirement?_eq_some_iff]

namespace Node

/-- The node as it was when it was added. -/
def created (node : Node) : Node :=
  create node.operation node.requirements node.hint

theorem created_eq_iff {left right : Node} :
    left.created = right.created ↔ left.operation = right.operation ∧
      left.requirements = right.requirements ∧ left.hint = right.hint := by
  simp [created, create]

theorem isSubmitted_iff {node : Node} :
    node.isSubmitted = true ↔ node.state = .satisfied ∨
      ∃ handle executor, node.state = .submitted handle executor := by
  simp only [isSubmitted]
  cases node.state <;> simp

theorem isUnsubmitted_iff {node : Node} :
    node.isUnsubmitted = true ↔ node.state = .unsubmitted := by
  simp only [isUnsubmitted]
  cases node.state <;> simp

/-- A node that was neither submitted nor cancelled still waits. -/
theorem waits_of_not {node : Node} (notSubmitted : ¬ node.isSubmitted = true)
    (notCancelled : ¬ node.isCancelled = true) : node.state = .unsubmitted := by
  cases state : node.state <;> simp_all [isSubmitted, isCancelled]

theorem isSatisfied_iff {node : Node} :
    node.isSatisfied = true ↔ node.state = .satisfied := by
  simp only [isSatisfied]
  cases node.state <;> simp

end Node

namespace TaskGraph

section Lookups

variable (graph : TaskGraph)

theorem node?_updateNode (id other : NodeId) (change : Node → Node) :
    (graph.updateNode id change).node? other = if other = id
      then (graph.node? other).map change else graph.node? other := by
  simp only [node?, updateNode]
  rw [List.getElem?_modify]
  by_cases same : id = other
  · subst same
    cases graph.slots[id]? with
    | none => simp
    | some slot => cases slot <;> simp
  · have different : other ≠ id := fun equal => same equal.symm
    simp [same, different]

theorem node?_updateNode_self {graph : TaskGraph} {id : NodeId} {node : Node}
    {change : Node → Node} (found : graph.node? id = some node) :
    (graph.updateNode id change).node? id = some (change node) := by
  rw [node?_updateNode, if_pos rfl, found]
  rfl

theorem node?_updateNode_other {graph : TaskGraph} {id other : NodeId}
    {change : Node → Node} (different : other ≠ id) :
    (graph.updateNode id change).node? other = graph.node? other := by
  rw [node?_updateNode, if_neg different]

@[simp]
theorem node?_updateRegion (id : RegionId) (other : NodeId)
    (change : Region → Region) :
    (graph.updateRegion id change).node? other = graph.node? other := rfl

@[simp]
theorem region?_updateNode (id : NodeId) (other : RegionId)
    (change : Node → Node) :
    (graph.updateNode id change).region? other = graph.region? other := rfl

theorem region?_updateRegion (id other : RegionId) (change : Region → Region) :
    (graph.updateRegion id change).region? other = if other = id
      then (graph.region? other).map change else graph.region? other := by
  simp only [region?, updateRegion]
  rw [List.getElem?_modify]
  by_cases same : id = other
  · subst same
    simp
  · have different : other ≠ id := fun equal => same equal.symm
    simp [same, different]

theorem length_slots_updateNode (id : NodeId) (change : Node → Node) :
    (graph.updateNode id change).slots.length = graph.slots.length :=
  List.length_modify _ _ _

theorem lt_of_node?_eq_some {graph : TaskGraph} {id : NodeId} {node : Node}
    (found : graph.node? id = some node) : id < graph.slots.length := by
  simp only [node?] at found
  by_contra beyond
  rw [List.getElem?_eq_none (Nat.le_of_not_lt beyond)] at found
  cases found

/-- Graphs with as many slots, the same nodes and the same regions are equal. -/
theorem eq_of_node? {graph other : TaskGraph}
    (length : other.slots.length = graph.slots.length)
    (nodes : ∀ id, other.node? id = graph.node? id)
    (regions : other.regions = graph.regions) : other = graph := by
  have slots : other.slots = graph.slots := by
    refine List.ext_getElem length fun place there here => ?_
    have same := nodes place
    simp only [node?] at same
    rwa [List.getElem?_eq_getElem there, List.getElem?_eq_getElem here] at same
  obtain ⟨slotsHere, regionsHere⟩ := graph
  obtain ⟨slotsThere, regionsThere⟩ := other
  simp only at slots regions
  rw [slots, regions]

end Lookups

/-- A node requires another one directly. -/
def Requires (graph : TaskGraph) (dependent required : NodeId) : Prop :=
  required ∈ graph.requirementsOf dependent

/-- A node is reached from another one along requirement edges. -/
def DependsOn (graph : TaskGraph) : NodeId → NodeId → Prop :=
  Relation.TransGen graph.Requires

theorem requires_iff {graph : TaskGraph} {dependent required : NodeId} :
    graph.Requires dependent required ↔ ∃ node,
      graph.node? dependent = some node ∧ required ∈ node.requirements := by
  simp only [Requires, requirementsOf]
  cases graph.node? dependent <;> simp

/-- The nodes are for the same. -/
def SameNodes (graph other : TaskGraph) : Prop :=
  ∀ id, (graph.node? id).map Node.created = (other.node? id).map Node.created

namespace SameNodes

variable {graph other third : TaskGraph}

theorem refl (graph : TaskGraph) : graph.SameNodes graph := fun _ => rfl

theorem of_node? (same : ∀ id, other.node? id = graph.node? id) :
    graph.SameNodes other :=
  fun id => congrArg (Option.map Node.created) (same id).symm

theorem symm (same : graph.SameNodes other) : other.SameNodes graph :=
  fun id => (same id).symm

theorem trans (same : graph.SameNodes other) (rest : other.SameNodes third) :
    graph.SameNodes third :=
  fun id => (same id).trans (rest id)

theorem node (same : graph.SameNodes other) {id : NodeId} {node : Node}
    (found : graph.node? id = some node) :
    ∃ counterpart, other.node? id = some counterpart ∧
      counterpart.operation = node.operation ∧
      counterpart.requirements = node.requirements ∧
      counterpart.hint = node.hint := by
  have agree := same id
  rw [found, Option.map_some] at agree
  obtain ⟨counterpart, isNode, equal⟩ := Option.map_eq_some_iff.mp agree.symm
  exact ⟨counterpart, isNode, Node.created_eq_iff.mp equal⟩

theorem requirementsOf (same : graph.SameNodes other) (id : NodeId) :
    graph.requirementsOf id = other.requirementsOf id := by
  simp only [TaskGraph.requirementsOf]
  cases found : graph.node? id with
  | none =>
      have agree := same id
      rw [found, Option.map_none] at agree
      rw [Option.map_eq_none_iff.mp agree.symm]
  | some node =>
      obtain ⟨counterpart, isNode, _, requirements, _⟩ := same.node found
      rw [isNode]
      exact requirements.symm

theorem requires (same : graph.SameNodes other) :
    graph.Requires = other.Requires := by
  funext dependent required
  simp only [Requires]
  rw [same.requirementsOf dependent]

theorem dependsOn (same : graph.SameNodes other) :
    graph.DependsOn = other.DependsOn := by
  simp only [DependsOn]
  rw [same.requires]

end SameNodes

theorem sameNodes_updateNode (graph : TaskGraph) (id : NodeId)
    {change : Node → Node}
    (keeps : ∀ node, (change node).created = node.created) :
    graph.SameNodes (graph.updateNode id change) := by
  intro other
  rw [node?_updateNode]
  split
  · rw [Option.map_map]
    exact congrArg (fun function => Option.map function _)
      (funext fun node => (keeps node).symm)
  · rfl

/-- How far the node of this number has come. -/
def state? (graph : TaskGraph) (id : NodeId) : Option State :=
  (graph.node? id).map (·.state)

theorem state?_congr {graph other : TaskGraph} {id : NodeId}
    (same : other.node? id = graph.node? id) :
    other.state? id = graph.state? id :=
  congrArg (Option.map Node.state) same

theorem state_of_state? {graph : TaskGraph} {id : NodeId} {node : Node}
    {state : State} (found : graph.node? id = some node)
    (same : graph.state? id = some state) : node.state = state := by
  simp only [state?] at same
  rw [found] at same
  exact Option.some.inj same

theorem state?_of_node? {graph : TaskGraph} {id : NodeId} {node : Node}
    {state : State} (found : graph.node? id = some node)
    (same : node.state = state) : graph.state? id = some state := by
  simp only [state?]
  rw [found, Option.map_some, same]

/-- The node of this number was submitted. -/
def Submitted (graph : TaskGraph) (id : NodeId) : Prop :=
  graph.state? id = some .satisfied ∨
    ∃ handle executor, graph.state? id = some (.submitted handle executor)

theorem submitted_iff {graph : TaskGraph} {id : NodeId} {node : Node}
    (found : graph.node? id = some node) :
    graph.Submitted id ↔ node.isSubmitted = true := by
  simp only [Submitted, state?]
  rw [found, Node.isSubmitted_iff]
  simp

theorem Submitted.not_unsubmitted {graph : TaskGraph} {id : NodeId}
    (submitted : graph.Submitted id) : graph.state? id ≠ some .unsubmitted := by
  intro unsubmitted
  rcases submitted with satisfied | ⟨handle, executor, outstanding⟩
  · rw [satisfied] at unsubmitted
    cases unsubmitted
  · rw [outstanding] at unsubmitted
    cases unsubmitted

theorem state?_updateNode (graph : TaskGraph) (id other : NodeId)
    {change : Node → Node} (keeps : ∀ node, (change node).state = node.state) :
    (graph.updateNode id change).state? other = graph.state? other := by
  simp only [state?]
  rw [node?_updateNode]
  split
  · rw [Option.map_map]
    exact congrArg (fun function => Option.map function _) (funext keeps)
  · rfl

/-- The device to which the node of this number was bound. -/
def device? (graph : TaskGraph) (id : NodeId) : Option Device :=
  (graph.node? id).bind (·.device)

theorem device?_updateNode (graph : TaskGraph) (id other : NodeId)
    {change : Node → Node}
    (keeps : ∀ node, (change node).device = node.device) :
    (graph.updateNode id change).device? other = graph.device? other := by
  simp only [device?]
  rw [node?_updateNode]
  split
  · cases graph.node? other with
    | none => rfl
    | some node => exact keeps node
  · rfl

end TaskGraph

end CoherentTasks.Graph
