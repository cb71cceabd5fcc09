import CoherentTasks.Graph.Pruning
import CoherentTasks.Proofs.Completion.Handle
import CoherentTasks.Proofs.Graph.Cancellation
import CoherentTasks.Proofs.Graph.WellFormed

/-!
# What pruning removes

Pruning empties the slots of retired nodes that no other node needs, and leaves
everything else. A change of a node is the same before and after any removal.
-/

namespace CoherentTasks.Graph

open CoherentTasks.Coherence (Region)
open CoherentTasks.Completion (Handle Signals)

namespace Node

theorem isRetired_of_unsubmitted {node : Node}
    (waits : node.state = .unsubmitted) (signals : Signals) :
    node.isRetired signals = false := by
  simp [isRetired, isComplete, isCancelled, waits]

/-- A node stays retired while its state stays and signals fire. -/
theorem isRetired_mono {node other : Node} {before after : Signals}
    (same : other.state = node.state) (later : before.Extends after)
    (retired : node.isRetired before = true) :
    other.isRetired after = true := by
  simp only [isRetired, isComplete, isCancelled, Bool.or_eq_true] at retired ⊢
  rw [same]
  cases state : node.state with
  | unsubmitted => simp [state] at retired
  | satisfied => simp
  | cancelled => simp
  | submitted handle executor =>
      simp only [state, Bool.false_eq_true, or_false] at retired ⊢
      exact Handle.isComplete_mono later retired

end Node

namespace TaskGraph

/-- The graph without some nodes. -/
def without (graph : TaskGraph) (removed : NodeId → Bool) : TaskGraph :=
  { graph with
    slots :=
      graph.slots.mapIdx fun id slot => if removed id then none else slot }

section Without

variable (graph : TaskGraph) (removed : NodeId → Bool)

theorem prune_eq (signals : Signals) :
    graph.prune signals = graph.without (graph.isRemovable signals) := rfl

private theorem regions_without :
    (graph.without removed).regions = graph.regions := rfl

theorem length_slots_without :
    (graph.without removed).slots.length = graph.slots.length :=
  List.length_mapIdx

theorem node?_without (id : NodeId) :
    (graph.without removed).node? id =
      if removed id then none else graph.node? id := by
  simp only [node?, without]
  rw [List.getElem?_mapIdx]
  cases graph.slots[id]? with
  | none => simp
  | some slot => by_cases gone : removed id = true <;> simp [gone]

theorem node?_without_of_some {id : NodeId} {node : Node}
    (found : (graph.without removed).node? id = some node) :
    removed id = false ∧ graph.node? id = some node := by
  rw [node?_without] at found
  cases gone : removed id with
  | true => simp [gone] at found
  | false => exact ⟨rfl, by simpa [gone] using found⟩

theorem node?_without_of_kept {id : NodeId} (kept : removed id = false) :
    (graph.without removed).node? id = graph.node? id := by
  rw [node?_without, kept]
  rfl

theorem updateNode_without (id : NodeId) (change : Node → Node) :
    (graph.without removed).updateNode id change =
      (graph.updateNode id change).without removed := by
  have slots : ((graph.without removed).updateNode id change).slots =
      ((graph.updateNode id change).without removed).slots := by
    simp only [without, updateNode]
    apply List.ext_getElem?
    intro place
    rw [List.getElem?_modify, List.getElem?_mapIdx, List.getElem?_mapIdx,
      List.getElem?_modify]
    cases graph.slots[place]? with
    | none => simp
    | some slot =>
        by_cases gone : removed place = true <;> by_cases here : id = place <;>
          simp [gone, here]
  simp only [without, updateNode] at slots ⊢
  rw [slots]

theorem updateRegion_without (id : RegionId) (change : Region → Region) :
    (graph.without removed).updateRegion id change =
      (graph.updateRegion id change).without removed := rfl

theorem requires_without_iff {dependent required : NodeId} :
    (graph.without removed).Requires dependent required ↔
      removed dependent = false ∧ graph.Requires dependent required := by
  rw [requires_iff, requires_iff]
  constructor
  · intro edge
    obtain ⟨node, found, member⟩ := edge
    obtain ⟨kept, isNode⟩ := node?_without_of_some graph removed found
    exact ⟨kept, node, isNode, member⟩
  · intro edge
    obtain ⟨kept, node, found, member⟩ := edge
    exact ⟨node, (node?_without_of_kept graph removed kept).trans found, member⟩

theorem state?_without_of_some {id : NodeId} {state : State}
    (found : (graph.without removed).state? id = some state) :
    graph.state? id = some state := by
  obtain ⟨node, isNode, same⟩ := Option.map_eq_some_iff.mp found
  obtain ⟨_, kept⟩ := node?_without_of_some graph removed isNode
  exact Option.map_eq_some_iff.mpr ⟨node, kept, same⟩

theorem state?_without_of_kept {id : NodeId} (kept : removed id = false) :
    (graph.without removed).state? id = graph.state? id := by
  simp only [state?]
  rw [node?_without_of_kept graph removed kept]

theorem state?_without_of_removed {id : NodeId} (gone : removed id = true) :
    (graph.without removed).state? id = none := by
  simp only [state?]
  rw [node?_without, gone]
  rfl

theorem WellFormed.without {graph : TaskGraph} (wellFormed : graph.WellFormed)
    (removed : NodeId → Bool) : (graph.without removed).WellFormed where
  earlier edge :=
    wellFormed.earlier ((requires_without_iff graph removed).mp edge).2
  tracked found states :=
    wellFormed.tracked (node?_without_of_some graph removed found).2 states
  numbered found := wellFormed.numbered found

private theorem passage_without {passes : Node → Bool} {here next : NodeId}
    (edge : (graph.without removed).Passage passes here next) :
    graph.Passage passes here next := by
  obtain ⟨node, found, through, required⟩ := edge
  exact ⟨node, (node?_without_of_some graph removed found).2, through, required⟩

/-- Without some nodes, a walk meets at most what it met before. -/
theorem meets_of_without {passes : Node → Bool} {root id : NodeId}
    (met : (graph.without removed).Meets passes root id) :
    graph.Meets passes root id :=
  (meets_of_within (fun _ => True)
    (fun _ edge => ⟨((requires_without_iff graph removed).mp edge).2, trivial⟩)
    (fun _ _ _ edge => ⟨passage_without graph removed edge, trivial⟩) met).1

/-- A walk still meets a node to which no removed node leads. -/
theorem meets_without {passes : Node → Bool} {root id : NodeId}
    (kept : removed root = false)
    (clear : ∀ here next, removed here = true → graph.Passage passes here next →
      ¬ graph.Meets passes here id) (met : graph.Meets passes root id) :
    (graph.without removed).Meets passes root id := by
  obtain ⟨first, edge, leads⟩ := met
  refine ⟨first, (requires_without_iff graph removed).mpr ⟨kept, edge⟩, ?_⟩
  clear edge
  induction leads using Relation.ReflTransGen.head_induction_on with
  | refl => exact .refl
  | head step rest induction =>
      rename_i here next
      have stays : removed here = false := by
        by_contra gone
        exact clear here next (by simpa using gone) step
          ⟨next, step.requires, rest⟩
      obtain ⟨node, found, through, required⟩ := step
      exact .head
        ⟨node, (node?_without_of_kept graph removed stays).trans found,
          through, required⟩ induction

/-- When no node that waits for its submission is removed, giving up a node
commutes with the removal. -/
theorem abort_without {root : NodeId}
    (kept : ∀ id, graph.state? id = some .unsubmitted → removed id = false)
    (waits : graph.state? root = some .unsubmitted) :
    ((graph.without removed).abort root).2 =
      (graph.abort root).2.without removed := by
  have sameState {id : NodeId} :
      (graph.without removed).state? id = some .unsubmitted ↔
        graph.state? id = some .unsubmitted :=
    ⟨state?_without_of_some graph removed, fun unsubmitted =>
      (state?_without_of_kept graph removed (kept id unsubmitted)).trans
        unsubmitted⟩
  have sameMeets {id : NodeId} :
      (graph.without removed).Meets Node.isUnsubmitted root id ↔
        graph.Meets Node.isUnsubmitted root id := by
    refine ⟨meets_of_without graph removed, fun met => ?_⟩
    refine (meets_of_within (fun _ => True) (fun first edge => ⟨?_, trivial⟩)
      (fun here next _ edge => ⟨?_, trivial⟩) met).1
    · exact (requires_without_iff graph removed).mpr ⟨kept root waits, edge⟩
    · obtain ⟨node, found, through, required⟩ := edge
      have unsubmitted : graph.state? here = some .unsubmitted :=
        Option.map_eq_some_iff.mpr
          ⟨node, found, Node.isUnsubmitted_iff.mp through⟩
      exact ⟨node,
        (node?_without_of_kept graph removed (kept here unsubmitted)).trans
          found, through, required⟩
  have sameCancelled {id : NodeId} :
      id ∈ (graph.without removed).cancellations root ↔
        id ∈ graph.cancellations root := by
    rw [mem_cancellations_iff, mem_cancellations_iff, sameState, sameMeets]
  apply eq_of_node?
  case length =>
    rw [length_slots_abort, length_slots_without, length_slots_without,
      length_slots_abort]
  case nodes =>
    intro id
    simp only [abort]
    rw [node?_cancelAll, node?_without, node?_without, node?_cancelAll]
    by_cases cancelled : id ∈ graph.cancellations root
    · rw [if_pos cancelled, if_pos (sameCancelled.mpr cancelled)]
      cases removed id <;> rfl
    · rw [if_neg cancelled,
        if_neg fun there => cancelled (sameCancelled.mp there)]
  case regions =>
    rw [regions_abort, regions_without, regions_without, regions_abort]

end Without

section Removable

variable {graph : TaskGraph} {signals : Signals} {id : NodeId}

/-- The node of this number was not removed, and something may still happen to
it. -/
def Active (graph : TaskGraph) (signals : Signals) (id : NodeId) (node : Node) :
    Prop :=
  graph.node? id = some node ∧ node.isRetired signals = false

private theorem mem_referenced_iff :
    id ∈ graph.referenced signals ↔ ∃ dependent node,
      graph.Active signals dependent node ∧ id ∈ node.requirements := by
  simp only [referenced, List.mem_flatMap, Active, node?]
  constructor
  · intro member
    obtain ⟨slot, isSlot, required⟩ := member
    cases slot with
    | none => exact absurd required List.not_mem_nil
    | some node =>
        simp only at required
        split at required
        · exact absurd required List.not_mem_nil
        · rename_i active
          obtain ⟨dependent, bound, isNode⟩ := List.getElem_of_mem isSlot
          refine ⟨dependent, node, ⟨?_, by simpa using active⟩, required⟩
          rw [List.getElem?_eq_getElem bound, isNode]
          rfl
  · intro required
    obtain ⟨dependent, node, ⟨found, active⟩, member⟩ := required
    have isSlot := List.mem_of_getElem? (Option.join_eq_some_iff.mp found)
    exact ⟨some node, isSlot, by simpa [active] using member⟩

theorem isRemovable_iff :
    graph.isRemovable signals id = true ↔
      (∃ node, graph.node? id = some node ∧ node.isRetired signals = true) ∧
      ∀ dependent node,
        graph.Active signals dependent node → id ∉ node.requirements := by
  simp only [isRemovable]
  cases found : graph.node? id with
  | none => simp
  | some node =>
      simp only [Bool.and_eq_true, Bool.not_eq_true', List.contains_eq_mem,
        decide_eq_false_iff_not, mem_referenced_iff]
      simp

/-- A node that waits for its submission is not removed. -/
theorem isRemovable_of_unsubmitted
    (waits : graph.state? id = some .unsubmitted) :
    graph.isRemovable signals id = false := by
  by_contra removable
  obtain ⟨⟨node, found, retired⟩, _⟩ :=
    isRemovable_iff.mp (Bool.not_eq_false _ ▸ removable)
  obtain ⟨other, isNode, state⟩ := Option.map_eq_some_iff.mp waits
  rw [found] at isNode
  cases isNode
  rw [Node.isRetired_of_unsubmitted state] at retired
  cases retired

/-- What such a node requires is not removed either. -/
theorem isRemovable_of_required {dependent : NodeId}
    (waits : graph.state? dependent = some .unsubmitted)
    (edge : graph.Requires dependent id) :
    graph.isRemovable signals id = false := by
  by_contra removable
  have unneeded := (isRemovable_iff.mp (Bool.not_eq_false _ ▸ removable)).2
  obtain ⟨node, found, member⟩ := requires_iff.mp edge
  obtain ⟨other, isNode, state⟩ := Option.map_eq_some_iff.mp waits
  rw [found] at isNode
  cases isNode
  exact unneeded dependent node
    ⟨found, Node.isRetired_of_unsubmitted state signals⟩ member

end Removable

end TaskGraph

end CoherentTasks.Graph
