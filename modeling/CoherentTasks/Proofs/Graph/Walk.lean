import CoherentTasks.Graph.Walk
import CoherentTasks.Proofs.Graph.Basic
import Mathlib.Algebra.Order.BigOperators.Group.List

/-!
# What a walk meets

A walk meets exactly the nodes to which requirement edges lead from its root
through nodes that let it pass. The number of steps suffices because every edge
is followed once.
-/

namespace CoherentTasks.Graph

section Visit

variable {onward : NodeId → List NodeId}

private theorem mem_visit_of_visited {steps : Nat} {stack visited : List NodeId}
    {id : NodeId} (member : id ∈ visited) :
    id ∈ visit onward steps stack visited := by
  induction steps generalizing stack visited with
  | zero => exact member
  | succ steps induction =>
      cases stack with
      | nil => exact member
      | cons head stack =>
          simp only [visit]
          split
          · exact induction member
          · exact induction (List.mem_append_left _ member)

/-- What was visited is passed over, so nothing is visited twice. -/
private theorem nodup_visit {steps : Nat} {stack visited : List NodeId}
    (distinct : visited.Nodup) : (visit onward steps stack visited).Nodup := by
  induction steps generalizing stack visited with
  | zero => exact distinct
  | succ steps induction =>
      cases stack with
      | nil => exact distinct
      | cons head stack =>
          simp only [visit]
          split
          · exact induction distinct
          · rename_i fresh
            exact induction
              ((List.perm_append_singleton head visited).nodup_iff.mpr
                (List.nodup_cons.mpr ⟨fresh, distinct⟩))

/-- A visited node was visited before, or something on the stack leads to it. -/
private theorem mem_visit_sound {steps : Nat} {stack visited : List NodeId}
    {id : NodeId} (member : id ∈ visit onward steps stack visited) :
    id ∈ visited ∨ ∃ first ∈ stack,
      Relation.ReflTransGen (fun here next => next ∈ onward here) first id := by
  induction steps generalizing stack visited with
  | zero => exact .inl member
  | succ steps induction =>
      cases stack with
      | nil => exact .inl member
      | cons head stack =>
          simp only [visit] at member
          split at member
          · rcases induction member with old | ⟨first, onStack, leads⟩
            · exact .inl old
            · exact .inr ⟨first, List.mem_cons_of_mem _ onStack, leads⟩
          · rcases induction member with old | ⟨first, onStack, leads⟩
            · rcases List.mem_append.mp old with older | isHead
              · exact .inl older
              · rw [List.mem_singleton.mp isHead]
                exact .inr ⟨head, List.mem_cons_self, .refl⟩
            · rcases List.mem_append.mp onStack with fresh | onRest
              · exact .inr ⟨head, List.mem_cons_self,
                  .head (List.mem_reverse.mp fresh) leads⟩
              · exact .inr ⟨first, List.mem_cons_of_mem _ onRest, leads⟩

/-- The edges that lead on from nodes that were not visited yet. -/
def remaining (onward : NodeId → List NodeId) (known visited : List NodeId) :
    Nat :=
  ((known.filter (· ∉ visited)).map fun id => (onward id).length).sum

private theorem remaining_cons (head : NodeId) (known visited : List NodeId) :
    remaining onward (head :: known) visited =
      (if head ∈ visited then 0 else (onward head).length) +
        remaining onward known visited := by
  simp only [remaining]
  by_cases seen : head ∈ visited <;> simp [seen]

private theorem remaining_le (known visited : List NodeId) (id : NodeId) :
    remaining onward known (visited ++ [id]) ≤
      remaining onward known visited := by
  induction known with
  | nil => exact Nat.le_refl _
  | cons head known induction =>
      rw [remaining_cons, remaining_cons]
      by_cases seen : head ∈ visited
      · simpa [seen] using induction
      · by_cases here : head = id <;> simp [seen, here] <;> omega

/-- Visiting a node uses up the edges that lead on from it. -/
private theorem remaining_visit {known visited : List NodeId} {id : NodeId}
    (member : id ∈ known) (fresh : id ∉ visited) :
    (onward id).length + remaining onward known (visited ++ [id]) ≤
      remaining onward known visited := by
  induction known with
  | nil => exact absurd member List.not_mem_nil
  | cons head known induction =>
      rw [remaining_cons, remaining_cons]
      by_cases here : head = id
      · subst here
        have less :
            remaining onward known (visited ++ [head]) ≤
              remaining onward known visited :=
          remaining_le known visited head
        simp [fresh]
        omega
      · have later : id ∈ known := by
          rcases List.mem_cons.mp member with equal | later
          · exact absurd equal.symm here
          · exact later
        have less := induction later
        by_cases seen : head ∈ visited <;> simp [seen, here] <;> omega

private theorem remaining_visit_le {known visited : List NodeId}
    (outside : ∀ id, id ∉ known → onward id = []) {id : NodeId}
    (fresh : id ∉ visited) :
    (onward id).length + remaining onward known (visited ++ [id]) ≤
      remaining onward known visited := by
  by_cases member : id ∈ known
  · exact remaining_visit member fresh
  · rw [outside id member, List.length_nil, Nat.zero_add]
    exact remaining_le known visited id

/-- Steps that are enough for a stack are, after the visit of its head, enough
for what the head adds. -/
private theorem length_remaining_visit {known visited stack : List NodeId}
    (outside : ∀ id, id ∉ known → onward id = []) {steps : Nat} {head : NodeId}
    (fresh : head ∉ visited)
    (enough :
      (head :: stack).length + remaining onward known visited ≤ steps + 1) :
    ((onward head).reverse ++ stack).length +
        remaining onward known (visited ++ [head]) ≤ steps := by
  have used := remaining_visit_le outside fresh
  rw [List.length_cons] at enough
  rw [List.length_append, List.length_reverse]
  omega

/-- With a step for everything on the stack and for every remaining edge, a
visit meets the stack. -/
private theorem mem_visit_of_stacked {known : List NodeId}
    (outside : ∀ id, id ∉ known → onward id = []) {steps : Nat}
    {stack visited : List NodeId}
    (enough : stack.length + remaining onward known visited ≤ steps)
    {id : NodeId} (stacked : id ∈ stack) :
    id ∈ visit onward steps stack visited := by
  induction steps generalizing stack visited with
  | zero =>
      have positive := List.length_pos_of_mem stacked
      omega
  | succ steps induction =>
      cases stack with
      | nil => exact absurd stacked List.not_mem_nil
      | cons head stack =>
          simp only [visit]
          split
          · rename_i seen
            rcases List.mem_cons.mp stacked with rfl | later
            · exact mem_visit_of_visited seen
            · rw [List.length_cons] at enough
              exact induction (by omega) later
          · rename_i fresh
            rcases List.mem_cons.mp stacked with rfl | later
            · exact mem_visit_of_visited
                (List.mem_append_right _ List.mem_cons_self)
            · exact induction (length_remaining_visit outside fresh enough)
                (List.mem_append_right _ later)

/-- The edges from what was visited lead to what was visited or is on the
stack. -/
def Closing (onward : NodeId → List NodeId) (visited stack : List NodeId) :
    Prop :=
  ∀ here ∈ visited, ∀ next ∈ onward here, next ∈ visited ∨ next ∈ stack

private theorem closing_nil (stack : List NodeId) : Closing onward [] stack :=
  fun _ absent => absurd absent List.not_mem_nil

theorem Closing.skip {head : NodeId} {visited stack : List NodeId}
    (closing : Closing onward visited (head :: stack)) (seen : head ∈ visited) :
    Closing onward visited stack := by
  intro here member next leads
  rcases closing here member next leads with old | stacked
  · exact .inl old
  · rcases List.mem_cons.mp stacked with rfl | later
    · exact .inl seen
    · exact .inr later

theorem Closing.visit {head : NodeId} {visited stack : List NodeId}
    (closing : Closing onward visited (head :: stack)) :
    Closing onward (visited ++ [head]) ((onward head).reverse ++ stack) := by
  intro here member next leads
  rcases List.mem_append.mp member with old | isHead
  · rcases closing here old next leads with older | stacked
    · exact .inl (List.mem_append_left _ older)
    · rcases List.mem_cons.mp stacked with rfl | later
      · exact .inl (List.mem_append_right _ List.mem_cons_self)
      · exact .inr (List.mem_append_right _ later)
  · rw [List.mem_singleton.mp isHead] at leads
    exact .inr (List.mem_append_left _ (List.mem_reverse.mpr leads))

/-- With enough steps, a visit ends with an empty stack: the edges from what it
meets lead to what it meets. -/
private theorem closing_visit {known : List NodeId}
    (outside : ∀ id, id ∉ known → onward id = []) {steps : Nat}
    {stack visited : List NodeId}
    (enough : stack.length + remaining onward known visited ≤ steps)
    (closing : Closing onward visited stack) :
    Closing onward (visit onward steps stack visited) [] := by
  induction steps generalizing stack visited with
  | zero =>
      have empty : stack = [] := List.eq_nil_of_length_eq_zero (by omega)
      rwa [empty] at closing
  | succ steps induction =>
      cases stack with
      | nil => exact closing
      | cons head stack =>
          simp only [Graph.visit]
          split
          · rename_i seen
            rw [List.length_cons] at enough
            exact induction (by omega) (closing.skip seen)
          · rename_i fresh
            exact induction (length_remaining_visit outside fresh enough)
              closing.visit

end Visit

namespace TaskGraph

/-- An edge from a node that lets a walk pass. -/
def Passage (graph : TaskGraph) (passes : Node → Bool) (here next : NodeId) :
    Prop :=
  ∃ node,
    graph.node? here = some node ∧ passes node = true ∧ next ∈ node.requirements

/-- A walk from the requirements of the root meets the node. -/
def Meets (graph : TaskGraph) (passes : Node → Bool) (root id : NodeId) :
    Prop :=
  ∃ first, graph.Requires root first ∧
    Relation.ReflTransGen (graph.Passage passes) first id

/-- Where a walk goes on to from a node. -/
def onward (graph : TaskGraph) (passes : Node → Bool) (id : NodeId) :
    List NodeId :=
  match graph.node? id with
  | some node => if passes node then node.requirements else []
  | none => []

private theorem mem_onward_iff {graph : TaskGraph} {passes : Node → Bool}
    {here next : NodeId} :
    next ∈ graph.onward passes here ↔ graph.Passage passes here next := by
  simp only [onward, Passage]
  cases graph.node? here with
  | none => simp
  | some node => by_cases through : passes node = true <;> simp [through]

private theorem onward_eq_nil {graph : TaskGraph} (passes : Node → Bool)
    (id : NodeId) (absent : id ∉ List.range graph.slots.length) :
    graph.onward passes id = [] := by
  simp only [onward]
  cases found : graph.node? id with
  | none => rfl
  | some node =>
      exact absurd (List.mem_range.mpr (lt_of_node?_eq_some found)) absent

private theorem walk_eq_visit (graph : TaskGraph) (passes : Node → Bool)
    (root : NodeId) :
    graph.walk passes root = visit (graph.onward passes)
      (graph.edgeCount + (graph.requirementsOf root).length)
      (graph.requirementsOf root).reverse [] :=
  rfl

private theorem remaining_onward_le (graph : TaskGraph) (passes : Node → Bool) :
    remaining (graph.onward passes) (List.range graph.slots.length) [] ≤
      graph.edgeCount := by
  simp only [remaining, edgeCount, List.not_mem_nil, not_false_eq_true,
    decide_true, List.filter_true]
  apply List.sum_le_sum
  intro id _
  simp only [onward, requirementsOf]
  cases graph.node? id with
  | none => exact Nat.le_refl _
  | some node =>
      simp only
      split <;> simp

theorem mem_walk_iff {graph : TaskGraph} {passes : Node → Bool}
    {root id : NodeId} :
    id ∈ graph.walk passes root ↔ graph.Meets passes root id := by
  rw [walk_eq_visit]
  constructor
  · intro member
    rcases mem_visit_sound member with old | ⟨first, stacked, leads⟩
    · exact absurd old List.not_mem_nil
    · refine ⟨first, List.mem_reverse.mp stacked, ?_⟩
      exact Relation.ReflTransGen.mono (fun _ _ edge => mem_onward_iff.mp edge)
        _ _ leads
  · intro path
    obtain ⟨first, required, leads⟩ := path
    have bound := graph.remaining_onward_le passes
    have enough : (graph.requirementsOf root).reverse.length +
        remaining (graph.onward passes) (List.range graph.slots.length) [] ≤
          graph.edgeCount + (graph.requirementsOf root).length := by
      rw [List.length_reverse]
      omega
    have closed := closing_visit (onward_eq_nil passes) enough (closing_nil _)
    induction leads with
    | refl =>
        exact mem_visit_of_stacked (onward_eq_nil passes) enough
          (List.mem_reverse.mpr required)
    | tail _ edge induction =>
        exact (closed _ induction _ (mem_onward_iff.mpr edge)).resolve_right
          List.not_mem_nil

theorem nodup_walk (graph : TaskGraph) (passes : Node → Bool) (root : NodeId) :
    (graph.walk passes root).Nodup :=
  nodup_visit List.nodup_nil

/-- What a walk meets in one graph, it also meets in another one, as long as the
edges that it follows are there. -/
theorem meets_of_within (within : NodeId → Prop) {graph other : TaskGraph}
    {passes : Node → Bool} {root id : NodeId}
    (starts : ∀ first,
      graph.Requires root first → other.Requires root first ∧ within first)
    (leadsOn : ∀ here next, within here → graph.Passage passes here next →
      other.Passage passes here next ∧ within next)
    (met : graph.Meets passes root id) :
    other.Meets passes root id ∧ within id := by
  obtain ⟨first, required, leads⟩ := met
  obtain ⟨requiredThere, isWithin⟩ := starts first required
  suffices both :
      Relation.ReflTransGen (other.Passage passes) first id ∧ within id from
    ⟨⟨first, requiredThere, both.1⟩, both.2⟩
  induction leads with
  | refl => exact ⟨.refl, isWithin⟩
  | tail _ edge induction =>
      obtain ⟨edgeThere, nextWithin⟩ := leadsOn _ _ induction.2 edge
      exact ⟨.tail induction.1 edgeThere, nextWithin⟩

theorem Passage.requires {graph : TaskGraph} {passes : Node → Bool}
    {here next : NodeId} (edge : graph.Passage passes here next) :
    graph.Requires here next := by
  obtain ⟨node, found, _, required⟩ := edge
  exact requires_iff.mpr ⟨node, found, required⟩

theorem Meets.dependsOn {graph : TaskGraph} {passes : Node → Bool}
    {root id : NodeId} (met : graph.Meets passes root id) :
    graph.DependsOn root id := by
  obtain ⟨first, required, leads⟩ := met
  exact .head' required
    (Relation.ReflTransGen.mono (fun _ _ edge => edge.requires) _ _ leads)

/-- The ancestors of a node are what it depends on. -/
theorem mem_ancestors_iff {graph : TaskGraph} {root id : NodeId} :
    id ∈ graph.ancestors root ↔ graph.DependsOn root id := by
  simp only [ancestors]
  rw [mem_walk_iff]
  constructor
  · exact Meets.dependsOn
  · intro reached
    obtain ⟨first, required, leads⟩ := Relation.TransGen.head'_iff.mp reached
    refine ⟨first, required, Relation.ReflTransGen.mono ?_ _ _ leads⟩
    intro here next edge
    obtain ⟨node, found, member⟩ := requires_iff.mp edge
    exact ⟨node, found, rfl, member⟩

end TaskGraph

end CoherentTasks.Graph
