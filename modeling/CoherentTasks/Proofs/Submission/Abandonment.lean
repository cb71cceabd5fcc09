import CoherentTasks.Proofs.Submission.Failure

/-!
# What is given up with a node

Giving up a node cancels what still had to be submitted for it. The walk that
looks for it does not go on behind nodes that were submitted or cancelled. In
every state that is met when a graph is used, nothing that waits is behind such
a node, so no path is missed.
-/

namespace CoherentTasks

open CoherentTasks.Graph (Node TaskGraph)
open CoherentTasks.Submission

namespace Graph

theorem Node.cancel_of_unsubmitted {node : Node}
    (waits : node.state = .unsubmitted) :
    node.cancel = { node with state := .cancelled } := by
  simp only [cancel]
  rw [waits]

/-- The root of a graph was given up: what still had to be submitted for it was
cancelled, and nothing else has changed. -/
structure TaskGraph.GivenUp (before : TaskGraph) (root : NodeId)
    (cancelled : List NodeId) (after : TaskGraph) : Prop where
  /-- First comes everything unsubmitted that the root depends on, and then the
  root, if it waited. -/
  listed : ∃ behind : List NodeId, (∀ id, id ∈ behind ↔
    before.DependsOn root id ∧ before.state? id = some .unsubmitted) ∧
    (before.state? root = some .unsubmitted → cancelled = behind ++ [root]) ∧
    (before.state? root ≠ some .unsubmitted → cancelled = behind)
  distinct : cancelled.Nodup
  changed : ∀ id ∈ cancelled,
    ∃ node, before.node? id = some node ∧ node.state = .unsubmitted ∧
      after.node? id = some { node with state := .cancelled }
  kept : ∀ id, id ∉ cancelled → after.node? id = before.node? id
  slots : after.slots.length = before.slots.length
  regions : after.regions = before.regions

end Graph

namespace Scheduler

section Walk

variable {scheduler : Scheduler} {root id : NodeId}

/-- On every path to a node that waits, all nodes behind the root wait. -/
theorem Intact.passes_of_leads (intact : scheduler.Intact)
    (waits : scheduler.graph.state? id = some .unsubmitted) {first : NodeId}
    (leads : Relation.ReflTransGen scheduler.graph.Requires first id) :
    Relation.ReflTransGen (scheduler.graph.Passage Node.isUnsubmitted)
      first id := by
  induction leads using Relation.ReflTransGen.head_induction_on with
  | refl => exact .refl
  | head edge rest induction =>
      rename_i here next
      have waitsHere : scheduler.graph.state? here = some .unsubmitted := by
        by_contra settled
        exact intact.settled_of_dependsOn settled (.head' edge rest) waits
      obtain ⟨node, found, unsubmitted⟩ := Option.map_eq_some_iff.mp waitsHere
      obtain ⟨other, isNode, member⟩ := TaskGraph.requires_iff.mp edge
      rw [found] at isNode
      cases isNode
      exact .head
        ⟨node, found, Graph.Node.isUnsubmitted_iff.mpr unsubmitted, member⟩
        induction

/-- The walk behind unsubmitted nodes meets what waits wherever requirement
edges lead to it. -/
theorem Intact.meets_iff (intact : scheduler.Intact)
    (waits : scheduler.graph.state? id = some .unsubmitted) :
    scheduler.graph.Meets Node.isUnsubmitted root id ↔
      scheduler.graph.DependsOn root id := by
  refine ⟨TaskGraph.Meets.dependsOn, fun reached => ?_⟩
  obtain ⟨first, required, leads⟩ := Relation.TransGen.head'_iff.mp reached
  exact ⟨first, required, intact.passes_of_leads waits leads⟩

/-- The root is not among what it depends on. -/
theorem Intact.root_not_mem_walk (intact : scheduler.Intact)
    (passes : Node → Bool) : root ∉ scheduler.graph.walk passes root := by
  intro member
  have reached := (TaskGraph.mem_walk_iff.mp member).dependsOn
  exact absurd (intact.wellFormed.dependsOn_lt reached) (Nat.lt_irrefl root)

end Walk

/-- In every state that is met when a graph is used, giving up a node cancels
exactly the unsubmitted nodes that it depends on, and the node itself if it was
unsubmitted. They are listed once each, the node at the end, and no other node
and no region changes. -/
theorem givenUp_abort {scheduler : Scheduler} (met : scheduler.InUse)
    (root : NodeId) :
    scheduler.graph.GivenUp root (scheduler.graph.abort root).1
      (scheduler.graph.abort root).2 := by
  have intact := met.intact
  have cancelled :
      (scheduler.graph.abort root).1 = scheduler.graph.cancellations root := rfl
  have split :
      scheduler.graph.cancellations root =
        (scheduler.graph.walk Node.isUnsubmitted root).filter
            scheduler.graph.awaitsSubmission ++
          [root].filter scheduler.graph.awaitsSubmission :=
    List.filter_append ..
  have lookup (id : NodeId) := TaskGraph.node?_cancelAll scheduler.graph
    (scheduler.graph.cancellations root) id
  constructor
  case listed =>
    refine ⟨(scheduler.graph.walk Node.isUnsubmitted root).filter
      scheduler.graph.awaitsSubmission,
      fun id => ?_, fun waits => ?_, fun settled => ?_⟩
    · rw [List.mem_filter, TaskGraph.awaitsSubmission_iff,
        TaskGraph.mem_walk_iff]
      exact and_congr_left fun waits => intact.meets_iff waits
    · rw [cancelled, split, List.filter_singleton,
        TaskGraph.awaitsSubmission_iff.mpr waits, cond_true]
    · have answer : scheduler.graph.awaitsSubmission root = false :=
        Bool.eq_false_iff.mpr
          fun waits => settled (TaskGraph.awaitsSubmission_iff.mp waits)
      rw [cancelled, split, List.filter_singleton, answer, cond_false,
        List.append_nil]
  case distinct =>
    have distinct :=
      TaskGraph.nodup_walk scheduler.graph Node.isUnsubmitted root
    have absent : root ∉ scheduler.graph.walk Node.isUnsubmitted root :=
      intact.root_not_mem_walk Node.isUnsubmitted
    exact List.Pairwise.filter _
      ((List.perm_append_singleton root _).nodup_iff.mpr
        (List.nodup_cons.mpr ⟨absent, distinct⟩))
  case changed =>
    intro id member
    rw [cancelled] at member
    obtain ⟨waits, _⟩ := TaskGraph.mem_cancellations_iff.mp member
    obtain ⟨node, found, unsubmitted⟩ := Option.map_eq_some_iff.mp waits
    refine ⟨node, found, unsubmitted, (lookup id).trans ?_⟩
    rw [if_pos member, found, Option.map_some,
      Graph.Node.cancel_of_unsubmitted unsubmitted]
  case kept => exact fun id absent => (lookup id).trans (if_neg absent)
  case slots => exact TaskGraph.length_slots_abort scheduler.graph root
  case regions => exact TaskGraph.regions_abort scheduler.graph root

/-- In `refreshing`, the kernel that was never asked to run is submitted first
and is therefore left alone when the last kernel is given up. -/
theorem givenUp_refreshing :
    (Action.outcome (submit 2) refreshing).InUse ∧
      (Action.outcome (submit 2) refreshing).graph.GivenUp 3 [1, 0, 3]
        ((Action.outcome (submit 2) refreshing).graph.abort 3).2 := by
  have met : (Action.outcome (submit 2) refreshing).InUse :=
    (reachable_refreshing.step (.submit 2)).inUse
  have listed :
      ((Action.outcome (submit 2) refreshing).graph.abort 3).1 = [1, 0, 3] := by
    decide +kernel
  have givenUp := givenUp_abort met 3
  rw [listed] at givenUp
  exact ⟨met, givenUp⟩

end Scheduler

end CoherentTasks
