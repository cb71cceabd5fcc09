import CoherentTasks.Proofs.Submission.Consistency

/-!
# Runs of a scheduler

A graph is built while its nodes are submitted, in any order, and operations
complete at any time in between. Every state that such a run reaches is
consistent.
-/

namespace CoherentTasks

open CoherentTasks.Backend (Registry)
open CoherentTasks.Coherence (Region)
open CoherentTasks.Completion (Signal Signals)
open CoherentTasks.Computation
open CoherentTasks.Geometry (Box Triple)
open CoherentTasks.Graph (Copy Node Operation TaskGraph)
open CoherentTasks.Submission

namespace Graph.TaskGraph

theorem Submitted.not_cancelled {graph : TaskGraph} {id : NodeId}
    (submitted : graph.Submitted id) : graph.state? id ≠ some .cancelled := by
  intro cancelled
  rcases submitted with satisfied | ⟨handle, executor, outstanding⟩
  · rw [satisfied] at cancelled
    cases cancelled
  · rw [outstanding] at cancelled
    cases cancelled

theorem carries_abort (graph : TaskGraph) (root : NodeId) :
    graph.Carries (graph.abort root).2 := by
  apply TaskGraph.Carries.of_same (sameNodes_abort graph root)
  intro id submitted
  rcases state?_abort id with same | ⟨waits, cancelled⟩
  · exact same
  · rcases submitted with before | after
    · exact absurd waits before.not_unsubmitted
    · exact absurd cancelled after.not_cancelled

section AddNode

variable {graph grown : TaskGraph} {operation : Operation}
  {requirements : List NodeId} {hint : Option Device} {id : NodeId}

/-- What adding a node checks, and what it results in. -/
theorem addNode_ok
    (added : graph.addNode operation requirements hint = .ok (id, grown)) :
    (∀ required ∈ requirements, graph.contains required = true) ∧
    graph.checkOperation operation = .ok () ∧ id = graph.slots.length ∧
    grown = { graph with slots :=
        graph.slots ++ [some (Node.create operation requirements hint)] } := by
  simp only [addNode] at added
  split at added
  · cases added
  · rename_i none
    obtain ⟨_, checked, made⟩ := bind_eq_ok_iff.mp added
    have equal := pure_eq_ok_iff.mp made
    cases equal
    refine ⟨fun required member => ?_, checked, rfl, rfl⟩
    simpa using List.find?_eq_none.mp none required member

private theorem node?_append (graph : TaskGraph) (node : Node)
    (other : NodeId) :
    ({ graph with slots := graph.slots ++ [some node] } : TaskGraph).node?
        other =
      if other = graph.slots.length then some node else graph.node? other := by
  simp only [node?]
  rcases Nat.lt_trichotomy other graph.slots.length with less | equal | greater
  · rw [if_neg (Nat.ne_of_lt less)]
    exact congrArg Option.join (List.getElem?_append_left less)
  · subst equal
    simp
  · rw [if_neg (Nat.ne_of_gt greater),
      List.getElem?_eq_none (Nat.le_of_lt greater)]
    refine congrArg Option.join (List.getElem?_eq_none ?_)
    rw [List.length_append]
    exact greater

theorem node?_addNode
    (added : graph.addNode operation requirements hint = .ok (id, grown))
    (other : NodeId) :
    grown.node? other =
      if other = id then some (Node.create operation requirements hint)
        else graph.node? other := by
  obtain ⟨_, _, rfl, rfl⟩ := addNode_ok added
  exact node?_append graph _ other

theorem length_slots_addNode
    (added : graph.addNode operation requirements hint = .ok (id, grown)) :
    grown.slots.length = graph.slots.length + 1 := by
  obtain ⟨_, _, _, rfl⟩ := addNode_ok added
  exact List.length_append

theorem regions_addNode
    (added : graph.addNode operation requirements hint = .ok (id, grown)) :
    grown.regions = graph.regions := by
  obtain ⟨_, _, _, rfl⟩ := addNode_ok added
  rfl

theorem node?_addNode_self
    (added : graph.addNode operation requirements hint = .ok (id, grown)) :
    grown.node? id = some (Node.create operation requirements hint) := by
  rw [node?_addNode added, if_pos rfl]

theorem node?_addNode_other
    (added : graph.addNode operation requirements hint = .ok (id, grown))
    {other : NodeId} (different : other ≠ id) :
    grown.node? other = graph.node? other := by
  rw [node?_addNode added, if_neg different]

private theorem state?_addNode_self
    (added : graph.addNode operation requirements hint = .ok (id, grown)) :
    grown.state? id = some .unsubmitted :=
  state?_of_node? (node?_addNode_self added) rfl

theorem state?_addNode_other
    (added : graph.addNode operation requirements hint = .ok (id, grown))
    {other : NodeId} (different : other ≠ id) :
    grown.state? other = graph.state? other :=
  state?_congr (node?_addNode_other added different)

/-- The number of a new node was not in use. -/
theorem ne_addNode_of_lt
    (added : graph.addNode operation requirements hint = .ok (id, grown))
    {other : NodeId} (below : other < graph.slots.length) : other ≠ id := by
  obtain ⟨_, _, rfl, _⟩ := addNode_ok added
  exact Nat.ne_of_lt below

/-- A new node waits, so one that does not is an old one. -/
theorem ne_addNode_of_settled
    (added : graph.addNode operation requirements hint = .ok (id, grown))
    {other : NodeId} (settled : grown.state? other ≠ some .unsubmitted) :
    other ≠ id := by
  intro equal
  rw [equal] at settled
  exact settled (state?_addNode_self added)

/-- An edge of an old node does not lead to the new one, whose number is
greater. -/
theorem requires_of_addNode (wellFormed : graph.WellFormed)
    (added : graph.addNode operation requirements hint = .ok (id, grown))
    {dependent required : NodeId} (old : dependent ≠ id)
    (edge : grown.Requires dependent required) :
    graph.Requires dependent required ∧ required ≠ id := by
  obtain ⟨node, found, member⟩ := requires_iff.mp edge
  rw [node?_addNode_other added old] at found
  have edgeBefore : graph.Requires dependent required :=
    requires_iff.mpr ⟨node, found, member⟩
  have below : required < graph.slots.length :=
    (wellFormed.earlier edgeBefore).trans (lt_of_node?_eq_some found)
  exact ⟨edgeBefore, ne_addNode_of_lt added below⟩

theorem node?_addNode_of_some
    (added : graph.addNode operation requirements hint = .ok (id, grown))
    {other : NodeId} {node : Node} (found : graph.node? other = some node) :
    grown.node? other = some node :=
  (node?_addNode_other added
    (ne_addNode_of_lt added (lt_of_node?_eq_some found))).trans found

theorem carries_addNode
    (added : graph.addNode operation requirements hint = .ok (id, grown)) :
    graph.Carries grown where
  kept other node found := ⟨node, node?_addNode_of_some added found, rfl⟩
  states other submitted := by
    apply state?_addNode_other added
    rcases submitted with before | after
    · obtain ⟨node, found⟩ := before.exists_node
      exact ne_addNode_of_lt added (lt_of_node?_eq_some found)
    · exact ne_addNode_of_settled added after.not_unsubmitted

theorem tracked_of_checkWindow {region : RegionId} {window : Box}
    (checked : graph.checkWindow region window = .ok ()) :
    ∃ found, graph.region? region = some found ∧
      found.containsWindow window = true := by
  simp only [checkWindow] at checked
  split at checked
  · cases checked
  · rename_i found isRegion
    split at checked
    · rename_i inside
      exact ⟨found, isRegion, inside⟩
    · cases checked

theorem WellFormed.addNode (wellFormed : graph.WellFormed)
    (added : graph.addNode operation requirements hint = .ok (id, grown)) :
    grown.WellFormed := by
  obtain ⟨contained, checked, isLength, _⟩ := addNode_ok added
  have sameRegion (region : RegionId) :
      grown.region? region = graph.region? region := by
    simp only [region?]
    rw [regions_addNode added]
  constructor
  case earlier =>
    intro dependent required edge
    by_cases isNew : dependent = id
    · subst isNew
      obtain ⟨node, found, member⟩ := requires_iff.mp edge
      cases (node?_addNode_self added).symm.trans found
      obtain ⟨other, isNode⟩ :=
        Option.isSome_iff_exists.mp (contained required member)
      rw [isLength]
      exact lt_of_node?_eq_some isNode
    · exact wellFormed.earlier
        (requires_of_addNode wellFormed added isNew edge).1
  case tracked =>
    intro other node requirement found states
    rw [sameRegion]
    rw [node?_addNode added] at found
    split at found
    · cases found
      have equal : operation = .requirement requirement := states
      rw [equal] at checked
      obtain ⟨region, isRegion, _⟩ := tracked_of_checkWindow checked
      exact ⟨region, isRegion⟩
    · exact wellFormed.tracked found states
  case numbered =>
    intro region found isRegion
    exact wellFormed.numbered ((sameRegion region).symm.trans isRegion)

theorem addNode_of_addCopy {copy : Copy}
    (added : graph.addCopy copy requirements hint = .ok (id, grown)) :
    graph.addNode (.copy copy) requirements hint = .ok (id, grown) := by
  simp only [addCopy] at added
  obtain ⟨_, _, added⟩ := bind_eq_ok_iff.mp added
  obtain ⟨_, _, added⟩ := bind_eq_ok_iff.mp added
  exact added

end AddNode

section AddRegion

variable (graph : TaskGraph) (name : String) (range : Triple)
  (elementSize : Nat)

theorem region?_addRegion (id : RegionId) :
    (graph.addRegion name range elementSize).region? id =
      if id = graph.regions.length then
        some (Region.create graph.regions.length name range elementSize)
      else graph.region? id := by
  simp only [region?, addRegion]
  rcases Nat.lt_trichotomy id graph.regions.length with less | equal | greater
  · rw [if_neg (Nat.ne_of_lt less)]
    exact List.getElem?_append_left less
  · subst equal
    simp
  · rw [if_neg (Nat.ne_of_gt greater),
      List.getElem?_eq_none (Nat.le_of_lt greater)]
    apply List.getElem?_eq_none
    rw [List.length_append]
    exact greater

theorem WellFormed.addRegion {graph : TaskGraph}
    (wellFormed : graph.WellFormed) :
    (graph.addRegion name range elementSize).WellFormed where
  earlier edge := wellFormed.earlier edge
  tracked found states := by
    obtain ⟨region, isRegion⟩ := wellFormed.tracked found states
    rw [region?_addRegion]
    split
    · exact ⟨_, rfl⟩
    · exact ⟨region, isRegion⟩
  numbered isRegion := by
    rw [region?_addRegion] at isRegion
    split at isRegion
    · rename_i isNew
      cases isRegion
      exact isNew.symm
    · exact wellFormed.numbered isRegion

end AddRegion

end Graph.TaskGraph

namespace Scheduler

namespace Consistent

variable {root bound id : NodeId} {before after : Scheduler}

theorem move (consistent : before.Consistent)
    (move : Move root bound before after) : after.Consistent := by
  rcases move.still_or_takesUp with still | ⟨id, made, _, takes⟩
  · exact consistent.later_of_still still move.regionsGrow
  · exact consistent.later_of_takesUp takes move.regionsGrow

theorem moves (consistent : before.Consistent)
    (moves : Moves root bound before after) : after.Consistent := by
  induction moves with
  | refl => exact consistent
  | tail _ move induction => exact induction.move move

theorem finishes {operation : Operation} (consistent : before.Consistent)
    (finishes : Finishes id operation before after) : after.Consistent :=
  consistent.later_of_still (.of_node? finishes.node? finishes.quiet)
    finishes.regionsGrow

theorem launches {node : Node} {device : Device} {dispatch : Dispatch}
    (consistent : before.Consistent)
    (launches : Launches id node device dispatch before after) :
    after.Consistent :=
  consistent.later_of_takesUp launches.takesUp
    (TaskGraph.regionsGrow_of_eq launches.regions)

/-- Giving up a submission only cancels nodes and takes marks back. -/
theorem giveUp {cause : Error} (consistent : after.Consistent) :
    (giveUp before after id cause).Consistent := by
  have restored :=
    TaskGraph.regionsGrow_restore after.graph before.graph.snapshot
  have carries :=
    TaskGraph.carries_abort (after.graph.restore before.graph.snapshot) id
  have same :
      after.graph.SameNodes (Submission.giveUp before after id cause).graph :=
    TaskGraph.sameNodes_abort (after.graph.restore before.graph.snapshot) id
  refine consistent.carry (consistent.wellFormed.later same ?_)
    ⟨carries.kept, carries.states⟩ rfl (.refl _) rfl
  exact restored.trans
    (TaskGraph.regionsGrow_of_eq (TaskGraph.regions_abort _ id))

theorem submits (consistent : before.Consistent) {success : Bool}
    (submits : Submits id before after success) :
    after.Consistent := by
  cases submits with
  | idle _ same => exact same ▸ consistent
  | rejects cause same =>
      rw [← same]
      exact consistent.giveUp
  | resolves states moves submitted => exact consistent.moves moves
  | launches node device dispatch ready launched asks moves launches finishes =>
      exact ((consistent.moves moves).launches launches).finishes finishes
  | fails device stopped cause asks moves same =>
      rw [← same]
      exact (consistent.moves moves).giveUp

theorem create (alignment : Nat) (registry : Registry) (observed : Bool) :
    (create alignment registry observed).Consistent where
  wellFormed := TaskGraph.wellFormed_empty
  closed _ _ submitted := by
    rcases submitted with state | ⟨_, _, state⟩ <;> cases state
  owned _ made := absurd made List.not_mem_nil
  backed _ _ _ state := by cases state
  listed _ made := absurd made List.not_mem_nil
  truthful _ made := absurd made List.not_mem_nil
  numbered := rfl
  layered _ made := absurd made List.not_mem_nil

end Consistent

/-- One step of a run: the graph grows, a buffer is changed from outside, a node
is submitted or given up, or operations complete. -/
inductive Step (before : Scheduler) : Scheduler → Prop where
  | addRegion (name : String) (range : Triple) (elementSize : Nat) :
      Step before
        { before with graph := before.graph.addRegion name range elementSize }
  | changeRegion (id : RegionId) (change : Region → Region)
      (grows : ∀ region : Region, region.Grows (change region)) :
      Step before { before with graph := before.graph.updateRegion id change }
  | addNode (operation : Operation) (requirements : List NodeId)
      (hint : Option Device) (id : NodeId) (graph : TaskGraph)
      (added :
        before.graph.addNode operation requirements hint = .ok (id, graph)) :
      Step before { before with graph }
  | addCopy (copy : Copy) (requirements : List NodeId) (hint : Option Device)
      (id : NodeId) (graph : TaskGraph)
      (added : before.graph.addCopy copy requirements hint = .ok (id, graph)) :
      Step before { before with graph }
  | submit (id : NodeId) : Step before (Action.outcome (submit id) before)
  | abort (id : NodeId) :
      Step before { before with graph := (before.graph.abort id).2 }
  | complete (fired : List Signal) :
      Step before { before with signals := before.signals.fireAll fired }

/-- The state is met on a run that starts without nodes and regions. -/
inductive Reachable : Scheduler → Prop where
  | create (alignment : Nat) (registry : Registry) (observed : Bool) :
      Reachable (create alignment registry observed)
  | step {before after : Scheduler} (reached : Reachable before)
      (step : Step before after) : Reachable after

theorem Consistent.step {before after : Scheduler}
    (consistent : before.Consistent) (step : Step before after) :
    after.Consistent := by
  cases step with
  | addRegion name range elementSize =>
      exact consistent.carry
        (consistent.wellFormed.addRegion name range elementSize)
        ⟨fun _ node found => ⟨node, found, rfl⟩, fun _ _ => rfl⟩ rfl
        (.refl _) rfl
  | changeRegion id change grows =>
      exact consistent.later_of_still
        ⟨fun _ => rfl, fun _ => rfl, ⟨rfl, rfl, .refl _⟩⟩
        (TaskGraph.regionsGrow_updateRegion _ id grows)
  | addNode operation requirements hint id graph added =>
      exact consistent.carry (consistent.wellFormed.addNode added)
        (TaskGraph.carries_addNode added) rfl (.refl _) rfl
  | addCopy copy requirements hint id graph added =>
      have asNode := TaskGraph.addNode_of_addCopy added
      exact consistent.carry (consistent.wellFormed.addNode asNode)
        (TaskGraph.carries_addNode asNode) rfl (.refl _) rfl
  | submit id => exact consistent.submits (submits_submit consistent.wellFormed)
  | abort id =>
      exact consistent.carry
        (consistent.wellFormed.later (TaskGraph.sameNodes_abort _ id)
          (TaskGraph.regionsGrow_of_eq (TaskGraph.regions_abort _ id)))
        (TaskGraph.carries_abort _ id) rfl (.refl _) rfl
  | complete fired =>
      exact consistent.carry consistent.wellFormed
        ⟨fun _ node found => ⟨node, found, rfl⟩, fun _ _ => rfl⟩ rfl
        (Signals.extends_fireAll _ fired) (Signals.next_fireAll _ fired)

/-- Every state that a run meets is consistent. -/
theorem Reachable.consistent {scheduler : Scheduler}
    (reached : scheduler.Reachable) : scheduler.Consistent := by
  induction reached with
  | create alignment registry observed =>
      exact .create alignment registry observed
  | step _ step induction => exact induction.step step

end Scheduler

end CoherentTasks
