import CoherentTasks.Proofs.Submission.Run

/-!
# Windows inside buffers

The window of a requirement lies inside its buffer when the requirement is
added, and buffers keep their sizes. So at any time of a run the windows of all
requirements pass the check that was made at first.
-/

namespace CoherentTasks

open CoherentTasks.Coherence (Region)
open CoherentTasks.Geometry (Box Triple)
open CoherentTasks.Graph (Node Operation Requirement TaskGraph)
open CoherentTasks.Submission

namespace Graph.TaskGraph

variable {before after : TaskGraph}

/-- The windows of all requirements lie inside their buffers. -/
def WindowsInside (graph : TaskGraph) : Prop :=
  ∀ id node requirement,
    graph.node? id = some node → node.operation = .requirement requirement →
    graph.checkWindow requirement.region requirement.window = .ok ()

private theorem checkWindow_of_range {id : RegionId} {window : Box}
    (kept : ∀ region, before.region? id = some region →
      ∃ later, after.region? id = some later ∧ later.range = region.range)
    (checked : before.checkWindow id window = .ok ()) :
    after.checkWindow id window = .ok () := by
  obtain ⟨region, found, inside⟩ := tracked_of_checkWindow checked
  obtain ⟨later, isLater, range⟩ := kept region found
  have stillInside : later.containsWindow window = true := by
    simp only [Region.containsWindow, Region.full] at *
    rw [range]
    exact inside
  simp only [checkWindow, isLater]
  exact if_pos stillInside

theorem RegionsGrow.checkWindow (grow : before.RegionsGrow after)
    {id : RegionId} {window : Box}
    (checked : before.checkWindow id window = .ok ()) :
    after.checkWindow id window = .ok () := by
  refine checkWindow_of_range (fun region found => ?_) checked
  obtain ⟨later, isLater, grows⟩ := grow.later found
  exact ⟨later, isLater, grows.range⟩

namespace WindowsInside

theorem later (inside : before.WindowsInside) (same : before.SameNodes after)
    (grow : before.RegionsGrow after) : after.WindowsInside := by
  intro id node requirement found states
  obtain ⟨earlier, isNode, operation, _⟩ := same.symm.node found
  exact grow.checkWindow (inside _ _ _ isNode (operation.trans states))

theorem addNode {operation : Operation} {requirements : List NodeId}
    {hint : Option Device} {id : NodeId} (inside : before.WindowsInside)
    (added : before.addNode operation requirements hint = .ok (id, after)) :
    after.WindowsInside := by
  obtain ⟨_, checked, _, _⟩ := addNode_ok added
  have regions : before.RegionsGrow after :=
    regionsGrow_of_eq (regions_addNode added)
  intro other node requirement found states
  apply regions.checkWindow
  rw [node?_addNode added] at found
  split at found
  · cases found
    have equal : operation = .requirement requirement := states
    rw [equal] at checked
    exact checked
  · exact inside other node requirement found states

theorem addRegion (inside : before.WindowsInside) (name : String)
    (range : Triple) (elementSize : Nat) :
    (before.addRegion name range elementSize).WindowsInside := by
  intro id node requirement found states
  refine checkWindow_of_range (fun region isRegion => ⟨region, ?_, rfl⟩)
    (inside _ _ _ found states)
  rw [region?_addRegion, if_neg, isRegion]
  intro isNew
  simp only [region?] at isRegion
  rw [List.getElem?_eq_none (Nat.le_of_eq isNew.symm)] at isRegion
  cases isRegion

end WindowsInside

end Graph.TaskGraph

namespace Submission

variable {id : NodeId} {before after : Scheduler}

private theorem sameNodes_giveUp {stopped : Scheduler} {cause : Error} :
    stopped.graph.SameNodes (giveUp before stopped id cause).graph :=
  TaskGraph.sameNodes_abort (stopped.graph.restore before.graph.snapshot) id

private theorem regionsGrow_giveUp {stopped : Scheduler} {cause : Error} :
    stopped.graph.RegionsGrow (giveUp before stopped id cause).graph :=
  (TaskGraph.regionsGrow_restore stopped.graph before.graph.snapshot).trans
    (TaskGraph.regionsGrow_of_eq (TaskGraph.regions_abort _ id))

/-- However a submission ends, nodes stay what they are and regions keep what
they hold. -/
theorem Submits.grows {success : Bool}
    (submits : Submits id before after success) :
    before.graph.SameNodes after.graph ∧
    before.graph.RegionsGrow after.graph := by
  cases submits with
  | idle _ same => exact same ▸ ⟨.refl _, TaskGraph.regionsGrow_of_eq rfl⟩
  | rejects cause same => exact same ▸ ⟨sameNodes_giveUp, regionsGrow_giveUp⟩
  | resolves states moves submitted =>
      exact ⟨Moves.sameNodes moves, Moves.regionsGrow moves⟩
  | launches node device dispatch ready launched asks moves launches finishes =>
      constructor
      · refine ((Moves.sameNodes moves).trans launches.sameNodes).trans
          fun other => ?_
        rw [finishes.node? other]
      · exact ((Moves.regionsGrow moves).trans
          (TaskGraph.regionsGrow_of_eq launches.regions)).trans
          finishes.regionsGrow
  | fails device stopped cause asks moves same =>
      rw [← same]
      exact ⟨(Moves.sameNodes moves).trans sameNodes_giveUp,
        (Moves.regionsGrow moves).trans regionsGrow_giveUp⟩

end Submission

namespace Scheduler

private theorem windowsInside_step {before after : Scheduler}
    (consistent : before.Consistent) (inside : before.graph.WindowsInside)
    (step : Step before after) : after.graph.WindowsInside := by
  cases step with
  | addRegion name range elementSize =>
      exact inside.addRegion name range elementSize
  | changeRegion id change grows =>
      exact inside.later (fun _ => rfl)
        (TaskGraph.regionsGrow_updateRegion _ id grows)
  | addNode operation requirements hint id graph added =>
      exact inside.addNode added
  | addCopy copy requirements hint id graph added =>
      exact inside.addNode (TaskGraph.addNode_of_addCopy added)
  | submit id =>
      have submits : Submits id before _ _ :=
        submits_submit consistent.wellFormed
      obtain ⟨same, grow⟩ := submits.grows
      exact inside.later same grow
  | abort id =>
      exact inside.later (TaskGraph.sameNodes_abort _ id)
        (TaskGraph.regionsGrow_of_eq (TaskGraph.regions_abort _ id))
  | complete fired => exact inside

theorem Reachable.windowsInside {scheduler : Scheduler}
    (reached : scheduler.Reachable) : scheduler.graph.WindowsInside := by
  induction reached with
  | create alignment registry observed =>
      intro id node requirement found
      cases found
  | step reached step induction =>
      exact windowsInside_step reached.consistent induction step

end Scheduler

end CoherentTasks
