import CoherentTasks.Proofs.Submission.Lockstep
import CoherentTasks.Proofs.Submission.Use

/-!
# Failed submissions

A submission that fails leaves no more than what it cannot take back. Operations
that were handed over for requirements go on, these requirements stay submitted,
and new copies stay allocated. Apart from that, the node and all that waited for
it are cancelled, every region tracks what it tracked before, the node is not
registered, and the observer is told once.
-/

namespace CoherentTasks

open CoherentTasks.Completion (Submitted)
open CoherentTasks.Computation
open CoherentTasks.Coherence (Allocation Region)
open CoherentTasks.Geometry (Box)
open CoherentTasks.Graph (Node Operation Requirement TaskGraph)
open CoherentTasks.Submission

namespace Coherence.Region

/-- The same buffer at a later moment. Its copies are where they were. -/
structure Retains (before after : Region) : Prop where
  id : after.id = before.id
  name : after.name = before.name
  range : after.range = before.range
  elementSize : after.elementSize = before.elementSize
  kept : ∀ device allocation,
    before.allocation? device = some allocation → ∃ later,
      after.allocation? device = some later ∧ later.pointer = allocation.pointer

/-- The same buffer, with the same copies. Every copy holds what it held, and a
new one holds nothing. -/
structure PutBack (before after : Region) : Prop where
  id : after.id = before.id
  name : after.name = before.name
  range : after.range = before.range
  elementSize : after.elementSize = before.elementSize
  kept : ∀ device allocation, before.allocation? device = some allocation →
    after.allocation? device = some allocation
  fresh : ∀ device allocation, before.allocation? device = none →
    after.allocation? device = some allocation →
      allocation.valid = .empty ∧ allocation.current = .empty

section Retains

variable {first second third : Region}

theorem Retains.refl (region : Region) : region.Retains region :=
  ⟨rfl, rfl, rfl, rfl, fun _ allocation found => ⟨allocation, found, rfl⟩⟩

theorem Retains.trans (start : first.Retains second)
    (rest : second.Retains third) : first.Retains third where
  id := rest.id.trans start.id
  name := rest.name.trans start.name
  range := rest.range.trans start.range
  elementSize := rest.elementSize.trans start.elementSize
  kept device allocation found := by
    obtain ⟨middle, isMiddle, samePointer⟩ := start.kept device allocation found
    obtain ⟨last, isLast, same⟩ := rest.kept device middle isMiddle
    exact ⟨last, isLast, same.trans samePointer⟩

variable {region : Region} {device : Device}

theorem retains_addAllocation (pointer : Pointer)
    (absent : region.hasAllocation device = false) :
    region.Retains (region.addAllocation device pointer) where
  id := rfl
  name := rfl
  range := rfl
  elementSize := rfl
  kept other allocation found := by
    have different : other ≠ device := by
      intro equal
      subst equal
      rw [hasAllocation_iff.mpr ⟨allocation, found⟩] at absent
      cases absent
    rw [allocation?_addAllocation, if_neg different]
    exact ⟨allocation, found, rfl⟩

theorem retains_markValid (region : Region) (device : Device) (window : Box) :
    region.Retains (region.markValid device window) where
  id := rfl
  name := rfl
  range := rfl
  elementSize := rfl
  kept other allocation found := by
    rw [allocation?_markValid, found]
    split
    · exact ⟨_, rfl, rfl⟩
    · exact ⟨allocation, rfl, rfl⟩

theorem retains_markCurrent (region : Region) (device : Device) (window : Box) :
    region.Retains (region.markCurrent device window) := by
  by_cases present : region.hasAllocation device = true
  · have shape :
        region.markCurrent device window = { region with
          allocations := (region.markCurrent device window).allocations } := by
      simp only [markCurrent]
      rw [if_pos present]
    constructor
    case kept =>
      intro other allocation found
      rw [allocation?_markCurrent region device other window present, found]
      refine ⟨_, rfl, ?_⟩
      split <;> rfl
    all_goals rw [shape]
  · simp only [markCurrent]
    rw [if_neg present]
    exact .refl region

/-- Restoring what was tracked puts back every copy that was there before. -/
theorem putBack_restore {saved : Region} (retains : saved.Retains region) :
    saved.PutBack (region.restore saved.snapshot) where
  id := retains.id
  name := retains.name
  range := retains.range
  elementSize := retains.elementSize
  kept device allocation found := by
    obtain ⟨later, isLater, pointer⟩ := retains.kept device allocation found
    rw [allocation?_restore, isLater, get?_snapshot, found]
    simp [pointer]
  fresh device allocation absent found := by
    rw [allocation?_restore, get?_snapshot, absent] at found
    obtain ⟨later, _, same⟩ := Option.map_eq_some_iff.mp found
    rw [← same]
    exact ⟨rfl, rfl⟩

end Retains

end Coherence.Region

namespace Graph.TaskGraph

theorem putBack_restoreRegions {before after : List Region}
    (retain : List.Forall₂ Region.Retains before after) :
    List.Forall₂ Region.PutBack before
      (restoreRegions after (before.map Region.snapshot)) := by
  induction retain with
  | nil => exact .nil
  | cons retains _ induction =>
      exact .cons (Region.putBack_restore retains) induction

end Graph.TaskGraph

namespace Submission

section Retains

variable {root bound id : NodeId} {before after : Scheduler}

private theorem retains_marked (requirement : Requirement) (device : Device)
    (region : Region) : region.Retains (marked requirement device region) := by
  simp only [marked]
  split
  · exact Region.retains_markCurrent region device _
  · exact Region.retains_markValid region device _

private theorem retain_of_eq {regions others : List Region}
    (same : others = regions) : List.Forall₂ Region.Retains regions others := by
  rw [same]
  exact List.forall₂_same.mpr fun region _ => .refl region

theorem Move.retain (move : Move root bound before after) :
    List.Forall₂ Region.Retains before.graph.regions after.graph.regions := by
  cases move with
  | note quiet graph => exact retain_of_eq (by rw [graph])
  | assign id device node quiet found fits graph =>
      exact retain_of_eq (by rw [graph]; rfl)
  | bind id pointer quiet graph => exact retain_of_eq (by rw [graph]; rfl)
  | allocate id region device pointer quiet found absent graph =>
      rw [graph]
      refine TaskGraph.forall₂_updateRegion Region.Retains .refl _ _
        fun other isRegion => ?_
      rw [found] at isRegion
      cases isRegion
      exact Region.retains_addAllocation pointer absent
  | settle id node requirement device region copies made below settles =>
      obtain ⟨executor, graph⟩ := settles.graph
      rw [graph]
      exact TaskGraph.forall₂_updateRegion Region.Retains .refl
        (before.graph.updateNode id _) _
        fun other _ => retains_marked requirement device other

theorem Moves.retain (moves : Moves root bound before after) :
    List.Forall₂ Region.Retains before.graph.regions after.graph.regions := by
  induction moves with
  | refl => exact retain_of_eq rfl
  | tail _ move induction =>
      exact TaskGraph.forall₂_trans Region.Retains (fun _ _ _ => .trans)
        induction move.retain

end Retains

/-- One state, in which the books of the submitted nodes and of the failures are
as given. -/
def WithBooks (submitted : Submitted) (failures : Option (List Failure))
    (left right : Scheduler) : Prop :=
  left = right ∧ right.submitted = submitted ∧ right.failures = failures

private theorem lockstep_withBooks (submitted : Submitted)
    (failures : Option (List Failure)) :
    Lockstep (WithBooks submitted failures) Eq (fun _ => True)
      (fun _ => True) where
  node := fun together _ _ => by rw [together.1]
  opened := fun _ _ _ => trivial
  behind := fun _ _ _ _ _ => trivial
  region := fun together _ => by rw [together.1]
  registry := fun together => by rw [together.1]
  alignment := fun together => by rw [together.1]
  next := fun together => by rw [together.1]
  dependencies := fun together _ _ => by rw [together.1]
  changeNode := fun together _ _ _ => ⟨by rw [together.1], together.2⟩
  changeRegion := fun together _ _ => ⟨by rw [together.1], together.2⟩
  record := fun together _ => ⟨by rw [together.1], together.2⟩
  request := fun together _ => ⟨by rw [together.1], together.2⟩
  dispatch :=
    fun together _ _ _ _ _ _ listed => ⟨by rw [together.1, listed], together.2⟩

/-- What is done for a node, apart from registering it, writes nothing to the
books. -/
private theorem books_of_undertake (id : NodeId) (device : Device)
    (operation : Operation) (before : Scheduler) :
    (Action.outcome (undertake id device operation) before).submitted =
      before.submitted ∧
    (Action.outcome (undertake id device operation) before).failures =
      before.failures := by
  have lockstep := lockstep_withBooks before.submitted before.failures
  have together : WithBooks before.submitted before.failures before before :=
    ⟨rfl, rfl, rfl⟩
  obtain ⟨_, _, books⟩ := Action.outcome_of_beside
    (lockstep.undertake together trivial trivial device operation)
  exact books

/-- Only registering the node writes to the books, and it does not fail once it
has done so. -/
theorem books_of_submitNew_error {id : NodeId} {before after : Scheduler}
    {cause : Error} (failed : submitNew id before = .error cause after) :
    after.submitted = before.submitted ∧ after.failures = before.failures := by
  rw [submitNew_eq_bind] at failed
  rcases bind_error_iff.mp failed with missing | ⟨node, _, got, failed⟩
  · obtain ⟨_, _, rfl⟩ := Action.getNode_error_iff.mp missing
    exact ⟨rfl, rfl⟩
  · obtain ⟨_, rfl⟩ := Action.getNode_ok_iff.mp got
    cases hinted : node.hint with
    | none =>
        rw [hinted] at failed
        cases failed
        exact ⟨rfl, rfl⟩
    | some device =>
        rw [hinted] at failed
        let assigned : Scheduler :=
          { before with graph := before.graph.updateNode id (·.assign device) }
        have books := books_of_undertake id device node.operation assigned
        have failed :
            carryOut id device node.operation assigned = .error cause after :=
          failed
        simp only [Action.outcome] at books
        rw [carryOut_eq] at failed
        rcases bind_error_iff.mp failed
          with stopped | ⟨_, between, passed, stopped⟩
        · rw [stopped] at books
          exact books
        · rw [passed] at books
          simp only [registerSubmitted] at stopped
          rcases bind_error_iff.mp stopped with missing | ⟨_, _, _, never⟩
          · rw [← (Action.getNode_error_iff.mp missing).2.2]
            exact books
          · cases never

/-- A submission that succeeds registers its node once, with the handle that the
node then has. -/
theorem books_of_submitNew_ok {id : NodeId} {before after : Scheduler}
    (done : submitNew id before = .ok () after) :
    ∃ node, after.graph.node? id = some node ∧
      after.submitted = before.submitted.register id node.handle? ∧
        after.failures = before.failures := by
  rw [submitNew_eq_bind] at done
  obtain ⟨node, _, got, done⟩ := bind_ok_iff.mp done
  obtain ⟨_, rfl⟩ := Action.getNode_ok_iff.mp got
  cases hinted : node.hint with
  | none =>
      rw [hinted] at done
      cases done
  | some device =>
      rw [hinted] at done
      let assigned : Scheduler :=
        { before with graph := before.graph.updateNode id (·.assign device) }
      have books := books_of_undertake id device node.operation assigned
      have done : carryOut id device node.operation assigned = .ok () after :=
        done
      simp only [Action.outcome] at books
      rw [carryOut_eq] at done
      obtain ⟨_, between, passed, registers⟩ := bind_ok_iff.mp done
      rw [passed] at books
      simp only [registerSubmitted] at registers
      obtain ⟨last, _, read, written⟩ := bind_ok_iff.mp registers
      obtain ⟨isNode, rfl⟩ := Action.getNode_ok_iff.mp read
      obtain rfl := modify_ok_iff.mp written
      exact ⟨last, isNode, by rw [← books.1], books.2⟩

/-- A node that is there fails only when it waits for its submission. -/
theorem waits_of_submit_error {id : NodeId} {node : Node}
    {before after : Scheduler} {cause : Error}
    (found : before.graph.node? id = some node)
    (failed : submit id before = .error cause after) :
    before.graph.state? id = some .unsubmitted := by
  simp only [submit] at failed
  rw [found] at failed
  simp only at failed
  split at failed
  · rename_i unsubmitted
    exact TaskGraph.state?_of_node? found
      (Node.isUnsubmitted_iff.mp unsubmitted)
  · cases failed

/-- Without a node that waits for its submission, nothing happens. -/
theorem submit_error_of_settled {id : NodeId} {before after : Scheduler}
    {cause : Error} (settled : before.graph.state? id ≠ some .unsubmitted)
    (failed : submit id before = .error cause after) : after = before := by
  cases found : before.graph.node? id with
  | none =>
      simp only [submit] at failed
      rw [found] at failed
      cases failed
      rfl
  | some node => exact absurd (waits_of_submit_error found failed) settled

/-- What stops the submission of a node that waits is what the scheduler gives
up for. -/
theorem submitNew_of_submit_error {id : NodeId} {before after : Scheduler}
    {cause : Error} (waits : before.graph.state? id = some .unsubmitted)
    (failed : submit id before = .error cause after) :
    ∃ stopped, submitNew id before = .error cause stopped ∧
      after = giveUp before stopped id cause := by
  obtain ⟨node, found, state⟩ := Option.map_eq_some_iff.mp waits
  simp only [submit] at failed
  rw [found] at failed
  simp only [Node.isUnsubmitted_iff.mpr state, if_true] at failed
  cases result : submitNew id before with
  | ok value stopped =>
      rw [result] at failed
      cases failed
  | error stop stopped =>
      rw [result] at failed
      cases failed
      exact ⟨stopped, rfl, rfl⟩

/-- A submission that fails makes some moves, without writing to the books, and
then gives up. -/
theorem moves_of_submit_error {id : NodeId} {before after : Scheduler}
    {cause : Error} (wellFormed : before.graph.WellFormed)
    (waits : before.graph.state? id = some .unsubmitted)
    (failed : submit id before = .error cause after) :
    ∃ stopped,
      Moves id id before stopped ∧ stopped.submitted = before.submitted ∧
      stopped.failures = before.failures ∧
      after = giveUp before stopped id cause := by
  obtain ⟨stopped, result, given⟩ := submitNew_of_submit_error waits failed
  obtain ⟨submitted, failures⟩ := books_of_submitNew_error result
  exact ⟨stopped, submitNew_error wellFormed waits result, submitted,
    failures, given⟩

end Submission

namespace Scheduler

/-- What a failed submission of the node leaves. Nothing of the node was handed
over, and what was submitted or cancelled before is as it was. -/
structure Undone (id : NodeId) (cause : Error) (before after : Scheduler) :
    Prop where
  cancelled : after.graph.state? id = some .cancelled
  idle : ∀ dispatch ∈ after.dispatches, dispatch.node ≠ id
  kept : ∀ other, before.graph.state? other ≠ some .unsubmitted →
    after.graph.state? other = before.graph.state? other
  dropped : ∀ other, after.graph.DependsOn id other →
    after.graph.state? other ≠ some .unsubmitted
  regions : List.Forall₂ Region.PutBack before.graph.regions after.graph.regions
  registered : after.submitted = before.submitted
  told : after.failures = before.failures.map (· ++ [⟨id, cause⟩])

/-- Whatever stops the submission of a node that waits for it, in whatever state
it is met, the failure leaves no more than that. -/
theorem undone_of_error {id : NodeId} {before after : Scheduler} {cause : Error}
    (met : before.InUse) (waits : before.graph.state? id = some .unsubmitted)
    (failed : submit id before = .error cause after) :
    Undone id cause before after := by
  obtain ⟨stopped, moves, submitted, failures, rfl⟩ :=
    moves_of_submit_error met.intact.wellFormed waits failed
  have stillWaits : stopped.graph.state? id = some .unsubmitted :=
    (Moves.state?_of_le moves (Nat.le_refl id)).trans waits
  have stoppedIntact := met.intact.moves moves
  have intact : (giveUp before stopped id cause).Intact := stoppedIntact.giveUp
  have cancelled :
      (giveUp before stopped id cause).graph.state? id = some .cancelled :=
    TaskGraph.state?_abort_root_of_eq stillWaits
  constructor
  case cancelled => exact cancelled
  case idle =>
    intro dispatch made equal
    apply (stoppedIntact.owned dispatch made).2
    rw [equal]
    exact stillWaits
  case kept =>
    intro other settled
    have unchanged := Moves.state?_of_ne moves settled
    have stillSettled :
        (stopped.graph.restore before.graph.snapshot).state? other ≠
          some .unsubmitted :=
      fun unsubmitted => settled (unchanged.symm.trans unsubmitted)
    exact (TaskGraph.state?_abort_of_ne stillSettled).trans unchanged
  case dropped =>
    intro other reached
    refine intact.settled_of_dependsOn ?_ reached
    rw [cancelled]
    simp
  case regions =>
    have restored :
        (giveUp before stopped id cause).graph.regions =
          (stopped.graph.restore before.graph.snapshot).regions :=
      TaskGraph.regions_abort _ id
    rw [restored]
    exact TaskGraph.putBack_restoreRegions (Moves.retain moves)
  case registered => exact submitted
  case told =>
    have told : (giveUp before stopped id cause).failures =
        stopped.failures.map (· ++ [⟨id, cause⟩]) := rfl
    rw [told, failures]

/-- A buffer on one device, a requirement to overwrite it on the host, one to
read it on its device, a kernel that was never asked to run, and one that comes
after all of them. -/
def refreshing : Scheduler :=
  let device : Device := ⟨.cuda, 0⟩
  let start := create 128 (.ofList [Backend.recording .host false none,
    Backend.recording .cuda false none]) true
  let graph :=
    (start.graph.addRegion "A" ⟨4, 1, 1⟩ 4).updateRegion 0 (·.seed device 0)
  let window : Box := .ofExtent ⟨4, 1, 1⟩
  { start with
    graph := { graph with slots := [some (Node.create
        (.requirement ⟨0, window, .discardWrite⟩) [] (some .hostDevice)),
        some (Node.create (.requirement ⟨0, window, .read⟩) [] (some device)),
        some (Node.create (.kernel ⟨"late", none⟩) [] none), some (Node.create
          (.kernel ⟨"failing", none⟩) [0, 1, 2] (some device))] } }

theorem reachable_refreshing : refreshing.Reachable := by
  let device : Device := ⟨.cuda, 0⟩
  let window : Box := .ofExtent ⟨4, 1, 1⟩
  have empty :=
    Reachable.create 128 (.ofList
      [Backend.recording .host false none, Backend.recording .cuda false none])
      true
  have buffer := empty.step (.addRegion "A" ⟨4, 1, 1⟩ 4)
  have seeded := buffer.step (.changeRegion 0 (·.seed device 0) fun region =>
    region.grows_seed device 0)
  have writer :=
    seeded.step (.addNode (.requirement ⟨0, window, .discardWrite⟩) []
      (some .hostDevice) 0 _ rfl)
  have reader := writer.step
    (.addNode (.requirement ⟨0, window, .read⟩) [] (some device) 1 _ rfl)
  have late := reader.step (.addNode (.kernel ⟨"late", none⟩) [] none 2 _ rfl)
  exact late.step
    (.addNode (.kernel ⟨"failing", none⟩) [0, 1, 2] (some device) 3 _ rfl)

/-- The last kernel requires one that was not submitted, which shows only after
both requirements were settled. -/
theorem refreshing_stops :
    submit 3 refreshing = .error (.unsubmittedPredecessor 2 3)
      (Action.outcome (submit 3) refreshing) :=
  Action.eq_error_of_cause? (by decide +kernel)

theorem undone_refreshing :
    Undone 3 (.unsubmittedPredecessor 2 3) refreshing
      (Action.outcome (submit 3) refreshing) :=
  undone_of_error reachable_refreshing.inUse rfl refreshing_stops

end Scheduler

end CoherentTasks
