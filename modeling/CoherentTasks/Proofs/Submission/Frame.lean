import CoherentTasks.Proofs.Submission.Registration
import CoherentTasks.Proofs.Submission.Scope

/-!
# What a submission leaves alone

Whether a submission succeeds or fails, it changes nothing but what its node
involves. A failure cancels no other nodes, and it puts the regions back, those
that were not changed to what they are.
-/

namespace CoherentTasks

open CoherentTasks.Coherence (Region)
open CoherentTasks.Computation
open CoherentTasks.Geometry (Triple)
open CoherentTasks.Graph (Node Requirement TaskGraph)

namespace Coherence.Region

variable {first second : Region}

/-- In a region that was put back, no element differs. -/
theorem PutBack.changesWithin (putBack : first.PutBack second)
    (touched : Triple → Prop) : ChangesWithin touched first second := by
  have each (device : Device) : second.validOn device = first.validOn device ∧
      second.currentOn device = first.currentOn device := by
    simp only [validOn, currentOn]
    cases found : first.allocation? device with
    | some allocation =>
        rw [putBack.kept device allocation found]
        exact ⟨rfl, rfl⟩
    | none =>
        cases later : second.allocation? device with
        | none => exact ⟨rfl, rfl⟩
        | some allocation => exact putBack.fresh device allocation found later
  exact ⟨fun device _ _ => by rw [(each device).1],
    fun device _ _ => by rw [(each device).2]⟩

end Coherence.Region

namespace Graph.TaskGraph

variable {root : NodeId} {graph : TaskGraph}

/-- To give up a node changes no other node than those that it involves. -/
theorem node?_abort_of_apart {id : NodeId} (apart : ¬ graph.Involves root id) :
    (graph.abort root).2.node? id = graph.node? id := by
  have kept : id ∉ graph.cancellations root := by
    intro member
    rcases (mem_cancellations_iff.mp member).2 with met | isRoot
    · exact apart (.inr met.dependsOn)
    · exact apart (.inl isRoot)
  simp only [abort]
  rw [node?_cancelAll, if_neg kept]

end Graph.TaskGraph

namespace Submission

section Outcome

variable {id : NodeId} {before stopped after : Scheduler}

/-- To give up a submission is confined to what its node involves: no other
nodes are cancelled, and regions in which nothing was changed are put back to
what they are. -/
private theorem confined_giveUp {cause : Error}
    (moves : Moves id id before stopped)
    (confined : before.graph.Confined id stopped.graph) :
    before.graph.Confined id (giveUp before stopped id cause).graph := by
  let restored := stopped.graph.restore before.graph.snapshot
  have sameNodes : stopped.graph.SameNodes restored := .refl stopped.graph
  have sameRegions (region : RegionId) :
      (giveUp before stopped id cause).graph.region? region =
        restored.region? region :=
    congrArg (·[region]?) (TaskGraph.regions_abort restored id)
  constructor
  case sameNodes =>
    exact confined.sameNodes.trans
      (sameNodes.trans (TaskGraph.sameNodes_abort restored id))
  case nodes =>
    intro other apart
    have apartThere : ¬ restored.Involves id other := by
      rwa [← (confined.sameNodes.trans sameNodes).involves]
    exact (TaskGraph.node?_abort_of_apart apartThere).trans
      (confined.nodes other apart)
  case regions =>
    intro region unnamed
    have same := confined.regions region unnamed
    rw [sameRegions]
    cases found : before.graph.region? region with
    | some tracked =>
        rw [TaskGraph.region?_restore (Moves.regionsGrow moves) found
          (same.trans found), Region.restore_snapshot]
    | none =>
        cases later : restored.region? region with
        | none => rfl
        | some put =>
            obtain ⟨earlier, isEarlier, _⟩ :=
              (TaskGraph.regionsGrow_restore stopped.graph
                before.graph.snapshot).region? later
            rw [same, found] at isEarlier
            cases isEarlier
  case elements =>
    intro region tracked found
    have each :
        List.Forall₂ Region.PutBack before.graph.regions restored.regions :=
      TaskGraph.putBack_restoreRegions (Moves.retain moves)
    obtain ⟨later, isLater, putBack⟩ :=
      TaskGraph.exists_later_of_forall₂ Region.PutBack each found
    exact ⟨later, (sameRegions region).trans isLater, putBack.changesWithin _⟩

/-- In whatever state a node is submitted, and whether or not the submission
succeeds, what it changes is confined to what the node involves. -/
theorem confined_submit (met : before.InUse) (id : NodeId) :
    before.graph.Confined id (Action.outcome (submit id) before).graph := by
  by_cases waits : before.graph.state? id = some .unsubmitted
  · have leads : Leads (Touch before.graph id) (submitNew id) before _ :=
      worksFor_submitNew (.refl before.graph)
    cases result : submit id before with
    | ok _ after =>
        obtain ⟨node, found, state⟩ := Option.map_eq_some_iff.mp waits
        have done :=
          submitNew_of_submit_ok found (Node.isUnsubmitted_iff.mpr state) result
        rw [Action.outcome_of_ok result]
        exact confined_of_touches (leads.ok done).1 (.refl before.graph)
    | error cause after =>
        obtain ⟨stopped, failed, rfl⟩ := submitNew_of_submit_error waits result
        have wellFormed := met.intact.wellFormed
        rw [Action.outcome_of_error result]
        exact confined_giveUp (submitNew_error wellFormed waits failed)
          (confined_of_touches (leads.error failed) (.refl before.graph))
  · rw [outcome_submit_of_settled waits]
    exact .refl id before.graph

end Outcome

/-- The first half of the first buffer, to be written. -/
def halfAccess : Requirement := ⟨0, .ofExtent ⟨2, 1, 1⟩, .write⟩

/-- Two buffers, the first of them held by the host, a requirement to write one
half of it on another device, a kernel that comes after the requirement, and a
kernel that has nothing to do with them. -/
def writingHalf : Scheduler :=
  let device : Device := ⟨.cuda, 0⟩
  let start :=
    Scheduler.create 128 (.ofList
      [Backend.recording .host false none, Backend.recording .cuda false none])
      false
  let graph :=
    ((start.graph.addRegion "A" ⟨4, 1, 1⟩ 4).addRegion "B" ⟨4, 1, 1⟩
      4).updateRegion
      0 (·.seed .hostDevice 0)
  { start with graph := { graph with slots :=
      [some (Node.create (.requirement halfAccess) [] (some device)),
        some (Node.create (.kernel ⟨"writer", none⟩) [0] (some device)),
        some (Node.create (.kernel ⟨"other", none⟩) [] (some device))] } }

private theorem reachable_writingHalf : writingHalf.Reachable := by
  let device : Device := ⟨.cuda, 0⟩
  have empty :=
    Scheduler.Reachable.create 128 (.ofList
      [Backend.recording .host false none, Backend.recording .cuda false none])
      false
  have first := empty.step (.addRegion "A" ⟨4, 1, 1⟩ 4)
  have second := first.step (.addRegion "B" ⟨4, 1, 1⟩ 4)
  have seeded :=
    second.step (.changeRegion 0 (·.seed .hostDevice 0)
      fun region => region.grows_seed .hostDevice 0)
  have guard :=
    seeded.step (.addNode (.requirement halfAccess) [] (some device) 0 _ rfl)
  have writer :=
    guard.step (.addNode (.kernel ⟨"writer", none⟩) [0] (some device) 1 _ rfl)
  exact writer.step
    (.addNode (.kernel ⟨"other", none⟩) [] (some device) 2 _ rfl)

private theorem demands_writingHalf {requirement : Requirement}
    (demanded : writingHalf.graph.Demands 1 requirement) :
    requirement = halfAccess := by
  obtain ⟨id, node, involved, found, states⟩ := demanded
  have below : id ≤ 1 := by
    rcases involved with rfl | reached
    · exact Nat.le_refl 1
    · exact Nat.le_of_lt
        (reachable_writingHalf.inUse.intact.wellFormed.dependsOn_lt reached)
  match id, below with
  | 0, _ =>
      cases found
      cases states
      rfl
  | 1, _ =>
      cases found
      cases states

/-- The writer takes the first half of the buffer from the host. The other
kernel and the other buffer are as before, and the host still holds the second
half. -/
theorem writingHalf_spares_rest :
    Action.succeeds (submit 1) writingHalf = true ∧
    (Action.outcome (submit 1) writingHalf).graph.node? 2 =
      writingHalf.graph.node? 2 ∧
    (Action.outcome (submit 1) writingHalf).graph.region? 1 =
      writingHalf.graph.region? 1 ∧
    ∃ region,
      (Action.outcome (submit 1) writingHalf).graph.region? 0 = some region ∧
      ⟨0, 0, 0⟩ ∉ region.validOn .hostDevice ∧
      ⟨3, 0, 0⟩ ∈ region.validOn .hostDevice := by
  have confined := confined_submit reachable_writingHalf.inUse 1
  have apart : ¬ writingHalf.graph.Involves 1 2 := by
    intro involved
    rcases involved with equal | reached
    · cases equal
    · exact absurd
        (reachable_writingHalf.inUse.intact.wellFormed.dependsOn_lt reached)
        (by decide)
  have unnamed (requirement : Requirement)
      (demanded : writingHalf.graph.Demands 1 requirement) :
      requirement.region ≠ 1 := by
    rw [demands_writingHalf demanded]
    decide
  have outside : ¬ writingHalf.graph.DemandsAt 1 0 ⟨3, 0, 0⟩ := by
    intro demandsAt
    obtain ⟨requirement, demanded, _, inside⟩ := demandsAt
    rw [demands_writingHalf demanded] at inside
    exact absurd inside (by decide)
  have held :
      ((writingHalf.graph.region? 0).map
          fun region => (region.validOn .hostDevice).boxes) =
        some [.ofExtent ⟨4, 1, 1⟩] := by decide +kernel
  have left :
      ((Action.outcome (submit 1) writingHalf).graph.region? 0).map
          (fun region => (region.validOn .hostDevice).boxes) =
        some [⟨⟨2, 0, 0⟩, ⟨2, 1, 1⟩⟩] := by decide +kernel
  obtain ⟨before, found, boxes⟩ := Option.map_eq_some_iff.mp held
  obtain ⟨region, isRegion, changes⟩ := confined.elements found
  rw [isRegion, Option.map_some, Option.some_inj] at left
  refine ⟨by decide +kernel, confined.nodes 2 apart, confined.regions 1 unnamed,
    region, isRegion, ?_, (changes.valid .hostDevice _ outside).mpr
      ⟨_, boxes ▸ List.mem_cons_self, by decide⟩⟩
  intro valid
  obtain ⟨box, isBox, member⟩ := valid
  rw [left, List.mem_singleton] at isBox
  subst isBox
  exact absurd member (by decide)

end Submission

end CoherentTasks
