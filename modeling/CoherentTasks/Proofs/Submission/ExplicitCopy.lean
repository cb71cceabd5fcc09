import CoherentTasks.Proofs.Submission.Replay
import CoherentTasks.Proofs.Submission.Stages

/-!
# Memories after a copy

The copies that the submission of a copy hands over are executed in their order,
the ones that bring elements to other devices first. If everything valid held
the latest value before, it does so afterwards, unless the two windows of the
copy overlap in one buffer on two devices: then the source holds old values in
the common part, and is marked as valid there nevertheless.
-/

namespace CoherentTasks.Submission

open CoherentTasks.Coherence (Region)
open CoherentTasks.Geometry (Triple)
open CoherentTasks.Graph (Copy Node Requirement TaskGraph)

namespace Contents

variable {Value : Type}

/-- A copy makes what its source holds the latest values of its destination. -/
def copyOver (contents : Contents Value) (copy : Copy) : Contents Value where
  held := Copy.moved contents.held copy
  latest place position :=
    if place = copy.destination.region ∧ position ∈ copy.destinationBox then
      contents.held copy.source.region copy.source.device (copy.origin position)
    else contents.latest place position

/-- Executes an operation that was handed over. A copy that belongs to the node
itself is meant to change its destination; copies for requirements only bring
elements to other devices. -/
def execute (id : NodeId) (contents : Contents Value) (dispatch : Dispatch) :
    Contents Value :=
  match dispatch.operation with
  | .copy copy =>
    if dispatch.node = id then contents.copyOver copy
    else { contents with held := Copy.moved contents.held copy }
  | _ => contents

def executeAll (id : NodeId) (contents : Contents Value)
    (dispatches : List Dispatch) : Contents Value :=
  dispatches.foldl (execute id) contents

variable {id : NodeId} {contents : Contents Value}

theorem executeAll_append (first second : List Dispatch) :
    contents.executeAll id (first ++ second) =
      (contents.executeAll id first).executeAll id second :=
  List.foldl_append

private theorem executeAll_fetches {made : List Dispatch} {copies : List Copy}
    (operations : made.map (·.operation) = copies.map .copy)
    (others : ∀ dispatch ∈ made, dispatch.node ≠ id) :
    contents.executeAll id made =
      { contents with held := copies.foldl Copy.moved contents.held } := by
  induction made generalizing copies contents with
  | nil =>
      have none : copies = [] := List.map_eq_nil_iff.mp operations.symm
      subst none
      rfl
  | cons dispatch made induction =>
      obtain ⟨copy, rest, rfl, copied, later⟩ :=
        List.map_eq_cons_iff.mp operations.symm
      have first : contents.execute id dispatch =
          { contents with held := Copy.moved contents.held copy } := by
        have isCopy : dispatch.operation = .copy copy := copied.symm
        simp only [execute, isCopy]
        exact if_neg (others dispatch List.mem_cons_self)
      calc contents.executeAll id (dispatch :: made)
          = (contents.execute id dispatch).executeAll id made := rfl
        _ = _ := by
          rw [first, induction later.symm fun other member =>
            others other (List.mem_cons_of_mem _ member)]
          rfl

theorem executeAll_copy {dispatch : Dispatch} {copy : Copy}
    (ofNode : dispatch.node = id)
    (operation : dispatch.operation = .copy copy) :
    contents.executeAll id [dispatch] = contents.copyOver copy := by
  simp only [executeAll, List.foldl_cons, List.foldl_nil, execute, operation]
  exact if_pos ofNode

end Contents

section Fetching

variable {Value : Type} {contents : Contents Value}
  {root bound id explicit reads writes : NodeId} {node : Node}
  {requirement : Requirement} {device : Device} {region : Region}
  {copies : List Copy} {made : List Dispatch} {copy : Copy}
  {dispatch : Dispatch}
  {before start middle between ready launched after : Scheduler}

/-- A requirement that keeps the contents of its window is settled by
fetching. -/
theorem Contents.Agrees.fetched (agrees : contents.Agrees before.graph)
    (wellFormed : before.graph.WellFormed)
    (settles :
      Settles root id node requirement device region copies made before after)
    (keeps : requirement.mode.discards = false) (different : id ≠ explicit) :
    (contents.executeAll explicit made).Agrees after.graph ∧
    contents.Refreshes (contents.executeAll explicit made) := by
  obtain ⟨refreshes, brought⟩ := agrees.copied wellFormed settles
  rw [executeAll_fetches settles.handed.operations fun dispatch member =>
    (settles.handed.each dispatch member).1 ▸ different]
  exact ⟨(refreshes.agrees agrees).marks settles (brought keeps), refreshes⟩

/-- So are all of them, one after another. -/
theorem Contents.Agrees.fetching (agrees : contents.Agrees before.graph)
    (wellFormed : before.graph.WellFormed)
    (moves : Moves root bound before after) (preserves : Preserves before after)
    (above : bound ≤ explicit) :
    ∃ made, after.dispatches = before.dispatches ++ made ∧
      (contents.executeAll explicit made).Agrees after.graph ∧
      contents.Refreshes (contents.executeAll explicit made) := by
  induction moves with
  | refl => exact ⟨[], (List.append_nil _).symm, agrees, .refl contents⟩
  | tail moves move induction =>
      obtain ⟨made, dispatches, agreesThen, refreshes⟩ :=
        induction (preserves.first (.single move))
      have rest := preserves.second moves
      rcases move.still_or_settles with
        ⟨still, same⟩ |
          ⟨id, node, requirement, device, region, copies, more, settles⟩
      · refine ⟨made, still.quiet.dispatches.trans dispatches,
          fun place holder position holds => ?_, refreshes⟩
        exact agreesThen place holder position
          ((same place holder position).mp holds)
      · have different : id ≠ explicit := by
          intro equal
          subst equal
          exact settles.takesUp.submitted_self.not_unsubmitted
            ((move.state?_of_le above).trans settles.takesUp.waits)
        obtain ⟨agreesLast, further⟩ :=
          agreesThen.fetched (Moves.wellFormed moves wellFormed) settles
            (rest id node requirement settles.found settles.states settles.waits
              settles.takesUp.submitted_self) different
        refine ⟨made ++ more, ?_, ?_⟩
        · rw [settles.handed.dispatches, dispatches, List.append_assoc]
        · rw [executeAll_append]
          exact ⟨agreesLast, refreshes.trans further⟩

/-- Before the copy, everything was fetched for the two requirements, and
nothing for the write itself. -/
theorem Stages.fetched (wellFormed : before.graph.WellFormed)
    (agrees : contents.Agrees before.graph)
    (stages : Stages id reads writes copy dispatch before start middle between
      ready launched after) :
    ∃ made, ready.dispatches = before.dispatches ++ made ∧
      (contents.executeAll id made).Agrees between.graph ∧
      contents.Refreshes (contents.executeAll id made) ∧
      ∀ position ∈ copy.sourceBox, (contents.executeAll id made).held
        copy.source.region copy.source.device position =
        contents.latest copy.source.region position := by
  obtain ⟨first, dispatches, agreesMiddle, refreshes⟩ :=
    agrees.fetching wellFormed stages.toMiddle
      (stages.preserves.first stages.second) (Nat.le_refl id)
  obtain ⟨second, dispatchesThen, agreesBetween, further⟩ :=
    agreesMiddle.fetching (Moves.wellFormed stages.toMiddle wellFormed)
      stages.second (stages.preserves.second stages.toMiddle) (Nat.le_refl id)
  obtain ⟨_, _, copies, made, settles⟩ := stages.write
  have nothing : made = [] := by
    have none : copies = [] := settles.planned
    have operations := settles.handed.operations
    rw [none] at operations
    exact List.map_eq_nil_iff.mp operations
  refine ⟨first ++ second, ?_, ?_⟩
  · rw [settles.handed.dispatches, nothing, List.append_nil, dispatchesThen,
      dispatches, List.append_assoc]
  · rw [Contents.executeAll_append]
    refine ⟨agreesBetween, refreshes.trans further, fun position inside => ?_⟩
    have brought := agreesMiddle _ _ _ (stages.holds_source position inside)
    rw [further.kept _ _ _ brought, refreshes.latest]

end Fetching

section Copied

variable {Value : Type} {contents : Contents Value} {id reads writes : NodeId}
  {copy : Copy} {before after : Scheduler}

/-- How things stand when a copy has been handed over and its source was marked
as valid again. The contents are those before the copy, and the graph is the one
afterwards. -/
structure Poised (contents : Contents Value) (copy : Copy) (graph : TaskGraph) :
    Prop where
  source : ∀ position ∈ copy.sourceBox,
    contents.held copy.source.region copy.source.device position =
      contents.latest copy.source.region position
  marked : ∀ position ∈ copy.sourceBox,
    graph.Holds copy.source.region copy.source.device position
  valid : ∀ place device position,
    graph.Holds place device position → (place = copy.destination.region ∧
      device = copy.destination.device ∧ position ∈ copy.destinationBox) ∨
      (place = copy.source.region ∧ device = copy.source.device ∧
        position ∈ copy.sourceBox) ∨
      (¬ (place = copy.destination.region ∧ position ∈ copy.destinationBox) ∧
        contents.held place device position = contents.latest place position)

/-- Only the common part of the two windows can be outdated, on the device of
the source. -/
theorem Poised.agrees_iff {graph : TaskGraph}
    (poised : Poised contents copy graph) :
    (contents.copyOver copy).Agrees graph ↔
      (copy.source.region = copy.destination.region →
        copy.source.device ≠ copy.destination.device →
        ∀ position ∈ copy.sourceBox, position ∈ copy.destinationBox →
          contents.latest copy.source.region (copy.origin position) =
            contents.latest copy.source.region position) := by
  constructor
  · intro agrees same different position inSource inDestination
    have agree := agrees _ _ _ (poised.marked position inSource)
    simp only [Contents.copyOver, Copy.moved] at agree
    rw [if_neg fun written => different written.2.1,
      if_pos ⟨same, inDestination⟩, poised.source position inSource,
      poised.source _ (Copy.origin_mem inDestination)] at agree
    exact agree.symm
  · intro matching place device position holds
    simp only [Contents.copyOver, Copy.moved]
    by_cases changed :
      place = copy.destination.region ∧ position ∈ copy.destinationBox
    · rw [if_pos changed]
      by_cases here : device = copy.destination.device
      · rw [if_pos ⟨changed.1, here, changed.2⟩]
      · rw [if_neg fun written => here written.2.1]
        rcases poised.valid place device position holds with
          ⟨_, isHere, _⟩ | ⟨same, isSource, inSource⟩ | ⟨elsewhere, _⟩
        · exact absurd isHere here
        · rw [same, isSource, poised.source position inSource,
            poised.source _ (Copy.origin_mem changed.2)]
          exact (matching (same.symm.trans changed.1) (isSource ▸ here) position
            inSource changed.2).symm
        · exact absurd changed elsewhere
    · rw [if_neg changed,
        if_neg fun written => changed ⟨written.1, written.2.2⟩]
      rcases poised.valid place device position holds with
        ⟨same, _, inside⟩ | ⟨same, isSource, inSource⟩ | ⟨_, agree⟩
      · exact absurd ⟨same, inside⟩ changed
      · rw [same, isSource]
        exact poised.source position inSource
      · exact agree

/-- What the submission of such a copy hands over, and how things stand then. -/
private theorem poised_of_submit (reached : before.Reachable)
    (agrees : contents.Agrees before.graph)
    (setting : ReadsAndWrites before.graph id reads writes copy)
    (result : submit id before = .ok () after)
    (onSource : after.graph.device? reads = some copy.source.device)
    (onDestination :
      after.graph.device? writes = some copy.destination.device) :
    ∃ made dispatch, Action.handed (submit id) before = made ++ [dispatch] ∧
      dispatch.node = id ∧ dispatch.operation = .copy copy ∧
      (contents.executeAll id made).latest = contents.latest ∧
      Poised (contents.executeAll id made) copy after.graph := by
  have wellFormed := reached.consistent.wellFormed
  obtain ⟨dispatch, start, middle, between, ready, launched, stages⟩ :=
    stages_of_submit wellFormed setting result onSource onDestination
  obtain ⟨made, dispatches, agreesBetween, refreshes, source⟩ :=
    stages.fetched wellFormed agrees
  obtain ⟨node, device, copies, launches⟩ := stages.launches
  obtain ⟨launchDispatches, ofNode, _, operation⟩ := launches.made
  refine ⟨made, dispatch, ?_, ofNode, operation.trans copies,
    refreshes.latest, ?_⟩
  · apply Action.handed_eq
    rw [Action.outcome_of_ok result, stages.finishes.quiet.dispatches,
      launchDispatches, dispatches, List.append_assoc]
  · constructor
    case source =>
      intro position inside
      rw [source position inside, refreshes.latest]
    case marked => exact stages.marked reached.windowsInside setting onSource
    case valid =>
      intro place holder position holds
      exact (stages.valid wellFormed holds).imp_right
        (Or.imp_right (And.imp_right (agreesBetween place holder position)))

/-- If everything valid holds the latest value before a copy is submitted, it
does so once the submission has succeeded and all that it handed over was
executed, unless the two windows overlap in one buffer on two devices. Then the
latest values in the common part must be those that are copied there. -/
theorem agrees_submit_copy_iff (reached : before.Reachable)
    (agrees : contents.Agrees before.graph)
    (setting : ReadsAndWrites before.graph id reads writes copy)
    (result : submit id before = .ok () after)
    (onSource : after.graph.device? reads = some copy.source.device)
    (onDestination :
      after.graph.device? writes = some copy.destination.device) :
    (contents.executeAll id (Action.handed (submit id) before)).Agrees
        after.graph ↔
      (copy.source.region = copy.destination.region →
        copy.source.device ≠ copy.destination.device →
        ∀ position ∈ copy.sourceBox, position ∈ copy.destinationBox →
          contents.latest copy.source.region (copy.origin position) =
            contents.latest copy.source.region position) := by
  obtain ⟨made, dispatch, handed, ofNode, operation, latest, poised⟩ :=
    poised_of_submit reached agrees setting result onSource onDestination
  rw [handed, Contents.executeAll_append,
    Contents.executeAll_copy ofNode operation, poised.agrees_iff, latest]

end Copied

/-- A copy of the first two elements of a buffer to another device, to the place
behind an offset. -/
def shift (offset : Nat) : Copy :=
  ⟨⟨.hostDevice, ⟨0, 0, 0⟩, 0⟩, ⟨⟨.cuda, 0⟩, ⟨offset, 0, 0⟩, 0⟩, ⟨2, 1, 1⟩⟩

/-- A buffer on the host and such a copy, behind requirements for its two
windows. -/
def shifting (offset : Nat) : Scheduler :=
  let start :=
    Scheduler.create 128 (.ofList
      [Backend.recording .host false none, Backend.recording .cuda false none])
      false
  let graph :=
    (start.graph.addRegion "A" ⟨4, 1, 1⟩ 4).updateRegion 0
      (·.seed .hostDevice 0)
  { start with
    graph := { graph with slots := [some (Node.create (.requirement
        ⟨0, (shift offset).sourceBox, .read⟩) [] (some .hostDevice)),
        some (Node.create
          (.requirement ⟨0, (shift offset).destinationBox, .discardWrite⟩) []
          (some ⟨.cuda, 0⟩)),
        some (Node.create (.copy (shift offset)) [0, 1] (some ⟨.cuda, 0⟩))] } }

private theorem reachable_shifting {offset : Nat} (fits : offset < 2) :
    (shifting offset).Reachable := by
  have empty :=
    Scheduler.Reachable.create 128 (.ofList
      [Backend.recording .host false none, Backend.recording .cuda false none])
      false
  have buffer := empty.step (.addRegion "A" ⟨4, 1, 1⟩ 4)
  have seeded :=
    buffer.step (.changeRegion 0 (·.seed .hostDevice 0)
      fun region => region.grows_seed .hostDevice 0)
  have read :=
    seeded.step (.addNode (.requirement ⟨0, (shift offset).sourceBox, .read⟩) []
      (some .hostDevice) 0 _ rfl)
  obtain rfl | rfl : offset = 0 ∨ offset = 1 := by omega
  · have write :=
      read.step
        (.addNode (.requirement ⟨0, (shift 0).destinationBox, .discardWrite⟩) []
          (some ⟨.cuda, 0⟩) 1 _ rfl)
    exact write.step (.addCopy (shift 0) [0, 1] (some ⟨.cuda, 0⟩) 2 _ rfl)
  · have write :=
      read.step
        (.addNode (.requirement ⟨0, (shift 1).destinationBox, .discardWrite⟩) []
          (some ⟨.cuda, 0⟩) 1 _ rfl)
    exact write.step (.addCopy (shift 1) [0, 1] (some ⟨.cuda, 0⟩) 2 _ rfl)

private theorem readsAndWrites_shifting (offset : Nat) :
    ReadsAndWrites (shifting offset).graph 2 0 1 (shift offset) where
  copies := ⟨_, rfl, rfl, rfl, rfl⟩
  source := ⟨_, rfl, rfl, rfl⟩
  destination := ⟨_, rfl, rfl, rfl⟩
  behind required node requirement reached := by
    have nothing (parent : NodeId)
        (none : (shifting offset).graph.requirementsOf parent = []) :
        ¬ (shifting offset).graph.DependsOn parent required := by
      intro reached
      obtain ⟨first, edge, _⟩ := Relation.TransGen.head'_iff.mp reached
      simp only [TaskGraph.Requires] at edge
      rw [none] at edge
      exact absurd edge List.not_mem_nil
    rcases reached with behindRead | behindWrite
    · exact absurd behindRead (nothing 0 rfl)
    · exact absurd behindWrite (nothing 1 rfl)

/-- Every element holds its place in the buffer. -/
def places : Contents Nat :=
  ⟨fun _ _ position => position.x, fun _ position => position.x⟩

/-- If the offset is zero, the copy puts the elements where they are. -/
theorem agrees_shifting :
    (shifting 0).Reachable ∧ places.Agrees (shifting 0).graph ∧
      (places.executeAll 2 (Action.handed (submit 2) (shifting 0))).Agrees
        (Action.outcome (submit 2) (shifting 0)).graph := by
  have reached : (shifting 0).Reachable := reachable_shifting (by decide)
  have agrees : places.Agrees (shifting 0).graph := fun _ _ _ _ => rfl
  have result :=
    Action.eq_ok_of_succeeds
      (show Action.succeeds (submit 2) (shifting 0) = true by
    decide +kernel)
  refine ⟨reached, agrees,
    (agrees_submit_copy_iff reached agrees (readsAndWrites_shifting 0) result
      (by decide +kernel) (by decide +kernel)).mpr ?_⟩
  intro _ _ position _ inDestination
  exact congrArg Triple.x (Copy.origin_of_mem rfl inDestination)

/-- The submission of a copy does not always leave the latest values wherever
something is valid: here the second element, which is copied and then
overwritten, stays valid on the host. -/
theorem not_always_agrees :
    ¬ ∀ (contents : Contents Nat) (before after : Scheduler)
        (id reads writes : NodeId) (copy : Copy),
      before.Reachable → contents.Agrees before.graph →
      ReadsAndWrites before.graph id reads writes copy →
      submit id before = .ok () after →
      after.graph.device? reads = some copy.source.device →
      after.graph.device? writes = some copy.destination.device →
      (contents.executeAll id (Action.handed (submit id) before)).Agrees
        after.graph := by
  intro always
  have result :=
    Action.eq_ok_of_succeeds
      (show Action.succeeds (submit 2) (shifting 1) = true by
    decide +kernel)
  have agrees :=
    always places (shifting 1) _ 2 0 1 (shift 1)
      (reachable_shifting (by decide)) (fun _ _ _ _ => rfl)
      (readsAndWrites_shifting 1) result (by decide +kernel) (by decide +kernel)
  have valid :
      ((Action.outcome (submit 2) (shifting 1)).graph.region? 0).map
          (fun region => decide
            (⟨⟨0, 0, 0⟩, ⟨2, 1, 1⟩⟩ ∈ (region.validOn .hostDevice).boxes)) =
        some true := by decide +kernel
  obtain ⟨region, isRegion, isBox⟩ := Option.map_eq_some_iff.mp valid
  have outdated := agrees 0 .hostDevice ⟨1, 0, 0⟩
    ⟨region, isRegion, _, of_decide_eq_true isBox, by decide⟩
  exact absurd outdated (by decide +kernel)

end CoherentTasks.Submission
