import CoherentTasks.Proofs.Submission.Copying
import CoherentTasks.Proofs.Submission.Holding
import CoherentTasks.Proofs.Submission.Marks
import CoherentTasks.Proofs.Submission.Use

/-!
# Memories while requirements are resolved

Requirements of any graph are resolved one after another, and some resolutions
fail. The copies that are handed over are executed in their order, and whenever
an access that writes is settled, its window gets new values on its device. What
the regions hold as valid on a device is then always the latest value there.
-/

namespace CoherentTasks.Submission

open CoherentTasks.Computation
open CoherentTasks.Geometry (Triple)
open CoherentTasks.Graph (Copy Node Requirement TaskGraph)

/-- What the devices hold at every place of every buffer, and the values that
were written there last. -/
structure Contents (Value : Type) where
  held : RegionId → Device → Triple → Value
  latest : RegionId → Triple → Value

namespace Contents

variable {Value : Type} (fresh : NodeId → Triple → Value)

/-- An access writes values to its window on a device. -/
def write (contents : Contents Value) (requirement : Requirement)
    (device : Device) (value : Triple → Value) : Contents Value where
  held place holder position :=
    if place = requirement.region ∧ holder = device ∧
      position ∈ requirement.window then
      value position
    else contents.held place holder position
  latest place position :=
    if place = requirement.region ∧ position ∈ requirement.window
      then value position
    else contents.latest place position

/-- What an event does to the memories. A requirement that is settled writes if
its access does. -/
def perform (contents : Contents Value) : Event → Contents Value
  | .dispatched dispatch =>
    match dispatch.operation with
    | .copy copy => { contents with held := Copy.moved contents.held copy }
    | _ => contents
  | .settled id requirement device =>
    if requirement.mode.writes then contents.write requirement device (fresh id)
      else contents
  | .opened .. | .requested .. => contents

/-- What the events of a journal do to the memories, one after another. -/
def replay (contents : Contents Value) (events : Journal) : Contents Value :=
  events.foldl (perform fresh) contents

/-- What is valid on a device holds the latest value there. -/
def Agrees (contents : Contents Value) (graph : TaskGraph) : Prop :=
  ∀ place device position, graph.Holds place device position →
    contents.held place device position = contents.latest place position

/-- Whatever held the latest value still does, and the latest values are the
same. -/
structure Refreshes (before after : Contents Value) : Prop where
  latest : after.latest = before.latest
  kept : ∀ place device position,
    before.held place device position = before.latest place position →
    after.held place device position = before.latest place position

theorem Refreshes.refl (contents : Contents Value) :
    contents.Refreshes contents :=
  ⟨rfl, fun _ _ _ same => same⟩

theorem Refreshes.trans {first second third : Contents Value}
    (start : first.Refreshes second) (rest : second.Refreshes third) :
    first.Refreshes third where
  latest := rest.latest.trans start.latest
  kept place device position same := by
    have between := rest.kept place device position
    rw [start.latest] at between
    exact between (start.kept place device position same)

theorem Refreshes.agrees {before after : Contents Value}
    (refreshes : before.Refreshes after) {graph : TaskGraph}
    (agrees : before.Agrees graph) : after.Agrees graph := by
  intro place device position holds
  rw [refreshes.latest]
  exact refreshes.kept place device position
    (agrees place device position holds)

private theorem replay_append (contents : Contents Value)
    (first second : Journal) :
    contents.replay fresh (first ++ second) =
      (contents.replay fresh first).replay fresh second :=
  List.foldl_append

/-- The copies that were handed over are executed. -/
private theorem replay_dispatched (contents : Contents Value)
    {made : List Dispatch} {copies : List Copy}
    (operations : made.map (·.operation) = copies.map .copy) :
    contents.replay fresh (made.map .dispatched) =
      { contents with held := copies.foldl Copy.moved contents.held } := by
  induction made generalizing copies contents with
  | nil =>
      have none : copies = [] := List.map_eq_nil_iff.mp operations.symm
      subst none
      rfl
  | cons dispatch made induction =>
      obtain ⟨copy, rest, rfl, copied, others⟩ :=
        List.map_eq_cons_iff.mp operations.symm
      have first : contents.perform fresh (.dispatched dispatch) =
          { contents with held := Copy.moved contents.held copy } := by
        have isCopy : dispatch.operation = .copy copy := copied.symm
        simp only [perform, isCopy]
      calc
        contents.replay fresh ((dispatch :: made).map .dispatched) =
            (contents.perform fresh (.dispatched dispatch)).replay fresh
              (made.map .dispatched) := rfl
        _ = _ := by rw [first, induction _ others.symm]; rfl

end Contents

section Settles

variable {Value : Type} {contents : Contents Value} {root bound id : NodeId}
  {node : Node} {requirement : Requirement} {device : Device}
  {region : Coherence.Region} {copies : List Copy} {made : List Dispatch}
  {before after : Scheduler}

/-- The copies spoil nothing that holds the latest values, and they bring them
wherever the access does not drop the contents of its window. -/
theorem Contents.Agrees.copied (agrees : contents.Agrees before.graph)
    (wellFormed : before.graph.WellFormed)
    (settles :
      Settles root id node requirement device region copies made before after) :
    contents.Refreshes
      { contents with held := copies.foldl Copy.moved contents.held } ∧
    (requirement.mode.discards = false → ∀ position ∈ requirement.window,
      copies.foldl Copy.moved contents.held requirement.region device position =
        contents.latest requirement.region position) := by
  have numbered := wellFormed.numbered settles.tracked
  obtain ⟨kept, brought⟩ := Copy.foldl_moved_fetched settles.fetches
    fun source position _ valid => agrees region.id source position
      ((TaskGraph.holds_iff (numbered ▸ settles.tracked)).mpr valid)
  rw [numbered] at brought
  refine ⟨⟨rfl, kept⟩, fun keeps position inside => ?_⟩
  by_cases holds : before.graph.Holds requirement.region device position
  · exact kept _ _ _ (agrees _ _ _ holds)
  · obtain ⟨copy, isCopy, inDestination⟩ := settles.fetched keeps inside holds
    exact brought copy isCopy position inDestination

/-- Where the window holds the latest values already, to settle the requirement
spoils nothing. -/
theorem Contents.Agrees.marks (agrees : contents.Agrees before.graph)
    (settles :
      Settles root id node requirement device region copies made before after)
    (brought : ∀ position ∈ requirement.window, contents.held requirement.region
      device position = contents.latest requirement.region position) :
    contents.Agrees after.graph := by
  intro place holder position holds
  rcases settles.holds_iff.mp holds with ⟨earlier, _⟩ | ⟨rfl, rfl, inside⟩
  · exact agrees place holder position earlier
  · exact brought position inside

/-- Once a requirement is settled, its window holds the latest values: those
that were brought, or those that it writes itself. -/
theorem Contents.Agrees.settles (fresh : NodeId → Triple → Value)
    (agrees : contents.Agrees before.graph)
    (wellFormed : before.graph.WellFormed)
    (settles :
      Settles root id node requirement device region copies made before after) :
    (contents.replay fresh
      (made.map .dispatched ++ [.settled id requirement device])).Agrees
      after.graph := by
  obtain ⟨refreshes, brought⟩ := agrees.copied wellFormed settles
  have copied := refreshes.agrees agrees
  rw [replay_append, replay_dispatched fresh contents settles.handed.operations]
  simp only [replay, List.foldl_cons, List.foldl_nil, perform]
  by_cases writes : requirement.mode.writes = true
  · rw [if_pos writes]
    intro place holder position holds
    simp only [write]
    by_cases inside : place = requirement.region ∧ position ∈ requirement.window
    · have here : holder = device := by
        rcases settles.holds_iff.mp holds with ⟨_, current⟩ | validated
        · by_contra different
          exact current ⟨writes, inside.1, different, inside.2⟩
        · exact validated.2.1
      rw [if_pos ⟨inside.1, here, inside.2⟩, if_pos inside]
    · have earlier : before.graph.Holds place holder position := by
        rcases settles.holds_iff.mp holds with ⟨earlier, _⟩ | validated
        · exact earlier
        · exact absurd ⟨validated.1, validated.2.2⟩ inside
      rw [if_neg fun written => inside ⟨written.1, written.2.2⟩, if_neg inside]
      exact copied place holder position earlier
  · rw [if_neg writes]
    refine copied.marks settles (brought ?_)
    by_contra discards
    exact writes (writes_of_discards (by simpa using discards))

theorem Contents.Agrees.moves (fresh : NodeId → Triple → Value)
    (agrees : contents.Agrees before.graph)
    (wellFormed : before.graph.WellFormed)
    (moves : Moves root bound before after) :
    ∃ events, after.deeds = before.deeds ++ events ∧
      (contents.replay fresh events).Agrees after.graph := by
  induction moves with
  | refl => exact ⟨[], (List.append_nil _).symm, agrees⟩
  | tail moves move induction =>
      obtain ⟨events, deeds, agreesThen⟩ := induction
      rcases move.still_or_settles with
        ⟨still, same⟩ |
          ⟨id, node, requirement, device, region, copies, made, settles⟩
      · refine ⟨events, still.quiet.deeds.trans deeds,
          fun place holder position holds => ?_⟩
        exact agreesThen place holder position
          ((same place holder position).mp holds)
      · refine ⟨events ++
          (made.map .dispatched ++ [.settled id requirement device]), ?_, ?_⟩
        · rw [settles.deeds, deeds, List.append_assoc]
        · rw [replay_append]
          exact agreesThen.settles fresh
            (Moves.wellFormed moves wellFormed) settles

end Settles

/-- Requirements are resolved one after another, whether or not some resolutions
fail. -/
def resolveAll (ids : List NodeId) (start : Scheduler) : Scheduler :=
  ids.foldl (fun now id => Action.outcome (resolve id) now) start

/-- The copies handed over and the requirements settled since then, in their
order. -/
def deedsSince (start now : Scheduler) : Journal :=
  now.deeds.drop start.deeds.length

section Resolutions

variable {Value : Type} {contents : Contents Value}
  {start now after : Scheduler} {id : NodeId}

theorem Contents.Agrees.resolve (fresh : NodeId → Triple → Value)
    (agrees : contents.Agrees now.graph) (wellFormed : now.graph.WellFormed)
    (id : NodeId) :
    ∃ events, (Action.outcome (resolve id) now).deeds = now.deeds ++ events ∧
      (contents.replay fresh events).Agrees
        (Action.outcome (resolve id) now).graph := by
  by_cases states : StatesRequirement now.graph id
  · have leads : Leads (Move id (id + 1)) (Submission.resolve id) now _ :=
      resolves_resolve id now wellFormed states (.inl rfl)
    exact agrees.moves fresh wellFormed (Action.leads_outcome leads)
  · rw [outcome_resolve_of_not states]
    exact ⟨[], (List.append_nil _).symm, agrees⟩

theorem Contents.Agrees.resolveAll (fresh : NodeId → Triple → Value)
    (agrees : contents.Agrees start.graph) (met : start.InUse)
    (ids : List NodeId) :
    (resolveAll ids start).InUse ∧
    ∃ events, (resolveAll ids start).deeds = start.deeds ++ events ∧
      (contents.replay fresh events).Agrees (resolveAll ids start).graph := by
  induction ids generalizing start contents with
  | nil => exact ⟨met, [], (List.append_nil _).symm, agrees⟩
  | cons id ids induction =>
      obtain ⟨first, deeds, agreesThen⟩ :=
        agrees.resolve fresh met.intact.wellFormed id
      obtain ⟨metLast, rest, deedsLast, agreesLast⟩ :=
        induction agreesThen (met.use (.resolve id))
      refine ⟨metLast, first ++ rest, ?_, ?_⟩
      · rw [← List.append_assoc, ← deeds]
        exact deedsLast
      · rw [replay_append]
        exact agreesLast

private theorem resolve_of_submitted {node : Node} {requirement : Requirement}
    (found : now.graph.node? id = some node)
    (states : node.operation = .requirement requirement)
    (submitted : node.isSubmitted = true) :
    resolve id now = .ok .alreadySubmitted now := by
  have first : Action.getNode id now = .ok node now :=
    Action.getNode_ok_iff.mpr ⟨found, rfl⟩
  simp only [Submission.resolve, resolveWithin, resolveWith]
  simp only [bind, EStateM.bind, first, states, submitted]
  rfl

/-- A requirement that was not submitted before and could be resolved is valid
on its device. -/
private theorem holds_of_resolve {node : Node} {requirement : Requirement}
    {resolution : Resolution} (wellFormed : now.graph.WellFormed)
    (found : now.graph.node? id = some node)
    (states : node.operation = .requirement requirement)
    (result : resolve id now = .ok resolution after)
    (new : resolution ≠ .alreadySubmitted) :
    ∃ bound device, after.graph.node? id = some bound ∧
      bound.device = some device ∧ ∀ position ∈ requirement.window,
        after.graph.Holds requirement.region device position := by
  have resolved : Resolved id id now after :=
    ((resolves_resolve id now wellFormed ⟨node, requirement, found, states⟩
      (.inl rfl)).ok result).2
  rcases resolved with ⟨submitted, _⟩ |
    ⟨later, stated, device, region, copies, made, between, moves, settles⟩
  · rw [resolve_of_submitted found states
      ((TaskGraph.submitted_iff found).mp submitted)] at result
    cases result
    exact absurd rfl new
  · obtain ⟨counterpart, isNode, operation, _⟩ :=
      (Moves.sameNodes moves).node found
    rw [settles.found] at isNode
    cases isNode
    have same : stated = requirement := by
      have equal := settles.states.symm.trans (operation.trans states)
      cases equal
      rfl
    obtain ⟨state, isSettled⟩ := settles.node?
    refine ⟨_, device, isSettled, settles.bound, fun position inside => ?_⟩
    rw [← same] at inside ⊢
    exact settles.holds_iff.mpr (.inr ⟨rfl, rfl, inside⟩)

/-- If at first everything valid holds the latest value, it does so after any
resolutions, when the copies handed over since were executed and every access
that was settled and writes put new values into its window. Another resolution
that succeeds, on a requirement that was not submitted yet, makes the whole
window valid on the device of the requirement. -/
theorem agrees_resolveAll (met : start.InUse) (contents : Contents Value)
    (fresh : NodeId → Triple → Value) (agrees : contents.Agrees start.graph)
    (ids : List NodeId) :
    (contents.replay fresh (deedsSince start (resolveAll ids start))).Agrees
      (resolveAll ids start).graph ∧
    ∀ id node requirement resolution after,
      (resolveAll ids start).graph.node? id = some node →
      node.operation = .requirement requirement →
      resolve id (resolveAll ids start) = .ok resolution after →
      resolution ≠ .alreadySubmitted →
      ∃ bound device, after.graph.node? id = some bound ∧
        bound.device = some device ∧ ∀ position ∈ requirement.window,
          after.graph.Holds requirement.region device position := by
  obtain ⟨metNow, events, deeds, agreesNow⟩ := agrees.resolveAll fresh met ids
  constructor
  · simp only [deedsSince]
    rw [deeds, List.drop_left]
    exact agreesNow
  · intro id node requirement resolution after found states result new
    exact holds_of_resolve metNow.intact.wellFormed found states result new

end Resolutions

/-- A buffer on the host, a requirement to change a part of it on another
device, and a requirement behind that one to read it on the host. -/
def changedElsewhere : Scheduler :=
  let start :=
    Scheduler.create 128 (.ofList
      [Backend.recording .host false none, Backend.recording .cuda false none])
      false
  let graph :=
    (start.graph.addRegion "A" ⟨4, 1, 1⟩ 4).updateRegion 0
      (·.seed .hostDevice 0)
  { start with
    graph := { graph with slots := [some (Node.create (.requirement
        ⟨0, ⟨⟨1, 0, 0⟩, ⟨2, 1, 1⟩⟩, .readWrite⟩) [] (some ⟨.cuda, 0⟩)),
        some (Node.create (.requirement ⟨0, .ofExtent ⟨4, 1, 1⟩, .read⟩) [0]
          (some .hostDevice))] } }

private theorem inUse_changedElsewhere : changedElsewhere.InUse := by
  have empty :=
    Scheduler.Reachable.create 128 (.ofList
      [Backend.recording .host false none, Backend.recording .cuda false none])
      false
  have buffer := empty.step (.addRegion "A" ⟨4, 1, 1⟩ 4)
  have seeded :=
    buffer.step (.changeRegion 0 (·.seed .hostDevice 0)
      fun region => region.grows_seed .hostDevice 0)
  have change :=
    seeded.step (.addNode (.requirement ⟨0, ⟨⟨1, 0, 0⟩, ⟨2, 1, 1⟩⟩, .readWrite⟩)
      [] (some ⟨.cuda, 0⟩) 0 _ rfl)
  have read :=
    change.step (.addNode (.requirement ⟨0, .ofExtent ⟨4, 1, 1⟩, .read⟩) [0]
      (some .hostDevice) 1 _ rfl)
  exact read.inUse

/-- To read the buffer on the host, the part is changed elsewhere first and
fetched back: the host then holds the new values, and the whole buffer is valid
on the device of the second requirement. -/
theorem agrees_changedElsewhere :
    let contents : Contents Nat := ⟨fun _ _ _ => 0, fun _ _ => 0⟩
    let now := resolveAll [1] changedElsewhere
    let replayed :=
      contents.replay (fun id _ => id + 1) (deedsSince changedElsewhere now)
    (changedElsewhere.InUse ∧ contents.Agrees changedElsewhere.graph) ∧
    (replayed.Agrees now.graph ∧ replayed.latest 0 ⟨1, 0, 0⟩ = 1 ∧
      replayed.held 0 .hostDevice ⟨1, 0, 0⟩ = 1) ∧
    ∃ after bound device,
      resolve 1 changedElsewhere = .ok (.transferred 1) after ∧
      after.graph.node? 1 = some bound ∧ bound.device = some device ∧
      after.graph.Holds 0 device ⟨1, 0, 0⟩ := by
  intro contents now replayed
  have agrees : contents.Agrees changedElsewhere.graph := fun _ _ _ _ => rfl
  have agreesNow :=
    (agrees_resolveAll inUse_changedElsewhere contents (fun id _ => id + 1)
      agrees [1]).1
  have valid :=
    (agrees_resolveAll inUse_changedElsewhere contents (fun id _ => id + 1)
      agrees []).2
  have shape : (match resolve 1 changedElsewhere with
      | .ok resolution _ => decide (resolution = .transferred 1)
      | .error _ _ => false) = true := by decide +kernel
  refine ⟨⟨inUse_changedElsewhere, agrees⟩,
    ⟨agreesNow, by decide +kernel, by decide +kernel⟩, ?_⟩
  cases result : resolve 1 changedElsewhere with
  | error cause after =>
      rw [result] at shape
      cases shape
  | ok resolution after =>
      rw [result] at shape
      have transferred : resolution = .transferred 1 := of_decide_eq_true shape
      subst transferred
      obtain ⟨bound, device, isNode, isBound, held⟩ :=
        valid 1 _ _ _ after rfl rfl result (by simp)
      exact ⟨after, bound, device, rfl, isNode, isBound,
        held ⟨1, 0, 0⟩ (by decide)⟩

end CoherentTasks.Submission
