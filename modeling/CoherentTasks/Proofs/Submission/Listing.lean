import CoherentTasks.Proofs.Submission.Use

/-!
# Lists of dependencies

The list that an operation is handed over with is read off the graph at that
moment. Until the submission ends, nothing changes that it depends on: from the
end of the submission, the same list would be read off.
-/

namespace CoherentTasks

open CoherentTasks.Completion (Handle Signals)
open CoherentTasks.Graph (Node Operation TaskGraph)
open CoherentTasks.Submission

namespace Scheduler

/-- A later moment of the same submission. What did not wait for its submission
is as it was, and signals were only added. -/
structure Follows (before after : Scheduler) : Prop where
  sameNodes : before.graph.SameNodes after.graph
  length : after.graph.slots.length = before.graph.slots.length
  states : ∀ id, before.graph.state? id ≠ some .unsubmitted →
    after.graph.state? id = before.graph.state? id
  signals : ∃ flags, after.signals = ⟨before.signals.fired ++ flags⟩

namespace Follows

variable {first second third before after : Scheduler} {id : NodeId}

theorem refl (scheduler : Scheduler) : scheduler.Follows scheduler :=
  ⟨.refl _, rfl, fun _ _ => rfl, [], by rw [List.append_nil]⟩

private theorem state?_ne (follows : before.Follows after)
    (settled : before.graph.state? id ≠ some .unsubmitted) :
    after.graph.state? id ≠ some .unsubmitted := by
  rw [follows.states id settled]
  exact settled

theorem trans (start : first.Follows second) (rest : second.Follows third) :
    first.Follows third where
  sameNodes := start.sameNodes.trans rest.sameNodes
  length := rest.length.trans start.length
  states id settled :=
    (rest.states id (start.state?_ne settled)).trans (start.states id settled)
  signals := by
    obtain ⟨flags, middle⟩ := start.signals
    obtain ⟨more, last⟩ := rest.signals
    exact ⟨flags ++ more, by rw [last, middle, List.append_assoc]⟩

theorem of_takesUp {made : List Dispatch} (takes : TakesUp id made before after)
    (length : after.graph.slots.length = before.graph.slots.length) :
    before.Follows after where
  sameNodes := takes.sameNodes
  length := length
  states _ settled := takes.state?_of_ne settled
  signals := by
    obtain ⟨_, _, handed⟩ := takes.handed
    obtain ⟨flags, _, signals⟩ := handed.fired
    exact ⟨flags, signals⟩

theorem of_still (still : Still before after)
    (length : after.graph.slots.length = before.graph.slots.length) :
    before.Follows after where
  sameNodes := still.sameNodes
  length := length
  states id _ := still.states id
  signals := ⟨[], by rw [still.quiet.signals, List.append_nil]⟩

theorem of_quiet (same : ∀ id, after.graph.node? id = before.graph.node? id)
    (length : after.graph.slots.length = before.graph.slots.length)
    (quiet : Quiet before after) : before.Follows after :=
  .of_still (.of_node? same quiet) length

theorem of_giveUp (before after : Scheduler) (id : NodeId) (cause : Error) :
    after.Follows (giveUp before after id cause) where
  sameNodes :=
    TaskGraph.sameNodes_abort (after.graph.restore before.graph.snapshot) id
  length :=
    TaskGraph.length_slots_abort (after.graph.restore before.graph.snapshot) id
  states other settled := by
    have settledThen :
        (after.graph.restore before.graph.snapshot).state? other ≠
          some .unsubmitted := settled
    exact TaskGraph.state?_abort_of_ne settledThen
  signals := ⟨[], by rw [List.append_nil]; rfl⟩

end Follows

section Walks

variable {before after : Scheduler} {id other : NodeId}

/-- Nothing that the node requires waits for its submission. -/
def Ready (scheduler : Scheduler) (id : NodeId) : Prop :=
  ∀ required, scheduler.graph.Requires id required →
    scheduler.graph.state? required ≠ some .unsubmitted

theorem Intact.settled_of_meets (intact : before.Intact)
    (ready : before.Ready id) {passes : Node → Bool}
    (met : before.graph.Meets passes id other) :
    before.graph.state? other ≠ some .unsubmitted :=
  (TaskGraph.meets_of_within (before.graph.state? · ≠ some .unsubmitted)
    (fun first edge => ⟨edge, ready first edge⟩) (fun _ _ settled edge =>
      ⟨edge, intact.settled_of_requires settled edge.requires⟩) met).2

theorem Follows.passage_iff (follows : before.Follows after)
    {here next : NodeId}
    (settled : before.graph.state? here ≠ some .unsubmitted) :
    after.graph.Passage (·.isSatisfied) here next ↔
      before.graph.Passage (·.isSatisfied) here next := by
  rw [TaskGraph.passage_isSatisfied_iff, TaskGraph.passage_isSatisfied_iff,
    follows.states here settled, follows.sameNodes.requires]

theorem Follows.meets_iff (follows : before.Follows after)
    (intact : before.Intact) (ready : before.Ready id) :
    after.graph.Meets (·.isSatisfied) id other ↔
      before.graph.Meets (·.isSatisfied) id other := by
  have onward {here next : NodeId}
      (settled : before.graph.state? here ≠ some .unsubmitted)
      (edge : before.graph.Passage (·.isSatisfied) here next) :
      before.graph.state? next ≠ some .unsubmitted :=
    intact.settled_of_requires settled edge.requires
  constructor
  · intro met
    refine (TaskGraph.meets_of_within
      (before.graph.state? · ≠ some .unsubmitted) (fun first edge => ?_)
      (fun here next settled edge => ?_) met).1
    · rw [← follows.sameNodes.requires] at edge
      exact ⟨edge, ready first edge⟩
    · have edgeBefore := (follows.passage_iff settled).mp edge
      exact ⟨edgeBefore, onward settled edgeBefore⟩
  · intro met
    refine (TaskGraph.meets_of_within
      (before.graph.state? · ≠ some .unsubmitted) (fun first edge => ?_)
      (fun here next settled edge => ?_) met).1
    · refine ⟨?_, ready first edge⟩
      rw [← follows.sameNodes.requires]
      exact edge
    · exact ⟨(follows.passage_iff settled).mpr edge, onward settled edge⟩

theorem Follows.outstanding?_eq (follows : before.Follows after)
    (intact : before.Intact)
    (settled : before.graph.state? other ≠ some .unsubmitted) :
    outstanding? after.graph after.signals other =
      outstanding? before.graph before.signals other := by
  apply outstanding?_congr (follows.states other settled)
  intro handle executor state
  obtain ⟨flags, signals⟩ := follows.signals
  rw [signals]
  exact Handle.isComplete_append (intact.numbered other handle executor state)

theorem Follows.dependenciesOf_eq (follows : before.Follows after)
    (intact : before.Intact) (ready : before.Ready id) :
    dependenciesOf after.graph after.signals id =
      dependenciesOf before.graph before.signals id := by
  rw [Submission.dependenciesOf_eq, Submission.dependenciesOf_eq,
    follows.length]
  apply List.filterMap_congr
  intro other _
  have same : other ∈ after.graph.walk (·.isSatisfied) id ↔
      other ∈ before.graph.walk (·.isSatisfied) id := by
    rw [TaskGraph.mem_walk_iff, TaskGraph.mem_walk_iff]
    exact follows.meets_iff intact ready
  by_cases met : other ∈ before.graph.walk (·.isSatisfied) id
  · rw [if_pos met, if_pos (same.mpr met)]
    exact follows.outstanding?_eq intact
      (intact.settled_of_meets ready (TaskGraph.mem_walk_iff.mp met))
  · rw [if_neg met, if_neg fun there => met (same.mp there)]

end Walks

/-- These operations were handed over since then, all of them of nodes that
waited for their submission, and each with the list that would be read off
now. -/
structure Listed (made : List Dispatch) (before after : Scheduler) : Prop where
  follows : before.Follows after
  dispatches : after.dispatches = before.dispatches ++ made
  fresh :
    ∀ dispatch ∈ made, before.graph.state? dispatch.node = some .unsubmitted
  ready : ∀ dispatch ∈ made, after.Ready dispatch.node
  lists : ∀ dispatch ∈ made, dispatch.dependencies =
    dependenciesOf after.graph after.signals dispatch.node

namespace Listed

variable {root bound id : NodeId} {made more : List Dispatch}
  {before now next : Scheduler}

theorem refl (scheduler : Scheduler) : Listed [] scheduler scheduler where
  follows := .refl scheduler
  dispatches := (List.append_nil _).symm
  fresh _ absent := absurd absent List.not_mem_nil
  ready _ absent := absurd absent List.not_mem_nil
  lists _ absent := absurd absent List.not_mem_nil

private theorem ready_of_follows (listed : Listed made before now)
    (follows : now.Follows next) :
    ∀ dispatch ∈ made, next.Ready dispatch.node := by
  intro dispatch member required edge
  rw [← follows.sameNodes.requires] at edge
  exact follows.state?_ne (listed.ready dispatch member required edge)

theorem later (listed : Listed made before now) (intact : now.Intact)
    (follows : now.Follows next)
    (dispatches : next.dispatches = now.dispatches) :
    Listed made before next where
  follows := listed.follows.trans follows
  dispatches := dispatches.trans listed.dispatches
  fresh := listed.fresh
  ready := listed.ready_of_follows follows
  lists dispatch member := by
    rw [follows.dependenciesOf_eq intact (listed.ready dispatch member)]
    exact listed.lists dispatch member

theorem takesUp (listed : Listed made before now) (intact : now.Intact)
    (takes : TakesUp id more now next)
    (length : next.graph.slots.length = now.graph.slots.length) :
    Listed (made ++ more) before next := by
  have follows := Follows.of_takesUp takes length
  have ready : now.Ready id :=
    fun required edge => (takes.prepared required edge).not_unsubmitted
  obtain ⟨device, operations, handed⟩ := takes.handed
  constructor
  case follows => exact listed.follows.trans follows
  case dispatches => rw [handed.dispatches, listed.dispatches,
    List.append_assoc]
  case fresh =>
    intro dispatch member
    rcases List.mem_append.mp member with old | new
    · exact listed.fresh dispatch old
    · rw [(handed.each dispatch new).1]
      by_contra settled
      exact listed.follows.state?_ne settled takes.waits
  case ready =>
    intro dispatch member
    rcases List.mem_append.mp member with old | new
    · exact listed.ready_of_follows follows dispatch old
    · intro required edge
      rw [(handed.each dispatch new).1, ← follows.sameNodes.requires] at edge
      exact follows.state?_ne (ready required edge)
  case lists =>
    intro dispatch member
    rcases List.mem_append.mp member with old | new
    · rw [follows.dependenciesOf_eq intact (listed.ready dispatch old)]
      exact listed.lists dispatch old
    · obtain ⟨ofNode, _, dependencies⟩ := handed.each dispatch new
      rw [ofNode, follows.dependenciesOf_eq intact ready]
      exact dependencies

theorem move (listed : Listed made before now) (intact : now.Intact)
    (move : Move root bound now next) : ∃ made, Listed made before next := by
  rcases move.still_or_takesUp with still | ⟨_, _, _, takes⟩
  · exact ⟨made, listed.later intact (.of_still still move.length_slots)
      still.quiet.dispatches⟩
  · exact ⟨_, listed.takesUp intact takes move.length_slots⟩

theorem of_moves (intact : before.Intact)
    (moves : Moves root bound before now) : ∃ made, Listed made before now := by
  induction moves with
  | refl => exact ⟨[], .refl before⟩
  | tail moves move induction =>
      obtain ⟨made, listed⟩ := induction
      exact listed.move (intact.moves moves) move

/-- Whatever a submission does, it ends with the lists of its operations still
in place. -/
theorem of_submits (intact : before.Intact) {success : Bool}
    (submits : Submits id before next success) :
    ∃ made, Listed made before next := by
  cases submits with
  | idle _ same => exact ⟨[], same ▸ .refl before⟩
  | rejects cause same =>
      rw [← same]
      exact ⟨[],
        (refl before).later intact (.of_giveUp before before id cause) rfl⟩
  | resolves states moves submitted => exact of_moves intact moves
  | launches node device dispatch ready launched asks moves launches finishes =>
      obtain ⟨made, listed⟩ := of_moves intact moves
      have readied := intact.moves moves
      have atLaunch :=
        listed.takesUp readied launches.takesUp launches.length_slots
      exact ⟨_, atLaunch.later (readied.launches launches)
        (.of_quiet finishes.node? finishes.length_slots finishes.quiet)
        finishes.quiet.dispatches⟩
  | fails device stopped cause asks moves same =>
      obtain ⟨made, listed⟩ := of_moves intact moves
      rw [← same]
      exact ⟨made, listed.later (intact.moves moves)
        (.of_giveUp before stopped id cause) rfl⟩

end Listed

end Scheduler

end CoherentTasks
