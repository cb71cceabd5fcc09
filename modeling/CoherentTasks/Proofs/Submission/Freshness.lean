import CoherentTasks.Proofs.Submission.Marking
import CoherentTasks.Proofs.Submission.Overwriting
import CoherentTasks.Proofs.Submission.Planning
import CoherentTasks.Proofs.Submission.Replay

/-!
# Nothing is fetched twice

During a run of submissions that succeed, an element that was put on a device by
a generated copy, or that an access may have written there, stays valid on the
device until an access on another device makes it outdated. Generated copies
bring only what is not valid, so none brings the element again before that.
-/

namespace CoherentTasks

open CoherentTasks.Geometry (Box Triple)
open CoherentTasks.Graph (Copy Node Requirement TaskGraph)

namespace Submission

/-- The node is a requirement that was settled. -/
def SettledIn (events : Journal) (node : NodeId) : Prop :=
  ∃ requirement device, Event.settled node requirement device ∈ events

section Element

variable (place : RegionId) (holder : Device) (position : Triple)

/-- The event hands over a copy that was generated for a requirement and puts
the element on the device. -/
def Brings (events : Journal) (event : Event) : Prop :=
  ∃ dispatch copy,
    event = .dispatched dispatch ∧ SettledIn events dispatch.node ∧
    dispatch.operation = .copy copy ∧ copy.destination.region = place ∧
    copy.destination.device = holder ∧ position ∈ copy.destinationBox

/-- The event settles an access on the device that may write the element. -/
def Writes (event : Event) : Prop :=
  ∃ node requirement,
    event = .settled node requirement holder ∧ requirement.mode.writes = true ∧
    requirement.region = place ∧ position ∈ requirement.window

def Provides (events : Journal) (event : Event) : Prop :=
  Brings place holder position events event ∨ Writes place holder position event

/-- One of the past events provided the element, and none after it made it
outdated. -/
def Secured (events past : Journal) : Prop :=
  ∃ front event back, past = front ++ event :: back ∧
    Provides place holder position events event ∧
    ¬ OutdatedBy back place holder position

end Element

section Journals

variable {events past block : Journal} {event : Event} {node : NodeId}
  {place : RegionId} {holder : Device} {position : Triple}

private theorem settledIn_append :
    SettledIn (events ++ block) node ↔
      SettledIn events node ∨ SettledIn block node := by
  simp only [SettledIn, List.mem_append]
  simp only [exists_or]

theorem Secured.append
    (secured : Secured place holder position events (past ++ block)) :
    (Secured place holder position events past ∧
      ¬ OutdatedBy block place holder position) ∨
    ∃ event ∈ block, Provides place holder position events event := by
  obtain ⟨front, event, back, split, provides, current⟩ := secured
  rcases append_eq_append_cons split
    with ⟨rest, isPast, rfl⟩ | ⟨rest, _, isBlock⟩
  · refine .inl ⟨⟨front, event, rest, isPast, provides, fun outdated => ?_⟩,
      fun outdated => ?_⟩
    · exact current (outdated.mono (List.subset_append_left _ _))
    · exact current (outdated.mono (List.subset_append_right _ _))
  · refine .inr ⟨event, ?_, provides⟩
    rw [isBlock]
    exact List.mem_append_right _ List.mem_cons_self

theorem Secured.restrict {fewer : Journal}
    (secured : Secured place holder position events past)
    (kept : ∀ event ∈ past, Brings place holder position events event →
      Brings place holder position fewer event) :
    Secured place holder position fewer past := by
  obtain ⟨front, event, back, rfl, provides, current⟩ := secured
  refine ⟨front, event, back, rfl, provides.imp_left (kept event ?_), current⟩
  exact List.mem_append_right _ List.mem_cons_self

end Journals

/-- The node was there, and does not wait for its submission. -/
def Done (scheduler : Scheduler) (id : NodeId) : Prop :=
  id < scheduler.graph.slots.length ∧
  scheduler.graph.state? id ≠ some .unsubmitted

theorem Done.retained {before after : Scheduler} {id : NodeId}
    (done : Done before id) (retains : before.Retains after) :
    Done after id := by
  obtain ⟨below, settled⟩ := done
  refine ⟨Nat.lt_of_lt_of_le below retains.longer, ?_⟩
  rcases retains.states id below settled with same | gone
  · rw [same]
    exact settled
  · rw [gone]
    simp

/-- What was done since the run began, and what it says of the present state. -/
structure Fresh (start now : Scheduler) (events : Journal) : Prop where
  deeds : now.deeds = start.deeds ++ events
  done : ∀ node, SettledIn events node → Done now node
  held : ∀ place holder position, Secured place holder position events events →
    now.graph.Holds place holder position
  never : ∀ front event back, events = front ++ event :: back →
    ∀ place holder position, Brings place holder position events event →
      ¬ Secured place holder position events front

namespace Fresh

variable {root bound id : NodeId} {start now next : Scheduler}
  {events block : Journal} {node : Node} {requirement : Requirement}
  {device : Device} {region : Coherence.Region} {copies : List Copy}
  {made : List Dispatch}

theorem refl (start : Scheduler) : Fresh start start [] where
  deeds := (List.append_nil _).symm
  done _ settled := by
    obtain ⟨_, _, absent⟩ := settled
    exact absurd absent List.not_mem_nil
  held _ _ _ secured := by
    obtain ⟨front, event, back, split, _⟩ := secured
    simp at split
  never front event back split := by simp at split

theorem quiet (fresh : Fresh start now events) (deeds : next.deeds = now.deeds)
    (retains : now.Retains next)
    (kept : ∀ place holder position, now.graph.Holds place holder position →
      next.graph.Holds place holder position) : Fresh start next events where
  deeds := deeds.trans fresh.deeds
  done node settled := (fresh.done node settled).retained retains
  held place holder position secured :=
    kept _ _ _ (fresh.held place holder position secured)
  never := fresh.never

/-- An operation that was handed over in the run belongs to a node that is
done. -/
private theorem done_of_dispatched (fresh : Fresh start now events)
    (intact : now.Intact) {dispatch : Dispatch}
    (member : Event.dispatched dispatch ∈ events) : Done now dispatch.node := by
  apply intact.owned
  have isDeed : Event.dispatched dispatch ∈ now.deeds := by
    rw [fresh.deeds]
    exact List.mem_append_right _ member
  rw [← Scheduler.dispatches_deeds]
  exact List.mem_filterMap.mpr ⟨_, isDeed, rfl⟩

/-- No earlier copy turns out to be generated when requirements are settled that
were not before. -/
private theorem brings_before (fresh : Fresh start now events)
    (intact : now.Intact)
    (waits : ∀ node,
      SettledIn block node → now.graph.state? node = some .unsubmitted)
    {place : RegionId} {holder : Device} {position : Triple} {event : Event}
    (member : event ∈ events)
    (brings : Brings place holder position (events ++ block) event) :
    Brings place holder position events event := by
  obtain ⟨dispatch, copy, rfl, settled, isCopy⟩ := brings
  rcases settledIn_append.mp settled with earlier | later
  · exact ⟨dispatch, copy, rfl, earlier, isCopy⟩
  · exact absurd (waits _ later) (fresh.done_of_dispatched intact member).2

/-- Some events follow. What they provide is valid afterwards, and what they
bring was not valid before. -/
theorem extend (fresh : Fresh start now events) (intact : now.Intact)
    (retains : now.Retains next) (deeds : next.deeds = now.deeds ++ block)
    (settled : ∀ node, SettledIn block node →
      now.graph.state? node = some .unsubmitted ∧ Done next node)
    (kept : ∀ place holder position, now.graph.Holds place holder position →
      ¬ OutdatedBy block place holder position →
      next.graph.Holds place holder position)
    (provided : ∀ event ∈ block, ∀ place holder position, Provides place holder
      position (events ++ block) event → next.graph.Holds place holder position)
    (missing : ∀ front event back,
      block = front ++ event :: back → ∀ place holder position,
        Brings place holder position (events ++ block) event →
        ¬ now.graph.Holds place holder position ∧ ∀ other ∈ front,
          ¬ Provides place holder position (events ++ block) other) :
    Fresh start next (events ++ block) := by
  have heldThen {past : Journal} {place : RegionId} {holder : Device}
      {position : Triple} (subset : past ⊆ events)
      (secured : Secured place holder position (events ++ block) past) :
      Secured place holder position events past :=
    secured.restrict fun event member =>
      fresh.brings_before intact (fun node isNew => (settled node isNew).1)
        (subset member)
  constructor
  case deeds => rw [deeds, fresh.deeds, List.append_assoc]
  case done =>
    intro node isSettled
    rcases settledIn_append.mp isSettled with earlier | later
    · exact (fresh.done node earlier).retained retains
    · exact (settled node later).2
  case held =>
    intro place holder position secured
    rcases secured.append with ⟨earlier, current⟩ | ⟨event, member, provides⟩
    · exact kept _ _ _
        (fresh.held _ _ _ (heldThen (List.Subset.refl _) earlier)) current
    · exact provided event member place holder position provides
  case never =>
    intro front event back split place holder position brings secured
    rcases append_eq_append_cons split
      with ⟨rest, rfl, _⟩ | ⟨rest, rfl, isBlock⟩
    · have bringsThen :=
        fresh.brings_before intact (fun node isNew => (settled node isNew).1)
          (List.mem_append_right _ List.mem_cons_self) brings
      exact fresh.never front event rest rfl place holder position bringsThen
        (heldThen (List.subset_append_left _ _) secured)
    · obtain ⟨outdated, nothing⟩ :=
        missing rest event back isBlock place holder position brings
      rcases secured.append with ⟨earlier, _⟩ | ⟨other, member, provides⟩
      · exact outdated
          (fresh.held _ _ _ (heldThen (List.Subset.refl _) earlier))
      · exact nothing other member provides

end Fresh

section Steps

variable {root bound id : NodeId} {start now next : Scheduler}
  {events : Journal} {node : Node} {requirement : Requirement} {device : Device}
  {region : Coherence.Region} {copies : List Copy} {made : List Dispatch}
  {place : RegionId} {holder : Device} {position : Triple}

/-- The copies that are handed over for a requirement write different
elements. -/
theorem Settles.apart
    (settles :
      Settles root id node requirement device region copies made now next) :
    made.Pairwise fun first second => ∀ left right,
      first.operation = .copy left → second.operation = .copy right →
      left.destinationBox.Apart right.destinationBox := by
  have apart :
      copies.Pairwise
        fun left right => left.destinationBox.Apart right.destinationBox := by
    have planned := settles.planned
    split at planned
    · rw [planned]
      exact .nil
    · have plan := plan_of_planTransfers planned
      exact List.pairwise_map.mp plan.tiles.apart
  have operations :
      (made.map (·.operation)).Pairwise fun first second =>
        ∀ left right, first = .copy left → second = .copy right →
          left.destinationBox.Apart right.destinationBox := by
    rw [settles.handed.operations, List.pairwise_map]
    refine apart.imp fun {left right} apart first second isFirst isSecond => ?_
    cases isFirst
    cases isSecond
    exact apart
  exact List.pairwise_map.mp operations

/-- What a settled requirement and its copies provide is what they validate. -/
theorem Settles.validates_of_provides
    (settles :
      Settles root id node requirement device region copies made now next)
    (wellFormed : now.graph.WellFormed) {event : Event}
    (member : event ∈ made.map .dispatched ++ [.settled id requirement device])
    (provides : Provides place holder position events event) :
    Validates requirement device place holder position := by
  rcases provides with ⟨dispatch, copy, rfl, _, isCopy, rfl, rfl, inside⟩ |
    ⟨other, stated, rfl, _, rfl, inside⟩
  · have handedOver : dispatch ∈ made := by simpa using member
    obtain ⟨same, isSame, inRegion, onDevice, wanted⟩ :=
      settles.isFetch wellFormed handedOver
    rw [isCopy] at isSame
    cases isSame
    exact ⟨inRegion, onDevice, (wanted position inside).1⟩
  · have isSettled : other = id ∧ stated = requirement ∧ holder = device := by
      simpa using member
    obtain ⟨rfl, rfl, rfl⟩ := isSettled
    exact ⟨rfl, rfl, inside⟩

/-- A copy that is handed over for a requirement brings what was not valid, and
what no copy before it has brought. -/
theorem Settles.missing_of_brings
    (settles :
      Settles root id node requirement device region copies made now next)
    (wellFormed : now.graph.WellFormed) {front back : Journal} {event : Event}
    (split : made.map .dispatched ++ [.settled id requirement device] =
      front ++ event :: back)
    (brings : Brings place holder position events event) :
    ¬ now.graph.Holds place holder position ∧
    ∀ other ∈ front, ¬ Provides place holder position events other := by
  obtain ⟨dispatch, copy, rfl, _, isCopy, rfl, rfl, inside⟩ := brings
  rcases append_eq_append_cons split with ⟨rest, isMade, _⟩ | ⟨rest, _, isLast⟩
  · obtain ⟨earlier, later, rfl, rfl, isRest⟩ :=
      List.map_eq_append_iff.mp isMade
    obtain ⟨_, others, rfl, same, _⟩ := List.map_eq_cons_iff.mp isRest
    cases same
    have handedOver : dispatch ∈ earlier ++ dispatch :: others := by simp
    obtain ⟨same, isSame, inRegion, onDevice, wanted⟩ :=
      settles.isFetch wellFormed handedOver
    rw [isCopy] at isSame
    cases isSame
    refine ⟨inRegion ▸ onDevice ▸ (wanted position inside).2,
      fun other member provides => ?_⟩
    obtain ⟨first, isFirst, rfl⟩ := List.mem_map.mp member
    rcases provides
      with ⟨_, left, same, _, isLeft, _, _, inLeft⟩ | ⟨_, _, never, _⟩
    · cases same
      have apart := (List.pairwise_append.mp settles.apart).2.2 first isFirst
        dispatch List.mem_cons_self left copy isLeft isCopy
      exact apart position inLeft inside
    · cases never
  · have member :
        Event.dispatched dispatch ∈ [Event.settled id requirement device] := by
      rw [isLast]
      simp
    simp at member

theorem Fresh.settle (fresh : Fresh start now events) (intact : now.Intact)
    (settles :
      Settles root id node requirement device region copies made now next)
    (retains : now.Retains next) :
    Fresh start next (events ++
      (made.map .dispatched ++ [.settled id requirement device])) := by
  have wellFormed := intact.wellFormed
  apply fresh.extend intact retains settles.deeds
  case settled =>
    intro other settled
    have isId : other = id := by
      obtain ⟨_, _, member⟩ := settled
      simp at member
      exact member.1
    rw [isId]
    have waits := settles.takesUp.waits
    obtain ⟨_, found, _⟩ := Option.map_eq_some_iff.mp waits
    exact ⟨waits,
      Nat.lt_of_lt_of_le (TaskGraph.lt_of_node?_eq_some found) retains.longer,
      settles.takesUp.submitted_self.not_unsubmitted⟩
  case kept =>
    intro place holder position holds current
    refine settles.holds_iff.mpr (.inl ⟨holds, fun outdates => current ?_⟩)
    exact ⟨id, requirement, device, by simp, outdates⟩
  case provided =>
    intro event member place holder position provides
    exact settles.holds_iff.mpr
      (.inr (settles.validates_of_provides wellFormed member provides))
  case missing =>
    exact fun front event back split place holder position brings =>
      settles.missing_of_brings wellFormed split brings

theorem Fresh.launch {dispatch : Dispatch} (fresh : Fresh start now events)
    (intact : now.Intact)
    (launches : Launches id node device dispatch now next) :
    Fresh start next (events ++ [.dispatched dispatch]) := by
  have nothing (other : NodeId) : ¬ SettledIn [.dispatched dispatch] other := by
    intro settled
    obtain ⟨_, _, member⟩ := settled
    simp at member
  have retains : now.Retains next :=
    .of_follows (.of_takesUp launches.takesUp launches.length_slots)
  have explicit (place : RegionId) (holder : Device) (position : Triple) :
      ¬ Provides place holder position (events ++ [.dispatched dispatch])
        (.dispatched dispatch) := by
    intro provides
    rcases provides with ⟨_, _, same, settled, _⟩ | ⟨_, _, never, _⟩
    · cases same
      rw [settledIn_append, or_iff_left (nothing _), launches.made.2.1]
        at settled
      exact (fresh.done id settled).2 launches.takesUp.waits
    · cases never
  apply fresh.extend intact retains launches.deeds
  case settled => exact fun other settled => absurd settled (nothing other)
  case kept =>
    intro place holder position holds _
    exact (TaskGraph.holds_of_regions launches.regions).mpr holds
  case provided =>
    intro event member place holder position provides
    rw [List.mem_singleton.mp member] at provides
    exact absurd provides (explicit place holder position)
  case missing =>
    intro front event back split place holder position brings
    have member : event ∈ [Event.dispatched dispatch] := by
      rw [split]
      simp
    rw [List.mem_singleton.mp member] at brings
    exact absurd (.inl brings) (explicit place holder position)

theorem Fresh.moves (fresh : Fresh start now events) (intact : now.Intact)
    (moves : Moves root bound now next) :
    ∃ events, Fresh start next events := by
  induction moves with
  | refl => exact ⟨events, fresh⟩
  | @tail between next moves move induction =>
      obtain ⟨events, fresh⟩ := induction
      have retains : between.Retains next :=
        .of_follows (.of_moves (.single move))
      rcases move.still_or_settles
        with ⟨still, same⟩ | ⟨_, _, _, _, _, _, _, settles⟩
      · exact ⟨events,
          fresh.quiet still.quiet.deeds retains fun _ _ _ => (same _ _ _).mpr⟩
      · exact ⟨_, fresh.settle (intact.moves moves) settles retains⟩

theorem Fresh.submits (fresh : Fresh start now events) (intact : now.Intact)
    (submits : Submits id now next true) :
    ∃ events, Fresh start next events := by
  cases submits with
  | idle _ same => exact ⟨events, same ▸ fresh⟩
  | resolves states moves submitted => exact fresh.moves intact moves
  | launches node device dispatch ready launched asks moves launches finishes =>
      obtain ⟨events, fresh⟩ := fresh.moves intact moves
      have readied := intact.moves moves
      have fresh := fresh.launch readied launches
      have launchedWell := (readied.launches launches).wellFormed
      have retains : launched.Retains next :=
        .of_follows
          (.of_quiet finishes.node? finishes.length_slots finishes.quiet)
      exact ⟨_, fresh.quiet finishes.quiet.deeds retains
        (finishes.holds launchedWell).1⟩

end Steps

end Submission

namespace Scheduler

open CoherentTasks.Submission

/-- One step of a run in which only submissions change regions, and every
submission succeeds. -/
inductive Undisturbed (before : Scheduler) : Scheduler → Prop where
  | submit (id : NodeId)
      (succeeds : Action.succeeds (submit id) before = true) :
      Undisturbed before (Action.outcome (submit id) before)
  /-- Anything else may be done that leaves the buffers alone. -/
  | other {after : Scheduler} (use : Use before after)
      (deeds : after.deeds = before.deeds)
      (regions : before.graph.regions <+: after.graph.regions) :
      Undisturbed before after

theorem Undisturbed.use {before after : Scheduler}
    (step : Undisturbed before after) : Use before after := by
  cases step with
  | submit id succeeds => exact .step (.submit id)
  | other use deeds regions => exact use

private theorem holds_of_prefix {graph other : TaskGraph} {place : RegionId}
    {holder : Device} {position : Triple}
    (longer : graph.regions <+: other.regions)
    (holds : graph.Holds place holder position) :
    other.Holds place holder position := by
  obtain ⟨region, found, valid⟩ := holds
  obtain ⟨rest, grown⟩ := longer
  refine ⟨region, ?_, valid⟩
  simp only [TaskGraph.region?] at found ⊢
  obtain ⟨below, _⟩ := List.getElem?_eq_some_iff.mp found
  rw [← grown, List.getElem?_append_left below]
  exact found

private theorem fresh_of_undisturbed {start before after : Scheduler}
    {events : Journal} (fresh : Fresh start before events) (met : before.InUse)
    (step : Undisturbed before after) : ∃ events, Fresh start after events := by
  have wellFormed := met.intact.wellFormed
  cases step with
  | submit id succeeds =>
      have submits : Submits id before (Action.outcome (submit id) before) _ :=
        submits_submit wellFormed
      rw [succeeds] at submits
      exact fresh.submits met.intact submits
  | other use deeds regions =>
      exact ⟨events, fresh.quiet deeds (.use wellFormed use)
        fun _ _ _ => holds_of_prefix regions⟩

private theorem fresh_of_run {start now : Scheduler} (met : start.InUse)
    (run : Relation.ReflTransGen Undisturbed start now) :
    now.InUse ∧ ∃ events, Fresh start now events := by
  induction run with
  | refl => exact ⟨met, [], .refl start⟩
  | tail _ step induction =>
      obtain ⟨metThen, events, fresh⟩ := induction
      exact ⟨metThen.use step.use, fresh_of_undisturbed fresh metThen step⟩

/-- When a generated copy brings an element to a device where another one
brought it before, or where an access may have written it, then an access on
another device may have written it in between. -/
theorem outdated_between {start now : Scheduler} (met : start.InUse)
    (run : Relation.ReflTransGen Undisturbed start now)
    {first between rest : Journal} {earlier later : Event} {place : RegionId}
    {holder : Device} {position : Triple}
    (split :
      deedsSince start now = first ++ earlier :: (between ++ later :: rest))
    (provides : Provides place holder position (deedsSince start now) earlier)
    (brings : Brings place holder position (deedsSince start now) later) :
    OutdatedBy between place holder position := by
  obtain ⟨_, events, fresh⟩ := fresh_of_run met run
  have isEvents : deedsSince start now = events := by
    simp only [deedsSince]
    rw [fresh.deeds, List.drop_left]
  rw [isEvents] at split provides brings
  by_contra current
  have regrouped : events = (first ++ earlier :: between) ++ later :: rest := by
    rw [split, List.append_assoc, List.cons_append]
  exact fresh.never _ _ _ regrouped place holder position brings
    ⟨first, earlier, between, rfl, provides, current⟩

/-- A buffer on the host, and three requirements: to read it on another device,
to write a part of it on the host, and to read it on the other device again. -/
def rereading : Scheduler :=
  let start := create 128 (.ofList [Backend.recording .host false none,
    Backend.recording .cuda false none]) false
  let graph :=
    (start.graph.addRegion "A" ⟨4, 1, 1⟩ 4).updateRegion 0
      (·.seed .hostDevice 0)
  let guard (window : Box) (mode : AccessMode) (device : Device) :
      Option Node :=
    some (Node.create (.requirement ⟨0, window, mode⟩) [] (some device))
  { start with graph := { graph with slots :=
      [guard (.ofExtent ⟨4, 1, 1⟩) .read ⟨.cuda, 0⟩,
        guard ⟨⟨1, 0, 0⟩, ⟨2, 1, 1⟩⟩ .readWrite .hostDevice,
        guard (.ofExtent ⟨4, 1, 1⟩) .read ⟨.cuda, 0⟩] } }

private theorem reachable_rereading : rereading.Reachable := by
  have empty :=
    Reachable.create 128 (.ofList
      [Backend.recording .host false none, Backend.recording .cuda false none])
      false
  have buffer := empty.step (.addRegion "A" ⟨4, 1, 1⟩ 4)
  have seeded :=
    buffer.step (.changeRegion 0 (·.seed .hostDevice 0)
      fun region => region.grows_seed .hostDevice 0)
  have first :=
    seeded.step (.addNode (.requirement ⟨0, .ofExtent ⟨4, 1, 1⟩, .read⟩) []
      (some ⟨.cuda, 0⟩) 0 _ rfl)
  have second :=
    first.step (.addNode (.requirement ⟨0, ⟨⟨1, 0, 0⟩, ⟨2, 1, 1⟩⟩, .readWrite⟩)
      [] (some .hostDevice) 1 _ rfl)
  exact second.step (.addNode (.requirement ⟨0, .ofExtent ⟨4, 1, 1⟩, .read⟩) []
    (some ⟨.cuda, 0⟩) 2 _ rfl)

/-- What is handed over to bring a part of the buffer to the other device. -/
def refresh (node : NodeId) (offset extent : Triple)
    (signal : Completion.Signal) : Dispatch :=
  ⟨node, ⟨.cuda, 0⟩,
    .copy ⟨⟨.hostDevice, offset, 0⟩, ⟨⟨.cuda, 0⟩, offset, 0⟩, extent⟩,
    .recording .cuda false, [], signal⟩

/-- Only the part that was written on the host is fetched again, and the write
lies between. -/
theorem outdated_between_rereading :
    let now := Action.outcome (submit 2) (Action.outcome (submit 1)
      (Action.outcome (submit 0) rereading))
    rereading.InUse ∧ Relation.ReflTransGen Undisturbed rereading now ∧
      ∃ between rest, deedsSince rereading now =
        .dispatched (refresh 0 ⟨0, 0, 0⟩ ⟨4, 1, 1⟩ 0) ::
          (between ++ .dispatched (refresh 2 ⟨1, 0, 0⟩ ⟨2, 1, 1⟩ 1) :: rest) ∧
        OutdatedBy between 0 ⟨.cuda, 0⟩ ⟨1, 0, 0⟩ := by
  intro now
  have met := reachable_rereading.inUse
  have run : Relation.ReflTransGen Undisturbed rereading now :=
    (((Relation.ReflTransGen.refl.tail (.submit 0 (by decide +kernel))).tail
      (.submit 1 (by decide +kernel))).tail (.submit 2 (by decide +kernel)))
  have deeds : deedsSince rereading now =
      [] ++ .dispatched (refresh 0 ⟨0, 0, 0⟩ ⟨4, 1, 1⟩ 0) ::
        ([.settled 0 ⟨0, .ofExtent ⟨4, 1, 1⟩, .read⟩ ⟨.cuda, 0⟩,
            .settled 1 ⟨0, ⟨⟨1, 0, 0⟩, ⟨2, 1, 1⟩⟩, .readWrite⟩ .hostDevice] ++
          .dispatched (refresh 2 ⟨1, 0, 0⟩ ⟨2, 1, 1⟩ 1) ::
            [.settled 2 ⟨0, .ofExtent ⟨4, 1, 1⟩, .read⟩ ⟨.cuda, 0⟩]) := rfl
  refine ⟨met, run, _, _, deeds, outdated_between met run deeds (.inl ?_) ?_⟩
  · refine ⟨_, _, rfl, ?_, rfl, rfl, rfl, by decide⟩
    exact ⟨⟨0, .ofExtent ⟨4, 1, 1⟩, .read⟩, ⟨.cuda, 0⟩,
      by rw [deeds]; simp [refresh]⟩
  · refine ⟨_, _, rfl, ?_, rfl, rfl, rfl, by decide⟩
    exact ⟨⟨0, .ofExtent ⟨4, 1, 1⟩, .read⟩, ⟨.cuda, 0⟩,
      by rw [deeds]; simp [refresh]⟩

end Scheduler

end CoherentTasks
