import CoherentTasks.Proofs.Submission.Failure
import CoherentTasks.Proofs.Submission.Holding

/-!
# What a failed submission overwrites

A copy that was handed over before a submission failed goes on writing, while
the regions are put back. It fetches only what was outdated at that moment. So
what it writes was not valid before the submission either, except where an
access of the same submission had made it outdated.
-/

namespace CoherentTasks

open CoherentTasks.Coherence (Region)
open CoherentTasks.Geometry (Box Triple)
open CoherentTasks.Graph (Copy Node Operation Requirement TaskGraph)
open CoherentTasks.Submission

namespace Submission

/-- One of the accesses that were settled makes the element outdated on the
device. -/
def OutdatedBy (events : Journal) (place : RegionId) (holder : Device)
    (position : Triple) : Prop :=
  ∃ node requirement device, Event.settled node requirement device ∈ events ∧
    Outdates requirement device place holder position

theorem OutdatedBy.mono {events more : Journal} {place : RegionId}
    {holder : Device} {position : Triple}
    (outdated : OutdatedBy events place holder position)
    (subset : events ⊆ more) : OutdatedBy more place holder position := by
  obtain ⟨node, requirement, device, settled, outdates⟩ := outdated
  exact ⟨node, requirement, device, subset settled, outdates⟩

/-- An element of two lists in a row belongs to the first list, or the whole
first list precedes it. -/
theorem append_eq_append_cons {Item : Type}
    {first second front back : List Item} {item : Item}
    (split : first ++ second = front ++ item :: back) :
    (∃ rest, first = front ++ item :: rest ∧ back = rest ++ second) ∨
    ∃ rest, front = first ++ rest ∧ second = rest ++ item :: back := by
  rcases List.append_eq_append_iff.mp split
    with ⟨rest, isFront, isSecond⟩ | ⟨rest, isFirst, isRest⟩
  · exact .inr ⟨rest, isFront, isSecond⟩
  · cases rest with
    | nil =>
        rw [List.append_nil] at isFirst
        rw [List.nil_append] at isRest
        exact .inr ⟨[], by rw [isFirst, List.append_nil], isRest.symm⟩
    | cons head rest =>
        obtain ⟨rfl, isBack⟩ := List.cons.inj isRest
        exact .inl ⟨rest, isFirst, isBack⟩

/-- What a submission has done so far, against the state in which it began.
Whatever is not valid any more was outdated by one of its accesses, and a copy
overwrites only what was so before it. -/
structure Traced (before now : Scheduler) (events : Journal) : Prop where
  deeds : now.deeds = before.deeds ++ events
  lost : ∀ place holder position, before.graph.Holds place holder position →
    ¬ now.graph.Holds place holder position →
    OutdatedBy events place holder position
  overwritten : ∀ front dispatch back,
    events = front ++ .dispatched dispatch :: back →
    ∃ copy, dispatch.operation = .copy copy ∧ ∀ position ∈ copy.destinationBox,
      before.graph.Holds copy.destination.region
        copy.destination.device position →
      OutdatedBy front copy.destination.region copy.destination.device position

namespace Traced

variable {root bound id : NodeId} {before now next : Scheduler}
  {events : Journal}

theorem refl (before : Scheduler) : Traced before before [] where
  deeds := (List.append_nil _).symm
  lost _ _ _ held gone := absurd held gone
  overwritten front dispatch back split := by
    rw [List.nil_eq, List.append_eq_nil_iff] at split
    exact absurd split.2 (List.cons_ne_nil _ _)

theorem quiet (traced : Traced before now events)
    (deeds : next.deeds = now.deeds)
    (same : ∀ place holder position, next.graph.Holds place holder position ↔
      now.graph.Holds place holder position) : Traced before next events where
  deeds := deeds.trans traced.deeds
  lost place holder position held gone := by
    rw [same] at gone
    exact traced.lost place holder position held gone
  overwritten := traced.overwritten

section Settles

variable {node : Node} {requirement : Requirement} {device : Device}
  {region : Region} {copies : List Copy} {made : List Dispatch}

/-- What is fetched for a requirement was outdated, so an access before must
have made it so if it was valid at the beginning. -/
private theorem overwritten_of_settles (traced : Traced before now events)
    (wellFormed : now.graph.WellFormed)
    (settles :
      Settles root id node requirement device region copies made now next)
    {dispatch : Dispatch} (handedOver : dispatch ∈ made) :
    ∃ copy, dispatch.operation = .copy copy ∧
      ∀ position ∈ copy.destinationBox, before.graph.Holds
        copy.destination.region copy.destination.device position → OutdatedBy
          events copy.destination.region copy.destination.device position := by
  obtain ⟨copy, operation, inRegion, onDevice, inside⟩ :=
    settles.isFetch wellFormed handedOver
  refine ⟨copy, operation,
    fun position member held => traced.lost _ _ _ held ?_⟩
  rw [inRegion, onDevice]
  exact (inside position member).2

theorem settle (traced : Traced before now events)
    (wellFormed : now.graph.WellFormed)
    (settles :
      Settles root id node requirement device region copies made now next) :
    Traced before next
      (events ++ (made.map .dispatched ++ [.settled id requirement device]))
      where
  deeds := by rw [settles.deeds, traced.deeds, List.append_assoc]
  lost place holder position held gone := by
    by_cases holds : now.graph.Holds place holder position
    · refine ⟨id, requirement, device, by simp, ?_⟩
      by_contra spared
      exact gone (settles.holds_iff.mpr (.inl ⟨holds, spared⟩))
    · exact (traced.lost place holder position held holds).mono
        (List.subset_append_left _ _)
  overwritten front dispatch back split := by
    rcases append_eq_append_cons split
      with ⟨rest, earlier, _⟩ | ⟨first, isFront, isNew⟩
    · exact traced.overwritten front dispatch rest earlier
    · have member :
          Event.dispatched dispatch ∈
            first ++ Event.dispatched dispatch :: back := by simp
      rw [← isNew] at member
      have handedOver : dispatch ∈ made := by simpa using member
      obtain ⟨copy, operation, outdated⟩ :=
        traced.overwritten_of_settles wellFormed settles handedOver
      refine ⟨copy, operation,
        fun position inside held => (outdated position inside held).mono ?_⟩
      rw [isFront]
      exact List.subset_append_left _ _

end Settles

theorem move (traced : Traced before now events)
    (wellFormed : now.graph.WellFormed) (move : Move root bound now next) :
    ∃ events, Traced before next events := by
  rcases move.still_or_settles
    with ⟨still, same⟩ | ⟨_, _, _, _, _, _, _, settles⟩
  · exact ⟨events, traced.quiet still.quiet.deeds same⟩
  · exact ⟨_, traced.settle wellFormed settles⟩

end Traced

theorem Moves.traced {root bound : NodeId} {before after : Scheduler}
    (wellFormed : before.graph.WellFormed)
    (moves : Moves root bound before after) :
    ∃ events, Traced before after events := by
  induction moves with
  | refl => exact ⟨[], .refl before⟩
  | tail moves move induction =>
      obtain ⟨events, traced⟩ := induction
      exact traced.move (Moves.wellFormed moves wellFormed) move

end Submission

namespace Scheduler

/-- After a failed submission, an element on which a copy of this submission was
put counts as valid there exactly if it was valid before, and an access that was
settled before the copy was handed over had made it outdated. -/
theorem holds_destination_iff {id : NodeId} {before after : Scheduler}
    {cause : Error} {front back : Journal} {dispatch : Dispatch} {copy : Copy}
    {position : Triple} (met : before.InUse)
    (failed : submit id before = .error cause after)
    (split :
      after.deeds = before.deeds ++ (front ++ .dispatched dispatch :: back))
    (isCopy : dispatch.operation = .copy copy)
    (written : position ∈ copy.destinationBox) :
    after.graph.Holds copy.destination.region copy.destination.device position ↔
      before.graph.Holds copy.destination.region
        copy.destination.device position ∧
      OutdatedBy front copy.destination.region copy.destination.device
        position := by
  by_cases waits : before.graph.state? id = some .unsubmitted
  · obtain ⟨stopped, moves, _, _, rfl⟩ :=
      moves_of_submit_error met.intact.wellFormed waits failed
    obtain ⟨events, traced⟩ := Moves.traced met.intact.wellFormed moves
    have deeds :
        before.deeds ++ events =
          before.deeds ++ (front ++ .dispatched dispatch :: back) :=
      traced.deeds.symm.trans split
    obtain ⟨same, operation, outdated⟩ :=
      traced.overwritten front dispatch back (List.append_cancel_left deeds)
    rw [isCopy] at operation
    cases operation
    rw [holds_giveUp (Moves.regionsGrow moves)]
    exact ⟨fun held => ⟨held, outdated position written held⟩, And.left⟩
  · -- Nothing was done for a node that is missing, and no other submission
    -- fails.
    rw [submit_error_of_settled waits failed] at split
    have nothing := List.self_eq_append_right.mp split
    simp at nothing

/-- What is handed over for the requirement to read the buffer that was
overwritten on the host. -/
def fetchedBack : Copy :=
  ⟨⟨.hostDevice, ⟨0, 0, 0⟩, 0⟩, ⟨⟨.cuda, 0⟩, ⟨0, 0, 0⟩, 0⟩, ⟨4, 1, 1⟩⟩

def fetchingBack : Dispatch :=
  ⟨1, ⟨.cuda, 0⟩, .copy fetchedBack, .recording .cuda false, [], 0⟩

private theorem deeds_refreshing :
    (Action.outcome (submit 3) refreshing).deeds =
      [.settled 0 ⟨0, .ofExtent ⟨4, 1, 1⟩, .discardWrite⟩ .hostDevice,
        .dispatched fetchingBack,
        .settled 1 ⟨0, .ofExtent ⟨4, 1, 1⟩, .read⟩ ⟨.cuda, 0⟩] := rfl

private theorem mem_fetchedBack :
    (⟨0, 0, 0⟩ : Triple) ∈ fetchedBack.destinationBox := by
  intro axis
  cases axis <;> decide

/-- The copy from the host is put on elements that counted as valid before and
do so again. -/
theorem holds_fetchedBack :
    (Action.outcome (submit 3) refreshing).graph.Holds 0 ⟨.cuda, 0⟩ ⟨0, 0, 0⟩ ↔
      refreshing.graph.Holds 0 ⟨.cuda, 0⟩ ⟨0, 0, 0⟩ ∧ OutdatedBy
        [.settled 0 ⟨0, .ofExtent ⟨4, 1, 1⟩, .discardWrite⟩ .hostDevice] 0
        ⟨.cuda, 0⟩ ⟨0, 0, 0⟩ := by
  have isCopy : fetchingBack.operation = .copy fetchedBack := rfl
  exact holds_destination_iff reachable_refreshing.inUse refreshing_stops
    deeds_refreshing isCopy mem_fetchedBack

/-- A failed submission may leave a copy running that is put on elements which
count as valid. -/
theorem not_always_preserved :
    ¬ ∀ (before after : Scheduler) (id : NodeId) (cause : Error)
        (made : List Dispatch) (dispatch : Dispatch) (copy : Copy)
        (position : Triple),
      before.Reachable → submit id before = .error cause after →
      after.dispatches = before.dispatches ++ made → dispatch ∈ made →
      dispatch.operation = .copy copy → position ∈ copy.destinationBox →
      ¬ after.graph.Holds copy.destination.region copy.destination.device
        position := by
  intro always
  have handed : (Action.outcome (submit 3) refreshing).dispatches =
      refreshing.dispatches ++ [fetchingBack] := rfl
  apply always refreshing _ 3 _ _ fetchingBack fetchedBack ⟨0, 0, 0⟩
    reachable_refreshing refreshing_stops handed List.mem_cons_self rfl
    mem_fetchedBack
  have boxes :
      ((Action.outcome (submit 3) refreshing).graph.region? 0).map
          (fun region => (region.validOn ⟨.cuda, 0⟩).boxes) =
        some [.ofExtent ⟨4, 1, 1⟩] := by
    decide +kernel
  obtain ⟨region, isRegion, valid⟩ := Option.map_eq_some_iff.mp boxes
  have isBox : Box.ofExtent ⟨4, 1, 1⟩ ∈ (region.validOn ⟨.cuda, 0⟩).boxes := by
    rw [valid]
    exact List.mem_singleton.mpr rfl
  exact ⟨region, isRegion, .ofExtent ⟨4, 1, 1⟩, isBox, mem_fetchedBack⟩

end Scheduler

end CoherentTasks
