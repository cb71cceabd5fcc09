import CoherentTasks.Proofs.Submission.Recursion
import CoherentTasks.Proofs.Submission.Use

/-!
# The work for a requirement begins once

The work for a requirement, in which memory is allocated, copies are planned and
the access is marked, is noted in the journal when it begins and when it ends.
Many chains of required nodes may lead from a submitted node to the same
requirement, and nothing keeps track of those that were followed. But the first
of them takes the requirement up, or else the whole submission stops; along all
others the requirement is found submitted.
-/

namespace CoherentTasks

open CoherentTasks.Backend (Executor)
open CoherentTasks.Computation
open CoherentTasks.Graph (Binding Copy Node Operation Requirement TaskGraph)

/-- The requirement for which the work begins. -/
def Event.opened? : Event → Option NodeId
  | .opened id _ => some id
  | _ => none

/-- The requirement for which the work ends. -/
def Event.settled? : Event → Option NodeId
  | .settled id _ _ => some id
  | _ => none

namespace Scheduler

/-- The requirements for which the work began, in this order. -/
def openings (scheduler : Scheduler) : List NodeId :=
  scheduler.journal.filterMap Event.opened?

/-- The requirements for which the work came to its end, in this order. -/
def settlements (scheduler : Scheduler) : List NodeId :=
  scheduler.journal.filterMap Event.settled?

theorem openings_record (scheduler : Scheduler) (event : Event) :
    (scheduler.record event).openings =
      scheduler.openings ++ event.opened?.toList := by
  simp only [openings, record]
  rw [List.filterMap_append]
  cases shown : event.opened? <;> simp [shown]

theorem settlements_record (scheduler : Scheduler) (event : Event) :
    (scheduler.record event).settlements =
      scheduler.settlements ++ event.settled?.toList := by
  simp only [settlements, record]
  rw [List.filterMap_append]
  cases shown : event.settled? <;> simp [shown]

/-- The work for no requirement begins or ends. -/
structure Silent (before after : Scheduler) : Prop where
  openings : after.openings = before.openings
  settlements : after.settlements = before.settlements

theorem Silent.of_journal {before after : Scheduler}
    (same : after.journal = before.journal) : Silent before after :=
  ⟨congrArg (List.filterMap Event.opened?) same,
    congrArg (List.filterMap Event.settled?) same⟩

theorem Silent.of_record {before after : Scheduler} {event : Event}
    (same : after.journal = (before.record event).journal)
    (unopened : event.opened? = none) (unsettled : event.settled? = none) :
    Silent before after := by
  have recorded := Silent.of_journal same
  constructor
  · rw [recorded.openings, openings_record, unopened]
    exact List.append_nil _
  · rw [recorded.settlements, settlements_record, unsettled]
    exact List.append_nil _

theorem Silent.of_steps {before after : Scheduler}
    (steps : Relation.ReflTransGen Silent before after) :
    Silent before after := by
  induction steps with
  | refl => exact ⟨rfl, rfl⟩
  | tail _ step induction =>
      exact ⟨step.openings.trans induction.openings,
        step.settlements.trans induction.settlements⟩

end Scheduler

namespace Submission

open Scheduler (Silent)

/-- From this state, the action neither begins nor ends the work for a
requirement. -/
abbrev Silently {Value : Type} (action : Action Value) (before : Scheduler) :
    Prop :=
  Leads Silent action before fun _ _ => True

section Silently

variable {id : NodeId} {device : Device} {before after : Scheduler}

private theorem silently_modify {change : Scheduler → Scheduler}
    (same : (change before).journal = before.journal) :
    Silently (modify change) before :=
  (leads_modify (Silent.of_journal same)).mono fun _ _ _ _ => trivial

private theorem silently_ensureAllocation (place : RegionId) (device : Device)
    (before : Scheduler) : Silently (ensureAllocation place device) before := by
  simp only [ensureAllocation]
  apply Action.leads_getRegion_bind
  intro region _
  split
  · exact leads_pure trivial
  · split
    · exact leads_throw
    · rename_i bytes _
      have noted (granted : Option Pointer) (registry : Backend.Registry) :
          Silent before ({ before with registry }.record
            (.requested place device granted)) :=
        .of_record rfl rfl rfl
      apply (Action.leads_requestMemory place device bytes
        fun granted registry _ => noted granted registry).bind
      intro granted _ _ _
      cases granted with
      | none => exact leads_throw
      | some pointer => exact silently_modify rfl

private theorem silently_bindPointer (id : NodeId) (place : RegionId)
    (device : Device) (before : Scheduler) :
    Silently (bindPointer id place device) before := by
  simp only [bindPointer]
  apply Action.leads_getRegion_bind
  intro region _
  exact silently_modify rfl

private theorem silently_dispatch (id : NodeId) (device : Device)
    (operation : Operation) (executor : Executor)
    (dependencies : List Dependency) (before : Scheduler) :
    Silently
      (Action.dispatch id device operation executor dependencies) before :=
  ⟨.single (.of_record rfl rfl rfl), trivial⟩

private theorem silently_dispatchCopies (id : NodeId) (device : Device)
    (dependencies : List Dependency)
    (transfers : List (Copy × Executor × Binding)) (before : Scheduler) :
    Silently (dispatchCopies id device dependencies transfers) before := by
  induction transfers generalizing before with
  | nil => exact leads_pure trivial
  | cons transfer transfers induction =>
      simp only [dispatchCopies]
      apply (silently_dispatch id device _ _ dependencies before).bind
      intro handle between _ _
      apply (induction between).bind
      intro handles after _ _
      exact leads_pure trivial

private theorem silently_submitTransfers (id : NodeId) (device : Device)
    (transfers : List (Copy × Executor × Binding)) (before : Scheduler) :
    Silently (submitTransfers id device transfers) before := by
  cases transfers with
  | nil =>
      simp only [submitTransfers]
      apply (silently_modify rfl).bind
      intro _ _ _ _
      exact leads_pure trivial
  | cons transfer transfers =>
      simp only [submitTransfers]
      apply leads_get_bind
      apply (silently_dispatchCopies id device _ _ before).bind
      intro handles between _ _
      apply (silently_modify rfl).bind
      intro _ _ _ _
      exact leads_pure trivial

private theorem silently_markAccess (requirement : Requirement)
    (device : Device) (before : Scheduler) :
    Silently (markAccess requirement device) before := by
  simp only [markAccess]
  apply Action.leads_getRegion_bind
  intro _ _
  exact silently_modify rfl

private theorem silently_assignDevices (device : Device) (ids : List NodeId)
    (before : Scheduler) : Silently (assignDevices device ids) before := by
  induction ids generalizing before with
  | nil => exact leads_pure trivial
  | cons id ids induction =>
      simp only [assignDevices]
      apply Action.leads_getNode_bind
      intro node _
      apply (silently_modify rfl).bind
      intro _ between _ _
      exact induction between

private theorem silently_launch (id : NodeId) (operation : Operation)
    (device : Device) (before : Scheduler) :
    Silently (launch id operation device) before := by
  simp only [launch]
  apply leads_get_bind
  apply Action.leads_ofExcept_bind
  intro selected _
  apply (silently_dispatch id device operation _ _ before).bind
  intro handle between _ _
  exact silently_modify rfl

private theorem silently_registerSubmitted (id : NodeId) (before : Scheduler) :
    Silently (registerSubmitted id) before := by
  simp only [registerSubmitted]
  apply Action.leads_getNode_bind
  intro node _
  exact silently_modify rfl

private theorem silently_conclusion (id : NodeId) (operation : Operation)
    (before : Scheduler) : Silently (conclusion id operation) before := by
  cases operation with
  | requirement requirement => exact silently_registerSubmitted id before
  | kernel kernel => exact silently_registerSubmitted id before
  | copy copy =>
      simp only [conclusion, keepSourceValid, bind_assoc]
      apply leads_get_bind
      split
      · simp only [bind_assoc]
        apply Action.leads_getRegion_bind
        intro _ _
        apply (silently_modify rfl).bind
        intro _ between _ _
        exact silently_registerSubmitted id between
      · exact silently_registerSubmitted id before

end Silently

/-- The work for a requirement, between the notes that it begins and that it
ends. -/
def workFor (id : NodeId) (requirement : Requirement) (device : Device) :
    Action Resolution := do
  ensureAllocation requirement.region device
  bindPointer id requirement.region device
  let transfers ← selectTransfers requirement device
  let resolution ← submitTransfers id device transfers
  markAccess requirement device
  return resolution

private theorem settle_eq_workFor (id : NodeId) (requirement : Requirement)
    (device : Device) :
    settle id requirement device =
      (do Action.record (.opened id device)
          let resolution ← workFor id requirement device
          Action.record (.settled id requirement device)
          return resolution) := by
  simp only [settle, workFor, bind_assoc, pure_bind]

private theorem silently_workFor (id : NodeId) (requirement : Requirement)
    (device : Device) (before : Scheduler) :
    Silently (workFor id requirement device) before := by
  simp only [workFor]
  apply (silently_ensureAllocation requirement.region device before).bind
  intro _ allocated _ _
  apply (silently_bindPointer id requirement.region device allocated).bind
  intro _ bound _ _
  apply (leads_selectTransfers requirement device bound).bind
  intro transfers chosen _ _
  apply (silently_submitTransfers id device transfers chosen).bind
  intro resolution submitted _ _
  apply (silently_markAccess requirement device submitted).bind
  intro _ _ _ _
  exact leads_pure trivial

/-- What the work for a requirement leaves in the journal: that it began, and
that it ended if it did. -/
private theorem noted_settle (id : NodeId) (requirement : Requirement)
    (device : Device) (before : Scheduler) :
    (Action.outcome (settle id requirement device) before).openings =
      before.openings ++ [id] ∧
    (Action.outcome (settle id requirement device) before).settlements =
      before.settlements ++ if Action.succeeds
        (settle id requirement device) before then [id] else [] := by
  rw [settle_eq_workFor]
  let opened := before.record (.opened id device)
  have began : opened.openings = before.openings ++ [id] :=
    Scheduler.openings_record before _
  have unsettled : opened.settlements = before.settlements :=
    (Scheduler.settlements_record before _).trans (List.append_nil _)
  have leads := silently_workFor id requirement device opened
  have first : Action.record (.opened id device) before = .ok () opened := rfl
  simp only [Action.outcome, Action.succeeds, bind, EStateM.bind, first]
  cases worked : workFor id requirement device opened with
  | ok resolution between =>
      have silent := Silent.of_steps (leads.ok worked).1
      have openings :=
        (Scheduler.openings_record between
          (.settled id requirement device)).trans
          (List.append_nil _)
      have settlements :=
        Scheduler.settlements_record between (.settled id requirement device)
      exact ⟨openings.trans (silent.openings.trans began), settlements.trans
        (congrArg (· ++ [id]) (silent.settlements.trans unsettled))⟩
  | error cause between =>
      have silent := Silent.of_steps (leads.error worked)
      exact ⟨silent.openings.trans began,
        silent.settlements.trans (unsettled.trans (List.append_nil _).symm)⟩

/-- The work for these requirements began, in this order, and for some of them
it came to its end. None of them began twice, all of them had been waiting for
their submission, and the requirements that are newly submitted are those for
which the work came to its end. -/
structure Opens (before after : Scheduler) (ids done : List NodeId) : Prop where
  openings : after.openings = before.openings ++ ids
  settlements : after.settlements = before.settlements ++ done
  settled : done.Sublist ids
  nodup : ids.Nodup
  states : ∀ id ∈ ids, StatesRequirement before.graph id
  waited : ∀ id ∈ ids, before.graph.state? id = some .unsubmitted
  submitted_iff : ∀ id, StatesRequirement before.graph id →
    (after.graph.Submitted id ↔ before.graph.Submitted id ∨ id ∈ done)

/-- The work for these requirements began and came to its end. The other nodes
are as they were, unless they were waiting too. -/
structure Completes (before after : Scheduler) (ids : List NodeId) : Prop where
  opens : Opens before after ids ids
  sameNodes : before.graph.SameNodes after.graph
  kept : ∀ id, before.graph.state? id ≠ some .unsubmitted →
    after.graph.state? id = before.graph.state? id

section Opens

variable {before between after : Scheduler} {ids done more : List NodeId}

theorem Opens.of_silent (silent : Silent before after)
    (same : ∀ id, after.graph.state? id = before.graph.state? id) :
    Opens before after [] [] where
  openings := silent.openings.trans (List.append_nil _).symm
  settlements := silent.settlements.trans (List.append_nil _).symm
  settled := .refl _
  nodup := .nil
  states _ absent := absurd absent List.not_mem_nil
  waited _ absent := absurd absent List.not_mem_nil
  submitted_iff id _ := (submitted_iff_of_state?_eq (same id)).trans (by simp)

theorem Opens.refl (scheduler : Scheduler) : Opens scheduler scheduler [] [] :=
  .of_silent ⟨rfl, rfl⟩ fun _ => rfl

theorem Opens.then_silent (opens : Opens before between ids done)
    (silent : Silent between after)
    (spared : ∀ id, StatesRequirement before.graph id →
      (after.graph.Submitted id ↔ between.graph.Submitted id)) :
    Opens before after ids done :=
  { opens with
    openings := silent.openings.trans opens.openings
    settlements := silent.settlements.trans opens.settlements
    submitted_iff :=
      fun id states =>
        (spared id states).trans (opens.submitted_iff id states) }

theorem Completes.submitted (completes : Completes before after ids)
    {id : NodeId} (member : id ∈ ids) : after.graph.Submitted id :=
  (completes.opens.submitted_iff id (completes.opens.states id member)).mpr
    (.inr member)

/-- What was waiting in between had been waiting before, and what is submitted
in between waits no more. So the work for no requirement of the second part had
begun in the first. -/
theorem Completes.then_opens (start : Completes before between ids)
    (rest : Opens between after more done) :
    Opens before after (ids ++ more) (ids ++ done) := by
  have waited (id : NodeId)
      (waits : between.graph.state? id = some .unsubmitted) :
      before.graph.state? id = some .unsubmitted := by
    by_contra settled
    exact settled ((start.kept id settled).symm.trans waits)
  constructor
  case openings => rw [rest.openings, start.opens.openings, List.append_assoc]
  case settlements => rw [rest.settlements, start.opens.settlements,
    List.append_assoc]
  case settled => exact rest.settled.append_left ids
  case nodup =>
    refine List.nodup_append.mpr
      ⟨start.opens.nodup, rest.nodup, fun id here other there equal => ?_⟩
    subst equal
    exact (start.submitted here).not_unsubmitted (rest.waited id there)
  case states =>
    intro id member
    rcases List.mem_append.mp member with here | there
    · exact start.opens.states id here
    · exact (rest.states id there).of_sameNodes start.sameNodes.symm
  case waited =>
    intro id member
    rcases List.mem_append.mp member with here | there
    · exact start.opens.waited id here
    · exact waited id (rest.waited id there)
  case submitted_iff =>
    intro id states
    rw [rest.submitted_iff id (states.of_sameNodes start.sameNodes),
      start.opens.submitted_iff id states, List.mem_append, or_assoc]

theorem Completes.trans (start : Completes before between ids)
    (rest : Completes between after more) :
    Completes before after (ids ++ more) := by
  refine ⟨start.then_opens rest.opens, start.sameNodes.trans rest.sameNodes,
    fun id settled => ?_⟩
  have same := start.kept id settled
  exact (rest.kept id (by rwa [same])).trans same

theorem Completes.refl (scheduler : Scheduler) :
    Completes scheduler scheduler [] :=
  ⟨.refl scheduler, .refl _, fun _ _ => rfl⟩

end Opens

/-- From this state, the action begins the work for each requirement at most
once. If it does not stop with an error, it ends the work as well. -/
def OpensOnce {Value : Type} (action : Action Value) (before : Scheduler) :
    Prop :=
  match action before with
  | .ok _ after => ∃ ids, Completes before after ids
  | .error _ after => ∃ ids done, Opens before after ids done

/-- From this state, the action begins the work for each requirement at most
once, and ends what it begins if it does not stop with an error. -/
def BeginsOnce {Value : Type} (action : Action Value) (before : Scheduler) :
    Prop :=
  ∃ ids done, Opens before (Action.outcome action before) ids done ∧
    (Action.succeeds action before = true → done = ids)

section OpensOnce

variable {First Second Value : Type} {before after : Scheduler}

private theorem opensOnce_iff {action : Action Value} :
    OpensOnce action before ↔ (∀ value after,
      action before = .ok value after → ∃ ids, Completes before after ids) ∧
      ∀ cause after, action before = .error cause after →
        ∃ ids done, Opens before after ids done := by
  simp only [OpensOnce]
  cases action before <;> simp

theorem OpensOnce.bind {first : Action First} {next : First → Action Second}
    (start : OpensOnce first before)
    (rest : ∀ value between,
      first before = .ok value between → OpensOnce (next value) between) :
    OpensOnce (first >>= next) before := by
  rw [opensOnce_iff] at start ⊢
  refine ⟨fun result after passed => ?_, fun cause after failed => ?_⟩
  · obtain ⟨value, between, started, went⟩ := bind_ok_iff.mp passed
    obtain ⟨ids, completes⟩ := start.1 value between started
    obtain ⟨more, further⟩ :=
      (opensOnce_iff.mp (rest value between started)).1 result after went
    exact ⟨ids ++ more, completes.trans further⟩
  · rcases bind_error_iff.mp failed
      with stopped | ⟨value, between, started, stopped⟩
    · exact start.2 cause after stopped
    · obtain ⟨ids, completes⟩ := start.1 value between started
      obtain ⟨more, done, opens⟩ :=
        (opensOnce_iff.mp (rest value between started)).2 cause after stopped
      exact ⟨ids ++ more, ids ++ done, completes.then_opens opens⟩

/-- An action that does nothing but moves, of which none submits a node, and
that notes nothing. -/
theorem OpensOnce.of_silently {action : Action Value} {root : NodeId}
    {goal : Value → Scheduler → Prop}
    (moves : Leads (Move root 0) action before goal)
    (silently : Silently action before) : OpensOnce action before := by
  have same {after : Scheduler} (moves : Moves root 0 before after)
      (id : NodeId) : after.graph.state? id = before.graph.state? id :=
    Moves.state?_of_le moves (Nat.zero_le id)
  refine opensOnce_iff.mpr
    ⟨fun value after passed => ⟨[], ?_⟩, fun cause after failed => ⟨[], [], ?_⟩⟩
  · have moves := (moves.ok passed).1
    exact ⟨.of_silent (.of_steps (silently.ok passed).1) (same moves),
      Moves.sameNodes moves, fun id _ => same moves id⟩
  · exact .of_silent (.of_steps (silently.error failed))
      (same (moves.error failed))

private theorem opensOnce_pure (value : Value) (before : Scheduler) :
    OpensOnce (pure value) before :=
  ⟨[], .refl before⟩

private theorem opensOnce_throw (cause : Error) (before : Scheduler) :
    OpensOnce (throw cause : Action Value) before :=
  ⟨[], [], .refl before⟩

private theorem opensOnce_getNode (id : NodeId) (before : Scheduler) :
    OpensOnce (Action.getNode id) before := by
  refine opensOnce_iff.mpr
    ⟨fun node after passed => ?_, fun cause after failed => ?_⟩
  · obtain ⟨_, rfl⟩ := Action.getNode_ok_iff.mp passed
    exact ⟨[], .refl before⟩
  · obtain ⟨_, _, rfl⟩ := Action.getNode_error_iff.mp failed
    exact ⟨[], [], .refl before⟩

theorem BeginsOnce.of_ok {action : Action Value} {value : Value}
    {ids : List NodeId} (passed : action before = .ok value after)
    (opens : Opens before after ids ids) : BeginsOnce action before := by
  refine ⟨ids, ids, ?_, fun _ => rfl⟩
  rwa [Action.outcome_of_ok passed]

theorem BeginsOnce.of_error {action : Action Value} {cause : Error}
    {ids done : List NodeId} (failed : action before = .error cause after)
    (opens : Opens before after ids done) : BeginsOnce action before := by
  refine ⟨ids, done, ?_, fun success => ?_⟩
  · rwa [Action.outcome_of_error failed]
  · rw [Action.succeeds_of_error failed] at success
    cases success

/-- What follows without a note, and submits no requirement, leaves it at the
requirements that were opened before. -/
theorem OpensOnce.then_silently {first : Action First}
    {next : First → Action Second} (start : OpensOnce first before)
    (silently : ∀ value between, Silently (next value) between)
    (spared : ∀ value between, first before = .ok value between →
      ∀ id, StatesRequirement before.graph id →
        (Action.outcome (next value) between).graph.state? id =
          between.graph.state? id) : BeginsOnce (first >>= next) before := by
  rw [opensOnce_iff] at start
  cases began : first before with
  | error cause between =>
      obtain ⟨ids, done, opens⟩ := start.2 cause between began
      exact .of_error (bind_error_iff.mpr (.inl began)) opens
  | ok value between =>
      obtain ⟨ids, completes⟩ := start.1 value between began
      have silently := silently value between
      have spared := spared value between began
      cases went : next value between with
      | ok result after =>
          rw [Action.outcome_of_ok went] at spared
          exact .of_ok (bind_ok_iff.mpr ⟨value, between, began, went⟩)
            (completes.opens.then_silent (.of_steps (silently.ok went).1)
              fun id states => submitted_iff_of_state?_eq (spared id states))
      | error cause after =>
          rw [Action.outcome_of_error went] at spared
          exact .of_error
            (bind_error_iff.mpr (.inr ⟨value, between, began, went⟩))
            (completes.opens.then_silent (.of_steps (silently.error went))
              fun id states => submitted_iff_of_state?_eq (spared id states))

end OpensOnce

section Resolution

variable {id : NodeId} {before : Scheduler}
  {resolve : NodeId → Action Resolution}

/-- What a way to resolve requirements must not do twice. -/
def ResolvesOnce (resolve : NodeId → Action Resolution) : Prop :=
  ∀ id before, before.graph.WellFormed → StatesRequirement before.graph id →
    OpensOnce (resolve id) before

private theorem completes_assign (id : NodeId) (device : Device)
    (before : Scheduler) :
    Completes before
      { before with graph := before.graph.updateNode id (·.assign device) }
      [] where
  opens :=
    .of_silent (.of_journal rfl)
      fun _ => TaskGraph.state?_updateNode _ _ _ fun _ => rfl
  sameNodes := TaskGraph.sameNodes_updateNode _ _ fun _ => rfl
  kept _ _ := TaskGraph.state?_updateNode _ _ _ fun _ => rfl

private theorem opensOnce_settle {root : NodeId} {node : Node}
    {requirement : Requirement} {device : Device}
    (readied : Readied root id node requirement device before) :
    OpensOnce (settle id requirement device) before := by
  obtain ⟨openings, settlements⟩ := noted_settle id requirement device before
  have opens {after : Scheduler} {done : List NodeId}
      (began : after.openings = before.openings ++ [id])
      (ended : after.settlements = before.settlements ++ done)
      (settled : done.Sublist [id])
      (submitted : ∀ other, after.graph.Submitted other ↔
        before.graph.Submitted other ∨ other ∈ done) :
      Opens before after [id] done := by
    refine ⟨began, ended, settled, List.pairwise_singleton _ id, ?_, ?_,
      fun other _ => submitted other⟩
    · intro other member
      rw [List.mem_singleton.mp member]
      exact ⟨node, requirement, readied.found, readied.states⟩
    · intro other member
      rw [List.mem_singleton.mp member]
      exact TaskGraph.state?_of_node? readied.found readied.waits
  -- Before the requirement is taken up, no node is.
  have still {after : Scheduler} (moves : Moves root 0 before after)
      (other : NodeId) : after.graph.state? other = before.graph.state? other :=
    Moves.state?_of_le moves (Nat.zero_le other)
  simp only [OpensOnce]
  rcases @settle_ok_or_error root 0 _ _ _ _ _ readied.found readied.states
    readied.bound readied.waits readied.prepared readied.inTurn with
    ⟨cause, after, failed, moves⟩ |
      ⟨_, _, _, _, _, between, after, passed, moves, settles⟩
  · rw [Action.outcome_of_error failed] at openings settlements
    rw [Action.succeeds_of_error failed] at settlements
    rw [failed]
    refine ⟨[id], [],
      opens openings settlements (List.nil_sublist [id]) fun other => ?_⟩
    rw [submitted_iff_of_state?_eq (still moves other),
      or_iff_left List.not_mem_nil]
  · rw [Action.outcome_of_ok passed] at openings settlements
    rw [Action.succeeds_of_ok passed] at settlements
    rw [passed]
    have takes := settles.takesUp
    refine ⟨[id], opens openings settlements (.refl [id]) fun other => ?_,
      (Moves.sameNodes moves).trans takes.sameNodes, fun other settled => ?_⟩
    · rw [takes.submitted_iff, submitted_iff_of_state?_eq (still moves other),
        List.mem_singleton, or_comm]
    · rw [← still moves other] at settled
      exact (takes.state?_of_ne settled).trans (still moves other)

private theorem opensOnce_settleRequired
    (resolves : ∀ root, Resolves root resolve) (once : ResolvesOnce resolve)
    (ids : List NodeId) (wellFormed : before.graph.WellFormed) :
    OpensOnce (settleRequired resolve id ids) before := by
  induction ids generalizing before with
  | nil => exact opensOnce_pure () before
  | cons required ids induction =>
      simp only [settleRequired]
      apply (opensOnce_getNode required before).bind
      intro node _ first
      obtain ⟨found, rfl⟩ := Action.getNode_ok_iff.mp first
      split
      · rename_i isRequirement
        have states := (statesRequirement_iff found).mpr isRequirement
        apply (once required before wellFormed states).bind
        intro _ between resolved
        have moves :=
          ((resolves required required before wellFormed states (.inl rfl)).ok
            resolved).1
        exact induction (Moves.wellFormed moves wellFormed)
      · split
        · exact (opensOnce_throw _ before).bind fun _ _ never => by cases never
        · split
          · exact (opensOnce_throw _ before).bind
              fun _ _ never => by cases never
          · exact induction wellFormed

private theorem opensOnce_prepareWith (resolves : ∀ root, Resolves root resolve)
    (once : ResolvesOnce resolve) (device : Device)
    (wellFormed : before.graph.WellFormed) :
    OpensOnce (prepareWith resolve id device) before := by
  have leads :
      Leads (Move id 0) (assignDevices device (before.graph.requirementsOf id))
        before _ :=
    leads_assignDevices device _ before
  have assigns :
      OpensOnce
        (assignDevices device (before.graph.requirementsOf id)) before :=
    .of_silently leads (silently_assignDevices device _ before)
  exact assigns.bind fun _ between assigned =>
    opensOnce_settleRequired resolves once _
      (Moves.wellFormed (leads.ok assigned).1 wellFormed)

private theorem resolvesOnce_resolveWith
    (resolves : ∀ root, Resolves root resolve) (once : ResolvesOnce resolve) :
    ResolvesOnce (resolveWith resolve) := by
  intro id before wellFormed stated
  obtain ⟨node, requirement, found, states⟩ := stated
  rcases resolveWith_cases resolve found states with
    ⟨_, result⟩ | ⟨cause, result⟩ | ⟨device, waits, chosen, result⟩
  · simp only [OpensOnce]
    rw [result]
    exact opensOnce_pure Resolution.alreadySubmitted before
  · simp only [OpensOnce]
    rw [result]
    exact ⟨[], [], .refl before⟩
  · simp only [OpensOnce]
    rw [result, resolveWaiting_eq]
    have leads :=
      leads_prepareWaiting (resolves id) wellFormed found states waits
        chosen (.inl rfl)
    have prepares : OpensOnce
        (do
          Action.changeNode id (·.assign device); prepareWith resolve id device)
        before := by
      have assigns :
          OpensOnce (Action.changeNode id (·.assign device)) before :=
        ⟨[], completes_assign id device before⟩
      apply assigns.bind
      intro _ _ assigned
      cases assigned
      exact opensOnce_prepareWith resolves once device
        (wellFormed_assign wellFormed id device)
    exact prepares.bind fun _ between passed => by
      obtain ⟨_, later, readied⟩ := leads.ok passed
      exact opensOnce_settle readied

private theorem resolvesOnce_resolveWithin (depth : Nat) :
    ResolvesOnce (resolveWithin depth) := by
  induction depth with
  | zero => exact fun id before _ _ => opensOnce_throw (.nodeNotFound id) before
  | succ depth induction =>
      exact resolvesOnce_resolveWith
        (fun _ => resolves_resolveWithin depth) induction

private theorem resolvesOnce_resolve : ResolvesOnce Submission.resolve :=
  fun id => resolvesOnce_resolveWithin (id + 1) id

end Resolution

section Submit

variable {id : NodeId} {node : Node} {device : Device} {before : Scheduler}

private theorem graph_registerSubmitted (id : NodeId) (before : Scheduler) :
    (Action.outcome (registerSubmitted id) before).graph = before.graph := by
  simp only [Action.outcome, registerSubmitted, bind, EStateM.bind]
  rw [Action.getNode_eq]
  cases before.graph.node? id <;> rfl

/-- Behind the preparation of a node, no other node is submitted. -/
private theorem state?_conclude_launch {ready : Scheduler}
    (wellFormed : before.graph.WellFormed)
    (found : before.graph.node? id = some node)
    (explicit : node.operation.isRequirement = false)
    (hinted : node.hint = some device)
    (bound : ∃ place, node.device = some place)
    (waits : node.state = .unsubmitted)
    (prepares : prepare id device before = .ok () ready)
    {other : NodeId} (different : other ≠ id) :
    (Action.outcome
        (do launch id node.operation device; conclusion id node.operation)
        ready).graph.state? other =
      ready.graph.state? other := by
  cases launched : launch id node.operation device ready with
  | error cause after =>
      rw [Action.outcome_of_error (bind_error_iff.mpr (.inl launched)),
        launch_error launched]
  | ok _ after =>
      obtain ⟨_, _, finished, _, launches, concludes, finishes⟩ :=
        conclude_launch_ok wellFormed found explicit hinted bound waits
          prepares launched
      rw [Action.outcome_of_ok
        (bind_ok_iff.mpr ⟨(), after, launched, concludes⟩)]
      exact (finishes.state? other).trans
        (launches.takesUp.others other different)

private theorem beginsOnce_carryOut (wellFormed : before.graph.WellFormed)
    (found : before.graph.node? id = some node)
    (hinted : node.hint = some device)
    (bound : ∃ place, node.device = some place)
    (waits : node.state = .unsubmitted) :
    BeginsOnce (carryOut id device node.operation) before := by
  cases explicit : node.operation.isRequirement with
  | true =>
      obtain ⟨requirement, operation⟩ := Operation.isRequirement_iff.mp explicit
      rw [operation]
      apply (resolvesOnce_resolve id before wellFormed
        ⟨node, requirement, found, operation⟩).then_silently
      · exact fun _ between => silently_registerSubmitted id between
      · intro _ between _ other _
        rw [graph_registerSubmitted]
  | false =>
      rw [carryOut_of_explicit id device explicit]
      have prepares : OpensOnce (prepare id device) before :=
        opensOnce_prepareWith (fun _ => resolves_resolve) resolvesOnce_resolve
          device wellFormed
      apply prepares.then_silently
      · exact fun _ between =>
          (silently_launch id node.operation device between).bind
            fun _ launched _ _ => silently_conclusion id node.operation launched
      · intro _ ready prepared other states
        apply state?_conclude_launch wellFormed found explicit hinted bound
          waits prepared
        rintro rfl
        obtain ⟨_, _, isNode, operation⟩ := states
        rw [found] at isNode
        cases isNode
        rw [operation] at explicit
        cases explicit

private theorem beginsOnce_submitNew (wellFormed : before.graph.WellFormed)
    (found : before.graph.node? id = some node)
    (waits : node.state = .unsubmitted) : BeginsOnce (submitNew id) before := by
  cases hinted : node.hint with
  | none => exact .of_error (submitNew_of_no_hint found hinted) (.refl before)
  | some device =>
      let assigned : Scheduler :=
        { before with graph := before.graph.updateNode id (·.assign device) }
      have isNode : assigned.graph.node? id = some (node.assign device) :=
        TaskGraph.node?_updateNode_self found
      obtain ⟨ids, done, opens, ends⟩ :=
        beginsOnce_carryOut (wellFormed_assign wellFormed id device) isNode
          hinted ⟨_, rfl⟩ waits
      refine ⟨ids, done, ?_, ?_⟩
      · simp only [Action.outcome]
        rw [submitNew_eq found hinted]
        exact (completes_assign id device before).then_opens opens
      · simp only [Action.succeeds]
        rw [submitNew_eq found hinted]
        exact ends

/-- A submission begins the work for each requirement at most once. -/
private theorem beginsOnce_submit (wellFormed : before.graph.WellFormed)
    (id : NodeId) : BeginsOnce (submit id) before := by
  cases found : before.graph.node? id with
  | none =>
      have rejected : submit id before = .error (.nodeNotFound id) before := by
        simp only [submit]
        rw [found]
      exact .of_error rejected (.refl before)
  | some node =>
      by_cases unsubmitted : node.isUnsubmitted = true
      · obtain ⟨ids, done, opens, ends⟩ :=
          beginsOnce_submitNew wellFormed found
            (Node.isUnsubmitted_iff.mp unsubmitted)
        cases result : submitNew id before with
        | ok value after =>
            have passed : submit id before = .ok () after := by
              simp only [submit, found, unsubmitted, result, if_true]
            rw [Action.outcome_of_ok result,
              ends (Action.succeeds_of_ok result)] at opens
            exact .of_ok passed opens
        | error cause after =>
            have failed :
                submit id before =
                  .error cause (giveUp before after id cause) := by
              simp only [submit, found, unsubmitted, result, if_true]
            rw [Action.outcome_of_error result] at opens
            have carries :=
              TaskGraph.carries_abort
                (after.graph.restore before.graph.snapshot) id
            exact .of_error failed (opens.then_silent (.of_journal rfl)
              fun _ _ => carries.submitted_iff)
      · have idle : submit id before = .ok () before := by
          simp only [submit, found, unsubmitted]
          rfl
        exact .of_ok idle (.refl before)

end Submit

/-- In every state that is met, nodes require only nodes with smaller numbers,
so that the recursion below any node comes to an end. However many chains of
required nodes there are, a submission begins the work for a requirement at most
once, and only if the requirement was waiting. It ends what it has begun, unless
something fails, and the requirements that it takes up are those for which it
ends the work. Each time that the work is done, this is noted. -/
theorem resolution_terminates_once {scheduler : Scheduler}
    (met : scheduler.InUse) :
    (∀ dependent required,
      scheduler.graph.Requires dependent required → required < dependent) ∧
    (∀ id, Terminates scheduler id) ∧
    (∀ root, BeginsOnce (submit root) scheduler) ∧
    ∀ id requirement device before,
      (Action.outcome (settle id requirement device) before).openings =
        before.openings ++ [id] ∧
      (Action.outcome (settle id requirement device) before).settlements =
        before.settlements ++ if Action.succeeds
          (settle id requirement device) before then [id] else [] :=
  have wellFormed := met.intact.wellFormed
  ⟨fun _ _ edge => wellFormed.earlier edge, terminates wellFormed,
    beginsOnce_submit wellFormed, noted_settle⟩

/-- A buffer on the host, four requirements to read it on another device, each
of which requires all that come before it, and a kernel behind them. Eight
chains lead from the kernel to the first requirement. -/
def ladder : Scheduler :=
  let device : Device := ⟨.cuda, 0⟩
  let reads : Operation := .requirement ⟨0, .ofExtent ⟨4, 1, 1⟩, .read⟩
  let start :=
    Scheduler.create 128 (.ofList
      [Backend.recording .host false none, Backend.recording .cuda false none])
      false
  let graph :=
    (start.graph.addRegion "A" ⟨4, 1, 1⟩ 4).updateRegion 0
      (·.seed .hostDevice 0)
  { start with
    graph := { graph with slots := [some (Node.create reads [] (some device)),
        some (Node.create reads [0] (some device)),
        some (Node.create reads [0, 1] (some device)),
        some (Node.create reads [0, 1, 2] (some device)), some (Node.create
          (.kernel ⟨"last", none⟩) [0, 1, 2, 3] (some device))] } }

private theorem inUse_ladder : ladder.InUse := by
  let device : Device := ⟨.cuda, 0⟩
  let reads : Operation := .requirement ⟨0, .ofExtent ⟨4, 1, 1⟩, .read⟩
  have empty :=
    Scheduler.Reachable.create 128 (.ofList
      [Backend.recording .host false none, Backend.recording .cuda false none])
      false
  have buffer := empty.step (.addRegion "A" ⟨4, 1, 1⟩ 4)
  have seeded :=
    buffer.step (.changeRegion 0 (·.seed .hostDevice 0) fun region =>
      (region.grows_addAllocation .hostDevice 0).trans
        (Coherence.Region.grows_markCurrent _ _ _))
  have first := seeded.step (.addNode reads [] (some device) 0 _ rfl)
  have second := first.step (.addNode reads [0] (some device) 1 _ rfl)
  have third := second.step (.addNode reads [0, 1] (some device) 2 _ rfl)
  have fourth := third.step (.addNode reads [0, 1, 2] (some device) 3 _ rfl)
  exact (fourth.step (.addNode (.kernel ⟨"last", none⟩) [0, 1, 2, 3]
    (some device) 4 _ rfl)).inUse

theorem resolution_terminates_once_ladder :
    ladder.InUse ∧ (∀ id, Terminates ladder id) ∧ Opens ladder
      (Action.outcome (submit 4) ladder) [0, 1, 2, 3] [0, 1, 2, 3] := by
  obtain ⟨_, terminates, begins, _⟩ := resolution_terminates_once inUse_ladder
  obtain ⟨ids, done, opens, ends⟩ := begins 4
  have openings : (Action.outcome (submit 4) ladder).openings = [0, 1, 2, 3] :=
    by decide +kernel
  have isIds : ids = [0, 1, 2, 3] := opens.openings.symm.trans openings
  rw [ends (by decide +kernel), isIds] at opens
  exact ⟨inUse_ladder, terminates, opens⟩

end Submission

end CoherentTasks
