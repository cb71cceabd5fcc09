import CoherentTasks.Proofs.Submission.Marks
import CoherentTasks.Proofs.Submission.Turn
import CoherentTasks.Proofs.Submission.Use

/-!
# Memory is requested once

During a run of submissions, memory for a copy is requested only while the copy
is missing, so that no request follows one that was granted. A copy then stays
where it is, also when the submission that made it fails, and every submitted
requirement is bound to the copy of its region on its device.
-/

namespace CoherentTasks

open CoherentTasks.Coherence (Region Snapshot)
open CoherentTasks.Graph (Node Operation TaskGraph)
open CoherentTasks.Submission

namespace Graph.TaskGraph

variable {graph : TaskGraph}

theorem pointer?_restore (graph : TaskGraph) (saved : List Snapshot) :
    (graph.restore saved).pointer? = graph.pointer? := by
  funext place device
  simp only [pointer?, region?, restore]
  induction graph.regions generalizing saved place with
  | nil => cases saved <;> rfl
  | cons region regions induction =>
      cases saved with
      | nil => rfl
      | cons first rest =>
          cases place with
          | zero => exact Region.pointer?_restore region device first
          | succ place => exact induction rest place

/-- A submitted node is not affected when another one is given up. -/
theorem node?_of_abort {root id : NodeId} {later : Node}
    (found : (graph.abort root).2.node? id = some later)
    (submitted : later.isSubmitted = true) : graph.node? id = some later := by
  simp only [abort] at found
  rw [node?_cancelAll] at found
  split at found
  · obtain ⟨node, isNode, rfl⟩ := Option.map_eq_some_iff.mp found
    rw [isNode]
    cases state : node.state with
    | unsubmitted => simp [Node.isSubmitted, Node.cancel, state] at submitted
    | satisfied => simp [Node.cancel, state]
    | submitted handle executor => simp [Node.cancel, state]
    | cancelled => simp [Node.cancel, state]
  · exact found

end Graph.TaskGraph

namespace MemoryRequest

def isFor (request : MemoryRequest) (place : RegionId) (device : Device) :
    Bool :=
  request.region = place ∧ request.device = device

/-- What the request brings for a copy. -/
def grant? (request : MemoryRequest) (place : RegionId) (device : Device) :
    Option Pointer :=
  if request.isFor place device then request.granted else none

theorem isFor_iff {request : MemoryRequest} {place : RegionId}
    {device : Device} :
    request.isFor place device = true ↔
      request.region = place ∧ request.device = device :=
  decide_eq_true_iff

theorem grant?_self (request : MemoryRequest) :
    request.grant? request.region request.device = request.granted :=
  if_pos (isFor_iff.mpr ⟨rfl, rfl⟩)

end MemoryRequest

/-- The memory that was granted for a copy, by the first request that was. -/
def grantedIn (made : List MemoryRequest) (place : RegionId) (device : Device) :
    Option Pointer :=
  made.findSome? (·.grant? place device)

/-- If one request was granted, no later one is for the same copy. -/
def Unrepeated (made : List MemoryRequest) : Prop :=
  made.Pairwise fun earlier later =>
    earlier.granted.isSome = true →
    later.isFor earlier.region earlier.device = false

/-- The requests for a copy that were granted. -/
def grantedFor (made : List MemoryRequest) (place : RegionId)
    (device : Device) : List MemoryRequest :=
  made.filter
    fun request => request.isFor place device && request.granted.isSome

section Requests

variable {made : List MemoryRequest} {request : MemoryRequest}
  {place : RegionId} {device : Device}

theorem Unrepeated.granted_le_one (unrepeated : Unrepeated made)
    (place : RegionId) (device : Device) :
    (grantedFor made place device).length ≤ 1 := by
  have apart := unrepeated.sublist (List.filter_sublist (l := made)
    (p := fun request => request.isFor place device && request.granted.isSome))
  have chosen (request : MemoryRequest)
      (member : request ∈ grantedFor made place device) :
      request.isFor place device = true ∧ request.granted.isSome = true := by
    simpa using (List.mem_filter.mp member).2
  simp only [grantedFor] at chosen ⊢
  generalize made.filter _ = granted at apart chosen
  match granted with
  | [] => exact Nat.zero_le 1
  | [_] => exact Nat.le_refl 1
  | first :: second :: _ =>
      obtain ⟨isFirst, succeeded⟩ := chosen first List.mem_cons_self
      obtain ⟨isSecond, _⟩ :=
        chosen second (List.mem_cons_of_mem _ List.mem_cons_self)
      obtain ⟨rfl, rfl⟩ := MemoryRequest.isFor_iff.mp isFirst
      have different :=
        List.rel_of_pairwise_cons apart List.mem_cons_self succeeded
      rw [isSecond] at different
      cases different

private theorem grantedIn_concat :
    grantedIn (made ++ [request]) place device =
      (grantedIn made place device).or (request.grant? place device) := by
  simp only [grantedIn]
  rw [List.findSome?_append, List.findSome?_singleton]

/-- A further request is for a copy for which none was granted. -/
theorem Unrepeated.concat (unrepeated : Unrepeated made)
    (missing : grantedIn made request.region request.device = none) :
    Unrepeated (made ++ [request]) := by
  refine List.pairwise_append.mpr ⟨unrepeated, List.pairwise_singleton _ _, ?_⟩
  intro earlier member later isLast succeeded
  rw [List.mem_singleton.mp isLast]
  by_contra same
  obtain ⟨samePlace, sameDevice⟩ :=
    MemoryRequest.isFor_iff.mp (by simpa using same)
  have refused := List.findSome?_eq_none_iff.mp missing earlier member
  rw [samePlace, sameDevice, earlier.grant?_self] at refused
  rw [refused] at succeeded
  cases succeeded

end Requests

namespace Submission

/-- A change requests nothing and leaves all copies where they are, or it
requests memory for a copy that is missing, which is then where the memory was
granted. -/
theorem Turn.requests_cases {before after : Scheduler}
    (turn : Turn before after) :
    (after.requests = before.requests ∧
      after.graph.pointer? = before.graph.pointer?) ∨
    ∃ request, before.graph.pointer? request.region request.device = none ∧
      after.requests = before.requests ++ [request] ∧
      ∀ place device, after.graph.pointer? place device = (before.graph.pointer?
        place device).or (request.grant? place device) := by
  cases turn with
  | note requests graph => exact .inl ⟨requests, by rw [graph]⟩
  | refuse place device absent requests graph =>
      refine .inr ⟨_, absent, requests, fun other on => ?_⟩
      rw [graph]
      simp [MemoryRequest.grant?]
  | grant place region device pointer tracked absent requests graph =>
      have missing :=
        (TaskGraph.pointer?_of_region? tracked device).trans absent
      refine .inr ⟨_, missing, requests, fun other on => ?_⟩
      rw [graph, TaskGraph.pointer?_addAllocation tracked]
      by_cases here : other = place ∧ on = device
      · obtain ⟨rfl, rfl⟩ := here
        rw [if_pos ⟨rfl, rfl⟩, missing, Option.none_or]
        exact (MemoryRequest.grant?_self ⟨other, on, some pointer⟩).symm
      · have unasked :
            (⟨place, device, some pointer⟩ : MemoryRequest).grant? other on =
              none := by
          refine if_neg fun asked => here ?_
          obtain ⟨samePlace, sameDevice⟩ := MemoryRequest.isFor_iff.mp asked
          exact ⟨samePlace.symm, sameDevice.symm⟩
        rw [if_neg here, unasked, Option.or_none]
  | assign id device requests graph =>
      exact .inl ⟨requests, TaskGraph.pointer?_of_regions (by rw [graph]; rfl)⟩
  | bind id requirement device aims requests graph =>
      exact .inl ⟨requests, TaskGraph.pointer?_of_regions (by rw [graph]; rfl)⟩
  | takeUp id state anchors requests graph =>
      exact .inl ⟨requests, TaskGraph.pointer?_of_regions (by rw [graph]; rfl)⟩
  | mark place change kept requests graph =>
      exact .inl ⟨requests, by rw [graph, TaskGraph.pointer?_updateRegion kept]⟩

end Submission

namespace Scheduler

/-- To give up leaves all copies where they are. -/
private theorem pointer?_giveUp (before stopped : Scheduler) (id : NodeId)
    (cause : Error) :
    (giveUp before stopped id cause).graph.pointer? = stopped.graph.pointer? :=
  (TaskGraph.pointer?_of_regions (TaskGraph.regions_abort _ id)).trans
    (TaskGraph.pointer?_restore _ _)

/-- The requests since a moment, and what has become of the copies. -/
structure Ledger (start now : Scheduler) (made : List MemoryRequest) :
    Prop where
  requests : now.requests = start.requests ++ made
  /-- A copy was there already, or it is where memory was granted first. -/
  pointers : ∀ place device, now.graph.pointer? place device =
    (start.graph.pointer? place device).or (grantedIn made place device)
  vacant :
    ∀ request ∈ made, start.graph.pointer? request.region request.device = none
  unrepeated : Unrepeated made

namespace Ledger

variable {start now next : Scheduler} {made : List MemoryRequest}

theorem refl (start : Scheduler) : Ledger start start [] where
  requests := (List.append_nil _).symm
  pointers _ _ := Option.or_none.symm
  vacant _ absent := absurd absent List.not_mem_nil
  unrepeated := .nil

theorem quiet (ledger : Ledger start now made)
    (requests : next.requests = now.requests)
    (pointers : next.graph.pointer? = now.graph.pointer?) :
    Ledger start next made where
  requests := requests.trans ledger.requests
  pointers place device := by
    rw [pointers]
    exact ledger.pointers place device
  vacant := ledger.vacant
  unrepeated := ledger.unrepeated

theorem turn (ledger : Ledger start now made) (turn : Turn now next) :
    ∃ made, Ledger start next made := by
  rcases turn.requests_cases
    with ⟨requests, pointers⟩ | ⟨request, missing, requests, pointers⟩
  · exact ⟨made, ledger.quiet requests pointers⟩
  · have both := missing
    rw [ledger.pointers, Option.or_eq_none_iff] at both
    obtain ⟨vacant, ungranted⟩ := both
    refine ⟨made ++ [request], ?_, fun place device => ?_,
      fun other member => ?_, ledger.unrepeated.concat ungranted⟩
    · rw [requests, ledger.requests, List.append_assoc]
    · rw [pointers, ledger.pointers, grantedIn_concat, Option.or_assoc]
    · rcases List.mem_append.mp member with earlier | isNew
      · exact ledger.vacant other earlier
      · rw [List.mem_singleton.mp isNew]
        exact vacant

theorem turns (ledger : Ledger start now made) (turns : Turns now next) :
    ∃ made, Ledger start next made := by
  induction turns with
  | refl => exact ⟨made, ledger⟩
  | tail _ turn induction =>
      obtain ⟨_, ledgerThen⟩ := induction
      exact ledgerThen.turn turn

/-- A submission keeps the books, although it may be given up. -/
theorem submit (ledger : Ledger start now made) (id : NodeId) :
    ∃ made, Ledger start (Action.outcome (submit id) now) made := by
  obtain ⟨stopped, turns, outcome⟩ := submit_cases id now
  obtain ⟨made, ledgerThen⟩ := ledger.turns turns
  rcases outcome with same | ⟨cause, givenUp⟩
  · exact ⟨made, same ▸ ledgerThen⟩
  · rw [givenUp]
    exact ⟨made, ledgerThen.quiet rfl (pointer?_giveUp now stopped id cause)⟩

end Ledger

private theorem anchored_submit {before : Scheduler}
    (anchored : before.graph.Anchored) (id : NodeId) :
    (Action.outcome (submit id) before).graph.Anchored := by
  obtain ⟨stopped, turns, outcome⟩ := submit_cases id before
  have anchoredThen := anchored_of_turns turns anchored
  rcases outcome with same | ⟨cause, givenUp⟩
  · exact same ▸ anchoredThen
  · rw [givenUp]
    refine anchoredThen.later (fun place device pointer held => ?_)
      fun other later found submitted => ?_
    · rw [pointer?_giveUp]
      exact held
    · have isNode :
          (stopped.graph.restore before.graph.snapshot).node? other =
            some later :=
        TaskGraph.node?_of_abort found submitted
      exact ⟨later, isNode, submitted, .refl later⟩

/-- Whatever is done that leaves the copies where they are, submitted
requirements stay bound to them. -/
private theorem anchored_use {before after : Scheduler}
    (anchored : before.graph.Anchored) (use : Use before after)
    (pointers : after.graph.pointer? = before.graph.pointer?) :
    after.graph.Anchored := by
  have kept (place : RegionId) (device : Device) (pointer : Pointer)
      (held : before.graph.pointer? place device = some pointer) :
      after.graph.pointer? place device = some pointer := by
    rw [pointers]
    exact held
  have same (nodes : ∀ id, after.graph.node? id = before.graph.node? id) :
      after.graph.Anchored :=
    anchored.later kept fun id later found submitted =>
      ⟨later, nodes id ▸ found, submitted, .refl later⟩
  have grown {operation : Operation} {requirements : List NodeId}
      {hint : Option Device} {id : NodeId}
      (added : before.graph.addNode operation requirements hint =
        .ok (id, after.graph)) : after.graph.Anchored := by
    refine anchored.later kept fun other later found submitted => ?_
    rw [TaskGraph.node?_addNode added] at found
    split at found
    · cases found
      cases submitted
    · exact ⟨later, found, submitted, .refl later⟩
  cases use with
  | step step =>
      cases step with
      | addRegion name range elementSize => exact same fun _ => rfl
      | changeRegion id change grows => exact same fun _ => rfl
      | addNode operation requirements hint id graph added => exact grown added
      | addCopy copy requirements hint id graph added =>
          exact grown (TaskGraph.addNode_of_addCopy added)
      | submit id => exact anchored_submit anchored id
      | abort id =>
          exact anchored.later kept fun other later found submitted =>
            ⟨later, TaskGraph.node?_of_abort found submitted,
              submitted, .refl later⟩
      | complete fired => exact same fun _ => rfl
  | resolve id =>
      exact anchored_of_turns
        (Action.leads_outcome (turns_resolve id before)) anchored
  | prepare id device =>
      exact anchored_of_turns
        (Action.leads_outcome (turns_prepare id device before)) anchored
  | restore saved => exact same fun _ => rfl
  | prune =>
      exact anchored.later kept fun id later found submitted =>
        ⟨later, (TaskGraph.node?_without_of_some _ _ found).2,
          submitted, .refl later⟩
  | purge => exact same fun _ => rfl

/-- A submission, which may fail, or anything else that is done without
requesting memory and leaves the copies where they are. -/
inductive Unaided (before : Scheduler) : Scheduler → Prop where
  | submit (id : NodeId) : Unaided before (Action.outcome (submit id) before)
  | other {after : Scheduler} (use : Use before after)
      (requests : after.requests = before.requests)
      (pointers : after.graph.pointer? = before.graph.pointer?) :
      Unaided before after

/-- The requests for memory between two moments. -/
def requestsSince (start now : Scheduler) : List MemoryRequest :=
  now.requests.drop start.requests.length

section Runs

variable {start now : Scheduler}

private theorem ledger_of_run (run : Relation.ReflTransGen Unaided start now) :
    Ledger start now (requestsSince start now) := by
  have kept : ∃ made, Ledger start now made := by
    induction run with
    | refl => exact ⟨[], .refl start⟩
    | tail _ step induction =>
        obtain ⟨made, ledger⟩ := induction
        cases step with
        | submit id => exact ledger.submit id
        | other use requests pointers =>
            exact ⟨made, ledger.quiet requests pointers⟩
  obtain ⟨made, ledger⟩ := kept
  have isMade : requestsSince start now = made := by
    simp only [requestsSince]
    rw [ledger.requests, List.drop_left]
  rw [isMade]
  exact ledger

private theorem anchored_of_run (run : Relation.ReflTransGen Unaided start now)
    (anchored : start.graph.Anchored) : now.graph.Anchored := by
  induction run with
  | refl => exact anchored
  | tail _ step induction =>
      cases step with
      | submit id => exact anchored_submit induction id
      | other use requests pointers => exact anchored_use induction use pointers

/-- From a state in which nothing was submitted, submissions are made, with or
without success. Then for no copy were two requests for memory granted, and none
was made once there was memory. A copy that is there stays where it is, and what
has a copy now had it before or was granted the memory. Every submitted
requirement is bound to a device and to the address of the copy there. -/
theorem allocated_once (unsubmitted : ∀ id, ¬start.graph.Submitted id)
    (run : Relation.ReflTransGen Unaided start now) :
    (∀ place device,
      (grantedFor (requestsSince start now) place device).length ≤ 1) ∧
    Unrepeated (requestsSince start now) ∧ (∀ place device,
      now.graph.pointer? place device = (start.graph.pointer? place device).or
        (grantedIn (requestsSince start now) place device)) ∧
    (∀ between, Relation.ReflTransGen Unaided start between →
      Relation.ReflTransGen Unaided between now → ∀ place device pointer,
        between.graph.pointer? place device = some pointer →
        now.graph.pointer? place device = some pointer ∧
        ∀ request ∈ requestsSince between now,
          request.isFor place device = false) ∧
    ∀ id node requirement, now.graph.node? id = some node →
      node.isSubmitted = true → node.operation = .requirement requirement →
      ∃ device pointer, node.device = some device ∧
        now.graph.pointer? requirement.region device = some pointer ∧
        node.pointer = some pointer := by
  have ledger := ledger_of_run run
  refine ⟨ledger.unrepeated.granted_le_one, ledger.unrepeated, ledger.pointers,
    ?_, ?_⟩
  · intro between _ rest place device pointer held
    have since := ledger_of_run rest
    refine ⟨?_, fun request member => ?_⟩
    · rw [since.pointers, held]
      rfl
    · by_contra same
      obtain ⟨rfl, rfl⟩ := MemoryRequest.isFor_iff.mp (by simpa using same)
      have vacant := since.vacant request member
      rw [held] at vacant
      cases vacant
  · apply anchored_of_run run
    intro id node requirement found submitted
    exact absurd ((TaskGraph.submitted_iff found).mpr submitted)
      (unsubmitted id)

private theorem unsubmitted_sharing (id : NodeId) :
    ¬sharing.graph.Submitted id := by
  have waits :
      sharing.graph.state? id = some .unsubmitted ∨
      sharing.graph.state? id = none := by
    match id with
    | 0 | 1 | 2 | 3 => exact .inl rfl
    | _ + 4 => exact .inr rfl
  intro submitted
  rcases waits with unsubmitted | absent
  · exact submitted.not_unsubmitted unsubmitted
  · simp only [TaskGraph.Submitted] at submitted
    rw [absent] at submitted
    simp at submitted

/-- A submission that fails allocates memory, which a later one finds. -/
theorem allocated_once_sharing :
    let now := Action.outcome (submit 3) sharingAfterFailure
    (∀ id, ¬sharing.graph.Submitted id) ∧
    Relation.ReflTransGen Unaided sharing now ∧
    Action.succeeds (submit 2) sharing = false ∧
    requestsSince sharing now = [⟨0, ⟨.cuda, 0⟩, some 0x10000000⟩] ∧
    requestsSince sharingAfterFailure now = [] ∧
    ∃ node, now.graph.node? 0 = some node ∧ node.isSubmitted = true ∧
      node.pointer = some 0x10000000 := by
  intro now
  have run : Relation.ReflTransGen Unaided sharing now :=
    (Relation.ReflTransGen.refl.tail (.submit 2)).tail (.submit 3)
  obtain ⟨_, _, _, _, anchored⟩ := allocated_once unsubmitted_sharing run
  have shape :
      (now.graph.node? 0).map
          (fun node => (node.operation, node.device, node.isSubmitted)) =
        some (.requirement sharedAccess, some ⟨.cuda, 0⟩, true) := by
    decide +kernel
  obtain ⟨node, found, parts⟩ := Option.map_eq_some_iff.mp shape
  obtain ⟨states, rest⟩ := Prod.mk.inj parts
  obtain ⟨bound, submitted⟩ := Prod.mk.inj rest
  obtain ⟨device, pointer, isBound, held, points⟩ :=
    anchored 0 node _ found submitted states
  have here : now.graph.pointer? 0 ⟨.cuda, 0⟩ = some 0x10000000 := by
    decide +kernel
  cases bound.symm.trans isBound
  cases here.symm.trans held
  exact ⟨unsubmitted_sharing, run, by decide +kernel, by decide +kernel,
    by decide +kernel, node, found, submitted, points⟩

end Runs

end Scheduler

end CoherentTasks
