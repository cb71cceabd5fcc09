import CoherentTasks.Proofs.Backend.Registry
import CoherentTasks.Proofs.Completion.Handle
import CoherentTasks.Proofs.Computation
import CoherentTasks.Scheduler

/-!
# Steps of a scheduler

What the steps of which the scheduler's operations are made return, and what
they leave.
-/

namespace CoherentTasks

open CoherentTasks.Backend (Executor)
open CoherentTasks.Coherence (Region)
open CoherentTasks.Completion (Signals)
open CoherentTasks.Computation
open CoherentTasks.Graph (Node Operation)

/-- Whether the event hands an operation over or settles a requirement. -/
def Event.isDeed : Event → Bool
  | .dispatched _ | .settled .. => true
  | .opened .. | .requested .. => false

namespace Scheduler

/-- The operations handed over and the requirements settled so far. -/
def deeds (scheduler : Scheduler) : Journal :=
  scheduler.journal.filter Event.isDeed

@[simp]
theorem signals_record (scheduler : Scheduler) (event : Event) :
    (scheduler.record event).signals = scheduler.signals := rfl

theorem dispatches_record (scheduler : Scheduler) (event : Event) :
    (scheduler.record event).dispatches =
      scheduler.dispatches ++ event.dispatch?.toList := by
  simp only [dispatches, Journal.dispatches, record]
  rw [List.filterMap_append]
  cases shown : event.dispatch? <;> simp [shown]

theorem deeds_record (scheduler : Scheduler) (event : Event) :
    (scheduler.record event).deeds =
      scheduler.deeds ++ if event.isDeed then [event] else [] := by
  simp only [deeds, record]
  rw [List.filter_append]
  cases done : event.isDeed <;> simp [done]

theorem dispatches_deeds (scheduler : Scheduler) :
    scheduler.deeds.dispatches = scheduler.dispatches := by
  simp only [deeds, dispatches, Journal.dispatches]
  rw [List.filterMap_filter]
  congr 1
  funext event
  cases event <;> rfl

/-- Nothing was handed over or settled, and no signal was created or fired.
Memory may have been asked for. -/
structure Quiet (before after : Scheduler) : Prop where
  signals : after.signals = before.signals
  deeds : after.deeds = before.deeds
  registry : before.registry.Continues after.registry

theorem Quiet.dispatches {before after : Scheduler}
    (quiet : Quiet before after) : after.dispatches = before.dispatches := by
  rw [← dispatches_deeds, quiet.deeds, dispatches_deeds]

theorem Quiet.record {event : Event} (scheduler : Scheduler)
    (silent : event.isDeed = false) :
    Quiet scheduler (scheduler.record event) := by
  refine ⟨rfl, ?_, .refl _⟩
  rw [deeds_record, silent]
  exact List.append_nil _

/-- Operations of a node were handed to executors, each with a new signal and
all with the same dependencies. -/
structure HandsOver (id : NodeId) (device : Device)
    (dependencies : List Dependency) (operations : List Operation)
    (made : List Dispatch) (before after : Scheduler) : Prop where
  dispatches : after.dispatches = before.dispatches ++ made
  operations : made.map (·.operation) = operations
  created : made.map (·.signal) = List.range' before.signals.next made.length
  fired : ∃ flags, flags.length = made.length ∧
    after.signals = ⟨before.signals.fired ++ flags⟩
  each : ∀ dispatch ∈ made, dispatch.node = id ∧ dispatch.device = device ∧
    dispatch.dependencies = dependencies
  registry : before.registry.Continues after.registry

theorem HandsOver.nil {id : NodeId} {device : Device}
    {dependencies : List Dependency} {before after : Scheduler}
    (quiet : Quiet before after) :
    HandsOver id device dependencies [] [] before after where
  dispatches := by rw [quiet.dispatches, List.append_nil]
  operations := rfl
  created := rfl
  fired := ⟨[], rfl, by rw [quiet.signals, List.append_nil]⟩
  each := fun _ absent => absurd absent List.not_mem_nil
  registry := quiet.registry

theorem HandsOver.cons {id : NodeId} {device : Device}
    {dependencies : List Dependency} {first : Operation}
    {operations : List Operation} {dispatch : Dispatch} {made : List Dispatch}
    {before between after : Scheduler}
    (start : HandsOver id device dependencies [first] [dispatch] before between)
    (rest : HandsOver id device dependencies operations made between after) :
    HandsOver id device dependencies (first :: operations) (dispatch :: made)
      before after := by
  obtain ⟨startFlags, startCount, startSignals⟩ := start.fired
  obtain ⟨restFlags, restCount, restSignals⟩ := rest.fired
  have next : between.signals.next = before.signals.next + 1 := by
    rw [startSignals]
    simp [Signals.next, startCount]
  refine ⟨?_, ?_, ?_, ⟨startFlags ++ restFlags, ?_, ?_⟩, ?_,
    start.registry.trans rest.registry⟩
  · rw [rest.dispatches, start.dispatches, List.append_assoc,
      List.singleton_append]
  · rw [List.map_cons, rest.operations]
    exact congrArg (· :: operations) (List.cons.inj start.operations).1
  · rw [List.map_cons, rest.created, next, List.length_cons, List.range'_succ]
    exact congrArg (· :: _) (List.cons.inj start.created).1
  · simp only [List.length_append, startCount, restCount, List.length_cons,
      List.length_nil]
    omega
  · rw [restSignals, startSignals, List.append_assoc]
  · intro other member
    rcases List.mem_cons.mp member with rfl | later
    · exact start.each _ List.mem_cons_self
    · exact rest.each other later

theorem handsOver_dispatch (scheduler : Scheduler) (id : NodeId)
    (device : Device) (operation : Operation) (executor : Executor)
    (dependencies : List Dependency) :
    HandsOver id device dependencies [operation]
      [⟨id, device, operation, executor, dependencies, scheduler.signals.next⟩]
      scheduler
      (scheduler.dispatch id device operation executor dependencies).2 := by
  refine ⟨dispatches_record _ _, rfl, rfl, ?_, ?_, .refl _⟩
  · simp only [dispatch]
    split
    · refine ⟨[true], rfl, ?_⟩
      simp [Signals.fire, Signals.create, Signals.next, Scheduler.record]
    · exact ⟨[false], rfl, rfl⟩
  · intro other member
    rw [List.mem_singleton.mp member]
    exact ⟨rfl, rfl, rfl⟩

theorem deeds_dispatch (scheduler : Scheduler) (id : NodeId) (device : Device)
    (operation : Operation) (executor : Executor)
    (dependencies : List Dependency) :
    (scheduler.dispatch id device operation executor dependencies).2.deeds =
      scheduler.deeds ++ [.dispatched ⟨id, device, operation, executor,
        dependencies, scheduler.signals.next⟩] :=
  deeds_record _ _

end Scheduler

namespace Action

variable {before after : Scheduler}

@[simp]
theorem ofExcept_ok_iff {Value : Type} {result : Except Error Value}
    {value : Value} :
    ofExcept result before = .ok value after ↔
      result = .ok value ∧ before = after := by
  simp only [ofExcept]
  cases result <;> simp

@[simp]
theorem ofExcept_error_iff {Value : Type} {result : Except Error Value}
    {cause : Error} :
    ofExcept result before = .error cause after ↔
      result = .error cause ∧ before = after := by
  simp only [ofExcept]
  cases result <;> simp

@[simp]
theorem getNode_ok_iff {id : NodeId} {node : Node} :
    getNode id before = .ok node after ↔
      before.graph.node? id = some node ∧ before = after := by
  simp only [getNode]
  simp only [bind_ok_iff, get_ok_iff]
  constructor
  · intro ran
    obtain ⟨_, _, ⟨rfl, rfl⟩, result⟩ := ran
    cases found : before.graph.node? id with
    | none => simp [found] at result
    | some other => simpa [found] using result
  · intro given
    obtain ⟨found, rfl⟩ := given
    exact ⟨before, before, ⟨rfl, rfl⟩, by simp [found]⟩

@[simp]
theorem getNode_error_iff {id : NodeId} {cause : Error} :
    getNode id before = .error cause after ↔ before.graph.node? id = none ∧
      cause = .nodeNotFound id ∧ before = after := by
  simp only [getNode]
  simp only [bind_error_iff, get_ne_error, false_or, get_ok_iff]
  constructor
  · intro ran
    obtain ⟨_, _, ⟨rfl, rfl⟩, result⟩ := ran
    cases found : before.graph.node? id with
    | none =>
        simp only [found, throw_error_iff] at result
        exact ⟨rfl, result.1.symm, result.2⟩
    | some other => simp [found] at result
  · intro given
    obtain ⟨found, rfl, rfl⟩ := given
    exact ⟨before, before, ⟨rfl, rfl⟩, by simp [found]⟩

theorem getNode_eq (id : NodeId) (before : Scheduler) :
    getNode id before =
      match before.graph.node? id with
      | some node => .ok node before
      | none => .error (.nodeNotFound id) before := by
  cases found : before.graph.node? id with
  | some node => exact getNode_ok_iff.mpr ⟨found, rfl⟩
  | none => exact getNode_error_iff.mpr ⟨found, rfl, rfl⟩

@[simp]
theorem getRegion_ok_iff {id : RegionId} {region : Region} :
    getRegion id before = .ok region after ↔
      before.graph.region? id = some region ∧ before = after := by
  simp only [getRegion]
  simp only [bind_ok_iff, get_ok_iff]
  constructor
  · intro ran
    obtain ⟨_, _, ⟨rfl, rfl⟩, result⟩ := ran
    cases found : before.graph.region? id with
    | none => simp [found] at result
    | some other => simpa [found] using result
  · intro given
    obtain ⟨found, rfl⟩ := given
    exact ⟨before, before, ⟨rfl, rfl⟩, by simp [found]⟩

@[simp]
theorem getRegion_error_iff {id : RegionId} {cause : Error} :
    getRegion id before = .error cause after ↔ before.graph.region? id = none ∧
      cause = .regionNotFound id ∧ before = after := by
  simp only [getRegion]
  simp only [bind_error_iff, get_ne_error, false_or, get_ok_iff]
  constructor
  · intro ran
    obtain ⟨_, _, ⟨rfl, rfl⟩, result⟩ := ran
    cases found : before.graph.region? id with
    | none =>
        simp only [found, throw_error_iff] at result
        exact ⟨rfl, result.1.symm, result.2⟩
    | some other => simp [found] at result
  · intro given
    obtain ⟨found, rfl, rfl⟩ := given
    exact ⟨before, before, ⟨rfl, rfl⟩, by simp [found]⟩

theorem getRegion_eq (id : RegionId) (before : Scheduler) :
    getRegion id before =
      match before.graph.region? id with
      | some region => .ok region before
      | none => .error (.regionNotFound id) before := by
  cases found : before.graph.region? id with
  | some region => exact getRegion_ok_iff.mpr ⟨found, rfl⟩
  | none => exact getRegion_error_iff.mpr ⟨found, rfl, rfl⟩

/-- What an action leaves, whether or not it stops with an error. -/
def outcome {Value : Type} (action : Action Value) (before : Scheduler) :
    Scheduler :=
  match action before with
  | .ok _ after => after
  | .error _ after => after

/-- Whether an action ends without an error. -/
def succeeds {Value : Type} (action : Action Value) (before : Scheduler) :
    Bool :=
  match action before with
  | .ok _ _ => true
  | .error _ _ => false

theorem outcome_of_ok {Value : Type} {action : Action Value} {value : Value}
    (result : action before = .ok value after) :
    outcome action before = after := by
  simp only [outcome]
  rw [result]

theorem outcome_of_error {Value : Type} {action : Action Value} {cause : Error}
    (result : action before = .error cause after) :
    outcome action before = after := by
  simp only [outcome]
  rw [result]

theorem succeeds_of_ok {Value : Type} {action : Action Value} {value : Value}
    (result : action before = .ok value after) :
    succeeds action before = true := by
  simp only [succeeds]
  rw [result]

theorem succeeds_of_error {Value : Type} {action : Action Value} {cause : Error}
    (result : action before = .error cause after) :
    succeeds action before = false := by
  simp only [succeeds]
  rw [result]

theorem eq_ok_of_succeeds {action : Action Unit}
    (success : succeeds action before = true) :
    action before = .ok () (outcome action before) := by
  simp only [succeeds] at success
  simp only [outcome]
  cases result : action before with
  | ok value after => rfl
  | error cause after =>
      rw [result] at success
      cases success

/-- The error with which an action stops, if it does. -/
def cause? {Value : Type} (action : Action Value) (before : Scheduler) :
    Option Error :=
  match action before with
  | .ok _ _ => none
  | .error cause _ => some cause

theorem eq_error_of_cause? {Value : Type} {action : Action Value}
    {cause : Error} (stops : cause? action before = some cause) :
    action before = .error cause (outcome action before) := by
  simp only [cause?] at stops
  simp only [outcome]
  cases result : action before with
  | ok value after =>
      rw [result] at stops
      cases stops
  | error other after =>
      rw [result] at stops
      cases stops
      rfl

theorem outcome_of_beside {Value : Type}
    {related : Scheduler → Scheduler → Prop} {action other : Action Value}
    {before counterpart : Scheduler}
    (beside : Beside related action other before counterpart) :
    cause? other counterpart = cause? action before ∧
    related (outcome action before) (outcome other counterpart) := by
  simp only [cause?, outcome]
  cases result : action before with
  | ok value after =>
      obtain ⟨later, same, together⟩ := beside.ok result
      rw [same]
      exact ⟨rfl, together⟩
  | error cause after =>
      obtain ⟨later, same, together⟩ := beside.error result
      rw [same]
      exact ⟨rfl, together⟩

/-- The operations that an action hands over. -/
def handed {Value : Type} (action : Action Value) (before : Scheduler) :
    List Dispatch :=
  (outcome action before).dispatches.drop before.dispatches.length

theorem handed_eq {Value : Type} {action : Action Value} {made : List Dispatch}
    (dispatches :
      (outcome action before).dispatches = before.dispatches ++ made) :
    handed action before = made := by
  simp only [handed]
  rw [dispatches, List.drop_left]

section Stops

variable {why : Error → Scheduler → Prop}

theorem stops_getNode {id : NodeId} {before : Scheduler}
    (missing : before.graph.node? id = none → why (.nodeNotFound id) before) :
    Stops why (getNode id) before := by
  rw [stops_iff]
  intro cause after failed
  obtain ⟨absent, rfl, rfl⟩ := getNode_error_iff.mp failed
  exact missing absent

theorem stops_getRegion {id : RegionId} {region : Region} {before : Scheduler}
    (found : before.graph.region? id = some region) :
    Stops why (getRegion id) before := by
  rw [stops_iff]
  intro cause after failed
  obtain ⟨absent, _⟩ := getRegion_error_iff.mp failed
  rw [found] at absent
  cases absent

theorem stops_ofExcept {Value : Type} {result : Except Error Value}
    {before : Scheduler}
    (reason : ∀ cause, result = .error cause → why cause before) :
    Stops why (ofExcept result) before := by
  rw [stops_iff]
  intro cause after failed
  obtain ⟨stopped, rfl⟩ := ofExcept_error_iff.mp failed
  exact reason cause stopped

theorem stops_dispatch (node : NodeId) (device : Device) (operation : Operation)
    (executor : Executor) (dependencies : List Dependency)
    (before : Scheduler) :
    Stops why (dispatch node device operation executor dependencies) before :=
  trivial

end Stops

section Leads

variable {step : Scheduler → Scheduler → Prop}

theorem leads_outcome {Value : Type} {action : Action Value}
    {before : Scheduler} {goal : Value → Scheduler → Prop}
    (leads : Leads step action before goal) :
    Relation.ReflTransGen step before (outcome action before) := by
  simp only [outcome]
  cases result : action before with
  | ok value after => exact (leads.ok result).1
  | error cause after => exact leads.error result

theorem leads_getNode (id : NodeId) (before : Scheduler) :
    Leads step (getNode id) before fun node after =>
      before.graph.node? id = some node ∧ before = after := by
  rw [leads_iff]
  refine ⟨fun node after passed => ?_, fun cause after failed => ?_⟩
  · obtain ⟨found, rfl⟩ := getNode_ok_iff.mp passed
    exact ⟨.refl, found, rfl⟩
  · obtain ⟨_, _, rfl⟩ := getNode_error_iff.mp failed
    exact .refl

theorem leads_getRegion (id : RegionId) (before : Scheduler) :
    Leads step (getRegion id) before fun region after =>
      before.graph.region? id = some region ∧ before = after := by
  rw [leads_iff]
  refine ⟨fun region after passed => ?_, fun cause after failed => ?_⟩
  · obtain ⟨found, rfl⟩ := getRegion_ok_iff.mp passed
    exact ⟨.refl, found, rfl⟩
  · obtain ⟨_, _, rfl⟩ := getRegion_error_iff.mp failed
    exact .refl

theorem leads_ofExcept {Value : Type} (result : Except Error Value)
    (before : Scheduler) :
    Leads step (ofExcept result) before fun value after =>
      result = .ok value ∧ before = after := by
  rw [leads_iff]
  refine ⟨fun value after passed => ?_, fun cause after failed => ?_⟩
  · obtain ⟨found, rfl⟩ := ofExcept_ok_iff.mp passed
    exact ⟨.refl, found, rfl⟩
  · obtain ⟨_, rfl⟩ := ofExcept_error_iff.mp failed
    exact .refl

section Lookups

variable {Value Other : Type} {before : Scheduler}
  {goal : Value → Scheduler → Prop}

theorem leads_getNode_bind {id : NodeId} {next : Node → Action Value}
    (rest : ∀ node,
      before.graph.node? id = some node → Leads step (next node) before goal) :
    Leads step (getNode id >>= next) before goal := by
  apply (leads_getNode id before).bind
  intro node _ _ result
  obtain ⟨found, rfl⟩ := result
  exact rest node found

theorem leads_getRegion_bind {id : RegionId} {next : Region → Action Value}
    (rest : ∀ region, before.graph.region? id = some region →
      Leads step (next region) before goal) :
    Leads step (getRegion id >>= next) before goal := by
  apply (leads_getRegion id before).bind
  intro region _ _ result
  obtain ⟨found, rfl⟩ := result
  exact rest region found

theorem leads_ofExcept_bind {result : Except Error Other}
    {next : Other → Action Value}
    (rest : ∀ value, result = .ok value → Leads step (next value) before goal) :
    Leads step (ofExcept result >>= next) before goal := by
  apply (leads_ofExcept result before).bind
  intro value _ _ passed
  obtain ⟨isOk, rfl⟩ := passed
  exact rest value isOk

end Lookups

/-- To ask for memory is noted, and changes nothing in the graph. -/
theorem leads_requestMemory (region : RegionId) (device : Device) (bytes : Nat)
    {before : Scheduler}
    (noted : ∀ granted registry, before.registry.allocate device
      before.alignment bytes = .ok (granted, registry) → step before
        ({ before with registry }.record (.requested region device granted))) :
    Leads step (requestMemory region device bytes) before fun _ after =>
      after.graph = before.graph := by
  simp only [requestMemory]
  apply leads_get_bind
  apply leads_ofExcept_bind
  intro answer allocated
  obtain ⟨granted, registry⟩ := answer
  apply (leads_modify (noted granted registry allocated)).bind
  intro _ _ _ equal
  subst equal
  exact leads_pure rfl

end Leads

end Action

end CoherentTasks
