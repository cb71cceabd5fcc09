import CoherentTasks.Proofs.Scenario.Underway
import CoherentTasks.Proofs.Submission.Copying

/-!
# Contents of memories

What the operations handed to executors do to the memories of the devices,
executed one after another, and what one memory that all devices share would
hold after the same kernels. An element is up to date on a device if both agree
on it.
-/

namespace CoherentTasks

open CoherentTasks.Geometry (Triple)

namespace Scenario

open CoherentTasks.Coherence (Region)
open CoherentTasks.Graph (Copy Operation TaskGraph)
open CoherentTasks.Submission

/-- What the devices hold at every place of every buffer. -/
abbrev Memories (Value : Type) := RegionId → Device → Triple → Value

/-- What a memory that all devices share holds at every place of every
buffer. -/
abbrev SharedMemory (Value : Type) := RegionId → Triple → Value

/-- The memories at first, and what the kernels of a graph write. A kernel
writes only inside the windows that it may write to, and everywhere in those
whose earlier contents it drops. -/
structure Execution (graph : TaskGraph) (Value : Type) where
  memories : Memories Value
  shared : SharedMemory Value
  output : NodeId → RegionId → Triple → Option Value
  within : ∀ id place position value, output id place position = some value →
    ∃ required requirement hint, graph.Requires id required ∧
      Asks graph required requirement hint ∧ requirement.mode.writes = true ∧
      place = requirement.region ∧ position ∈ requirement.window
  overwrites : ∀ id required requirement hint,
    graph.Requires id required → Asks graph required requirement hint →
    requirement.mode.discards = true → ∀ position ∈ requirement.window,
      ∃ value, output id requirement.region position = some value

namespace Execution

variable {graph : TaskGraph} {Value : Type} (execution : Execution graph Value)

/-- A kernel may write to the element: one of its windows that are written
contains it. -/
def mayWrite (graph : TaskGraph) (id : NodeId) (place : RegionId)
    (position : Triple) : Bool :=
  (graph.requirementsOf id).any fun required =>
    ((graph.node? required).bind (·.operation.requirement?)).any
      fun requirement =>
      requirement.mode.writes && requirement.region == place &&
      decide (position ∈ requirement.window)

private theorem mayWrite_iff {id : NodeId} {place : RegionId}
    {position : Triple} :
    mayWrite graph id place position = true ↔
      ∃ required requirement hint, graph.Requires id required ∧
        Asks graph required requirement hint ∧ requirement.mode.writes = true ∧
        place = requirement.region ∧ position ∈ requirement.window := by
  simp only [mayWrite, TaskGraph.Requires]
  rw [List.any_eq_true]
  constructor
  · intro found
    obtain ⟨required, member, stated⟩ := found
    obtain ⟨requirement, states, facts⟩ := (Option.any_eq_true _ _).mp stated
    obtain ⟨node, found, operation⟩ := Option.bind_eq_some_iff.mp states
    simp only [Bool.and_eq_true, beq_iff_eq, decide_eq_true_eq] at facts
    obtain ⟨⟨writes, here⟩, inside⟩ := facts
    exact ⟨required, requirement, node.hint, member,
      ⟨node, found, Operation.requirement?_eq_some_iff.mp operation, rfl⟩,
      writes, here.symm, inside⟩
  · intro writer
    obtain ⟨required, requirement, hint, member, asks, writes, here, inside⟩ :=
      writer
    obtain ⟨node, found, operation, _⟩ := asks
    refine ⟨required, member,
      (Option.any_eq_true _ _).mpr ⟨requirement, ?_, ?_⟩⟩
    · rw [found, Option.bind_some]
      exact Operation.requirement?_eq_some_iff.mpr operation
    · simp only [Bool.and_eq_true, beq_iff_eq, decide_eq_true_eq]
      exact ⟨⟨writes, here.symm⟩, inside⟩

/-- Every kernel fills all its windows that are written with a value of its
own. -/
def filling (graph : TaskGraph) (initial : SharedMemory Value)
    (value : NodeId → Value) : Execution graph Value where
  memories place _ position := initial place position
  shared := initial
  output id place position :=
    if mayWrite graph id place position then some (value id) else none
  within id place position written output := by
    split at output
    · rename_i writes
      exact mayWrite_iff.mp writes
    · cases output
  overwrites id required requirement hint requires asks discards
      position inside := by
    refine ⟨value id, if_pos (mayWrite_iff.mpr ?_)⟩
    exact ⟨required, requirement, hint, requires, asks,
      writes_of_discards discards, rfl, inside⟩

/-- Executes an operation on the memories of the devices. -/
def execute (memories : Memories Value) (dispatch : Dispatch) :
    Memories Value :=
  match dispatch.operation with
  | .kernel _ => fun place device position =>
    if device = dispatch.device then
      (execution.output dispatch.node place position).getD
        (memories place device position)
    else memories place device position
  | .copy copy => fun place device position =>
    if place = copy.destination.region ∧ device = copy.destination.device ∧
        position ∈ copy.destinationBox then
      memories copy.source.region copy.source.device (copy.origin position)
    else memories place device position
  | .requirement _ => memories

/-- Executes an operation on a shared memory, where nothing has to be copied. -/
def share (shared : SharedMemory Value) (dispatch : Dispatch) :
    SharedMemory Value :=
  match dispatch.operation with
  | .kernel _ => fun place position =>
    (execution.output dispatch.node place position).getD (shared place position)
  | _ => shared

/-- What the devices hold after operations. -/
def contents (dispatches : List Dispatch) : Memories Value :=
  dispatches.foldl execution.execute execution.memories

/-- The latest values: what a shared memory holds after the kernels among the
operations. -/
def latest (dispatches : List Dispatch) : SharedMemory Value :=
  dispatches.foldl execution.share execution.shared

/-- After operations, the device holds the latest value at a place. -/
def UpToDate (dispatches : List Dispatch) (place : RegionId) (device : Device)
    (position : Triple) : Prop :=
  execution.contents dispatches place device position =
    execution.latest dispatches place position

section Dispatches

variable (dispatches : List Dispatch) (dispatch : Dispatch)

theorem contents_append (more : List Dispatch) :
    execution.contents (dispatches ++ more) =
      more.foldl execution.execute (execution.contents dispatches) :=
  List.foldl_append

theorem latest_append (more : List Dispatch) :
    execution.latest (dispatches ++ more) =
      more.foldl execution.share (execution.latest dispatches) :=
  List.foldl_append

theorem execute_kernel {memories : Memories Value} {kernel : Graph.Kernel}
    (launched : dispatch.operation = .kernel kernel) (place : RegionId)
    (device : Device) (position : Triple) :
    execution.execute memories dispatch place device position =
      if device = dispatch.device then
        (execution.output dispatch.node place position).getD
          (memories place device position)
      else memories place device position := by
  simp only [execute]
  rw [launched]

private theorem execute_copy {memories : Memories Value} {copy : Copy}
    (copied : dispatch.operation = .copy copy) (place : RegionId)
    (device : Device) (position : Triple) :
    execution.execute memories dispatch place device position =
      if place = copy.destination.region ∧ device = copy.destination.device ∧
        position ∈ copy.destinationBox then
        memories copy.source.region copy.source.device (copy.origin position)
      else memories place device position := by
  simp only [execute]
  rw [copied]

theorem share_kernel {shared : SharedMemory Value} {kernel : Graph.Kernel}
    (launched : dispatch.operation = .kernel kernel) (place : RegionId)
    (position : Triple) :
    execution.share shared dispatch place position =
      (execution.output dispatch.node place position).getD
        (shared place position) := by
  simp only [share]
  rw [launched]

theorem share_copy {shared : SharedMemory Value} {copy : Copy}
    (copied : dispatch.operation = .copy copy) :
    execution.share shared dispatch = shared := by
  simp only [share]
  rw [copied]

end Dispatches

section Copies

variable {memories : Memories Value} {shared : SharedMemory Value}
  {dispatch : Dispatch} {copy : Copy}

private theorem execute_eq_moved (copied : dispatch.operation = .copy copy) :
    execution.execute memories dispatch = Copy.moved memories copy := by
  funext place device position
  rw [execution.execute_copy dispatch copied]
  rfl

/-- Where a copy reads elements that are up to date, it makes others up to date
and none outdated. -/
theorem execute_brings (copied : dispatch.operation = .copy copy)
    (brings : ∀ position ∈ copy.destinationBox,
      memories copy.source.region copy.source.device (copy.origin position) =
        shared copy.destination.region position) :
    (∀ place device position,
      memories place device position = shared place position → execution.execute
        memories dispatch place device position = shared place position) ∧
    ∀ position ∈ copy.destinationBox, execution.execute memories dispatch
      copy.destination.region copy.destination.device position =
      shared copy.destination.region position := by
  rw [execution.execute_eq_moved copied]
  exact Copy.moved_brings brings

variable {region : Region} {device : Device} {wanted : Triple → Prop}
  {copies : List Copy} {made : List Dispatch}

theorem share_copies (operations : made.map (·.operation) = copies.map .copy) :
    made.foldl execution.share shared = shared := by
  induction made generalizing copies with
  | nil => rfl
  | cons dispatch made induction =>
      obtain ⟨copy, rest, rfl, copied, others⟩ :=
        List.map_eq_cons_iff.mp operations.symm
      rw [List.foldl_cons, execution.share_copy dispatch copied.symm]
      exact induction others.symm

private theorem execute_copies
    (operations : made.map (·.operation) = copies.map .copy) :
    made.foldl execution.execute memories =
      copies.foldl Copy.moved memories := by
  induction made generalizing copies memories with
  | nil =>
      have none : copies = [] := List.map_eq_nil_iff.mp operations.symm
      subst none
      rfl
  | cons dispatch made induction =>
      obtain ⟨copy, rest, rfl, copied, others⟩ :=
        List.map_eq_cons_iff.mp operations.symm
      rw [List.foldl_cons, List.foldl_cons,
        execution.execute_eq_moved copied.symm]
      exact induction others.symm

/-- Copies from devices that are up to date where the region says so. -/
theorem execute_fetched (operations : made.map (·.operation) = copies.map .copy)
    (fetches : ∀ copy ∈ copies, Fetches region device wanted copy)
    (supplied : ∀ source position,
      source ≠ device → position ∈ region.validOn source →
      memories region.id source position = shared region.id position) :
    (∀ place holder position,
      memories place holder position = shared place position →
      made.foldl execution.execute memories place holder position =
        shared place position) ∧
    ∀ copy ∈ copies, ∀ position ∈ copy.destinationBox,
      made.foldl execution.execute memories region.id device position =
        shared region.id position := by
  rw [execution.execute_copies operations]
  exact Copy.foldl_moved_fetched fetches supplied

end Copies

end Execution

end Scenario

end CoherentTasks
