import CoherentTasks.Proofs.Scenario.Coherence
import CoherentTasks.Proofs.Scenario.Running

/-!
# Runs on one shared memory

However a scenario is run, the devices together behave like one memory that they
share: what is valid on a device is what the kernels submitted so far would have
left in that memory, and every kernel reads what it would have read there.
-/

namespace CoherentTasks.Scenario

open CoherentTasks.Backend (Registry)
open CoherentTasks.Computation
open CoherentTasks.Geometry (Triple)
open CoherentTasks.Graph (Kernel TaskGraph)
open CoherentTasks.Submission

variable {sorting : Sorting}

/-- At first the devices hold the initial contents of the buffers, as the shared
memory does. -/
def Execution.Begins {graph : TaskGraph} {Value : Type}
    (execution : Execution graph Value) (scenario : Scenario)
    (buffers : Table String RegionId) : Prop :=
  ∀ place device region, scenario.InitialOn buffers place device →
    graph.region? place = some region → ∀ position ∈ region.full,
      execution.memories place device position = execution.shared place position

/-- Every kernel that was handed over belongs to a node whose submission
succeeded. -/
def Credited (run : Run) (summary : Summary) : Prop :=
  ∀ dispatch ∈ run.scheduler.dispatches,
    ∀ kernel, dispatch.operation = .kernel kernel →
      ∃ name ∈ summary.submitted, run.nodes.get? name = some dispatch.node

section Credited

variable {graph : TaskGraph} {root : NodeId} {before after : Scheduler}

/-- Only a submission that succeeds hands over a kernel, that of its own
node. -/
private theorem kernels_of_submits (orderly : Orderly graph before)
    (staged : Staged graph) (explicit : Explicit graph root) {success : Bool}
    (submits : Submits root before after success) {dispatch : Dispatch}
    (made : dispatch ∈ after.dispatches) {kernel : Kernel}
    (isKernel : dispatch.operation = .kernel kernel) :
    dispatch ∈ before.dispatches ∨ (dispatch.node = root ∧ success = true) := by
  have earlier {bound : NodeId} {device : Device} {ready : Scheduler}
      (asks : Eligible before.graph root device)
      (moves : Moves root bound before ready)
      (member : dispatch ∈ ready.dispatches) :
      dispatch ∈ before.dispatches := by
    obtain ⟨copies, fetched⟩ :=
      (orderly.awaited staged explicit asks).fetched_of_moves moves
    rw [fetched.dispatches] at member
    rcases List.mem_append.mp member with isOld | isNew
    · exact isOld
    · obtain ⟨copy, isCopy⟩ := fetched.isCopy dispatch isNew
      rw [isKernel] at isCopy
      cases isCopy
  cases submits with
  | idle _ same => exact .inl (same ▸ made)
  | rejects cause same =>
      subst same
      exact .inl made
  | resolves states moves submitted =>
      exact absurd (states.of_sameNodes orderly.sameNodes.symm)
        explicit.not_statesRequirement
  | launches node device launch ready launched asks moves launches finishes =>
      obtain ⟨dispatches, ofNode, _⟩ := launches.made
      rw [finishes.quiet.dispatches, dispatches] at made
      rcases List.mem_append.mp made with isOld | isNew
      · exact .inl (earlier asks moves isOld)
      · rw [List.mem_singleton.mp isNew]
        exact .inr ⟨ofNode, rfl⟩
  | fails device stopped cause asks moves same =>
      subst same
      exact .inl (earlier asks moves made)

end Credited

section Begins

variable {scenario : Scenario} {buffers : Table String RegionId}
  {scheduler : Scheduler} {Value : Type}
  {execution : Execution scheduler.graph Value}

/-- Nothing is valid at first but the initial contents. -/
theorem Prepared.coherent
    (prepared : Prepared scenario buffers scheduler.graph scheduler)
    (begins : execution.Begins scenario buffers) :
    Coherent execution scheduler := by
  intro place device position holds
  obtain ⟨initial, region, found, inside⟩ :=
    prepared.holds place device position holds
  simp only [Execution.UpToDate]
  rw [prepared.idle]
  exact begins place device region initial found position inside

end Begins

/-- The kernels handed over at any time of a run are those of submissions that
succeeded. -/
theorem Runs.credited {graph : TaskGraph} {run next : Run} {summary : Summary}
    (runs : Runs graph run) (idle : run.scheduler.dispatches = [])
    (proceeds : run.Proceeds next summary) : Credited next summary := by
  induction proceeds with
  | start =>
      intro dispatch made
      rw [idle] at made
      cases made
  | submit name proceeds submits induction =>
      obtain ⟨runsNow, _⟩ := runs.of_proceeds proceeds
      obtain ⟨root, success, named, explicit, submits, sameNames, noted⟩ :=
        runsNow.submits submits
      intro dispatch made kernel isKernel
      rw [sameNames, noted]
      rcases kernels_of_submits runsNow.orderly runs.staged explicit submits
        made isKernel with
        isOld | ⟨rfl, rfl⟩
      · obtain ⟨other, member, isNode⟩ :=
          induction dispatch isOld kernel isKernel
        exact ⟨other, List.mem_append_left _ member, isNode⟩
      · exact ⟨name,
          List.mem_append_right _ (List.mem_singleton.mpr rfl), named⟩
  | complete fired proceeds induction => exact induction

/-- After every submission, successful or failed, what is valid on a device is
there what one shared memory holds after the same kernels; every kernel finds
what that memory holds in the windows that it reads, unless an access listed
before drops it; and the kernels are those of successful submissions. -/
theorem coherent_of_proceeds {scenario : Scenario}
    (valid : scenario.validateBy sorting = .ok ()) {registry : Registry}
    {simulated : Bool} {run : Run} (topological : sorting.Topological)
    (prepares : scenario.prepareOnBy sorting registry simulated = .ok run)
    {Value : Type} (execution : Execution run.scheduler.graph Value)
    (begins : execution.Begins scenario run.buffers) {next : Run}
    {summary : Summary} (proceeds : run.Proceeds next summary) :
    Coherent execution next.scheduler ∧
    Informed execution next.scheduler.dispatches ∧ Credited next summary := by
  obtain ⟨runs, prepared⟩ := runs_of_prepareOn valid topological prepares
  have both :
      Coherent execution next.scheduler ∧
      Informed execution next.scheduler.dispatches := by
    refine runs.keeps
      (fun now => Coherent execution now ∧ Informed execution now.dispatches)
      ⟨prepared.coherent begins, ?_⟩ ?_ (fun _ unchanged => unchanged) proceeds
    · rw [prepared.idle]
      exact .nil
    · intro root before after success orderly explicit submits kept
      obtain ⟨coherent, informed⟩ := kept
      exact ⟨coherent.submits orderly runs.staged explicit submits,
        informed.submits coherent orderly runs.staged explicit submits⟩
  exact ⟨both.1, both.2, runs.credited prepared.idle proceeds⟩

/-- A buffer that begins on the host, a kernel that changes it on another
device, and one that reads it on the host again. -/
def thereAndBack : Scenario where
  alignment := 64
  devices := .ofList [("cuda:0", .standard), ("host:0", .standard)]
  buffers := .ofList [("A", ⟨4, [4], some "host:0"⟩)]
  nodes :=
    let whole : WindowEntry := ⟨none, none⟩
    .ofList [("change",
      ⟨some "k", none, some "cuda:0", none, [], [⟨"A", "read_write", whole⟩]⟩),
      ("check", ⟨some "k", none, some "host:0", none, ["change"],
        [⟨"A", "read", whole⟩]⟩)]

/-- The second kernel finds the value that the first has put into the buffer. -/
theorem reads_thereAndBack :
    let execution :=
      Execution.filling thereAndBack.recorded.scheduler.graph
        (fun _ _ => 0) fun id => id
    let dispatches := thereAndBack.submitted.1.scheduler.dispatches
    thereAndBack.recorded.submitAll none = .ok thereAndBack.submitted ∧
      execution.latest dispatches 0 ⟨0, 0, 0⟩ = 1 ∧
        execution.contents dispatches 0 .hostDevice ⟨0, 0, 0⟩ = 1 ∧
          Informed execution dispatches := by
  have valid : thereAndBack.validate = .ok () :=
    eq_ok_getD (by decide +kernel) ()
  have prepares :
      thereAndBack.prepareOn recordingBackends false =
        .ok thereAndBack.recorded :=
    eq_ok_getD (by decide +kernel) _
  have submits :
      thereAndBack.recorded.submitAll none = .ok thereAndBack.submitted :=
    eq_ok_getD (by decide +kernel) _
  obtain ⟨coherent, informed, _⟩ := coherent_of_proceeds valid
    topological_sort prepares
    (.filling thereAndBack.recorded.scheduler.graph (fun _ _ => 0) fun id => id)
    (fun _ _ _ _ _ _ _ => rfl) (proceeds_of_submitAll submits)
  have held : (thereAndBack.submitted.1.scheduler.graph.region? 0).any
      (fun region => (region.validOn .hostDevice).boxes.any fun box =>
        decide ((⟨0, 0, 0⟩ : Triple) ∈ box)) = true := by decide +kernel
  obtain ⟨region, found, covered⟩ := (Option.any_eq_true _ _).mp held
  obtain ⟨box, isBox, inside⟩ := List.any_eq_true.mp covered
  have latest :
      (Execution.filling thereAndBack.recorded.scheduler.graph (fun _ _ => 0)
          fun id => id).latest
          thereAndBack.submitted.1.scheduler.dispatches 0 ⟨0, 0, 0⟩ = 1 := by
    decide +kernel
  have upToDate := coherent 0 .hostDevice ⟨0, 0, 0⟩
    ⟨region, found, box, isBox, of_decide_eq_true inside⟩
  exact ⟨submits, latest, upToDate.trans latest, informed⟩

end CoherentTasks.Scenario
