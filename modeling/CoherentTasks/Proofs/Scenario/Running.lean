import CoherentTasks.Proofs.Scenario.Preparation

/-!
# Runs of scenarios

A run goes on as its nodes are submitted by name, in any order, and operations
complete in between. The submission of a plan is one such way.
-/

namespace CoherentTasks.Scenario

open CoherentTasks.Backend (Registry)
open CoherentTasks.Completion (Signal)
open CoherentTasks.Computation
open CoherentTasks.Graph (TaskGraph)
open CoherentTasks.Submission

variable {sorting : Sorting}

/-- The run may go on until it has become another one, with this outcome so
far. -/
inductive Run.Proceeds (start : Run) : Run → Summary → Prop where
  | start : Proceeds start start ⟨[], []⟩
  | submit {run next : Run} {summary later : Summary} (name : String)
      (proceeds : Proceeds start run summary)
      (submits : Run.submitNode (run, summary) name = .ok (next, later)) :
      Proceeds start next later
  | complete {run : Run} {summary : Summary} (fired : List Signal)
      (proceeds : Proceeds start run summary) :
      Proceeds start { run with scheduler := { run.scheduler with
          signals := run.scheduler.signals.fireAll fired } } summary

section Plans

variable {start run : Run} {summary : Summary} {next : Run × Summary}

private theorem proceeds_of_foldlM {names : List String}
    (proceeds : start.Proceeds run summary)
    (submits : names.foldlM Run.submitNode (run, summary) = .ok next) :
    start.Proceeds next.1 next.2 := by
  induction names generalizing run summary with
  | nil =>
      cases pure_eq_ok_iff.mp submits
      exact proceeds
  | cons name rest induction =>
      rw [List.foldlM_cons] at submits
      obtain ⟨⟨between, noted⟩, first, others⟩ := bind_eq_ok_iff.mp submits
      exact induction (proceeds.submit name first) others

/-- The submission of a plan is a way for a run to go on. -/
theorem proceeds_of_submitAll {chosen : Option String}
    (submits : run.submitAll chosen = .ok next) :
    run.Proceeds next.1 next.2 := by
  simp only [Run.submitAll] at submits
  obtain ⟨names, _, submitsAll⟩ := bind_eq_ok_iff.mp submits
  exact proceeds_of_foldlM .start submitsAll

end Plans

/-- What submitting a node by name does. -/
theorem submitNode_ok {run next : Run} {summary later : Summary} {name : String}
    (result : Run.submitNode (run, summary) name = .ok (next, later)) :
    ∃ id, run.nodes.get? name = some id ∧ next = { run with
      scheduler := Action.outcome (submit id) run.scheduler } ∧
      later.submitted = summary.submitted ++
        (if Action.succeeds (submit id) run.scheduler then [name] else []) := by
  unfold Run.submitNode at result
  simp only at result
  split at result
  · cases result
  · rename_i id named
    refine ⟨id, named, ?_⟩
    unfold Action.outcome Action.succeeds
    split at result
    · rename_i passed
      cases result
      rw [passed]
      exact ⟨rfl, rfl⟩
    · rename_i failed
      cases result
      rw [failed]
      exact ⟨rfl, (List.append_nil _).symm⟩

/-- The names of the run stand for kernels and copies of a staged graph, which
are submitted in good order. -/
structure Runs (graph : TaskGraph) (run : Run) : Prop where
  staged : Staged graph
  named : ∀ name id, run.nodes.get? name = some id → Explicit graph id
  orderly : Orderly graph run.scheduler

section Runs

variable {graph : TaskGraph} {run next : Run} {summary later : Summary}

/-- A node submitted by name is a kernel or copy, and its submission succeeds if
it is noted. -/
theorem Runs.submits (runs : Runs graph run) {name : String}
    (result : Run.submitNode (run, summary) name = .ok (next, later)) :
    ∃ id success, run.nodes.get? name = some id ∧ Explicit graph id ∧
      Submits id run.scheduler next.scheduler success ∧ next.nodes = run.nodes ∧
      later.submitted =
        summary.submitted ++ (if success then [name] else []) := by
  obtain ⟨id, named, rfl, noted⟩ := submitNode_ok result
  exact ⟨id, _, named, runs.named name id named,
    submits_submit runs.orderly.consistent.wellFormed, rfl, noted⟩

theorem Runs.of_proceeds (runs : Runs graph run)
    (proceeds : run.Proceeds next summary) :
    Runs graph next ∧ next.nodes = run.nodes := by
  induction proceeds with
  | start => exact ⟨runs, rfl⟩
  | submit name proceeds submits induction =>
      obtain ⟨runsNow, same⟩ := induction
      obtain ⟨id, success, _, explicit, submits, unchanged, _⟩ :=
        runsNow.submits submits
      refine ⟨⟨runs.staged, ?_,
        runsNow.orderly.submits runs.staged explicit submits⟩,
        unchanged.trans same⟩
      rw [unchanged]
      exact runsNow.named
  | complete fired proceeds induction =>
      obtain ⟨runsNow, same⟩ := induction
      exact ⟨⟨runs.staged, runsNow.named, runsNow.orderly.complete fired⟩, same⟩

/-- What submissions keep in good order, and completions keep too, holds at any
time of the run. -/
theorem Runs.keeps (runs : Runs graph run) (invariant : Scheduler → Prop)
    (begins : invariant run.scheduler)
    (submits : ∀ {root : NodeId} {before after : Scheduler} {success : Bool},
      Orderly graph before → Explicit graph root →
      Submits root before after success → invariant before → invariant after)
    (completes : ∀ {before : Scheduler} (fired : List Signal),
      invariant before →
      invariant { before with signals := before.signals.fireAll fired })
    (proceeds : run.Proceeds next summary) : invariant next.scheduler := by
  induction proceeds with
  | start => exact begins
  | submit name proceeds submitted induction =>
      obtain ⟨runsNow, _⟩ := runs.of_proceeds proceeds
      obtain ⟨root, success, _, explicit, submitted, _⟩ :=
        runsNow.submits submitted
      exact submits runsNow.orderly explicit submitted induction
  | complete fired proceeds induction => exact completes fired induction

end Runs

/-- A run of a validated scenario starts in good order, with its initial
contents. -/
theorem runs_of_prepareOn {scenario : Scenario}
    (valid : scenario.validateBy sorting = .ok ()) {registry : Registry}
    {simulated : Bool} {run : Run} (topological : sorting.Topological)
    (prepares : scenario.prepareOnBy sorting registry simulated = .ok run) :
    Runs run.scheduler.graph run ∧
    Prepared scenario run.buffers run.scheduler.graph run.scheduler := by
  obtain ⟨staged, named, prepared⟩ :=
    prepared_of_prepareOn valid topological prepares
  exact ⟨⟨staged, named, prepared.orderly⟩, prepared⟩

/-- Backends for the host and for another platform that record what they are
given. -/
def recordingBackends : Registry :=
  .ofList [.recording .host false none, .recording .cuda false none]

/-- The run of a scenario on these backends, with nothing submitted. -/
def recorded (scenario : Scenario) : Run :=
  (scenario.prepareOn recordingBackends false).toOption.getD
    ⟨.create scenario.alignment recordingBackends true, .empty, .empty,
      [], false⟩

/-- The same run when all nodes were submitted and nothing is complete. -/
def submitted (scenario : Scenario) : Run × Summary :=
  (scenario.recorded.submitAll none).toOption.getD (scenario.recorded, ⟨[], []⟩)

end CoherentTasks.Scenario
