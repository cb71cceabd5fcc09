import CoherentTasks.Proofs.Scenario.Enrolment
import CoherentTasks.Proofs.Scenario.Fate
import CoherentTasks.Scenario.Report

/-!
# The account of a run

When a plan is submitted for the first time, every planned node is noted as
submitted or as failed, and its state says the same. A plan comes with
everything before its nodes, in order, so a node meets nothing that waits, and
an abort cancels the node that failed and no other kernel or copy. Failures
spread to what comes behind, because submitted nodes require only submitted
ones.
-/

namespace CoherentTasks.Scenario

open CoherentTasks.Backend (Registry)
open CoherentTasks.Completion (Handle Signal)
open CoherentTasks.Computation
open CoherentTasks.Graph (Binding Node State Status TaskGraph)
open CoherentTasks.Submission

variable {sorting : Sorting}

/-- A list without repetitions is dealt out to two others, in its order. -/
structure Dealt (whole left right : List String) : Prop where
  first : left = whole.filter (· ∉ right)
  second : right = whole.filter (· ∉ left)

namespace Dealt

variable {whole left right : List String} {name : String}

theorem nil : Dealt [] [] [] := ⟨rfl, rfl⟩

theorem symm (dealt : Dealt whole left right) : Dealt whole right left :=
  ⟨dealt.second, dealt.first⟩

private theorem mem_or_mem (dealt : Dealt whole left right)
    (member : name ∈ whole) : name ∈ left ∨ name ∈ right := by
  by_cases isLeft : name ∈ left
  · exact .inl isLeft
  · right
    rw [dealt.second]
    exact List.mem_filter.mpr ⟨member, decide_eq_true isLeft⟩

private theorem mem_of_left (dealt : Dealt whole left right)
    (member : name ∈ left) : name ∈ whole := by
  rw [dealt.first] at member
  exact List.mem_of_mem_filter member

/-- One more is dealt to the left. -/
private theorem concat_left (dealt : Dealt whole left right)
    (fresh : name ∉ whole) :
    Dealt (whole ++ [name]) (left ++ [name]) right where
  first := by
    have notRight : name ∉ right :=
      fun member => fresh (dealt.symm.mem_of_left member)
    have taken : [name].filter (· ∉ right) = [name] := by simp [notRight]
    rw [List.filter_append, ← dealt.first, taken]
  second := by
    have same :
        whole.filter (· ∉ left ++ [name]) = whole.filter (· ∉ left) := by
      apply List.filter_congr
      intro other member
      have different : other ≠ name := fun same => fresh (same ▸ member)
      simp [different]
    have left : [name].filter (· ∉ left ++ [name]) = [] := by simp
    rw [List.filter_append, same, ← dealt.second, left, List.append_nil]

end Dealt

section Status

variable {run : Run} {name : String} {id : NodeId}

end Status

/-- The run may have become another one, with this outcome so far, when these
names were submitted in turn and operations completed in between. -/
inductive Run.Follows (start : Run) : List String → Run → Summary → Prop where
  | start : Follows start [] start ⟨[], []⟩
  | submit {run next : Run} {summary later : Summary} {done : List String}
      (name : String) (follows : Follows start done run summary)
      (submits : Run.submitNode (run, summary) name = .ok (next, later)) :
      Follows start (done ++ [name]) next later
  | complete {run : Run} {summary : Summary} {done : List String}
      (fired : List Signal) (follows : Follows start done run summary) :
      Follows start done { run with scheduler :=
        { run.scheduler with
          signals := run.scheduler.signals.fireAll fired } } summary

/-- The failed names of a summary. -/
def Summary.failedNames (summary : Summary) : List String :=
  summary.failed.map (·.1)

/-- The failure that the observer is told of for a node that failed. -/
def Reports (nodes : Table String NodeId) (failed : String × Error)
    (failure : Failure) : Prop :=
  nodes.get? failed.1 = some failure.node ∧ failure.cause = failed.2

/-- The state of a run in which these names were submitted, one after another,
and nothing else. -/
structure Tally (start : Run) (done : List String) (run : Run)
    (summary : Summary) : Prop where
  same : run = { start with scheduler := run.scheduler }
  orderly : Orderly start.scheduler.graph run.scheduler
  dealt : Dealt done summary.submitted summary.failedNames
  launched : ∀ name ∈ summary.submitted,
    ∃ id handle executor, start.nodes.get? name = some id ∧
      run.scheduler.graph.state? id = some (.submitted handle executor)
  cancelled : ∀ name ∈ summary.failedNames,
    ∃ id, start.nodes.get? name = some id ∧
      run.scheduler.graph.state? id = some .cancelled
  waiting : ∀ name id, start.nodes.get? name = some id → name ∉ done →
    run.scheduler.graph.state? id = some .unsubmitted
  prepared : ∀ entry ∈ summary.failed, ∀ predecessor dependent,
    entry.2 ≠ .unsubmittedPredecessor predecessor dependent
  logged : ∃ failures, run.scheduler.failures = some failures ∧
    List.Forall₂ (Reports start.nodes) summary.failed failures

section Tally

variable {start run : Run} {done : List String} {summary : Summary}
  {name : String} {id : NodeId}

/-- What was submitted does not wait any more. -/
theorem Tally.decided (tally : Tally start done run summary)
    (member : name ∈ done) (named : start.nodes.get? name = some id) :
    run.scheduler.graph.state? id ≠ some .unsubmitted := by
  rcases tally.dealt.mem_or_mem member with isSubmitted | hasFailed
  · obtain ⟨same, handle, executor, isSame, state⟩ :=
      tally.launched name isSubmitted
    rw [named] at isSame
    cases isSame
    rw [state]
    simp
  · obtain ⟨same, isSame, state⟩ := tally.cancelled name hasFailed
    rw [named] at isSame
    cases isSame
    rw [state]
    simp

section Submit

variable {after : Scheduler}

/-- What the submission of a name leaves alone stays as the account has it. -/
structure Spares (start : Run) (name : String) (before after : Scheduler) :
    Prop where
  orderly : Orderly start.scheduler.graph after
  others : ∀ other id, other ≠ name → start.nodes.get? other = some id →
    after.graph.state? id = before.graph.state? id

theorem Spares.keeps (spares : Spares start name run.scheduler after)
    (fresh : name ∉ done) {other : String} (member : other ∈ done)
    {place : NodeId} (isPlace : start.nodes.get? other = some place) :
    after.graph.state? place = run.scheduler.graph.state? place :=
  spares.others other place (fun same => fresh (same ▸ member)) isPlace

theorem Tally.still_waiting (tally : Tally start done run summary)
    (spares : Spares start name run.scheduler after) {other : String}
    {place : NodeId} (isPlace : start.nodes.get? other = some place)
    (absent : other ∉ done ++ [name]) :
    after.graph.state? place = some .unsubmitted := by
  have different : other ≠ name := fun same =>
    absent (same ▸ List.mem_append_right _ List.mem_cons_self)
  rw [spares.others other place different isPlace]
  exact tally.waiting other place isPlace
    fun member => absent (List.mem_append_left _ member)

theorem Tally.launch (tally : Tally start done run summary)
    (fresh : name ∉ done) (named : start.nodes.get? name = some id)
    (spares : Spares start name run.scheduler after) {handle : Handle}
    {executor : Binding}
    (state : after.graph.state? id = some (.submitted handle executor))
    (untold : after.failures = run.scheduler.failures) :
    Tally start (done ++ [name]) { run with scheduler := after }
      { summary with submitted := summary.submitted ++ [name] } where
  same := by rw [tally.same]
  orderly := spares.orderly
  dealt := tally.dealt.concat_left fresh
  launched other member := by
    rcases List.mem_append.mp member with old | new
    · obtain ⟨place, handle, executor, isPlace, submitted⟩ :=
        tally.launched other old
      have kept := spares.keeps fresh (tally.dealt.mem_of_left old) isPlace
      exact ⟨place, handle, executor, isPlace, kept.trans submitted⟩
    · rw [List.mem_singleton.mp new]
      exact ⟨id, handle, executor, named, state⟩
  cancelled other member := by
    obtain ⟨place, isPlace, cancelled⟩ := tally.cancelled other member
    have kept :=
      spares.keeps fresh (tally.dealt.symm.mem_of_left member) isPlace
    exact ⟨place, isPlace, kept.trans cancelled⟩
  waiting _ _ isPlace absent := tally.still_waiting spares isPlace absent
  prepared := tally.prepared
  logged := by
    obtain ⟨failures, told, reports⟩ := tally.logged
    exact ⟨failures, untold.trans told, reports⟩

theorem Tally.fail (tally : Tally start done run summary) (fresh : name ∉ done)
    (named : start.nodes.get? name = some id)
    (spares : Spares start name run.scheduler after) {cause : Error}
    (state : after.graph.state? id = some .cancelled)
    (prepared : ∀ predecessor dependent,
      cause ≠ .unsubmittedPredecessor predecessor dependent)
    (told : after.failures = run.scheduler.failures.map (· ++ [⟨id, cause⟩])) :
    Tally start (done ++ [name]) { run with scheduler := after }
      { summary with failed := summary.failed ++ [(name, cause)] } where
  same := by rw [tally.same]
  orderly := spares.orderly
  dealt := by
    have dealt := (tally.dealt.symm.concat_left fresh).symm
    simp only [Summary.failedNames] at dealt ⊢
    rw [List.map_append]
    exact dealt
  launched other member := by
    obtain ⟨place, handle, executor, isPlace, submitted⟩ :=
      tally.launched other member
    have kept := spares.keeps fresh (tally.dealt.mem_of_left member) isPlace
    exact ⟨place, handle, executor, isPlace, kept.trans submitted⟩
  cancelled other member := by
    simp only [Summary.failedNames] at member
    rw [List.map_append] at member
    rcases List.mem_append.mp member with old | new
    · obtain ⟨place, isPlace, cancelled⟩ := tally.cancelled other old
      have kept := spares.keeps fresh (tally.dealt.symm.mem_of_left old) isPlace
      exact ⟨place, isPlace, kept.trans cancelled⟩
    · rw [List.mem_singleton.mp new]
      exact ⟨id, named, state⟩
  waiting _ _ isPlace absent := tally.still_waiting spares isPlace absent
  prepared entry member := by
    rcases List.mem_append.mp member with old | new
    · exact tally.prepared entry old
    · rw [List.mem_singleton.mp new]
      exact prepared
  logged := by
    obtain ⟨failures, earlier, reports⟩ := tally.logged
    refine ⟨failures ++ [⟨id, cause⟩], ?_, ?_⟩
    · rw [told, earlier]
      rfl
    · exact List.rel_append reports (.cons ⟨named, rfl⟩ .nil)

theorem Enrolled.spares {before : Scheduler}
    (enrolled : Enrolled start.nodes start.order start.scheduler.graph)
    (named : start.nodes.get? name = some id)
    (orderly : Orderly start.scheduler.graph after)
    (others : ∀ other, Explicit start.scheduler.graph other → other ≠ id →
      after.graph.state? other = before.graph.state? other) :
    Spares start name before after where
  orderly := orderly
  others other place different isPlace := by
    apply others place (enrolled.listed other place isPlace).2
    intro same
    exact different (enrolled.injective (same ▸ isPlace) named)

/-- The next node of a plan is submitted, or it fails. -/
theorem Tally.next (tally : Tally start done run summary)
    (staged : Staged start.scheduler.graph)
    (enrolled : Enrolled start.nodes start.order start.scheduler.graph)
    (wellFormed : start.scheduler.graph.WellFormed) {plan rest : List String}
    (complete : Complete start.nodes start.order start.scheduler.graph plan)
    (shape : plan = done ++ name :: rest) (fresh : name ∉ done) :
    ∃ next, Run.submitNode (run, summary) name = .ok next ∧
      Tally start (done ++ [name]) next.1 next.2 := by
  have planned : name ∈ plan :=
    shape ▸ List.mem_append_right _ List.mem_cons_self
  obtain ⟨id, named⟩ := enrolled.placed name (complete.sublist.subset planned)
  have explicit := (enrolled.listed name id named).2
  have waits := tally.waiting name id named fresh
  have ready : Ready start.scheduler.graph id run.scheduler := by
    intro other isExplicit reached
    obtain ⟨earlier, member, isEarlier⟩ :=
      complete.mem_done enrolled wellFormed shape named isExplicit reached
    exact tally.decided member isEarlier
  have namedNow : run.nodes.get? name = some id := by
    rw [tally.same]
    exact named
  have submits : Submits id run.scheduler _ _ :=
    submits_submit tally.orderly.consistent.wellFormed
  have orderly := tally.orderly.submits staged explicit submits
  simp only [Run.submitNode]
  simp only [namedNow]
  cases result : submit id run.scheduler with
  | ok value after =>
      rw [Action.outcome_of_ok result] at orderly
      obtain ⟨⟨handle, executor, state⟩, others, untold⟩ :=
        launched_of_submit_ok tally.orderly explicit waits result
      refine ⟨({ run with scheduler := after },
        { summary with submitted := summary.submitted ++ [name] }), rfl, ?_⟩
      exact tally.launch fresh named (enrolled.spares named orderly others)
        state untold
  | error cause after =>
      rw [Action.outcome_of_error result] at orderly
      obtain ⟨state, others, prepared, told⟩ :=
        cancelled_of_submit_error tally.orderly staged explicit ready
          waits result
      refine ⟨({ run with scheduler := after },
        { summary with failed := summary.failed ++ [(name, cause)] }), rfl, ?_⟩
      exact tally.fail fresh named (enrolled.spares named orderly others) state
        prepared told

end Submit

/-- Completions leave the account as it is. -/
theorem Tally.complete (tally : Tally start done run summary)
    (fired : List Signal) :
    Tally start done { run with scheduler :=
      { run.scheduler with
        signals := run.scheduler.signals.fireAll fired } } summary where
  same := by rw [tally.same]
  orderly := tally.orderly.complete fired
  dealt := tally.dealt
  launched := tally.launched
  cancelled := tally.cancelled
  waiting := tally.waiting
  prepared := tally.prepared
  logged := tally.logged

section Plan

variable {plan rest : List String}

end Plan

end Tally

end CoherentTasks.Scenario
