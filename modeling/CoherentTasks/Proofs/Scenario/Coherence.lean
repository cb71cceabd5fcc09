import CoherentTasks.Proofs.Scenario.Fetching
import CoherentTasks.Proofs.Scenario.Supply

/-!
# Coherence of submissions

After every submission of a kernel or copy of a staged graph, successful or
failed, what the regions hold as valid is up to date, and every kernel that was
handed over found the latest values in what it reads.
-/

namespace CoherentTasks.Scenario

open CoherentTasks.Geometry (Triple)
open CoherentTasks.Graph (Copy Kernel Node TaskGraph)
open CoherentTasks.Submission

/-- A kernel that is executed after the operations in front of it finds the
latest values in the windows that it reads, except where an access listed
earlier drops them. -/
def Finds {graph : TaskGraph} {Value : Type} (execution : Execution graph Value)
    (front : List Dispatch) (dispatch : Dispatch) : Prop :=
  ∀ id requirement hint,
    graph.Requires dispatch.node id → Asks graph id requirement hint →
    requirement.mode.discards = false → ∀ position ∈ requirement.window,
      ¬ Dropped graph dispatch.node id requirement.region position →
      execution.UpToDate front requirement.region dispatch.device position

/-- Every kernel found the latest values when it was executed. -/
def Informed {graph : TaskGraph} {Value : Type}
    (execution : Execution graph Value) (dispatches : List Dispatch) : Prop :=
  ∀ front dispatch back kernel, dispatches = front ++ dispatch :: back →
    dispatch.operation = .kernel kernel → Finds execution front dispatch

theorem Dropped.of_sameNodes {graph other : TaskGraph}
    (same : graph.SameNodes other) {root id : NodeId} {place : RegionId}
    {position : Triple} (dropped : Dropped graph root id place position) :
    Dropped other root id place position := by
  obtain ⟨sibling, requirement, hint, listed, asks, promise⟩ := dropped
  exact ⟨sibling, requirement, hint, listed.of_sameNodes same,
    asks.of_sameNodes same, promise⟩

section Launch

variable {graph : TaskGraph} {Value : Type} {execution : Execution graph Value}
  {root : NodeId} {asked device : Device} {node : Node} {dispatch : Dispatch}
  {before ready launched after : Scheduler}

section Kernel

variable {kernel : Kernel}

/-- A kernel writes where its device alone holds something, and everywhere where
it was to overwrite. -/
private theorem coherent_launch_kernel
    (launches : Launches root node device dispatch ready launched)
    (isKernel : node.operation = .kernel kernel) (staged : Staged graph)
    (same : graph.SameNodes before.graph)
    (underway : Underway root before ready)
    (supplied : Supplied execution root before ready) :
    Coherent execution launched := by
  obtain ⟨dispatches, ofNode, onDevice, operation⟩ := launches.made
  have sameReady := same.trans underway.sameNodes
  intro place holder position holdsLaunched
  have holds := (TaskGraph.holds_of_regions launches.regions).mp holdsLaunched
  simp only [Execution.UpToDate]
  rw [dispatches, execution.contents_append, execution.latest_append,
    List.foldl_cons, List.foldl_nil, List.foldl_cons, List.foldl_nil,
    execution.execute_kernel dispatch (operation.trans isKernel),
    execution.share_kernel dispatch (operation.trans isKernel),
    ofNode, onDevice]
  cases output : execution.output root place position with
  | some value =>
      obtain ⟨id, requirement, hint, required, asks, writes, here, member⟩ :=
        execution.within root place position value output
      obtain rfl :=
        hint_of_launches launches sameReady staged isKernel required asks
      have settled := settled_of_launches launches same underway required asks
      have sameDevice : holder = device := by
        by_contra different
        exact underway.alone id requirement device settled place holder position
          holds ⟨writes, here, different, member⟩
      rw [if_pos sameDevice]
      rfl
  | none =>
      rw [Option.getD_none, Option.getD_none, ite_self]
      rcases supplied.held place holder position holds with
        upToDate | ⟨id, requirement, settled, discards, here, member⟩
      · exact upToDate
      · obtain ⟨value, written⟩ :=
          execution.overwrites root id requirement (some holder)
            (same.requires ▸ settled.required)
            (settled.asks.of_sameNodes same.symm) discards position member
        rw [← here, output] at written
        cases written

private theorem finds_launch_kernel
    (launches : Launches root node device dispatch ready launched)
    (isKernel : node.operation = .kernel kernel) (staged : Staged graph)
    (same : graph.SameNodes before.graph)
    (underway : Underway root before ready)
    (supplied : Supplied execution root before ready) :
    Finds execution ready.dispatches dispatch := by
  obtain ⟨_, ofNode, onDevice, _⟩ := launches.made
  simp only [Finds]
  rw [ofNode, onDevice]
  intro id requirement hint required asks keeps position member notDropped
  obtain rfl :=
    hint_of_launches launches (same.trans underway.sameNodes) staged isKernel
      required asks
  have settled := settled_of_launches launches same underway required asks
  rcases supplied.found id requirement device settled keeps position member
    with upToDate | dropped
  · exact upToDate
  · exact absurd (dropped.of_sameNodes same.symm) notDropped

end Kernel

section Copy

variable {copy : Copy}

/-- A copy finds at its source the latest values, and so brings them to its
destination. -/
private theorem upToDate_launch_copy
    (launches : Launches root node device dispatch ready launched)
    (isCopy : node.operation = .copy copy) (staged : Staged graph)
    (explicit : Explicit graph root) (same : graph.SameNodes before.graph)
    (underway : Underway root before ready)
    (supplied : Supplied execution root before ready) :
    (∀ place holder position,
      execution.UpToDate ready.dispatches place holder position →
      execution.UpToDate launched.dispatches place holder position) ∧
    (∀ position ∈ copy.sourceBox, execution.UpToDate launched.dispatches
      copy.source.region copy.source.device position) ∧
    ∀ position ∈ copy.destinationBox, execution.UpToDate launched.dispatches
      copy.destination.region copy.destination.device position := by
  obtain ⟨dispatches, _, _, operation⟩ := launches.made
  have copied := operation.trans isCopy
  obtain ⟨window, reading, writing, accesses⟩ :=
    accesses_of_launches launches (same.trans underway.sameNodes) staged isCopy
  have settled :=
    settled_of_launches launches same underway accesses.requires.1
      accesses.reads
  have read :
      ∀ position ∈ window, execution.UpToDate ready.dispatches
        copy.source.region copy.source.device position := by
    intro position member
    rcases supplied.found reading _ _ settled rfl position member with
      upToDate | ⟨other, requirement, hint, listed, asks, _⟩
    · exact upToDate
    · exact absurd (asks.of_sameNodes same.symm).statesRequirement
        (accesses.reads_first staged explicit (listed.of_sameNodes same.symm))
  obtain ⟨kept, brought⟩ :=
    execution.execute_brings copied fun position member => by
    rw [Copy.origin_of_mem accesses.aligned member, accesses.region]
    exact read position (accesses.destination ▸ member)
  have latest :
      execution.latest launched.dispatches =
        execution.latest ready.dispatches := by
    rw [dispatches, execution.latest_append, List.foldl_cons, List.foldl_nil,
      execution.share_copy dispatch copied]
  simp only [Execution.UpToDate] at *
  rw [latest, dispatches, execution.contents_append, List.foldl_cons,
    List.foldl_nil]
  exact ⟨kept, fun position member =>
    kept _ _ _ (read position (accesses.source ▸ member)), brought⟩

private theorem coherent_launch_copy
    (launches : Launches root node device dispatch ready launched)
    (isCopy : node.operation = .copy copy) (staged : Staged graph)
    (explicit : Explicit graph root) (same : graph.SameNodes before.graph)
    (underway : Underway root before ready)
    (supplied : Supplied execution root before ready) :
    Coherent execution launched := by
  obtain ⟨kept, _, brought⟩ :=
    upToDate_launch_copy launches isCopy staged explicit same underway supplied
  obtain ⟨window, reading, writing, accesses⟩ :=
    accesses_of_launches launches (same.trans underway.sameNodes) staged isCopy
  intro place holder position holdsLaunched
  have holds := (TaskGraph.holds_of_regions launches.regions).mp holdsLaunched
  rcases supplied.held place holder position holds with
    upToDate | ⟨id, requirement, settled, discards, here, member⟩
  · exact kept place holder position upToDate
  · have asks := settled.asks.of_sameNodes same.symm
    rcases accesses.eq_or_eq (same.requires ▸ settled.required)
      asks.statesRequirement with
      rfl | rfl
    · obtain ⟨rfl, _⟩ := asks.unique accesses.reads
      cases discards
    · obtain ⟨rfl, sameDevice⟩ := asks.unique accesses.writes
      rw [here, Option.some.inj sameDevice]
      have written := brought position (accesses.destination ▸ member)
      rw [accesses.region] at written
      exact written

end Copy

/-- A launch and the bookkeeping behind it leave everything coherent. -/
private theorem coherent_finish
    (launches : Launches root node device dispatch ready launched)
    (finishes : Finishes root node.operation launched after)
    (wellFormed : launched.graph.WellFormed) (staged : Staged graph)
    (explicit : Explicit graph root) (same : graph.SameNodes before.graph)
    (underway : Underway root before ready)
    (supplied : Supplied execution root before ready) :
    Coherent execution after := by
  intro place holder position holds
  rw [finishes.quiet.dispatches]
  have coherent : Coherent execution launched := by
    cases operation : node.operation with
    | requirement _ =>
        have isExplicit := launches.explicit
        rw [operation] at isExplicit
        cases isExplicit
    | kernel kernel =>
        exact coherent_launch_kernel launches operation staged same
          underway supplied
    | copy copy =>
        exact coherent_launch_copy launches operation staged explicit same
          underway supplied
  rcases (finishes.holds wellFormed).2 place holder position holds with
    earlier | ⟨copy, isCopy, rfl, rfl, member⟩
  · exact coherent place holder position earlier
  · exact (upToDate_launch_copy launches isCopy staged explicit same underway
      supplied).2.1
      position member

end Launch

section Submits

variable {graph : TaskGraph} {Value : Type} {execution : Execution graph Value}
  {root : NodeId} {before after : Scheduler}

theorem Informed.nil : Informed execution [] := by
  intro front dispatch back kernel shape
  exact absurd shape.symm
    (List.append_ne_nil_of_right_ne_nil front (List.cons_ne_nil _ _))

theorem Informed.concat {dispatches : List Dispatch} {dispatch : Dispatch}
    (informed : Informed execution dispatches)
    (finds : ∀ kernel, dispatch.operation = .kernel kernel →
      Finds execution dispatches dispatch) :
    Informed execution (dispatches ++ [dispatch]) := by
  intro front other back kernel shape isKernel
  rcases List.eq_nil_or_concat back with rfl | ⟨between, last, rfl⟩
  · obtain ⟨rfl, same⟩ := List.append_inj' shape rfl
    cases same
    exact finds kernel isKernel
  · rw [List.concat_eq_append, ← List.cons_append, ← List.append_assoc] at shape
    obtain ⟨rfl, _⟩ := List.append_inj' shape rfl
    exact informed front other between kernel rfl isKernel

theorem Informed.append {dispatches made : List Dispatch}
    (informed : Informed execution dispatches)
    (copies : ∀ dispatch ∈ made, ∃ copy, dispatch.operation = .copy copy) :
    Informed execution (dispatches ++ made) := by
  induction made generalizing dispatches with
  | nil => exact (List.append_nil dispatches).symm ▸ informed
  | cons dispatch made induction =>
      rw [List.append_cons]
      refine induction (informed.concat fun kernel isKernel => ?_)
        fun other member => copies other (List.mem_cons_of_mem _ member)
      obtain ⟨copy, isCopy⟩ := copies dispatch List.mem_cons_self
      rw [isKernel] at isCopy
      cases isCopy

theorem Informed.moves {bound : NodeId} {device : Device}
    (informed : Informed execution before.dispatches)
    (awaited : Awaited root device before)
    (moves : Moves root bound before after) :
    Informed execution after.dispatches := by
  obtain ⟨made, fetched⟩ := awaited.fetched_of_moves moves
  rw [fetched.dispatches]
  exact informed.append fetched.isCopy

/-- A submission keeps everything coherent, whether it succeeds or fails. -/
theorem Coherent.submits (coherent : Coherent execution before)
    (orderly : Orderly graph before) (staged : Staged graph)
    (explicit : Explicit graph root) {success : Bool}
    (submits : Submits root before after success) :
    Coherent execution after := by
  cases submits with
  | idle _ same => exact same ▸ coherent
  | rejects cause same =>
      subst same
      intro place holder position holds
      exact coherent place holder position
        ((holds_giveUp (TaskGraph.regionsGrow_of_eq rfl)).mp holds)
  | resolves states moves submitted =>
      exact absurd (states.of_sameNodes orderly.sameNodes.symm)
        explicit.not_statesRequirement
  | launches node device dispatch ready launched asks moves launches finishes =>
      have awaited := orderly.awaited staged explicit asks
      have wellFormed :=
        (Moves.wellFormed moves awaited.wellFormed).later launches.sameNodes
          (TaskGraph.regionsGrow_of_eq launches.regions)
      exact coherent_finish launches finishes wellFormed staged explicit
        orderly.sameNodes (awaited.underway_of_moves moves)
        (awaited.supplied_of_moves coherent moves)
  | fails device stopped cause asks moves same =>
      -- The copies that were made stay made, but they have spoilt nothing that
      -- was up to date.
      subst same
      have supplied :=
        (orderly.awaited staged explicit asks).supplied_of_moves coherent moves
      intro place holder position holds
      exact supplied.kept place holder position (coherent place holder position
        ((holds_giveUp (Moves.regionsGrow moves)).mp holds))

theorem Informed.submits (informed : Informed execution before.dispatches)
    (coherent : Coherent execution before) (orderly : Orderly graph before)
    (staged : Staged graph) (explicit : Explicit graph root) {success : Bool}
    (submits : Submits root before after success) :
    Informed execution after.dispatches := by
  cases submits with
  | idle _ same => exact same ▸ informed
  | rejects cause same =>
      subst same
      exact informed
  | resolves states moves submitted =>
      exact absurd (states.of_sameNodes orderly.sameNodes.symm)
        explicit.not_statesRequirement
  | launches node device dispatch ready launched asks moves launches finishes =>
      have awaited := orderly.awaited staged explicit asks
      obtain ⟨dispatches, _, _, operation⟩ := launches.made
      rw [finishes.quiet.dispatches, dispatches]
      apply (informed.moves awaited moves).concat
      intro kernel isKernel
      exact finds_launch_kernel launches (operation.symm.trans isKernel) staged
        orderly.sameNodes (awaited.underway_of_moves moves)
        (awaited.supplied_of_moves coherent moves)
  | fails device stopped cause asks moves same =>
      subst same
      have stoppedInformed : Informed execution stopped.dispatches :=
        informed.moves (orderly.awaited staged explicit asks) moves
      exact stoppedInformed

end Submits

end CoherentTasks.Scenario
