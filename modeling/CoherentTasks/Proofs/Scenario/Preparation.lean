import CoherentTasks.Proofs.Scenario.Assembly
import CoherentTasks.Proofs.Scenario.Progress
import CoherentTasks.Scenario.Execution

/-!
# Prepared runs

A run of a validated scenario starts with a staged graph in which nothing was
submitted, and the regions hold nothing but the initial contents of their
buffers.
-/

namespace CoherentTasks.Scenario

open CoherentTasks.Backend (Registry)
open CoherentTasks.Coherence (Region)
open CoherentTasks.Computation
open CoherentTasks.Graph (TaskGraph)
open CoherentTasks.Submission

variable {sorting : Sorting}

/-- The scenario puts the initial contents of the buffer of a region on the
device. -/
def InitialOn (scenario : Scenario) (buffers : Table String RegionId)
    (place : RegionId) (device : Device) : Prop :=
  ∃ name buffer text, (name, buffer) ∈ scenario.buffers.entries ∧
    buffer.initialDevice = some text ∧ Device.parse text = .ok device ∧
      buffers.get? name = some place

/-- The scheduler has done nothing yet but put initial contents in place. -/
structure Prepared (scenario : Scenario) (buffers : Table String RegionId)
    (graph : TaskGraph) (scheduler : Scheduler) : Prop where
  orderly : Orderly graph scheduler
  regions : graph.RegionsGrow scheduler.graph
  idle : scheduler.dispatches = []
  holds : ∀ place device position, scheduler.graph.Holds place device position →
    scenario.InitialOn buffers place device ∧
      ∃ region, graph.region? place = some region ∧ position ∈ region.full

variable {scenario : Scenario}

section Untouched

variable {assembly : Assembly} {scheduler : Scheduler}

theorem Assembled.not_submitted (assembled : Assembled assembly) (id : NodeId) :
    ¬ assembly.graph.Submitted id := by
  intro submitted
  obtain ⟨node, found⟩ := submitted.exists_node
  exact submitted.not_unsubmitted
    (TaskGraph.state?_of_node? found (assembled.fresh id node found).1)

theorem Assembled.orderly (assembled : Assembled assembly)
    (same : scheduler.graph = assembly.graph) (idle : scheduler.dispatches = [])
    (silent : scheduler.signals = .empty) :
    Orderly assembly.graph scheduler where
  sameNodes := same ▸ .refl _
  consistent := by
    have none (id : NodeId) : ¬ scheduler.graph.Submitted id := by
      rw [same]
      exact assembled.not_submitted id
    exact {
      wellFormed := same ▸ assembled.wellFormed
      closed := fun _ _ submitted => absurd submitted (none _)
      owned := fun _ made => by rw [idle] at made; cases made
      backed := fun _ _ _ state => absurd (.inr ⟨_, _, state⟩) (none _)
      listed := fun _ made => by rw [idle] at made; cases made
      truthful := fun _ made => by rw [idle] at made; cases made
      numbered := by rw [idle, silent]; rfl
      layered := fun _ made => by rw [idle] at made; cases made }
  bound id node hint device found hinted held := by
    rw [same] at found
    rw [(assembled.fresh id node found).2] at held
    cases held
  untouched root id required states submitted := by
    rw [same] at submitted
    exact absurd submitted (assembled.not_submitted id)

end Untouched

section Seeding

variable {buffers : Table String RegionId} {graph : TaskGraph}
  {scheduler seeded : Scheduler}

private theorem seedRegion_ok {name : String} {id : RegionId} {device : Device}
    (result : seedRegion name id device scheduler = .ok seeded) :
    ∃ pointer registry, scheduler.registry.Continues registry ∧
      seeded = { scheduler with
        registry
        graph := scheduler.graph.updateRegion id (·.seed device pointer) } := by
  simp only [seedRegion] at result
  split at result
  · cases result
  · split at result
    · cases result
    · obtain ⟨⟨granted, registry⟩, allocated, result⟩ :=
        bind_eq_ok_iff.mp result
      cases granted with
      | none => cases result
      | some pointer =>
          exact ⟨pointer, registry, Registry.continues_allocate allocated,
            (pure_eq_ok_iff.mp result).symm⟩

private theorem seedBuffer_ok {name : String} {buffer : BufferEntry}
    (result : seedBuffer buffers scheduler name buffer = .ok seeded) :
    scheduler = seeded ∨ ∃ text device id pointer registry,
      buffer.initialDevice = some text ∧ Device.parse text = .ok device ∧
        buffers.get? name = some id ∧ scheduler.registry.Continues registry ∧
        seeded = { scheduler with
          registry
          graph :=
            scheduler.graph.updateRegion id (·.seed device pointer) } := by
  simp only [seedBuffer] at result
  cases initial : buffer.initialDevice with
  | none =>
      rw [initial] at result
      exact .inl (pure_eq_ok_iff.mp result)
  | some text =>
      rw [initial] at result
      obtain ⟨device, parsed, result⟩ := bind_eq_ok_iff.mp result
      have isDevice := mapError_eq_ok_iff.mp (mapError_eq_ok_iff.mp parsed)
      split at result
      · cases result
      · rename_i id looked
        obtain ⟨pointer, registry, continued, same⟩ := seedRegion_ok result
        exact .inr ⟨text, device, id, pointer, registry, rfl, isDevice, looked,
          continued, same⟩

/-- What initial contents leave of a graph that was built and of a registry. -/
structure Seeded (built : BuiltGraph) (provided : Registry)
    (scheduler : Scheduler) : Prop where
  slots : scheduler.graph.slots = built.graph.slots
  regions : built.graph.RegionsGrow scheduler.graph
  registry : provided.Continues scheduler.registry
  failures : scheduler.failures = some []

theorem Seeded.sameNodes {built : BuiltGraph} {provided : Registry}
    (kept : Seeded built provided scheduler) :
    built.graph.SameNodes scheduler.graph := by
  intro id
  simp only [TaskGraph.node?]
  rw [kept.slots]

theorem Seeded.seedBuffer {built : BuiltGraph} {provided : Registry}
    {name : String} {buffer : BufferEntry}
    (kept : Seeded built provided scheduler)
    (result : seedBuffer buffers scheduler name buffer = .ok seeded) :
    Seeded built provided seeded := by
  rcases seedBuffer_ok result
    with rfl | ⟨_, device, id, pointer, _, _, _, _, continued, rfl⟩
  · exact kept
  · constructor
    case slots => exact kept.slots
    case regions =>
      apply kept.regions.trans
      exact TaskGraph.regionsGrow_updateRegion _ id
        fun region => region.grows_seed device pointer
    case registry => exact kept.registry.trans continued
    case failures => exact kept.failures

theorem seeded_create (built : BuiltGraph) (registry : Registry)
    (alignment : Nat) :
    Seeded built registry
      { Scheduler.create alignment registry true with graph := built.graph }
      where
  slots := rfl
  regions := TaskGraph.regionsGrow_of_eq rfl
  registry := .refl registry
  failures := rfl

/-- A run starts with the graph that was built. -/
theorem prepareOn_ok {registry : Registry} {simulated : Bool} {run : Run}
    (prepares : scenario.prepareOnBy sorting registry simulated = .ok run) :
    ∃ built, scenario.buildBy sorting = .ok built ∧
      Seeded built registry run.scheduler ∧ run.nodes = built.nodes ∧
      run.order = built.order := by
  simp only [prepareOnBy] at prepares
  obtain ⟨built, builds, prepares⟩ := bind_eq_ok_iff.mp prepares
  obtain ⟨scheduler, seeds, prepares⟩ := bind_eq_ok_iff.mp prepares
  cases pure_eq_ok_iff.mp prepares
  refine ⟨built, builds, ?_, rfl, rfl⟩
  apply foldlM_keeps (Seeded built registry) _
    (seeded_create built registry _) seeds
  exact fun _ _ _ _ kept stepped => kept.seedBuffer stepped

/-- Putting the initial contents of a buffer in place makes them valid there,
and nothing else. -/
theorem Prepared.seed (prepared : Prepared scenario buffers graph scheduler)
    {id : RegionId} {device : Device} {pointer : Pointer} {registry : Registry}
    (continued : scheduler.registry.Continues registry)
    (initial : scenario.InitialOn buffers id device) :
    Prepared scenario buffers graph { scheduler with
      registry
      graph := scheduler.graph.updateRegion id (·.seed device pointer) } where
  orderly := {
    sameNodes := prepared.orderly.sameNodes
    consistent :=
      prepared.orderly.consistent.later_of_still
        ⟨fun _ => rfl, fun _ => rfl, rfl, rfl, continued⟩
        (TaskGraph.regionsGrow_updateRegion _ id
          fun region => region.grows_seed device pointer)
    bound := prepared.orderly.bound
    untouched := prepared.orderly.untouched }
  regions := prepared.regions.trans (TaskGraph.regionsGrow_updateRegion _ id
    fun region => region.grows_seed device pointer)
  idle := prepared.idle
  holds place holder position := by
    intro holds
    obtain ⟨region, found, valid⟩ := holds
    rw [TaskGraph.region?_updateRegion] at found
    split at found
    · rename_i here
      subst here
      obtain ⟨earlier, isEarlier, rfl⟩ := Option.map_eq_some_iff.mp found
      rcases Region.mem_validOn_seed valid with before | ⟨rfl, inside⟩
      · exact prepared.holds place holder position ⟨earlier, isEarlier, before⟩
      · obtain ⟨first, isFirst, grows⟩ := prepared.regions.region? isEarlier
        exact ⟨initial, first, isFirst, grows.full ▸ inside⟩
    · exact prepared.holds place holder position ⟨region, found, valid⟩

/-- Instead of the graph that was built, that of the scheduler may be looked
at. -/
theorem Prepared.itself (prepared : Prepared scenario buffers graph scheduler) :
    Prepared scenario buffers scheduler.graph scheduler where
  orderly := prepared.orderly.itself
  regions := TaskGraph.regionsGrow_of_eq rfl
  idle := prepared.idle
  holds place device position holds := by
    obtain ⟨initial, first, isFirst, inside⟩ :=
      prepared.holds place device position holds
    obtain ⟨region, found, grows⟩ := prepared.regions.later isFirst
    exact ⟨initial, region, found, grows.full ▸ inside⟩

/-- A run of a validated scenario is prepared, and its names stand for kernels
and copies. -/
theorem prepared_of_prepareOn (valid : scenario.validateBy sorting = .ok ())
    {registry : Registry} {simulated : Bool} {run : Run}
    (topological : sorting.Topological)
    (prepares : scenario.prepareOnBy sorting registry simulated = .ok run) :
    Staged run.scheduler.graph ∧ (∀ name id,
      run.nodes.get? name = some id → Explicit run.scheduler.graph id) ∧
    Prepared scenario run.buffers run.scheduler.graph run.scheduler := by
  simp only [prepareOnBy] at prepares
  obtain ⟨built, builds, prepares⟩ := bind_eq_ok_iff.mp prepares
  obtain ⟨scheduler, seeds, prepares⟩ := bind_eq_ok_iff.mp prepares
  cases pure_eq_ok_iff.mp prepares
  obtain ⟨hazards, assembled⟩ := assembled_of_build valid topological builds
  have prepared : Prepared scenario built.buffers built.graph scheduler := by
    refine foldlM_keeps (Prepared scenario built.buffers built.graph) ?_
      ?_ seeds
    · intro scheduler entry next member prepared stepped
      obtain ⟨name, buffer⟩ := entry
      rcases seedBuffer_ok stepped with
        rfl | ⟨text, device, id, pointer, registry, named, parsed, looked,
          continued, rfl⟩
      · exact prepared
      · exact prepared.seed continued
          ⟨name, buffer, text, member, named, parsed, looked⟩
    · exact {
        orderly := assembled.orderly rfl rfl rfl
        regions := TaskGraph.regionsGrow_of_eq rfl
        idle := rfl
        holds := fun place device position holds =>
          absurd holds (assembled.bare place device position) }
  have same := prepared.orderly.sameNodes
  exact ⟨assembled.staged.of_sameNodes same,
    fun name id named => (assembled.named name id named).of_sameNodes same,
    prepared.itself⟩

end Seeding

end CoherentTasks.Scenario
