import CoherentTasks.Proofs.Scenario.Grounding
import CoherentTasks.Proofs.Scenario.Running

/-!
# What a run is provided with

The simulated backends of a scenario have memory of every declared device and
run operations for its platform, so nothing but a lack of memory keeps the
initial contents from being put in place. Backends go on, from submission to
submission, as they were at first.
-/

namespace CoherentTasks.Scenario

open CoherentTasks.Backend (Registry)
open CoherentTasks.Computation
open CoherentTasks.Graph (TaskGraph)
open CoherentTasks.Submission

variable {sorting : Sorting}

/-- The registry has memory of the devices and runs operations for their
platforms. -/
def Serves (devices : List Device) (registry : Registry) : Prop :=
  ∀ device ∈ devices,
    registry.ServesMemory device ∧ registry.ServesPlatform device.platform

theorem Serves.continues {devices : List Device} {before after : Registry}
    (serves : Serves devices before) (continued : before.Continues after) :
    Serves devices after := by
  intro device member
  obtain ⟨memory, platform⟩ := serves device member
  exact ⟨memory.continues continued, platform.continues continued⟩

section Simulated

variable {devices : List (Device × Nat × Nat)} {device : Device}

private theorem backends_foldl_register (backends : List Backend)
    (registry : Registry) :
    (backends.foldl Registry.register registry).backends =
      backends.reverse ++ registry.backends := by
  induction backends generalizing registry with
  | nil => rfl
  | cons first rest induction =>
      rw [List.foldl_cons, induction, List.reverse_cons, List.append_assoc]
      rfl

private theorem backend?_ofList (backends : List Backend)
    (platform : Platform) :
    (Registry.ofList backends).backend? platform =
      backends.reverse.find? (·.platform = platform) := by
  simp only [Registry.ofList, Registry.backend?]
  rw [backends_foldl_register]
  simp only [Registry.empty, List.append_nil]

theorem mem_of_backend?_ofList {backends : List Backend} {platform : Platform}
    {found : Backend}
    (inForce : (Registry.ofList backends).backend? platform = some found) :
    found ∈ backends := by
  rw [backend?_ofList] at inForce
  exact List.mem_reverse.mp (List.mem_of_find?_eq_some inForce)

end Simulated

section Registry

variable {scenario : Scenario} {devices : List Device}

/-- The simulated backend of a platform. -/
def backendFor (scenario : Scenario) (devices : List Device)
    (platform : Platform) : Backend :=
  .simulated platform <| devices.map fun device =>
    (device, (scenario.deviceEntry device).memory,
      (scenario.deviceEntry device).latency)

end Registry

section Seeding

variable {scenario : Scenario} {devices : List Device}
  {buffers : Table String RegionId} {scheduler : Scheduler} {cause : Error}

end Seeding

/-- The devices are served, and no other device holds valid data. -/
structure Equipped (devices : List Device) (scheduler : Scheduler) : Prop where
  serves : Serves devices scheduler.registry
  holds : ∀ place device position,
    scheduler.graph.Holds place device position → device ∈ devices

section Runs

variable {scenario : Scenario} {devices : List Device}

end Runs

section Submissions

variable {scenario : Scenario} {devices : List Device}
  {nodes : Table String NodeId} {graph : TaskGraph} {root bound : NodeId}
  {asked : Device} {before after : Scheduler}

private theorem continues_of_moves (moves : Moves root bound before after) :
    before.registry.Continues after.registry := by
  induction moves with
  | refl => exact .refl _
  | tail _ move induction =>
      apply induction.trans
      rcases move.still_or_takesUp with still | ⟨_, _, _, takes⟩
      · exact still.quiet.registry
      · obtain ⟨_, _, handed⟩ := takes.handed
        exact handed.registry

private theorem continues_of_submits {success : Bool}
    (submits : Submits root before after success) :
    before.registry.Continues after.registry := by
  cases submits with
  | idle _ unchanged => exact unchanged ▸ .refl _
  | rejects cause given => exact given ▸ .refl _
  | resolves states moves => exact continues_of_moves moves
  | launches node device dispatch ready launched asks moves launches finishes =>
      have ready := continues_of_moves moves
      exact (ready.trans launches.handed.registry).trans finishes.quiet.registry
  | fails device stopped cause asks moves given =>
      subst given
      have later := continues_of_moves moves
      exact later

/-- While a kernel or copy is being submitted, data become valid only where its
requirements ask for them. -/
theorem Equipped.moves (equipped : Equipped devices before)
    (grounded : Grounded scenario devices nodes graph)
    (same : graph.SameNodes before.graph) (awaited : Awaited root asked before)
    (moves : Moves root bound before after) : Equipped devices after where
  serves := equipped.serves.continues (continues_of_moves moves)
  holds place device position held := by
    rcases (awaited.underway_of_moves moves).gained place device position held
      with
      earlier | ⟨id, requirement, own, settled, _, rfl, _⟩
    · exact equipped.holds place device position earlier
    · obtain ⟨node, found, _, hinted⟩ := settled.asks.of_sameNodes same.symm
      exact grounded.hinted id node device found hinted

theorem Equipped.giveUp {stopped : Scheduler} {cause : Error}
    (equipped : Equipped devices before) (later : Equipped devices stopped)
    (grow : before.graph.RegionsGrow stopped.graph) :
    Equipped devices (giveUp before stopped root cause) where
  serves := later.serves
  holds place device position held :=
    equipped.holds place device position ((holds_giveUp grow).mp held)

theorem Equipped.submits (equipped : Equipped devices before)
    (grounded : Grounded scenario devices nodes graph) (staged : Staged graph)
    (orderly : Orderly graph before) (explicit : Explicit graph root)
    {success : Bool} (submits : Submits root before after success) :
    Equipped devices after := by
  have same := orderly.sameNodes
  have registry := continues_of_submits submits
  cases submits with
  | idle _ unchanged => exact unchanged ▸ equipped
  | rejects cause given =>
      subst given
      exact equipped.giveUp equipped (TaskGraph.regionsGrow_of_eq rfl)
  | resolves states =>
      exact absurd (states.of_sameNodes same.symm)
        explicit.not_statesRequirement
  | launches node device dispatch ready launched asks moves launches finishes =>
      have awaited := orderly.awaited staged explicit asks
      have ready := equipped.moves grounded same awaited moves
      have wellFormed :=
        (Moves.wellFormed moves awaited.wellFormed).later launches.sameNodes
          (TaskGraph.regionsGrow_of_eq launches.regions)
      constructor
      case serves => exact equipped.serves.continues registry
      case holds =>
        intro place holder position held
        rcases (finishes.holds wellFormed).2 place holder position held with
          earlier | ⟨copy, isCopy, _, rfl, _⟩
        · apply ready.holds place holder position
          exact (TaskGraph.holds_of_regions launches.regions).mp earlier
        · obtain ⟨original, found, operation, _⟩ :=
            (same.trans (Moves.sameNodes moves)).symm.node launches.found
          exact (grounded.copied root original copy found
            (operation.trans isCopy)).1
  | fails device stopped cause asks moves given =>
      subst given
      exact equipped.giveUp (equipped.moves grounded same
        (orderly.awaited staged explicit asks) moves)
        (Moves.regionsGrow moves)

/-- The backends that a run has at any time continue those that it had at
first. -/
theorem Runs.continues {run next : Run} {summary : Summary}
    (runs : Runs graph run) (proceeds : run.Proceeds next summary) :
    run.scheduler.registry.Continues next.scheduler.registry := by
  apply runs.keeps (fun scheduler =>
    run.scheduler.registry.Continues scheduler.registry) (.refl _) _ _ proceeds
  · exact fun _ _ submits continued =>
      continued.trans (continues_of_submits submits)
  · exact fun _ continued => continued

end Submissions

end CoherentTasks.Scenario
