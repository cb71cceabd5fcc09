import CoherentTasks.Proofs.Submission.Checked
import CoherentTasks.Proofs.Submission.Run

/-!
# Windows that are accepted

A graph accepts the window of a requirement or of a copy when it lies inside its
buffer. A window that has elements then has a representable end, and so has
every box that marking and planning make of it. An empty window is accepted
wherever it lies; if its end is not representable, marking it as written is an
addition too many as soon as another device holds something.
-/

namespace CoherentTasks

open CoherentTasks.Coherence (Allocation Region)
open CoherentTasks.Geometry (Axis Box)
open CoherentTasks.Graph (Copy Requirement TaskGraph)

/-- All the boxes of elements that are valid or current lie inside the
buffer. -/
def Coherence.Region.HoldsInside (region : Region) : Prop :=
  ∀ entry ∈ region.allocations.entries, ∀ box, box ∈ entry.2.valid.boxes ∨
    box ∈ entry.2.current.boxes → box.Within region.full

theorem Coherence.Region.HoldsInside.holdsRepresentable {region : Region}
    (inside : region.HoldsInside) (sized : region.full.Representable) :
    region.HoldsRepresentable := fun entry isEntry =>
  ⟨fun box isBox => (inside entry isEntry box (.inl isBox)).representable sized,
    fun box isBox =>
      (inside entry isEntry box (.inr isBox)).representable sized⟩

/-- The graph adds a node for this window of a buffer. -/
inductive Graph.TaskGraph.Accepts (graph : TaskGraph) : RegionId → Box → Prop
  | requirement {requirement : Requirement} {requirements : List NodeId}
      {hint : Option Device} {result : NodeId × TaskGraph}
      (added : graph.addNode (.requirement requirement) requirements hint =
        .ok result) : Accepts graph requirement.region requirement.window
  | source {copy : Copy} {requirements : List NodeId} {hint : Option Device}
      {result : NodeId × TaskGraph}
      (added : graph.addCopy copy requirements hint = .ok result) :
      Accepts graph copy.source.region copy.sourceBox
  | destination {copy : Copy} {requirements : List NodeId}
      {hint : Option Device} {result : NodeId × TaskGraph}
      (added : graph.addCopy copy requirements hint = .ok result) :
      Accepts graph copy.destination.region copy.destinationBox

/-- To mark the window on any device, and to plan the copies for it, takes no
sum that is not a machine word. -/
structure Submission.Computable (region : Region) (window : Box) : Prop where
  markValid : ∀ device, Coherence.Checked.markValid region device window =
    some (region.markValid device window)
  markCurrent : ∀ device, Coherence.Checked.markCurrent region device window =
    some (region.markCurrent device window)
  planTransfers : ∀ device,
    Submission.Checked.planTransfers region device window =
      some (Submission.planTransfers region device window)

namespace Submission

variable {graph : TaskGraph} {id : RegionId} {region : Region} {window : Box}

private theorem checkWindow_of_accepts (accepts : graph.Accepts id window) :
    graph.checkWindow id window = .ok () := by
  cases accepts with
  | requirement added => exact (TaskGraph.addNode_ok added).2.1
  | source added => exact (Computation.bind_eq_ok_iff.mp added).choose_spec.1
  | destination added =>
      obtain ⟨_, _, added⟩ := Computation.bind_eq_ok_iff.mp added
      exact (Computation.bind_eq_ok_iff.mp added).choose_spec.1

private theorem computable_of_representable (inside : region.HoldsInside)
    (sized : region.full.Representable) (fits : window.Representable) :
    Computable region window := by
  have holds := inside.holdsRepresentable sized
  constructor
  case markValid =>
    exact fun _ =>
      (Coherence.Checked.computes_markValid And.left And.right).eq_some
        ⟨holds, fits⟩
  case markCurrent =>
    exact fun _ =>
      (Coherence.Checked.computes_markCurrent And.left And.right).eq_some
        ⟨holds, fits⟩
  case planTransfers =>
    exact fun _ => (Checked.computes_planTransfers And.left And.right).eq_some
      ⟨holds, fits⟩

private theorem host_lt_cuda : compare Device.hostDevice ⟨.cuda, 0⟩ = .lt := by
  decide

/-- The same buffer, of which the host holds everything, with a fresh copy on
another device. -/
def heldByHost (region : Region) : Region :=
  { region with
    allocations :=
      ⟨[(.hostDevice, ⟨0, ⟨[region.full]⟩, .empty⟩), (⟨.cuda, 0⟩, .fresh 1)],
        List.pairwise_pair.mpr host_lt_cuda⟩ }

private theorem holdsInside_heldByHost (region : Region) :
    (heldByHost region).HoldsInside := by
  intro entry isEntry box held
  simp only [heldByHost, List.mem_cons, List.not_mem_nil, or_false] at isEntry
  rcases isEntry with rfl | rfl
  · rcases held with valid | current
    · rw [List.mem_singleton.mp valid]
      exact fun axis => ⟨Nat.le_refl _, Nat.le_refl _⟩
    · exact absurd current List.not_mem_nil
  · exact (held.elim List.not_mem_nil List.not_mem_nil).elim

/-- A window whose end is not representable cannot be taken away from the
host. -/
private theorem not_computable_heldByHost (region : Region)
    (large : ¬ window.Representable) :
    ¬ Computable (heldByHost region) window := by
  intro computable
  have computed := computable.markCurrent ⟨.cuda, 0⟩
  have present : (heldByHost region).hasAllocation ⟨.cuda, 0⟩ = true := rfl
  have different : Device.hostDevice ≠ ⟨.cuda, 0⟩ := by decide
  simp only [Coherence.Checked.markCurrent, if_pos present,
    Coherence.Checked.changeCopies] at computed
  simp only [heldByHost, List.all_cons, if_neg different,
    Geometry.Checked.remove_eq_none (List.cons_ne_nil _ _) large] at computed
  cases computed

/-- A window with elements that a graph accepts lies inside the buffer, and its
end is representable. For every accepted window, all that marking and planning
compute of it are machine words, whatever is held inside the buffer, exactly if
its end is representable. -/
theorem accepted_window (accepts : graph.Accepts id window) :
    ∃ region, graph.region? id = some region ∧ (window.isEmpty = false →
      window.Within region.full ∧ window.checkedUpper?.isSome = true) ∧
      (region.full.Representable →
        ((∀ tracker : Region, tracker.range = region.range →
          tracker.HoldsInside → Computable tracker window) ↔
          window.checkedUpper?.isSome = true)) := by
  have known : window.checkedUpper?.isSome = true ↔ window.Representable := by
    simp only [Option.isSome_iff_exists, Box.checkedUpper?_eq_some_iff,
      exists_and_left, exists_eq, and_true]
  obtain ⟨region, found, inside⟩ :=
    TaskGraph.tracked_of_checkWindow (checkWindow_of_accepts accepts)
  refine ⟨region, found, fun occupied => ?_, fun sized => ?_⟩
  · rw [known]
    exact Box.within_of_contains occupied inside
  · rw [known]
    constructor
    · intro every
      by_contra large
      exact not_computable_heldByHost region large
        (every (heldByHost region) rfl (holdsInside_heldByHost region))
    · intro fits tracker sameRange holdsInside
      have sameFull : tracker.full = region.full :=
        congrArg Box.ofExtent sameRange
      exact computable_of_representable holdsInside (sameFull ▸ sized) fits

/-- A graph with one buffer of four elements. -/
def fourElements : TaskGraph := TaskGraph.empty.addRegion "A" ⟨4, 1, 1⟩ 4

/-- An empty window whose end along the first axis is not a machine word. -/
def beyondWords : Box := ⟨⟨18446744073709551615, 0, 0⟩, ⟨1, 0, 1⟩⟩

theorem fourElements_accepts_last :
    fourElements.Accepts 0 ⟨⟨3, 0, 0⟩, ⟨1, 1, 1⟩⟩ ∧
      ∃ region, fourElements.region? 0 = some region ∧
        (⟨⟨3, 0, 0⟩, ⟨1, 1, 1⟩⟩ : Box).Within region.full ∧
        ∀ tracker : Region, tracker.range = region.range → tracker.HoldsInside →
          Computable tracker ⟨⟨3, 0, 0⟩, ⟨1, 1, 1⟩⟩ := by
  obtain ⟨result, added⟩ :
      ∃ result,
        fourElements.addNode (.requirement ⟨0, ⟨⟨3, 0, 0⟩, ⟨1, 1, 1⟩⟩, .read⟩)
            [] none = .ok result := ⟨_, rfl⟩
  have accepts : fourElements.Accepts 0 ⟨⟨3, 0, 0⟩, ⟨1, 1, 1⟩⟩ :=
    .requirement added
  obtain ⟨region, found, occupied, computes⟩ := accepted_window accepts
  cases found
  obtain ⟨within, known⟩ := occupied rfl
  refine ⟨accepts, _, rfl, within, (computes fun axis => ?_).mpr known⟩
  cases axis <;> decide

/-- An empty window is accepted although its end is not representable. -/
theorem not_every_accepted_representable :
    ¬ ∀ (graph : TaskGraph) (id : RegionId) (window : Box),
      graph.Accepts id window →
      (∀ region, graph.region? id = some region → region.full.Representable) →
      window.checkedUpper?.isSome = true := by
  intro every
  obtain ⟨result, added⟩ : ∃ result, fourElements.addNode
      (.requirement ⟨0, beyondWords, .read⟩) [] none = .ok result := ⟨_, rfl⟩
  have known :=
    every fourElements 0 beyondWords (.requirement added) fun region found => by
    cases found
    intro axis
    cases axis <;> decide
  revert known
  decide

end Submission

end CoherentTasks
