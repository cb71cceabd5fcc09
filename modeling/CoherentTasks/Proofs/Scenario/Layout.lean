import CoherentTasks.Proofs.Scenario.Validity
import CoherentTasks.Proofs.Submission.Run
import CoherentTasks.Scenario.Assembly

/-!
# Operations and accesses of validated nodes

A validated node is either a kernel, whose accesses leave the device to the
node, or a copy, which reads its window on one device and overwrites it on
another. Adding it to an assembly appends one node for each access and one for
the operation.
-/

namespace CoherentTasks.Scenario

open CoherentTasks.Computation
open CoherentTasks.Geometry (Box)
open CoherentTasks.Graph (Kernel Node Operation TaskGraph)

variable {sorting : Sorting}

variable {scenario : Scenario}

/-- An operation and the accesses that it needs. -/
inductive Layout (operation : Operation) (accesses : List PlannedAccess) :
    Prop where
  | kernel (kernel : Kernel) (launches : operation = .kernel kernel)
      (own : ∀ access ∈ accesses, access.device = none)
  | copy (region : RegionId) (window : Box) (source destination : Device)
      (copies : operation = .copy ⟨⟨source, window.offset, region⟩,
        ⟨destination, window.offset, region⟩, window.extent⟩)
      (both : accesses = [⟨⟨region, window, .read⟩, some source⟩,
        ⟨⟨region, window, .discardWrite⟩, some destination⟩])

/-- The devices of two accesses agree, unless a copy reads on one and overwrites
on another. -/
theorem Layout.devices {operation : Operation} {accesses : List PlannedAccess}
    (layout : Layout operation accesses) (hint : Option Device)
    {first second : Nat} {earlier later : PlannedAccess}
    (isEarlier : accesses[first]? = some earlier)
    (isLater : accesses[second]? = some later) (less : first < second) :
    earlier.device.or hint = later.device.or hint ∨
    (earlier.requirement.mode = .read ∧
      later.requirement.mode = .discardWrite) := by
  cases layout with
  | kernel kernel launches own =>
      rw [own earlier (List.mem_of_getElem? isEarlier),
        own later (List.mem_of_getElem? isLater)]
      exact .inl rfl
  | copy region window source destination copies both =>
      obtain ⟨short, rfl⟩ := List.getElem?_eq_some_iff.mp isLater
      rw [both] at short isEarlier
      have two : second < 2 := short
      obtain rfl : second = 1 := by omega
      obtain rfl : first = 0 := by omega
      cases isEarlier
      simp [both]

theorem doesOneThing_of_validate (valid : scenario.validateBy sorting = .ok ())
    {name : String} {node : NodeEntry}
    (member : (name, node) ∈ scenario.nodes.entries) : DoesOneThing node := by
  obtain ⟨devices, validated⟩ := validated_of_validate valid
  exact (validated.nodes (name, node) member).single

section Plans

variable {buffers : Table String RegionId} {name : String} {node : NodeEntry}
  {accesses : List PlannedAccess} {operation : Operation}

/-- A node of a scenario never states a requirement itself. -/
theorem isRequirement_of_operationOf
    (made : scenario.operationOf buffers name node = .ok operation) :
    operation.isRequirement = false := by
  simp only [operationOf] at made
  split at made
  · obtain ⟨_, _, made⟩ := bind_eq_ok_iff.mp made
    rw [← pure_eq_ok_iff.mp made]
    rfl
  · obtain ⟨⟨_, _⟩, _, made⟩ := bind_eq_ok_iff.mp made
    obtain ⟨_, _, made⟩ := bind_eq_ok_iff.mp made
    obtain ⟨_, _, made⟩ := bind_eq_ok_iff.mp made
    rw [← pure_eq_ok_iff.mp made]
    rfl
  · cases made

private theorem layout_of_kernel {kernel : String}
    (isKernel : node.kernel = some kernel) (noCopy : node.copy = none)
    (planned : scenario.planAccesses buffers name node = .ok accesses)
    (made : scenario.operationOf buffers name node = .ok operation) :
    Layout operation accesses := by
  simp only [operationOf] at made
  rw [isKernel, noCopy] at made
  obtain ⟨platform, _, made⟩ := bind_eq_ok_iff.mp made
  refine .kernel ⟨kernel, platform⟩ (pure_eq_ok_iff.mp made).symm
    fun access member => ?_
  simp only [planAccesses] at planned
  rw [noCopy] at planned
  obtain ⟨entry, _, stated⟩ := exists_value_of_mem planned member
  obtain ⟨_, _, stated⟩ := bind_eq_ok_iff.mp stated
  obtain ⟨_, _, stated⟩ := bind_eq_ok_iff.mp stated
  rw [← pure_eq_ok_iff.mp stated]

private theorem layout_of_copy {copy : CopyEntry}
    (noKernel : node.kernel = none) (isCopy : node.copy = some copy)
    (planned : scenario.planAccesses buffers name node = .ok accesses)
    (made : scenario.operationOf buffers name node = .ok operation) :
    Layout operation accesses := by
  simp only [planAccesses] at planned
  rw [isCopy] at planned
  obtain ⟨⟨region, window⟩, found, planned⟩ := bind_eq_ok_iff.mp planned
  obtain ⟨source, isSource, planned⟩ := bind_eq_ok_iff.mp planned
  obtain ⟨destination, isDestination, planned⟩ := bind_eq_ok_iff.mp planned
  simp only [operationOf] at made
  rw [noKernel, isCopy] at made
  obtain ⟨place, again, made⟩ := bind_eq_ok_iff.mp made
  obtain ⟨sourceAgain, isSourceAgain, made⟩ := bind_eq_ok_iff.mp made
  obtain ⟨destinationAgain, isDestinationAgain, made⟩ := bind_eq_ok_iff.mp made
  rw [found] at again
  rw [isSource] at isSourceAgain
  rw [isDestination] at isDestinationAgain
  cases again
  cases isSourceAgain
  cases isDestinationAgain
  exact .copy region window source destination (pure_eq_ok_iff.mp made).symm
    (pure_eq_ok_iff.mp planned).symm

theorem layout_of_doesOneThing (single : DoesOneThing node)
    (planned : scenario.planAccesses buffers name node = .ok accesses)
    (made : scenario.operationOf buffers name node = .ok operation) :
    Layout operation accesses := by
  rcases single with ⟨kernel, isKernel, noCopy⟩ | ⟨copy, noKernel, isCopy⟩
  · exact layout_of_kernel isKernel noCopy planned made
  · exact layout_of_copy noKernel isCopy planned made

end Plans

/-- The node of the graph for an access, if it conflicts with these nodes. -/
def accessNode (hint : Option Device) (assembly : Assembly)
    (access : PlannedAccess) : Node :=
  Node.create (.requirement access.requirement)
    (ascending ((assembly.hazardsOf access.requirement.region).conflicts
      access.requirement.mode))
    (access.device.or hint)

/-- Nodes were added behind the others. -/
structure Appends (before after : TaskGraph) (nodes : List Node) : Prop where
  slots : after.slots = before.slots ++ nodes.map some
  regions : after.regions = before.regions

theorem appends_addNode {graph grown : TaskGraph} {operation : Operation}
    {requirements : List NodeId} {hint : Option Device} {id : NodeId}
    (added : graph.addNode operation requirements hint = .ok (id, grown)) :
    Appends graph grown [Node.create operation requirements hint] := by
  obtain ⟨_, _, _, rfl⟩ := TaskGraph.addNode_ok added
  exact ⟨rfl, rfl⟩

theorem Appends.trans {first second third : TaskGraph} {nodes more : List Node}
    (start : Appends first second nodes) (rest : Appends second third more) :
    Appends first third (nodes ++ more) := by
  refine ⟨?_, rest.regions.trans start.regions⟩
  rw [rest.slots, start.slots, List.map_append, List.append_assoc]

theorem Appends.length {before after : TaskGraph} {nodes : List Node}
    (appends : Appends before after nodes) :
    after.slots.length = before.slots.length + nodes.length := by
  rw [appends.slots, List.length_append, List.length_map]

theorem addAccesses_ok {hint : Option Device} {assembly grown : Assembly}
    {accesses : List PlannedAccess} {ids : List NodeId}
    (wellFormed : assembly.graph.WellFormed)
    (added : addAccesses hint assembly accesses = .ok (ids, grown)) :
    (∃ graph, grown = { assembly with graph } ∧ graph.WellFormed ∧
      Appends assembly.graph graph (accesses.map (accessNode hint assembly))) ∧
    ids = List.range' assembly.graph.slots.length accesses.length := by
  induction accesses generalizing assembly ids with
  | nil =>
      cases added
      exact ⟨⟨_, rfl, wellFormed, (List.append_nil _).symm, rfl⟩, rfl⟩
  | cons access rest induction =>
      simp only [addAccesses] at added
      obtain ⟨⟨id, between⟩, first, added⟩ := bind_eq_ok_iff.mp added
      obtain ⟨⟨others, later⟩, behind, added⟩ := bind_eq_ok_iff.mp added
      cases pure_eq_ok_iff.mp added
      simp only [addAccess] at first
      obtain ⟨⟨place, graph⟩, nodeAdded, first⟩ := bind_eq_ok_iff.mp first
      cases pure_eq_ok_iff.mp first
      have one := appends_addNode nodeAdded
      obtain ⟨_, _, isPlace, _⟩ := TaskGraph.addNode_ok nodeAdded
      obtain ⟨⟨final, rfl, finalWell, appends⟩, rfl⟩ :=
        induction (wellFormed.addNode nodeAdded) behind
      refine ⟨⟨final, rfl, finalWell, one.trans appends⟩, ?_⟩
      rw [isPlace, one.length]
      rfl

/-- What adding a node of the scenario does to an assembly. -/
structure Joins (scenario : Scenario) (name : String) (before after : Assembly)
    (operation : Operation) (accesses : List PlannedAccess)
    (hint : Option Device) (predecessors : List NodeId) : Prop where
  entry : ∃ node, scenario.nodes.get? name = some node ∧
    scenario.planAccesses before.buffers name node = .ok accesses ∧
      scenario.operationOf before.buffers name node = .ok operation
  /-- The predecessors are the nodes of the graph for the entries that the node
  is to come after. -/
  follows : ∃ node, scenario.nodes.get? name = some node ∧
    node.after.mapM (builtDependency before.nodes name) = .ok predecessors
  wellFormed : after.graph.WellFormed
  appends : Appends before.graph after.graph
    (accesses.map (accessNode hint before) ++ [Node.create operation
      (predecessors ++ List.range' before.graph.slots.length accesses.length)
      hint])
  buffers : after.buffers = before.buffers
  nodes : after.nodes =
    before.nodes.insert name (before.graph.slots.length + accesses.length)
  hazards : after.hazards = noteAccesses
    (before.graph.slots.length + accesses.length) before.hazards accesses
  hinted : ∃ node, scenario.nodes.get? name = some node ∧
    node.device.mapM (nodeDevice name) = .ok hint

theorem Joins.explicit {name : String} {before after : Assembly}
    {operation : Operation} {accesses : List PlannedAccess}
    {hint : Option Device} {predecessors : List NodeId}
    (joins :
      Joins scenario name before after operation accesses hint predecessors) :
    operation.isRequirement = false := by
  obtain ⟨_, _, _, made⟩ := joins.entry
  exact isRequirement_of_operationOf made

theorem builtDependency_eq_ok_iff {nodes : Table String NodeId}
    {name earlier : String} {id : NodeId} :
    builtDependency nodes name earlier = .ok id ↔
      nodes.get? earlier = some id := by
  simp only [builtDependency]
  cases nodes.get? earlier <;> simp

/-- Every predecessor joined before. -/
theorem Joins.behind {name : String} {before after : Assembly}
    {operation : Operation} {accesses : List PlannedAccess}
    {hint : Option Device} {predecessors : List NodeId}
    (joins :
      Joins scenario name before after operation accesses hint predecessors)
    (id : NodeId) (member : id ∈ predecessors) :
    ∃ earlier, before.nodes.get? earlier = some id := by
  obtain ⟨_, _, looked⟩ := joins.follows
  obtain ⟨earlier, _, isBuilt⟩ := exists_value_of_mem looked member
  exact ⟨earlier, builtDependency_eq_ok_iff.mp isBuilt⟩

theorem joins_of_addScenarioNode {before after : Assembly} {name : String}
    (wellFormed : before.graph.WellFormed)
    (added : scenario.addScenarioNode before name = .ok after) :
    ∃ operation accesses hint predecessors, Joins scenario name before after
      operation accesses hint predecessors := by
  simp only [addScenarioNode] at added
  cases entry : scenario.nodes.get? name with
  | none =>
      rw [entry] at added
      cases added
  | some node =>
      rw [entry] at added
      obtain ⟨_, same, added⟩ := bind_eq_ok_iff.mp added
      cases pure_eq_ok_iff.mp same
      obtain ⟨hint, hinted, added⟩ := bind_eq_ok_iff.mp added
      obtain ⟨predecessors, looked, added⟩ := bind_eq_ok_iff.mp added
      obtain ⟨accesses, planned, added⟩ := bind_eq_ok_iff.mp added
      obtain ⟨⟨ids, between⟩, accessesAdded, added⟩ := bind_eq_ok_iff.mp added
      obtain ⟨operation, made, added⟩ := bind_eq_ok_iff.mp added
      obtain ⟨⟨id, graph⟩, nodeAdded, added⟩ := bind_eq_ok_iff.mp added
      cases pure_eq_ok_iff.mp added
      obtain ⟨⟨grown, rfl, grownWell, appends⟩, rfl⟩ :=
        addAccesses_ok wellFormed accessesAdded
      obtain ⟨_, _, isId, _⟩ := TaskGraph.addNode_ok nodeAdded
      have place : id = before.graph.slots.length + accesses.length := by
        rw [isId, appends.length, List.length_map]
      subst place
      refine ⟨operation, accesses, hint, predecessors, ⟨node, entry,
        mapError_eq_ok_iff.mp planned, mapError_eq_ok_iff.mp made⟩,
        ⟨node, entry, mapError_eq_ok_iff.mp looked⟩,
        grownWell.addNode nodeAdded, appends.trans (appends_addNode nodeAdded),
        rfl, rfl, rfl, ⟨node, entry, mapError_eq_ok_iff.mp hinted⟩⟩

end CoherentTasks.Scenario
