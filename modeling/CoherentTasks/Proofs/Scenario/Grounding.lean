import CoherentTasks.Proofs.Scenario.Building

/-!
# What a built graph refers to

The nodes of a graph that is built for a validated scenario require nodes that
are there and ask for declared devices only. A kernel insists on a platform only
if the scenario says so.
-/

namespace CoherentTasks.Scenario

open CoherentTasks.Computation
open CoherentTasks.Graph (Copy Kernel Node Operation TaskGraph)

variable {sorting : Sorting}

/-- The scenario has the kernel of this name run by the platform. -/
def Insists (scenario : Scenario) (name : String) (platform : Platform) :
    Prop :=
  ∃ node text,
    scenario.nodes.get? name = some node ∧ node.kernel.isSome = true ∧
    node.preferredBackend = some text ∧ Platform.parse text = .ok platform

/-- Everything that the nodes of a graph refer to exists. -/
structure Grounded (scenario : Scenario) (devices : List Device)
    (nodes : Table String NodeId) (graph : TaskGraph) : Prop where
  present : ∀ dependent required, graph.Requires dependent required →
    graph.contains required = true
  hinted : ∀ id node device,
    graph.node? id = some node → node.hint = some device → device ∈ devices
  copied : ∀ id node copy,
    graph.node? id = some node → node.operation = .copy copy →
    copy.source.device ∈ devices ∧ copy.destination.device ∈ devices
  launched : ∀ name id node kernel platform, nodes.get? name = some id →
    graph.node? id = some node → node.operation = .kernel kernel →
      kernel.platform = some platform → scenario.Insists name platform

theorem Grounded.of_sameNodes {scenario : Scenario} {devices : List Device}
    {nodes : Table String NodeId} {graph other : TaskGraph}
    (grounded : Grounded scenario devices nodes graph)
    (same : graph.SameNodes other) : Grounded scenario devices nodes other where
  present dependent required edge := by
    obtain ⟨node, found⟩ :=
      contains_iff.mp
        (grounded.present dependent required (same.requires ▸ edge))
    obtain ⟨counterpart, isNode, _⟩ := same.node found
    exact contains_iff.mpr ⟨counterpart, isNode⟩
  hinted id node device found asks := by
    obtain ⟨counterpart, isNode, _, _, hint⟩ := same.symm.node found
    exact grounded.hinted id counterpart device isNode (hint.trans asks)
  copied id node copy found isCopy := by
    obtain ⟨counterpart, isNode, operation, _⟩ := same.symm.node found
    exact grounded.copied id counterpart copy isNode (operation.trans isCopy)
  launched name id node kernel platform named found isKernel insists := by
    obtain ⟨counterpart, isNode, operation, _⟩ := same.symm.node found
    exact grounded.launched name id counterpart kernel platform named isNode
      (operation.trans isKernel) insists

section Plans

variable {scenario : Scenario} {devices : List Device}
  {buffers : Table String RegionId} {name : String} {node : NodeEntry}
  {device : Device}

/-- A text that names a declared device is read as that device. -/
private theorem mem_of_nodeDevice {text : String} (named : Names devices text)
    (read : nodeDevice name text = .ok device) : device ∈ devices := by
  obtain ⟨same, declared, parsed⟩ := named
  rw [mapError_eq_ok_iff.mp read] at parsed
  cases parsed
  exact declared

private theorem mem_of_hint (sound : scenario.SoundNode devices node)
    (read : node.device.mapM (nodeDevice name) = .ok (some device)) :
    device ∈ devices := by
  obtain ⟨text, given, isDevice⟩ := exists_value_of_option_mapM read
  exact mem_of_nodeDevice (sound.device text given) isDevice

/-- Accesses that have a device of their own have a declared one. -/
private theorem mem_of_planAccesses {accesses : List PlannedAccess}
    (sound : scenario.SoundNode devices node)
    (planned : scenario.planAccesses buffers name node = .ok accesses)
    {access : PlannedAccess} (member : access ∈ accesses)
    (own : access.device = some device) : device ∈ devices := by
  simp only [planAccesses] at planned
  cases moved : node.copy with
  | some copy =>
      rw [moved] at planned
      obtain ⟨namesSource, namesDestination, _⟩ := sound.copy copy moved
      obtain ⟨_, _, planned⟩ := bind_eq_ok_iff.mp planned
      obtain ⟨source, isSource, planned⟩ := bind_eq_ok_iff.mp planned
      obtain ⟨destination, isDestination, planned⟩ := bind_eq_ok_iff.mp planned
      cases pure_eq_ok_iff.mp planned
      rcases List.mem_pair.mp member with rfl | rfl
      · cases own
        exact mem_of_nodeDevice namesSource isSource
      · cases own
        exact mem_of_nodeDevice namesDestination isDestination
  | none =>
      rw [moved] at planned
      obtain ⟨entry, _, stated⟩ := exists_value_of_mem planned member
      obtain ⟨_, _, stated⟩ := bind_eq_ok_iff.mp stated
      obtain ⟨_, _, stated⟩ := bind_eq_ok_iff.mp stated
      cases pure_eq_ok_iff.mp stated
      cases own

private theorem mem_of_operationOf {copy : Copy}
    (sound : scenario.SoundNode devices node)
    (made : scenario.operationOf buffers name node = .ok (.copy copy)) :
    copy.source.device ∈ devices ∧ copy.destination.device ∈ devices := by
  simp only [operationOf] at made
  split at made
  · obtain ⟨_, _, made⟩ := bind_eq_ok_iff.mp made
    cases pure_eq_ok_iff.mp made
  · rename_i entry _ isCopy
    obtain ⟨namesSource, namesDestination, _⟩ := sound.copy entry isCopy
    obtain ⟨_, _, made⟩ := bind_eq_ok_iff.mp made
    obtain ⟨source, isSource, made⟩ := bind_eq_ok_iff.mp made
    obtain ⟨destination, isDestination, made⟩ := bind_eq_ok_iff.mp made
    cases pure_eq_ok_iff.mp made
    exact ⟨mem_of_nodeDevice namesSource isSource,
      mem_of_nodeDevice namesDestination isDestination⟩
  · cases made

private theorem insists_of_operationOf {kernel : Kernel} {platform : Platform}
    (named : scenario.nodes.get? name = some node)
    (made : scenario.operationOf buffers name node = .ok (.kernel kernel))
    (insists : kernel.platform = some platform) :
    scenario.Insists name platform := by
  simp only [operationOf] at made
  split at made
  · rename_i launched isKernel
    obtain ⟨chosen, spelt, made⟩ := bind_eq_ok_iff.mp made
    cases pure_eq_ok_iff.mp made
    have same : chosen = some platform := insists
    subst same
    obtain ⟨text, given, parsed⟩ := exists_value_of_option_mapM spelt
    exact ⟨node, text, named, by rw [isKernel]; rfl, given,
      mapError_eq_ok_iff.mp parsed⟩
  · obtain ⟨_, _, made⟩ := bind_eq_ok_iff.mp made
    obtain ⟨_, _, made⟩ := bind_eq_ok_iff.mp made
    obtain ⟨_, _, made⟩ := bind_eq_ok_iff.mp made
    cases pure_eq_ok_iff.mp made
  · cases made

end Plans

section Build

variable {scenario : Scenario} {devices : List Device} {name : String}
  {before after : Assembly} {operation : Operation}
  {accesses : List PlannedAccess} {hint : Option Device}
  {predecessors : List NodeId}

/-- What the entry of a node that joins says, which was validated. -/
theorem Joins.stated
    (joins :
      Joins scenario name before after operation accesses hint predecessors)
    (validated : scenario.Validated sorting devices) :
    ∃ node,
      scenario.nodes.get? name = some node ∧ scenario.SoundNode devices node ∧
      scenario.planAccesses before.buffers name node = .ok accesses ∧
      scenario.operationOf before.buffers name node = .ok operation ∧
      node.device.mapM (nodeDevice name) = .ok hint := by
  obtain ⟨node, named, planned, made⟩ := joins.entry
  obtain ⟨same, isSame, read⟩ := joins.hinted
  rw [named] at isSame
  cases isSame
  exact ⟨node, named,
    validated.nodes (name, node) (Table.mem_of_get?_eq_some named), planned,
    made, read⟩

/-- Whatever a node that joins refers to exists. -/
theorem Grounded.joins
    (grounded : Grounded scenario devices before.nodes before.graph)
    (linked : Linked before) (validated : scenario.Validated sorting devices)
    (joins :
      Joins scenario name before after operation accesses hint predecessors) :
    Grounded scenario devices after.nodes after.graph := by
  obtain ⟨node, named, sound, planned, made, read⟩ := joins.stated validated
  have declared {device : Device} (asks : hint = some device) :
      device ∈ devices :=
    mem_of_hint sound (asks ▸ read)
  constructor
  case present =>
    intro dependent required edge
    rcases joins.requires_iff.mp edge with
      old | ⟨place, access, _, _, conflict⟩ |
        ⟨_, isPredecessor | ⟨place, short, rfl⟩⟩
    · exact joins.appends.contains (grounded.present dependent required old)
    · exact joins.appends.contains
        (linked.explicit_of_conflict conflict).contains
    · exact joins.appends.contains
        (joins.explicit_of_predecessor linked isPredecessor).contains
    · apply joins.appends.contains_added
      apply List.mem_range'_1.mpr
      simp only [List.length_append, List.length_map]
      omega
  case hinted =>
    intro id other device found asks
    rcases joins.node?_iff.mp found
      with old | ⟨place, access, isPlace, _, rfl⟩ | ⟨_, rfl⟩
    · exact grounded.hinted id other device old asks
    · rcases Option.or_eq_some_iff.mp asks with own | ⟨_, ofNode⟩
      · exact mem_of_planAccesses sound planned
          (List.mem_of_getElem? isPlace) own
      · exact declared ofNode
    · exact declared asks
  case copied =>
    intro id other copy found isCopy
    rcases joins.node?_iff.mp found with old | ⟨_, _, _, _, rfl⟩ | ⟨_, rfl⟩
    · exact grounded.copied id other copy old isCopy
    · cases isCopy
    · have same : operation = .copy copy := isCopy
      exact mem_of_operationOf sound (same ▸ made)
  case launched =>
    intro other id found kernel platform isId isNode isKernel insists
    rcases joins.node?_iff.mp isNode with old | ⟨_, _, _, _, rfl⟩ | ⟨rfl, rfl⟩
    · rcases joins.cases_of_get? isId with ⟨_, rfl⟩ | hadName
      · exact absurd (TaskGraph.lt_of_node?_eq_some old) not_lt_add
      · exact grounded.launched other id found kernel platform hadName old
          isKernel insists
    · cases isKernel
    · have same : operation = .kernel kernel := isKernel
      rcases joins.cases_of_get? isId with ⟨rfl, _⟩ | hadName
      · exact insists_of_operationOf named (same ▸ made) insists
      · exact absurd (linked.named other _ hadName).lt not_lt_add

end Build

end CoherentTasks.Scenario
