import CoherentTasks.Proofs.Scenario.Hazards
import CoherentTasks.Proofs.Scenario.Layout
import CoherentTasks.Proofs.Scenario.Staged
import CoherentTasks.Proofs.Submission.Holding

/-!
# One more node

What becomes of the graph of an assembly when a node of the scenario joins it.
The node brings its own requirements, and these come behind everything that they
conflict with, because the hazards of a region lead to every earlier user. So
the grown graph is staged again.
-/

namespace CoherentTasks.Scenario

open CoherentTasks.Computation
open CoherentTasks.Graph (Copy Kernel Node Operation Requirement TaskGraph)
open CoherentTasks.Submission

section Appends

variable {before after : TaskGraph} {nodes : List Node} {id : NodeId}

theorem Appends.node?_of_lt (appends : Appends before after nodes)
    (old : id < before.slots.length) : after.node? id = before.node? id := by
  simp only [TaskGraph.node?]
  rw [appends.slots, List.getElem?_append_left old]

theorem Appends.node?_add (appends : Appends before after nodes) (place : Nat) :
    after.node? (before.slots.length + place) = nodes[place]? := by
  simp only [TaskGraph.node?]
  rw [appends.slots, List.getElem?_append_right (Nat.le_add_right _ _),
    Nat.add_sub_cancel_left, List.getElem?_map]
  cases nodes[place]? <;> rfl

theorem Appends.node?_iff (appends : Appends before after nodes) {node : Node} :
    after.node? id = some node ↔ before.node? id = some node ∨ ∃ place : Nat,
      nodes[place]? = some node ∧ id = before.slots.length + place := by
  rcases Nat.lt_or_ge id before.slots.length with old | new
  · rw [appends.node?_of_lt old, iff_self_or]
    intro added
    obtain ⟨place, _, rfl⟩ := added
    exact absurd old (Nat.not_lt.mpr (Nat.le_add_right _ _))
  · obtain ⟨place, rfl⟩ := Nat.exists_eq_add_of_le new
    rw [appends.node?_add]
    constructor
    · exact fun found => .inr ⟨place, found, rfl⟩
    · intro origin
      rcases origin with found | ⟨other, found, same⟩
      · exact absurd (TaskGraph.lt_of_node?_eq_some found) (Nat.not_lt.mpr new)
      · rwa [Nat.add_left_cancel same]

end Appends

/-- The node is the last writer of the region, or comes behind it. -/
def ComesAfter (graph : TaskGraph) (hazards : Hazards) (user : NodeId) : Prop :=
  ∃ writer,
    hazards.writer = some writer ∧ (writer = user ∨ graph.DependsOn writer user)

/-- The hazards of a region remember the node as a reader, or lead to it from
the last writer. -/
def Recalls (graph : TaskGraph) (hazards : Hazards) (user : NodeId) : Prop :=
  user ∈ hazards.readers ∨ ComesAfter graph hazards user

/-- The nodes of the scenario and the users that the hazards remember are
kernels or copies. -/
structure Linked (assembly : Assembly) : Prop where
  wellFormed : assembly.graph.WellFormed
  named :
    ∀ name id, assembly.nodes.get? name = some id → Explicit assembly.graph id
  known : ∀ region id, (assembly.hazardsOf region).writer = some id ∨
    id ∈ (assembly.hazardsOf region).readers → Explicit assembly.graph id

/-- Nothing is valid anywhere. -/
def Bare (graph : TaskGraph) : Prop :=
  ∀ place device position, ¬ graph.Holds place device position

/-- The graph of an assembly is staged, untouched, and its hazards lead to every
user of a region. -/
structure Assembled (assembly : Assembly) : Prop where
  wellFormed : assembly.graph.WellFormed
  bare : Bare assembly.graph
  staged : Staged assembly.graph
  fresh : ∀ id node, assembly.graph.node? id = some node →
    node.state = .unsubmitted ∧ node.device = none
  named :
    ∀ name id, assembly.nodes.get? name = some id → Explicit assembly.graph id
  known : ∀ region id, (assembly.hazardsOf region).writer = some id ∨
    id ∈ (assembly.hazardsOf region).readers → Explicit assembly.graph id
  writers : ∀ owner id requirement hint, assembly.graph.Requires owner id →
    Asks assembly.graph id requirement hint → requirement.mode.writes = true →
      ComesAfter assembly.graph (assembly.hazardsOf requirement.region) owner
  users : ∀ owner id requirement hint, assembly.graph.Requires owner id →
    Asks assembly.graph id requirement hint →
      owner ∈ (assembly.hazardsOf requirement.region).readers ∨
        ComesAfter assembly.graph (assembly.hazardsOf requirement.region) owner

theorem Assembled.linked {assembly : Assembly}
    (assembled : Assembled assembly) : Linked assembly where
  wellFormed := assembled.wellFormed
  named := assembled.named
  known := assembled.known

section Joins

variable {scenario : Scenario} {name : String} {before after : Assembly}
  {operation : Operation} {accesses : List PlannedAccess} {hint : Option Device}
  {predecessors : List NodeId}

/-- The number of the node that is added. -/
def joined (before : Assembly) (accesses : List PlannedAccess) : NodeId :=
  before.graph.slots.length + accesses.length

theorem Joins.get?_joined
    (joins :
      Joins scenario name before after operation accesses hint predecessors) :
    after.nodes.get? name = some (joined before accesses) := by
  rw [joins.nodes]
  exact Table.get?_insert_self _ _ _

theorem Joins.get?_other
    (joins :
      Joins scenario name before after operation accesses hint predecessors)
    {other : String} (different : other ≠ name) :
    after.nodes.get? other = before.nodes.get? other := by
  rw [joins.nodes]
  exact Table.get?_insert_other _ _ different

/-- A node that has a name afterwards is the new one, or it had the name
before. -/
theorem Joins.cases_of_get?
    (joins :
      Joins scenario name before after operation accesses hint predecessors)
    {other : String} {id : NodeId} (named : after.nodes.get? other = some id) :
    (other = name ∧ id = joined before accesses) ∨
    before.nodes.get? other = some id := by
  by_cases isName : other = name
  · subst isName
    exact .inl ⟨rfl, Option.some.inj (named.symm.trans joins.get?_joined)⟩
  · exact .inr ((joins.get?_other isName).symm.trans named)

theorem Joins.node?_iff
    (joins :
      Joins scenario name before after operation accesses hint predecessors)
    {id : NodeId} {node : Node} :
    after.graph.node? id = some node ↔ before.graph.node? id = some node ∨
      (∃ (place : Nat) (access : PlannedAccess),
        accesses[place]? = some access ∧
        id = before.graph.slots.length + place ∧
        node = accessNode hint before access) ∨
      (id = joined before accesses ∧ node = Node.create operation
        (predecessors ++ List.range' before.graph.slots.length accesses.length)
        hint) := by
  rw [joins.appends.node?_iff]
  apply or_congr_right
  constructor
  · intro joined
    obtain ⟨place, found, rfl⟩ := joined
    rcases Nat.lt_or_ge place accesses.length with isAccess | behind
    · rw [List.getElem?_append_left (by rwa [List.length_map]),
        List.getElem?_map] at found
      obtain ⟨access, isPlace, rfl⟩ := Option.map_eq_some_iff.mp found
      exact .inl ⟨place, access, isPlace, rfl, rfl⟩
    · rw [List.getElem?_append_right (by rwa [List.length_map]),
        List.length_map] at found
      obtain ⟨short, rfl⟩ := List.getElem?_eq_some_iff.mp found
      have single : place - accesses.length < 1 := short
      obtain rfl : place = accesses.length := by omega
      refine .inr ⟨rfl, ?_⟩
      simp
  · intro origin
    rcases origin with ⟨place, access, isPlace, rfl, rfl⟩ | ⟨rfl, rfl⟩
    · obtain ⟨short, _⟩ := List.getElem?_eq_some_iff.mp isPlace
      refine ⟨place, ?_, rfl⟩
      rw [List.getElem?_append_left (by rwa [List.length_map]),
        List.getElem?_map, isPlace]
      rfl
    · refine ⟨accesses.length, ?_, rfl⟩
      rw [List.getElem?_append_right (by rw [List.length_map]), List.length_map,
        Nat.sub_self]
      rfl

theorem Joins.requires_iff
    (joins :
      Joins scenario name before after operation accesses hint predecessors)
    {dependent required : NodeId} :
    after.graph.Requires dependent required ↔
      before.graph.Requires dependent required ∨
      (∃ (place : Nat) (access : PlannedAccess),
        accesses[place]? = some access ∧
        dependent = before.graph.slots.length + place ∧
        required ∈ (before.hazardsOf access.requirement.region).conflicts
          access.requirement.mode) ∨
      (dependent = joined before accesses ∧
        (required ∈ predecessors ∨ ∃ place < accesses.length,
          required = before.graph.slots.length + place)) := by
  rw [TaskGraph.requires_iff, TaskGraph.requires_iff]
  simp only [joins.node?_iff]
  constructor
  · intro joined
    rcases joined with
      ⟨node, found | ⟨place, access, isPlace, rfl, rfl⟩ | ⟨rfl, rfl⟩, member⟩
    · exact .inl ⟨node, found, member⟩
    · exact .inr
        (.inl ⟨place, access, isPlace, rfl, mem_ascending_iff.mp member⟩)
    · refine .inr
        (.inr ⟨rfl, (List.mem_append.mp member).imp_right fun inRange => ?_⟩)
      obtain ⟨low, high⟩ := List.mem_range'_1.mp inRange
      obtain ⟨place, rfl⟩ := Nat.exists_eq_add_of_le low
      exact ⟨place, Nat.lt_of_add_lt_add_left high, rfl⟩
  · intro origin
    rcases origin with ⟨node, found, member⟩ |
      ⟨place, access, isPlace, rfl, member⟩ | ⟨rfl, member⟩
    · exact ⟨node, .inl found, member⟩
    · exact ⟨_, .inr (.inl ⟨place, access, isPlace, rfl, rfl⟩),
        mem_ascending_iff.mpr member⟩
    · refine ⟨_, .inr (.inr ⟨rfl, rfl⟩),
        List.mem_append.mpr (member.imp_right ?_)⟩
      intro added
      obtain ⟨place, short, rfl⟩ := added
      exact List.mem_range'_1.mpr
        ⟨Nat.le_add_right _ _, Nat.add_lt_add_left short _⟩

theorem Joins.asks_iff
    (joins :
      Joins scenario name before after operation accesses hint predecessors)
    {id : NodeId} {requirement : Requirement} {asked : Option Device} :
    Asks after.graph id requirement asked ↔
      Asks before.graph id requirement asked ∨
      ∃ (place : Nat) (access : PlannedAccess), accesses[place]? = some access ∧
        id = before.graph.slots.length + place ∧
        requirement = access.requirement ∧ asked = access.device.or hint := by
  simp only [Asks]
  simp only [joins.node?_iff]
  constructor
  · intro joined
    rcases joined with ⟨node,
      found | ⟨place, access, isPlace, rfl, rfl⟩ | ⟨rfl, rfl⟩, states, hinted⟩
    · exact .inl ⟨node, found, states, hinted⟩
    · cases states
      exact .inr ⟨place, access, isPlace, rfl, rfl, hinted.symm⟩
    · have explicit := joins.explicit
      rw [show operation = .requirement requirement from states] at explicit
      cases explicit
  · intro origin
    rcases origin
      with ⟨node, found, asks⟩ | ⟨place, access, isPlace, rfl, rfl, rfl⟩
    · exact ⟨node, .inl found, asks⟩
    · exact ⟨_, .inr (.inl ⟨place, access, isPlace, rfl, rfl⟩), rfl, rfl⟩

theorem Joins.explicit_iff
    (joins :
      Joins scenario name before after operation accesses hint predecessors)
    {id : NodeId} :
    Explicit after.graph id ↔
      Explicit before.graph id ∨ id = joined before accesses := by
  simp only [Explicit]
  simp only [joins.node?_iff]
  constructor
  · intro joined
    rcases joined with
      ⟨node, found | ⟨place, access, isPlace, rfl, rfl⟩ | ⟨rfl, rfl⟩, explicit⟩
    · exact .inl ⟨node, found, explicit⟩
    · cases explicit
    · exact .inr rfl
  · intro origin
    rcases origin with ⟨node, found, explicit⟩ | rfl
    · exact ⟨node, .inl found, explicit⟩
    · exact ⟨_, .inr (.inr ⟨rfl, rfl⟩), joins.explicit⟩

theorem Joins.requirementsOf_of_lt
    (joins :
      Joins scenario name before after operation accesses hint predecessors)
    {id : NodeId} (old : id < before.graph.slots.length) :
    after.graph.requirementsOf id = before.graph.requirementsOf id := by
  simp only [TaskGraph.requirementsOf]
  rw [joins.appends.node?_of_lt old]

theorem Joins.requirementsOf_joined
    (joins :
      Joins scenario name before after operation accesses hint predecessors) :
    after.graph.requirementsOf (joined before accesses) = predecessors ++
      List.range' before.graph.slots.length accesses.length := by
  simp only [TaskGraph.requirementsOf]
  rw [joins.node?_iff.mpr (.inr (.inr ⟨rfl, rfl⟩))]
  rfl

/-- What was reached before is reached after. -/
theorem Joins.dependsOn
    (joins :
      Joins scenario name before after operation accesses hint predecessors)
    {dependent required : NodeId}
    (reached : before.graph.DependsOn dependent required) :
    after.graph.DependsOn dependent required :=
  Relation.TransGen.mono (fun _ _ edge => joins.requires_iff.mpr (.inl edge)) _
    _ reached

end Joins

section Places

variable {scenario : Scenario} {name : String} {before after : Assembly}
  {operation : Operation} {accesses : List PlannedAccess} {hint : Option Device}
  {predecessors : List NodeId}

theorem Explicit.lt {graph : TaskGraph} {id : NodeId}
    (explicit : Explicit graph id) : id < graph.slots.length := by
  obtain ⟨node, found, _⟩ := explicit
  exact TaskGraph.lt_of_node?_eq_some found

theorem Asks.lt {graph : TaskGraph} {id : NodeId} {requirement : Requirement}
    {asked : Option Device} (asks : Asks graph id requirement asked) :
    id < graph.slots.length := by
  obtain ⟨node, found, _⟩ := asks
  exact TaskGraph.lt_of_node?_eq_some found

theorem lt_of_requires {graph : TaskGraph} (wellFormed : graph.WellFormed)
    {dependent required : NodeId} (edge : graph.Requires dependent required) :
    dependent < graph.slots.length ∧ required < graph.slots.length := by
  obtain ⟨node, found, _⟩ := TaskGraph.requires_iff.mp edge
  have less := TaskGraph.lt_of_node?_eq_some found
  exact ⟨less, (wellFormed.earlier edge).trans less⟩

theorem not_lt_add {length place : Nat} : ¬ length + place < length :=
  Nat.not_lt.mpr (Nat.le_add_right _ _)

theorem Linked.explicit_of_conflict (linked : Linked before) {region : RegionId}
    {mode : AccessMode} {id : NodeId}
    (member : id ∈ (before.hazardsOf region).conflicts mode) :
    Explicit before.graph id :=
  linked.known region id
    ((Hazards.mem_conflicts_iff.mp member).imp_right And.right)

theorem Joins.explicit_of_predecessor
    (joins :
      Joins scenario name before after operation accesses hint predecessors)
    (linked : Linked before) {id : NodeId} (member : id ∈ predecessors) :
    Explicit before.graph id := by
  obtain ⟨earlier, isBuilt⟩ := joins.behind id member
  exact linked.named earlier id isBuilt

/-- The requirement of an access belongs to the node that was added. -/
theorem Joins.requires_access_iff
    (joins :
      Joins scenario name before after operation accesses hint predecessors)
    (linked : Linked before) {place : Nat} (short : place < accesses.length)
    {dependent : NodeId} :
    after.graph.Requires dependent (before.graph.slots.length + place) ↔
      dependent = joined before accesses := by
  rw [joins.requires_iff]
  constructor
  · intro origin
    rcases origin with old | ⟨_, access, _, _, conflict⟩ | ⟨same, _⟩
    · exact absurd (lt_of_requires linked.wellFormed old).2 not_lt_add
    · exact absurd (linked.explicit_of_conflict conflict).lt not_lt_add
    · exact same
  · exact fun same => .inr (.inr ⟨same, .inr ⟨place, short, rfl⟩⟩)

/-- Nothing new requires an old requirement. -/
theorem Joins.requires_old_iff
    (joins :
      Joins scenario name before after operation accesses hint predecessors)
    (linked : Linked before) {id : NodeId} {requirement : Requirement}
    {asked : Option Device} (asks : Asks before.graph id requirement asked)
    {dependent : NodeId} :
    after.graph.Requires dependent id ↔ before.graph.Requires dependent id := by
  rw [joins.requires_iff, or_iff_left]
  intro origin
  rcases origin
    with ⟨_, access, _, _, conflict⟩ | ⟨_, isPredecessor | ⟨place, _, rfl⟩⟩
  · exact (linked.explicit_of_conflict conflict).not_statesRequirement
      asks.statesRequirement
  · exact (joins.explicit_of_predecessor linked
      isPredecessor).not_statesRequirement
      asks.statesRequirement
  · exact not_lt_add asks.lt

/-- An old node asks for what it asked for. -/
theorem Joins.asks_of_lt
    (joins :
      Joins scenario name before after operation accesses hint predecessors)
    {id : NodeId} {requirement : Requirement} {asked : Option Device}
    (asks : Asks after.graph id requirement asked)
    (old : id < before.graph.slots.length) :
    Asks before.graph id requirement asked := by
  rcases joins.asks_iff.mp asks with same | ⟨place, _, _, rfl, _⟩
  · exact same
  · exact absurd old not_lt_add

/-- A new requirement comes behind the last writer of its region and behind what
that one comes after; if it writes, it also comes behind all readers since
then. -/
theorem Joins.dependsOn_recalled
    (joins :
      Joins scenario name before after operation accesses hint predecessors)
    {place : Nat} {access : PlannedAccess}
    (isPlace : accesses[place]? = some access) {user : NodeId}
    (recalled :
      Recalls before.graph (before.hazardsOf access.requirement.region) user)
    (writes : ComesAfter before.graph
      (before.hazardsOf access.requirement.region) user ∨
      access.requirement.mode.writes = true) :
    after.graph.DependsOn (before.graph.slots.length + place) user := by
  have edge {conflict : NodeId}
      (member : conflict ∈ (before.hazardsOf
        access.requirement.region).conflicts access.requirement.mode) :
      after.graph.Requires (before.graph.slots.length + place) conflict :=
    joins.requires_iff.mpr (.inr (.inl ⟨place, access, isPlace, rfl, member⟩))
  have behindWriter
      (comes : ComesAfter before.graph
        (before.hazardsOf access.requirement.region) user) :
      after.graph.DependsOn (before.graph.slots.length + place) user := by
    obtain ⟨writer, isWriter, reaches⟩ := comes
    have first := edge (Hazards.mem_conflicts_iff.mpr (.inl isWriter))
    rcases reaches with rfl | further
    · exact .single first
    · exact .head first (joins.dependsOn further)
  rcases writes with comes | laterWrites
  · exact behindWriter comes
  · rcases recalled with reader | comes
    · exact .single
        (edge (Hazards.mem_conflicts_iff.mpr (.inr ⟨laterWrites, reader⟩)))
    · exact behindWriter comes

/-- A new requirement comes behind the owners of all old ones that it conflicts
with. -/
theorem Joins.dependsOn_user
    (joins :
      Joins scenario name before after operation accesses hint predecessors)
    (assembled : Assembled before) {place : Nat} {access : PlannedAccess}
    (isPlace : accesses[place]? = some access) {owner id : NodeId}
    {requirement : Requirement} {asked : Option Device}
    (owns : before.graph.Requires owner id)
    (asks : Asks before.graph id requirement asked)
    (sameRegion : requirement.region = access.requirement.region)
    (writes : requirement.mode.writes = true ∨
      access.requirement.mode.writes = true) :
    after.graph.DependsOn (before.graph.slots.length + place) owner := by
  apply joins.dependsOn_recalled isPlace
  · exact sameRegion ▸ assembled.users owner id requirement asked owns asks
  · refine writes.imp_left fun earlierWrites => ?_
    exact sameRegion ▸
      assembled.writers owner id requirement asked owns asks earlierWrites

end Places

section Staged

variable {scenario : Scenario} {name : String} {before after : Assembly}
  {operation : Operation} {accesses : List PlannedAccess} {hint : Option Device}
  {predecessors : List NodeId}

/-- Two nodes are siblings if one of them states no requirement. -/
private theorem siblings_of_explicit {graph : TaskGraph} {first second : NodeId}
    (explicit : Explicit graph first ∨ Explicit graph second) :
    Siblings graph first second := by
  intro _ _ _ _ asksFirst asksSecond
  rcases explicit with isFirst | isSecond
  · exact absurd asksFirst.statesRequirement isFirst.not_statesRequirement
  · exact absurd asksSecond.statesRequirement isSecond.not_statesRequirement

theorem Joins.siblings_joined
    (joins :
      Joins scenario name before after operation accesses hint predecessors)
    (layout : Layout operation accesses) (assembled : Assembled before) :
    (after.graph.requirementsOf (joined before accesses)).Pairwise
      (Siblings after.graph) := by
  have explicit {id : NodeId} (member : id ∈ predecessors) :
      Explicit after.graph id :=
    joins.explicit_iff.mpr
      (.inl (joins.explicit_of_predecessor assembled.linked member))
  rw [joins.requirementsOf_joined, List.pairwise_append]
  refine ⟨List.pairwise_of_forall_mem_list fun first member _ _ =>
      siblings_of_explicit (.inl (explicit member)), ?_, fun first member _ _ =>
      siblings_of_explicit (.inl (explicit member))⟩
  refine (List.pairwise_lt_range' 1).imp_of_mem
    fun {first second} isFirst isSecond less => ?_
  obtain ⟨firstPlace, rfl⟩ :=
    Nat.exists_eq_add_of_le (List.mem_range'_1.mp isFirst).1
  obtain ⟨secondPlace, rfl⟩ :=
    Nat.exists_eq_add_of_le (List.mem_range'_1.mp isSecond).1
  intro earlier later earlierHint laterHint asksEarlier asksLater
  refine ⟨Nat.ne_of_lt less, ?_⟩
  rcases joins.asks_iff.mp asksEarlier
    with old | ⟨place, access, isPlace, same, rfl, rfl⟩
  · exact absurd old.lt not_lt_add
  rcases joins.asks_iff.mp asksLater
    with old | ⟨other, next, isOther, also, rfl, rfl⟩
  · exact absurd old.lt not_lt_add
  cases Nat.add_left_cancel same
  cases Nat.add_left_cancel also
  exact layout.devices hint isPlace isOther (Nat.lt_of_add_lt_add_left less)

theorem Joins.siblings_of_lt
    (joins :
      Joins scenario name before after operation accesses hint predecessors)
    (assembled : Assembled before) {id : NodeId}
    (explicit : Explicit before.graph id) :
    (after.graph.requirementsOf id).Pairwise (Siblings after.graph) := by
  rw [joins.requirementsOf_of_lt explicit.lt]
  refine (assembled.staged.siblings id explicit).imp_of_mem
    fun {first second} isFirst isSecond siblings => ?_
  intro earlier later earlierHint laterHint asksEarlier asksLater
  exact siblings earlier later earlierHint laterHint (joins.asks_of_lt
    asksEarlier (lt_of_requires assembled.wellFormed isFirst).2)
    (joins.asks_of_lt asksLater
      (lt_of_requires assembled.wellFormed isSecond).2)

theorem Joins.kernels
    (joins :
      Joins scenario name before after operation accesses hint predecessors)
    (layout : Layout operation accesses) (assembled : Assembled before)
    {id : NodeId} {node : Node} {kernel : Kernel}
    (found : after.graph.node? id = some node)
    (isKernel : node.operation = .kernel kernel) {other : NodeId}
    (member : other ∈ node.requirements) {requirement : Requirement}
    {asked : Option Device} (asks : Asks after.graph other requirement asked) :
    asked = node.hint := by
  rcases joins.node?_iff.mp found
    with old | ⟨place, access, _, rfl, rfl⟩ | ⟨rfl, rfl⟩
  · have edge : before.graph.Requires id other :=
      TaskGraph.requires_iff.mpr ⟨node, old, member⟩
    exact assembled.staged.kernels id node kernel old isKernel other member
      requirement asked
      (joins.asks_of_lt asks (lt_of_requires assembled.wellFormed edge).2)
  · cases isKernel
  · rcases List.mem_append.mp member with isPredecessor | isOwn
    · have explicit :=
        joins.explicit_of_predecessor assembled.linked isPredecessor
      exact absurd asks.statesRequirement
        (joins.explicit_iff.mpr (.inl explicit)).not_statesRequirement
    · obtain ⟨place, rfl⟩ :=
        Nat.exists_eq_add_of_le (List.mem_range'_1.mp isOwn).1
      rcases joins.asks_iff.mp asks with old | ⟨_, access, isPlace, _, _, rfl⟩
      · exact absurd old.lt not_lt_add
      · cases layout with
        | kernel launched launches own =>
            rw [own access (List.mem_of_getElem? isPlace)]
            rfl
        | copy region window source destination copies both =>
            have equal : operation = .kernel kernel := isKernel
            rw [copies] at equal
            cases equal

theorem Joins.copies
    (joins :
      Joins scenario name before after operation accesses hint predecessors)
    (layout : Layout operation accesses) (assembled : Assembled before)
    {id : NodeId} {node : Node} {copy : Copy}
    (found : after.graph.node? id = some node)
    (isCopy : node.operation = .copy copy) :
    ∃ window reading writing, CopyAccesses after.graph node.requirements copy
      window reading writing := by
  have explicit {id : NodeId} (earlier : Explicit before.graph id) :
      Explicit after.graph id :=
    joins.explicit_iff.mpr (.inl earlier)
  have asks {id : NodeId} {requirement : Requirement} {asked : Option Device}
      (earlier : Asks before.graph id requirement asked) :
      Asks after.graph id requirement asked :=
    joins.asks_iff.mpr (.inl earlier)
  rcases joins.node?_iff.mp found
    with old | ⟨place, access, _, rfl, rfl⟩ | ⟨rfl, rfl⟩
  · obtain ⟨window, reading, writing, accesses⟩ :=
      assembled.staged.copies id node copy old isCopy
    obtain ⟨earlier, shape, allExplicit⟩ := accesses.listed
    exact ⟨window, reading, writing,
      ⟨earlier, shape, fun other member => explicit (allExplicit other member)⟩,
      asks accesses.reads, asks accesses.writes, accesses.region,
      accesses.source, accesses.destination⟩
  · cases isCopy
  · cases layout with
    | kernel kernel launches own =>
        have equal : operation = .copy copy := isCopy
        rw [launches] at equal
        cases equal
    | copy region window source destination copies both =>
        have equal : operation = .copy copy := isCopy
        rw [copies] at equal
        cases equal
        have layout : Layout operation accesses :=
          .copy region window source destination copies both
        refine ⟨window, before.graph.slots.length,
          before.graph.slots.length + 1, ⟨predecessors, ?_, fun other member =>
            explicit (joins.explicit_of_predecessor assembled.linked member)⟩,
          ?_, ?_, rfl, rfl, rfl⟩
        · rw [both]
          rfl
        · exact joins.asks_iff.mpr
            (.inr ⟨0, _, by rw [both]; rfl, rfl, rfl, rfl⟩)
        · exact joins.asks_iff.mpr
            (.inr ⟨1, _, by rw [both]; rfl, rfl, rfl, rfl⟩)

/-- Of two nodes that use one region, one of them to write, one has its
requirement behind the other. -/
theorem Joins.ordered
    (joins :
      Joins scenario name before after operation accesses hint predecessors)
    (assembled : Assembled before)
    {first second firstOwner secondOwner : NodeId}
    {firstRequirement secondRequirement : Requirement}
    {firstHint secondHint : Option Device}
    (asksFirst : Asks after.graph first firstRequirement firstHint)
    (asksSecond : Asks after.graph second secondRequirement secondHint)
    (ownsFirst : after.graph.Requires firstOwner first)
    (ownsSecond : after.graph.Requires secondOwner second)
    (different : firstOwner ≠ secondOwner)
    (sameRegion : firstRequirement.region = secondRequirement.region)
    (writes : firstRequirement.mode.writes = true ∨
      secondRequirement.mode.writes = true) :
    after.graph.DependsOn second firstOwner ∨
    after.graph.DependsOn first secondOwner := by
  rcases joins.asks_iff.mp asksFirst with
    oldFirst | ⟨firstPlace, firstAccess, isFirst, rfl, rfl, _⟩
  · have ownsOldFirst :=
      (joins.requires_old_iff assembled.linked oldFirst).mp ownsFirst
    rcases joins.asks_iff.mp asksSecond with
      oldSecond | ⟨secondPlace, secondAccess, isSecond, rfl, rfl, _⟩
    · have ownsOldSecond :=
        (joins.requires_old_iff assembled.linked oldSecond).mp ownsSecond
      exact (assembled.staged.ordered first second firstRequirement
        secondRequirement firstHint secondHint firstOwner secondOwner oldFirst
        oldSecond ownsOldFirst ownsOldSecond different sameRegion writes).imp
        joins.dependsOn joins.dependsOn
    · exact .inl (joins.dependsOn_user assembled isSecond ownsOldFirst oldFirst
        sameRegion writes)
  · obtain ⟨firstShort, _⟩ := List.getElem?_eq_some_iff.mp isFirst
    have isOwner :=
      (joins.requires_access_iff assembled.linked firstShort).mp ownsFirst
    rcases joins.asks_iff.mp asksSecond with
      oldSecond | ⟨secondPlace, secondAccess, isSecond, rfl, rfl, _⟩
    · have ownsOldSecond :=
        (joins.requires_old_iff assembled.linked oldSecond).mp ownsSecond
      exact .inr (joins.dependsOn_user assembled isFirst ownsOldSecond oldSecond
        sameRegion.symm writes.symm)
    · obtain ⟨secondShort, _⟩ := List.getElem?_eq_some_iff.mp isSecond
      have alsoOwner :=
        (joins.requires_access_iff assembled.linked secondShort).mp ownsSecond
      exact absurd (isOwner.trans alsoOwner.symm) different

theorem Joins.staged
    (joins :
      Joins scenario name before after operation accesses hint predecessors)
    (layout : Layout operation accesses) (assembled : Assembled before) :
    Staged after.graph where
  siblings id explicit := by
    rcases joins.explicit_iff.mp explicit with old | rfl
    · exact joins.siblings_of_lt assembled old
    · exact joins.siblings_joined layout assembled
  kernels _ _ _ found isKernel _ member _ _ asks :=
    joins.kernels layout assembled found isKernel member asks
  copies _ _ _ found isCopy := joins.copies layout assembled found isCopy
  behind id states other edge := by
    apply joins.explicit_iff.mpr
    rcases joins.requires_iff.mp edge
      with old | ⟨_, access, _, _, conflict⟩ | ⟨rfl, _⟩
    · obtain ⟨requirement, asked, asks⟩ := exists_asks states
      have oldAsks :=
        joins.asks_of_lt asks (lt_of_requires assembled.wellFormed old).1
      exact .inl
        (assembled.staged.behind id oldAsks.statesRequirement other old)
    · exact .inl (assembled.linked.explicit_of_conflict conflict)
    · exact absurd states
        (joins.explicit_iff.mpr (.inr rfl)).not_statesRequirement
  owner id states := by
    obtain ⟨requirement, asked, asks⟩ := exists_asks states
    rcases joins.asks_iff.mp asks with old | ⟨place, access, isPlace, rfl, _, _⟩
    · obtain ⟨owner, explicit, only⟩ :=
        assembled.staged.owner id old.statesRequirement
      exact ⟨owner, joins.explicit_iff.mpr (.inl explicit), fun dependent =>
        (joins.requires_old_iff assembled.linked old).trans (only dependent)⟩
    · obtain ⟨short, _⟩ := List.getElem?_eq_some_iff.mp isPlace
      exact ⟨joined before accesses, joins.explicit_iff.mpr (.inr rfl),
        fun dependent => joins.requires_access_iff assembled.linked short⟩
  ordered _ _ _ _ _ _ _ _ asksFirst asksSecond ownsFirst ownsSecond different
      sameRegion writes :=
    joins.ordered assembled asksFirst asksSecond ownsFirst ownsSecond different
      sameRegion writes

end Staged

end CoherentTasks.Scenario
