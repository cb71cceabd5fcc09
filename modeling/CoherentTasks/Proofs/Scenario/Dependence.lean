import CoherentTasks.Proofs.Scenario.Assembly
import CoherentTasks.Proofs.Scenario.Order

/-!
# What a built graph orders

Whatever a scenario says, if its graph can be built, then of two nodes that
access a common buffer and of which one writes, the later one comes behind the
earlier one. The requirements of a node lead to such earlier nodes only, and
each requirement belongs to the access of one node.

Only the last writer of a buffer and the readers since then are known when a
node is added. An older user is reached through the writers that came after it.
-/

namespace CoherentTasks.Scenario

open CoherentTasks.Computation
open CoherentTasks.Geometry (Box)
open CoherentTasks.Graph (Requirement TaskGraph)

variable {sorting : Sorting}

/-- The node accesses the buffer in this mode. A copy reads its buffer and
overwrites it, and accesses nothing else. -/
def NodeEntry.Accesses (node : NodeEntry) (buffer : String)
    (mode : AccessMode) : Prop :=
  match node.copy with
  | some copy => copy.buffer = buffer ∧ (mode = .read ∨ mode = .discardWrite)
  | none => ∃ access ∈ node.access, access.buffer = buffer ∧
      AccessMode.parse access.mode = .ok mode

/-- The node of this name accesses the buffer in this mode. -/
def Accesses (scenario : Scenario) (name buffer : String) (mode : AccessMode) :
    Prop :=
  ∃ node, scenario.nodes.get? name = some node ∧ node.Accesses buffer mode

/-- Both nodes access one buffer, and one of them writes to it. -/
def Clash (scenario : Scenario) (first second : String) : Prop :=
  ∃ buffer earlier later, scenario.Accesses first buffer earlier ∧
    scenario.Accesses second buffer later ∧
    (earlier.writes = true ∨ later.writes = true)

/-- The node accesses the buffer that became the region. -/
def Uses (scenario : Scenario) (buffers : Table String RegionId) (name : String)
    (region : RegionId) (mode : AccessMode) : Prop :=
  ∃ buffer,
    buffers.get? buffer = some region ∧ scenario.Accesses name buffer mode

section Plans

variable {scenario : Scenario} {buffers : Table String RegionId} {name : String}
  {node : NodeEntry} {accesses : List PlannedAccess}

private theorem get?_of_lookUpWindow {buffer : String} {window : WindowEntry}
    {region : RegionId} {box : Box}
    (found :
      scenario.lookUpWindow buffers name buffer window = .ok (region, box)) :
    buffers.get? buffer = some region := by
  simp only [lookUpWindow] at found
  obtain ⟨⟨place, elements⟩, looked, found⟩ := bind_eq_ok_iff.mp found
  have same : place = region := by
    simp only at found
    split at found
    · cases pure_eq_ok_iff.mp found
      rfl
    · cases found
  simp only [lookUpBuffer] at looked
  split at looked
  · rename_i isRegion _
    cases looked
    exact same ▸ isRegion
  · cases looked

/-- Every access that is planned is one of the node. -/
private theorem accesses_of_planned
    (planned : scenario.planAccesses buffers name node = .ok accesses)
    {access : PlannedAccess} (member : access ∈ accesses) :
    ∃ buffer, buffers.get? buffer = some access.requirement.region ∧
      node.Accesses buffer access.requirement.mode := by
  simp only [planAccesses] at planned
  simp only [NodeEntry.Accesses]
  cases isCopy : node.copy with
  | some copy =>
      rw [isCopy] at planned
      obtain ⟨⟨region, window⟩, found, planned⟩ := bind_eq_ok_iff.mp planned
      obtain ⟨source, _, planned⟩ := bind_eq_ok_iff.mp planned
      obtain ⟨destination, _, planned⟩ := bind_eq_ok_iff.mp planned
      rw [← pure_eq_ok_iff.mp planned] at member
      rcases List.mem_pair.mp member with rfl | rfl
      · exact ⟨copy.buffer, get?_of_lookUpWindow found, rfl, .inl rfl⟩
      · exact ⟨copy.buffer, get?_of_lookUpWindow found, rfl, .inr rfl⟩
  | none =>
      rw [isCopy] at planned
      obtain ⟨entry, isEntry, stated⟩ := exists_value_of_mem planned member
      obtain ⟨⟨region, window⟩, found, stated⟩ := bind_eq_ok_iff.mp stated
      obtain ⟨mode, parsed, stated⟩ := bind_eq_ok_iff.mp stated
      rw [← pure_eq_ok_iff.mp stated]
      exact ⟨entry.buffer, get?_of_lookUpWindow found, entry, isEntry, rfl,
        mapError_eq_ok_iff.mp parsed⟩

/-- Every access of the node is planned. -/
private theorem exists_planned
    (planned : scenario.planAccesses buffers name node = .ok accesses)
    {buffer : String} {mode : AccessMode}
    (isAccess : node.Accesses buffer mode) :
    ∃ access ∈ accesses, buffers.get? buffer = some access.requirement.region ∧
      access.requirement.mode = mode := by
  simp only [planAccesses] at planned
  simp only [NodeEntry.Accesses] at isAccess
  cases isCopy : node.copy with
  | some copy =>
      rw [isCopy] at planned isAccess
      obtain ⟨⟨region, window⟩, found, planned⟩ := bind_eq_ok_iff.mp planned
      obtain ⟨source, _, planned⟩ := bind_eq_ok_iff.mp planned
      obtain ⟨destination, _, planned⟩ := bind_eq_ok_iff.mp planned
      rw [← pure_eq_ok_iff.mp planned]
      obtain ⟨rfl, rfl | rfl⟩ := isAccess
      · exact ⟨_, List.mem_pair.mpr (.inl rfl), get?_of_lookUpWindow found, rfl⟩
      · exact ⟨_, List.mem_pair.mpr (.inr rfl), get?_of_lookUpWindow found, rfl⟩
  | none =>
      rw [isCopy] at planned isAccess
      obtain ⟨entry, isEntry, rfl, parses⟩ := isAccess
      obtain ⟨access, member, stated⟩ := exists_result_of_mem planned isEntry
      obtain ⟨⟨region, window⟩, found, stated⟩ := bind_eq_ok_iff.mp stated
      obtain ⟨parsed, again, stated⟩ := bind_eq_ok_iff.mp stated
      have same : parsed = mode := by
        have again := mapError_eq_ok_iff.mp again
        rw [parses] at again
        exact (Except.ok.inj again).symm
      refine ⟨access, member, ?_⟩
      rw [← pure_eq_ok_iff.mp stated]
      exact ⟨get?_of_lookUpWindow found, same⟩

end Plans

/-- Among these names is that of the node, and it uses the region. -/
def UsedBy (scenario : Scenario) (assembly : Assembly) (names : List String)
    (id : NodeId) (region : RegionId) (mode : AccessMode) : Prop :=
  ∃ name ∈ names, assembly.nodes.get? name = some id ∧
    scenario.Uses assembly.buffers name region mode

/-- The requirement is the node's own, and leads to conflicting users of its
region in front of it. -/
structure Owned (scenario : Scenario) (assembly : Assembly)
    (front : List String) (name : String) (id : NodeId)
    (requirement : Requirement) : Prop where
  owner : ∃ owner, assembly.nodes.get? name = some owner ∧
    ∀ dependent, assembly.graph.Requires dependent id ↔ dependent = owner
  used : scenario.Uses assembly.buffers name requirement.region requirement.mode
  behind : ∀ other, assembly.graph.Requires id other →
    ∃ mode, scenario.UsedBy assembly front other requirement.region mode ∧
      (mode.writes = true ∨ requirement.mode.writes = true)

/-- The first node is in the graph, and the second one comes behind it. -/
def Behind (assembly : Assembly) (first second : String) : Prop :=
  ∃ earlier later, assembly.nodes.get? first = some earlier ∧
    assembly.nodes.get? second = some later ∧
    assembly.graph.DependsOn later earlier

/-- No two buffers became the same region. -/
def Distinct (buffers : Table String RegionId) : Prop :=
  ∀ first second region, buffers.get? first = some region →
    buffers.get? second = some region → first = second

/-- After these nodes have joined in turn, the hazards lead to all of them that
use a region and to nobody else, and all that clash are in order. -/
structure Threaded (scenario : Scenario) (done : List String)
    (assembly : Assembly) : Prop where
  linked : Linked assembly
  distinct : Distinct assembly.buffers
  placed : ∀ name ∈ done, ∃ id, assembly.nodes.get? name = some id
  writer : ∀ region id, (assembly.hazardsOf region).writer = some id →
    ∃ mode, mode.writes = true ∧ scenario.UsedBy assembly done id region mode
  readers : ∀ region, ∀ id ∈ (assembly.hazardsOf region).readers,
    ∃ mode, scenario.UsedBy assembly done id region mode
  recalled : ∀ id region mode, scenario.UsedBy assembly done id region mode →
    Recalls assembly.graph (assembly.hazardsOf region) id
  written : ∀ id region mode,
    scenario.UsedBy assembly done id region mode → mode.writes = true →
    ComesAfter assembly.graph (assembly.hazardsOf region) id
  owned : ∀ id requirement hint, Asks assembly.graph id requirement hint →
    ∃ front name back, done = front ++ name :: back ∧
      scenario.Owned assembly front name id requirement
  ordered : done.Pairwise fun first second => scenario.Clash first second →
    Behind assembly first second

section Joins

variable {scenario : Scenario} {name : String} {before after : Assembly}
  {operation : Graph.Operation} {accesses : List PlannedAccess}
  {hint : Option Device} {predecessors : List NodeId} {done : List String}

/-- The node that joins uses a region if one of its accesses was planned for
it. -/
theorem Joins.uses_iff
    (joins :
      Joins scenario name before after operation accesses hint predecessors)
    {region : RegionId} {mode : AccessMode} :
    scenario.Uses after.buffers name region mode ↔ ∃ access ∈ accesses,
      access.requirement.region = region ∧ access.requirement.mode = mode := by
  obtain ⟨node, entry, planned, _⟩ := joins.entry
  rw [joins.buffers]
  constructor
  · intro uses
    obtain ⟨buffer, isRegion, same, isNode, isAccess⟩ := uses
    rw [entry] at isNode
    cases isNode
    obtain ⟨access, member, also, rfl⟩ := exists_planned planned isAccess
    exact ⟨access, member, Option.some.inj (also.symm.trans isRegion), rfl⟩
  · intro given
    obtain ⟨access, member, rfl, rfl⟩ := given
    obtain ⟨buffer, isRegion, isAccess⟩ := accesses_of_planned planned member
    exact ⟨buffer, isRegion, node, entry, isAccess⟩

/-- The other nodes use what they used. -/
theorem Joins.usedBy_iff
    (joins :
      Joins scenario name before after operation accesses hint predecessors)
    {names : List String} (fresh : name ∉ names) {id : NodeId}
    {region : RegionId} {mode : AccessMode} :
    scenario.UsedBy after names id region mode ↔
      scenario.UsedBy before names id region mode := by
  simp only [UsedBy]
  rw [joins.buffers]
  apply exists_congr
  intro other
  apply and_congr_right
  intro member
  rw [joins.get?_other (ne_of_mem_of_not_mem member fresh)]

theorem Joins.usedBy_concat_iff
    (joins :
      Joins scenario name before after operation accesses hint predecessors)
    (fresh : name ∉ done) {id : NodeId} {region : RegionId}
    {mode : AccessMode} :
    scenario.UsedBy after (done ++ [name]) id region mode ↔
      scenario.UsedBy before done id region mode ∨
      (id = joined before accesses ∧
        ∃ access ∈ accesses, access.requirement.region = region ∧
          access.requirement.mode = mode) := by
  rw [← joins.usedBy_iff fresh, ← joins.uses_iff]
  constructor
  · intro used
    obtain ⟨other, member, isNode, uses⟩ := used
    rcases List.mem_append.mp member with old | new
    · exact .inl ⟨other, old, isNode, uses⟩
    · obtain rfl := List.mem_singleton.mp new
      rw [joins.get?_joined] at isNode
      exact .inr ⟨(Option.some.inj isNode).symm, uses⟩
  · intro used
    rcases used with ⟨other, member, isNode, uses⟩ | ⟨rfl, uses⟩
    · exact ⟨other, List.mem_append_left _ member, isNode, uses⟩
    · exact ⟨name, List.mem_append_right _ List.mem_cons_self,
        joins.get?_joined, uses⟩

theorem Threaded.writer_joins (threaded : Threaded scenario done before)
    (fresh : name ∉ done)
    (joins :
      Joins scenario name before after operation accesses hint predecessors)
    {region : RegionId} {id : NodeId}
    (isWriter : (after.hazardsOf region).writer = some id) :
    ∃ mode, mode.writes = true ∧
      scenario.UsedBy after (done ++ [name]) id region mode := by
  rcases writes_or_reads region accesses
    with ⟨access, member, rfl, writes⟩ | reads
  · rw [joins.writer_of_write member writes] at isWriter
    refine ⟨_, writes, (joins.usedBy_concat_iff fresh).mpr (.inr ?_)⟩
    exact ⟨(Option.some.inj isWriter).symm, access, member, rfl, rfl⟩
  · rw [(joins.hazardsOf_of_read reads).1] at isWriter
    obtain ⟨mode, writes, used⟩ := threaded.writer region id isWriter
    exact ⟨mode, writes, (joins.usedBy_concat_iff fresh).mpr (.inl used)⟩

theorem Threaded.readers_joins (threaded : Threaded scenario done before)
    (fresh : name ∉ done)
    (joins :
      Joins scenario name before after operation accesses hint predecessors)
    {region : RegionId} {id : NodeId}
    (isReader : id ∈ (after.hazardsOf region).readers) :
    ∃ mode, scenario.UsedBy after (done ++ [name]) id region mode := by
  have among :
      id ∈ (before.hazardsOf region).readers ∨ (id = joined before accesses ∧
        ∃ access ∈ accesses, access.requirement.region = region) := by
    rcases writes_or_reads region accesses
      with ⟨access, member, here, _⟩ | reads
    · rw [joins.hazardsOf] at isReader
      obtain ⟨_, readers⟩ := Hazards.noteAll_among (before.hazardsOf region)
        (joined before accesses) (modesFor region accesses)
      exact (readers id isReader).symm.imp_right
        fun same => ⟨same, access, member, here⟩
    · apply (((joins.hazardsOf_of_read reads).2 id).mp isReader).imp_right
      intro noted
      obtain ⟨some, same⟩ := noted
      obtain ⟨mode, isMode⟩ := List.exists_mem_of_ne_nil _ some
      obtain ⟨access, member, here, _⟩ := mem_modesFor_iff.mp isMode
      exact ⟨same, access, member, here⟩
  rcases among with old | ⟨same, access, member, here⟩
  · obtain ⟨mode, used⟩ := threaded.readers region id old
    exact ⟨mode, (joins.usedBy_concat_iff fresh).mpr (.inl used)⟩
  · exact ⟨_, (joins.usedBy_concat_iff fresh).mpr
      (.inr ⟨same, access, member, here, rfl⟩)⟩

theorem Threaded.recalled_joins (threaded : Threaded scenario done before)
    (fresh : name ∉ done)
    (joins :
      Joins scenario name before after operation accesses hint predecessors)
    {id : NodeId} {region : RegionId} {mode : AccessMode}
    (used : scenario.UsedBy after (done ++ [name]) id region mode) :
    Recalls after.graph (after.hazardsOf region) id := by
  rcases (joins.usedBy_concat_iff fresh).mp used
    with old | ⟨rfl, access, member, rfl, _⟩
  · apply joins.recalls_old threaded.linked
    exact threaded.recalled id region mode old
  · exact joins.recalls_joined member

theorem Threaded.written_joins (threaded : Threaded scenario done before)
    (fresh : name ∉ done)
    (joins :
      Joins scenario name before after operation accesses hint predecessors)
    {id : NodeId} {region : RegionId} {mode : AccessMode}
    (used : scenario.UsedBy after (done ++ [name]) id region mode)
    (writes : mode.writes = true) :
    ComesAfter after.graph (after.hazardsOf region) id := by
  rcases (joins.usedBy_concat_iff fresh).mp used
    with old | ⟨rfl, access, member, rfl, rfl⟩
  · apply joins.comesAfter_old threaded.linked
    exact threaded.written id region mode old writes
  · exact ⟨_, joins.writer_of_write member writes, .inl rfl⟩

/-- A requirement stays with the node whose it is. -/
theorem Owned.joins {front : List String} {other : String} {id : NodeId}
    {requirement : Requirement}
    (owned : scenario.Owned before front other id requirement)
    (linked : Linked before)
    (joins :
      Joins scenario name before after operation accesses hint predecessors)
    (notFront : name ∉ front) (different : other ≠ name) {asked : Option Device}
    (asks : Asks before.graph id requirement asked) :
    scenario.Owned after front other id requirement where
  owner := by
    obtain ⟨owner, isOwner, only⟩ := owned.owner
    rw [joins.get?_other different]
    exact ⟨owner, isOwner, fun dependent =>
      (joins.requires_old_iff linked asks).trans (only dependent)⟩
  used := by
    rw [joins.buffers]
    exact owned.used
  behind required edge := by
    simp only [TaskGraph.Requires] at edge
    rw [joins.requirementsOf_of_lt asks.lt] at edge
    obtain ⟨mode, used, writes⟩ := owned.behind required edge
    exact ⟨mode, (joins.usedBy_iff notFront).mpr used, writes⟩

/-- A new requirement belongs to the node that joins, and leads to users that
joined before. -/
theorem Threaded.owned_joined (threaded : Threaded scenario done before)
    (fresh : name ∉ done)
    (joins :
      Joins scenario name before after operation accesses hint predecessors)
    {place : Nat} {access : PlannedAccess}
    (isPlace : accesses[place]? = some access) :
    scenario.Owned after done name (before.graph.slots.length + place)
      access.requirement := by
  obtain ⟨short, _⟩ := List.getElem?_eq_some_iff.mp isPlace
  refine ⟨⟨_, joins.get?_joined, fun dependent =>
    joins.requires_access_iff threaded.linked short⟩, ?_, ?_⟩
  · exact joins.uses_iff.mpr ⟨access, List.mem_of_getElem? isPlace, rfl, rfl⟩
  · intro other edge
    rcases joins.requires_iff.mp edge
      with old | ⟨also, same, isAlso, equal, conflict⟩ | ⟨equal, _⟩
    · exact absurd (lt_of_requires threaded.linked.wellFormed old).1 not_lt_add
    · obtain rfl := Nat.add_left_cancel equal
      rw [isPlace] at isAlso
      cases isAlso
      rcases Hazards.mem_conflicts_iff.mp conflict
        with isWriter | ⟨writes, isReader⟩
      · obtain ⟨mode, writes, used⟩ := threaded.writer _ _ isWriter
        exact ⟨mode, (joins.usedBy_iff fresh).mpr used, .inl writes⟩
      · obtain ⟨mode, used⟩ := threaded.readers _ _ isReader
        exact ⟨mode, (joins.usedBy_iff fresh).mpr used, .inr writes⟩
    -- Other edges of the graph lead from the node itself, not from its
    -- requirements.
    · exact absurd (Nat.add_left_cancel equal) (Nat.ne_of_lt short)

theorem Threaded.owned_joins (threaded : Threaded scenario done before)
    (fresh : name ∉ done)
    (joins :
      Joins scenario name before after operation accesses hint predecessors)
    {id : NodeId} {requirement : Requirement} {asked : Option Device}
    (asks : Asks after.graph id requirement asked) :
    ∃ front owner back, done ++ [name] = front ++ owner :: back ∧
      scenario.Owned after front owner id requirement := by
  rcases joins.asks_iff.mp asks with old | ⟨place, access, isPlace, rfl, rfl, _⟩
  · obtain ⟨front, owner, back, rfl, owned⟩ :=
      threaded.owned id requirement asked old
    refine ⟨front, owner, back ++ [name], by simp,
      owned.joins threaded.linked joins ?_ ?_ old⟩
    · exact fun member => fresh (List.mem_append_left _ member)
    · exact fun same =>
        fresh (same ▸ List.mem_append_right _ List.mem_cons_self)
  · exact ⟨done, name, [], rfl, threaded.owned_joined fresh joins isPlace⟩

theorem Behind.joins {first second : String}
    (behind : Behind before first second)
    (joins :
      Joins scenario name before after operation accesses hint predecessors)
    (notFirst : first ≠ name) (notSecond : second ≠ name) :
    Behind after first second := by
  obtain ⟨earlier, later, isFirst, isSecond, reached⟩ := behind
  refine ⟨earlier, later, ?_, ?_, joins.dependsOn reached⟩
  · rwa [joins.get?_other notFirst]
  · rwa [joins.get?_other notSecond]

/-- The node that joins comes behind all that it clashes with. -/
theorem Threaded.behind_joined (threaded : Threaded scenario done before)
    (fresh : name ∉ done)
    (joins :
      Joins scenario name before after operation accesses hint predecessors)
    {first : String} (member : first ∈ done)
    (clash : scenario.Clash first name) : Behind after first name := by
  obtain ⟨buffer, earlierMode, laterMode, earlierAccess,
      ⟨node, isNode, laterAccess⟩, writes⟩ := clash
  obtain ⟨_, entry, planned, _⟩ := joins.entry
  rw [entry] at isNode
  cases isNode
  obtain ⟨access, isAccess, isRegion, rfl⟩ := exists_planned planned laterAccess
  obtain ⟨place, isPlace⟩ := List.getElem?_of_mem isAccess
  obtain ⟨short, _⟩ := List.getElem?_eq_some_iff.mp isPlace
  obtain ⟨id, isFirst⟩ := threaded.placed first member
  have used :
      scenario.UsedBy before done id access.requirement.region earlierMode :=
    ⟨first, member, isFirst, buffer, isRegion, earlierAccess⟩
  refine ⟨id, joined before accesses, ?_, joins.get?_joined, ?_⟩
  · rwa [joins.get?_other (ne_of_mem_of_not_mem member fresh)]
  · apply Relation.TransGen.head
      ((joins.requires_access_iff threaded.linked short).mpr rfl)
    -- The earlier node may be forgotten by now, but then the last writer comes
    -- behind it.
    apply joins.dependsOn_recalled isPlace (threaded.recalled _ _ _ used)
    exact writes.imp_left (threaded.written _ _ _ used)

/-- One more node keeps everything in order. -/
theorem Threaded.joins (threaded : Threaded scenario done before)
    (fresh : name ∉ done)
    (joins :
      Joins scenario name before after operation accesses hint predecessors) :
    Threaded scenario (done ++ [name]) after where
  linked := threaded.linked.joins joins
  distinct := joins.buffers ▸ threaded.distinct
  placed other member := by
    rcases List.mem_append.mp member with old | new
    · rw [joins.get?_other (ne_of_mem_of_not_mem old fresh)]
      exact threaded.placed other old
    · rw [List.mem_singleton.mp new]
      exact ⟨_, joins.get?_joined⟩
  writer _ _ isWriter := threaded.writer_joins fresh joins isWriter
  readers _ _ isReader := threaded.readers_joins fresh joins isReader
  recalled _ _ _ used := threaded.recalled_joins fresh joins used
  written _ _ _ used writes := threaded.written_joins fresh joins used writes
  owned _ _ _ asks := threaded.owned_joins fresh joins asks
  ordered := by
    rw [List.pairwise_append]
    refine ⟨?_, List.pairwise_singleton _ _, ?_⟩
    · apply threaded.ordered.imp_of_mem
      intro first second isFirst isSecond behind clash
      exact (behind clash).joins joins (ne_of_mem_of_not_mem isFirst fresh)
        (ne_of_mem_of_not_mem isSecond fresh)
    · intro first member second isLast clash
      obtain rfl := List.mem_singleton.mp isLast
      exact threaded.behind_joined fresh joins member clash

end Joins

section Build

variable {scenario : Scenario}

/-- A new buffer becomes a region that no other buffer became. -/
theorem Distinct.insert {buffers : Table String RegionId}
    (distinct : Distinct buffers) {length : Nat}
    (below : ∀ name region, buffers.get? name = some region → region < length)
    (name : String) : Distinct (buffers.insert name length) := by
  intro first second region isFirst isSecond
  rw [Table.get?_insert] at isFirst isSecond
  split at isFirst <;> split at isSecond
  · rename_i same also
    exact same.trans also.symm
  · cases isFirst
    exact absurd (below second length isSecond) (Nat.lt_irrefl _)
  · cases isSecond
    exact absurd (below first length isFirst) (Nat.lt_irrefl _)
  · exact distinct first second region isFirst isSecond

/-- Every buffer becomes a region of its own. -/
private theorem distinct_addBuffers {graph : TaskGraph}
    {buffers : Table String RegionId}
    (added : scenario.addBuffers = .ok (graph, buffers)) :
    Distinct buffers := by
  have kept :
      (∀ name region,
        buffers.get? name = some region → region < graph.regions.length) ∧
      Distinct buffers := by
    refine foldlM_keeps
      (fun state : TaskGraph × Table String RegionId => (∀ name region,
        state.2.get? name = some region → region < state.1.regions.length) ∧
        Distinct state.2)
      ?_ ?_ added
    · intro state entry next _ kept stepped
      obtain ⟨graph, buffers⟩ := state
      obtain ⟨name, buffer⟩ := entry
      obtain ⟨below, distinct⟩ := kept
      simp only at stepped
      split at stepped
      · cases stepped
      · rw [← pure_eq_ok_iff.mp stepped]
        refine ⟨fun other region found => ?_, distinct.insert below name⟩
        simp only [TaskGraph.addRegion]
        rw [Table.get?_insert] at found
        rw [List.length_append, List.length_singleton]
        split at found
        · cases found
          exact Nat.lt_succ_self _
        · exact Nat.lt_succ_of_lt (below other region found)
    · refine ⟨fun name region found => ?_, fun first second region found => ?_⟩
      · cases found
      · cases found
  exact kept.2

private theorem threaded_empty {graph : TaskGraph}
    {buffers : Table String RegionId} (noNodes : graph.slots = [])
    (wellFormed : graph.WellFormed) (distinct : Distinct buffers) :
    Threaded scenario [] ⟨graph, buffers, .empty, .empty⟩ where
  linked := linked_empty buffers wellFormed
  distinct := distinct
  placed _ member := absurd member List.not_mem_nil
  writer region id isWriter := by cases isWriter
  readers _ _ isReader := absurd isReader List.not_mem_nil
  recalled _ _ _ used := absurd used.choose_spec.1 List.not_mem_nil
  written _ _ _ used := absurd used.choose_spec.1 List.not_mem_nil
  owned _ _ _ asks := by
    obtain ⟨_, found, _⟩ := asks
    rw [node?_eq_none noNodes] at found
    cases found
  ordered := .nil

theorem threaded_of_build {built : BuiltGraph}
    (topological : sorting.Topological)
    (builds : scenario.buildBy sorting = .ok built) :
    ∃ hazards, Threaded scenario built.order
      ⟨built.graph, built.buffers, built.nodes, hazards⟩ := by
  apply reached_of_build (Threaded scenario) topological builds
  · intro graph buffers added
    obtain ⟨noNodes, wellFormed, _⟩ := addBuffers_ok added
    exact threaded_empty noNodes wellFormed (distinct_addBuffers added)
  · exact fun _ _ _ _ _ _ _ _ fresh _ joins threaded =>
      threaded.joins fresh joins

/-- Of two nodes that clash, the later one in the order comes behind the earlier
one. A requirement belongs to one access of one node; it leads to nodes in front
of that one only, each of which accesses the same buffer, and one of the two
accesses writes. -/
theorem clashes_ordered {built : BuiltGraph} (topological : sorting.Topological)
    (builds : scenario.buildBy sorting = .ok built) :
    built.order.Nodup ∧
    (built.order.Pairwise fun first second => scenario.Clash first second →
      ∃ earlier later, built.nodes.get? first = some earlier ∧
        built.nodes.get? second = some later ∧
        built.graph.DependsOn later earlier) ∧
    ∀ id requirement hint, Asks built.graph id requirement hint →
      ∃ front name back owner buffer, built.order = front ++ name :: back ∧
        built.nodes.get? name = some owner ∧
        (∀ dependent, built.graph.Requires dependent id ↔ dependent = owner) ∧
        built.buffers.get? buffer = some requirement.region ∧
        scenario.Accesses name buffer requirement.mode ∧
        ∀ other, built.graph.Requires id other →
          ∃ earlier ∈ front, built.nodes.get? earlier = some other ∧
            ∃ mode, scenario.Accesses earlier buffer mode ∧
              (mode.writes = true ∨ requirement.mode.writes = true) := by
  obtain ⟨hazards, threaded⟩ := threaded_of_build topological builds
  obtain ⟨_, _, _, _, ordered, _⟩ := build_ok builds
  refine ⟨nodup_submissionOrder topological ordered, threaded.ordered, ?_⟩
  intro id requirement hint asks
  obtain ⟨front, name, back, split, owned⟩ :=
    threaded.owned id requirement hint asks
  obtain ⟨owner, isOwner, only⟩ := owned.owner
  obtain ⟨buffer, isRegion, isAccess⟩ := owned.used
  refine ⟨front, name, back, owner, buffer, split, isOwner, only, isRegion,
    isAccess, ?_⟩
  intro other edge
  obtain ⟨mode,
      ⟨earlier, member, isNode, also, isAlso, earlierAccess⟩, writes⟩ :=
    owned.behind other edge
  obtain rfl := threaded.distinct also buffer requirement.region isAlso isRegion
  exact ⟨earlier, member, isNode, mode, earlierAccess, writes⟩

end Build

/-- A kernel that accesses a whole buffer. -/
def launching (device mode : String) : NodeEntry :=
  ⟨some "k", none, some device, none, [], [⟨"A", mode, ⟨none, none⟩⟩]⟩

/-- A kernel overwrites a buffer, a copy takes it to another device, and a
kernel reads it there. -/
def relayed : Scenario where
  alignment := 64
  devices := .ofList [("cuda:0", .standard), ("host:0", .standard)]
  buffers := .ofList [("A", ⟨4, [4], none⟩)]
  nodes :=
    .ofList [("write", launching "host:0" "discard_write"), ("move",
      ⟨none, some ⟨"A", "host:0", "cuda:0", ⟨none, none⟩⟩, none, none, [], []⟩),
      ("check", launching "cuda:0" "read")]

def relayedGraph : BuiltGraph :=
  relayed.build.toOption.getD ⟨.empty, .empty, .empty, []⟩

/-- The requirement of the reader leads to the copy, and through it to the
kernel that wrote first. -/
theorem clashes_ordered_relayed :
    Sorting.Topological Precedence.sort ∧
    relayed.buildBy Precedence.sort = .ok relayedGraph ∧
    relayedGraph.order = ["write", "move", "check"] ∧
    relayed.Clash "write" "check" ∧ relayedGraph.graph.requirementsOf 6 = [5] ∧
    relayedGraph.graph.requirementsOf 5 = [4] ∧
    relayedGraph.graph.DependsOn 6 1 := by
  have builds : relayed.buildBy Precedence.sort = .ok relayedGraph :=
    eq_ok_getD (by decide +kernel) _
  have order : relayedGraph.order = ["write", "move", "check"] := by
    decide +kernel
  have accesses {name : String} {parsed : AccessMode} (device mode : String)
      (entry : relayed.nodes.get? name = some (launching device mode))
      (parses : AccessMode.parse mode = .ok parsed) :
      relayed.Accesses name "A" parsed :=
    ⟨_, entry, _, List.mem_singleton_self _, rfl, parses⟩
  have clash : relayed.Clash "write" "check" := by
    refine ⟨"A", .discardWrite, .read, ?_, ?_, .inl rfl⟩
    · apply accesses "host:0" "discard_write" <;> decide +kernel
    · apply accesses "cuda:0" "read" <;> decide +kernel
  obtain ⟨_, ordered, _⟩ := clashes_ordered topological_sort builds
  rw [order] at ordered
  obtain ⟨earlier, later, isFirst, isSecond, reached⟩ :=
    (List.pairwise_cons.mp ordered).1 "check" (by decide) clash
  have first : relayedGraph.nodes.get? "write" = some 1 := by decide +kernel
  have second : relayedGraph.nodes.get? "check" = some 6 := by decide +kernel
  rw [first] at isFirst
  rw [second] at isSecond
  cases isFirst
  cases isSecond
  exact ⟨topological_sort, builds, order, clash, by decide +kernel,
    by decide +kernel, reached⟩

end CoherentTasks.Scenario
