import CoherentTasks.Proofs.Scenario.Joining
import CoherentTasks.Proofs.Scenario.Order

/-!
# Assembled graphs are staged

The hazards of every region lead to the node that has joined, as they led to the
earlier users. So each node of a scenario finds the assembly in good order, and
the graph that is built for a validated scenario is staged.
-/

namespace CoherentTasks.Scenario

open CoherentTasks.Coherence (Region)
open CoherentTasks.Computation
open CoherentTasks.Geometry (Triple)
open CoherentTasks.Graph (Node Operation Requirement TaskGraph)
open CoherentTasks.Submission

variable {sorting : Sorting}

section Hazards

variable {scenario : Scenario} {name : String} {before after : Assembly}
  {operation : Operation} {accesses : List PlannedAccess} {hint : Option Device}
  {predecessors : List NodeId}

theorem Joins.hazardsOf
    (joins :
      Joins scenario name before after operation accesses hint predecessors)
    (region : RegionId) :
    after.hazardsOf region = (before.hazardsOf region).noteAll
      (joined before accesses) (modesFor region accesses) := by
  simp only [Assembly.hazardsOf]
  rw [joins.hazards]
  exact get?_noteAccesses _ _ _ _

/-- After an access that writes, the new node is the last writer. -/
theorem Joins.writer_of_write
    (joins :
      Joins scenario name before after operation accesses hint predecessors)
    {access : PlannedAccess} (member : access ∈ accesses)
    (writes : access.requirement.mode.writes = true) :
    (after.hazardsOf access.requirement.region).writer =
      some (joined before accesses) := by
  rw [joins.hazardsOf]
  exact Hazards.writer_noteAll_of_write
    (mem_modesFor_iff.mpr ⟨access, member, rfl, rfl⟩) writes

/-- After an access that writes, the last writer comes behind all earlier
users. -/
theorem Joins.comesAfter_of_write
    (joins :
      Joins scenario name before after operation accesses hint predecessors)
    (linked : Linked before) {access : PlannedAccess}
    (member : access ∈ accesses)
    (writes : access.requirement.mode.writes = true) {user : NodeId}
    (recalled :
      Recalls before.graph (before.hazardsOf access.requirement.region) user) :
    ComesAfter after.graph
      (after.hazardsOf access.requirement.region) user := by
  refine ⟨_, joins.writer_of_write member writes, .inr ?_⟩
  obtain ⟨place, isPlace⟩ := List.getElem?_of_mem member
  obtain ⟨short, _⟩ := List.getElem?_eq_some_iff.mp isPlace
  apply Relation.TransGen.head
    ((joins.requires_access_iff linked short).mpr rfl)
  exact joins.dependsOn_recalled isPlace recalled (.inr writes)

/-- Without an access that writes, the last writer stays, and so do the
readers. -/
theorem Joins.hazardsOf_of_read
    (joins :
      Joins scenario name before after operation accesses hint predecessors)
    {region : RegionId}
    (reads : ∀ access ∈ accesses, access.requirement.region = region →
      access.requirement.mode.writes = false) :
    (after.hazardsOf region).writer = (before.hazardsOf region).writer ∧
    ∀ user, user ∈ (after.hazardsOf region).readers ↔
      user ∈ (before.hazardsOf region).readers ∨
      (modesFor region accesses ≠ [] ∧ user = joined before accesses) := by
  rw [joins.hazardsOf]
  apply Hazards.noteAll_of_read
  intro mode member
  obtain ⟨access, isAccess, here, rfl⟩ := mem_modesFor_iff.mp member
  exact reads access isAccess here

/-- Some access to the region writes, or none does. -/
theorem writes_or_reads (region : RegionId) (accesses : List PlannedAccess) :
    (∃ access ∈ accesses, access.requirement.region = region ∧
        access.requirement.mode.writes = true) ∨
      ∀ access ∈ accesses, access.requirement.region = region →
        access.requirement.mode.writes = false := by
  by_cases reads : ∀ access ∈ accesses, access.requirement.region = region →
      access.requirement.mode.writes = false
  · exact .inr reads
  · push Not at reads
    obtain ⟨access, member, here, writes⟩ := reads
    exact .inl ⟨access, member, here, by simpa using writes⟩

/-- The hazards still lead from the last writer to what they led to. -/
theorem Joins.comesAfter_old
    (joins :
      Joins scenario name before after operation accesses hint predecessors)
    (linked : Linked before) {region : RegionId} {user : NodeId}
    (comes : ComesAfter before.graph (before.hazardsOf region) user) :
    ComesAfter after.graph (after.hazardsOf region) user := by
  rcases writes_or_reads region accesses
    with ⟨access, member, rfl, writes⟩ | reads
  · exact joins.comesAfter_of_write linked member writes (.inr comes)
  · obtain ⟨writer, isWriter, reaches⟩ := comes
    exact ⟨writer, (joins.hazardsOf_of_read reads).1.trans isWriter,
      reaches.imp_right joins.dependsOn⟩

/-- The hazards still remember whom they remembered. -/
theorem Joins.recalls_old
    (joins :
      Joins scenario name before after operation accesses hint predecessors)
    (linked : Linked before) {region : RegionId} {user : NodeId}
    (recalled : Recalls before.graph (before.hazardsOf region) user) :
    Recalls after.graph (after.hazardsOf region) user := by
  rcases writes_or_reads region accesses
    with ⟨access, member, rfl, writes⟩ | reads
  · exact .inr (joins.comesAfter_of_write linked member writes recalled)
  · apply recalled.imp
    · exact fun reader =>
        ((joins.hazardsOf_of_read reads).2 user).mpr (.inl reader)
    · exact joins.comesAfter_old linked

/-- The new node is remembered for each of its accesses, and as the last writer
if one writes. -/
theorem Joins.recalls_joined
    (joins :
      Joins scenario name before after operation accesses hint predecessors)
    {access : PlannedAccess} (member : access ∈ accesses) :
    Recalls after.graph (after.hazardsOf access.requirement.region)
      (joined before accesses) := by
  rcases writes_or_reads access.requirement.region accesses with
    ⟨other, isAccess, same, writes⟩ | reads
  · exact .inr ⟨_, same ▸ joins.writer_of_write isAccess writes, .inl rfl⟩
  · left
    apply ((joins.hazardsOf_of_read reads).2 _).mpr
    exact .inr
      ⟨List.ne_nil_of_mem (mem_modesFor_iff.mpr ⟨access, member, rfl, rfl⟩),
        rfl⟩

theorem Joins.writers
    (joins :
      Joins scenario name before after operation accesses hint predecessors)
    (assembled : Assembled before) {owner id : NodeId}
    {requirement : Requirement} {asked : Option Device}
    (owns : after.graph.Requires owner id)
    (asks : Asks after.graph id requirement asked)
    (writes : requirement.mode.writes = true) :
    ComesAfter after.graph (after.hazardsOf requirement.region) owner := by
  rcases joins.asks_iff.mp asks with old | ⟨place, access, isPlace, rfl, rfl, _⟩
  · have ownsOld := (joins.requires_old_iff assembled.linked old).mp owns
    apply joins.comesAfter_old assembled.linked
    exact assembled.writers owner id requirement asked ownsOld old writes
  · obtain ⟨short, _⟩ := List.getElem?_eq_some_iff.mp isPlace
    rw [(joins.requires_access_iff assembled.linked short).mp owns]
    exact ⟨_,
      joins.writer_of_write (List.mem_of_getElem? isPlace) writes, .inl rfl⟩

theorem Joins.users
    (joins :
      Joins scenario name before after operation accesses hint predecessors)
    (assembled : Assembled before) {owner id : NodeId}
    {requirement : Requirement} {asked : Option Device}
    (owns : after.graph.Requires owner id)
    (asks : Asks after.graph id requirement asked) :
    Recalls after.graph (after.hazardsOf requirement.region) owner := by
  rcases joins.asks_iff.mp asks with old | ⟨place, access, isPlace, rfl, rfl, _⟩
  · have ownsOld := (joins.requires_old_iff assembled.linked old).mp owns
    apply joins.recalls_old assembled.linked
    exact assembled.users owner id requirement asked ownsOld old
  · obtain ⟨short, _⟩ := List.getElem?_eq_some_iff.mp isPlace
    rw [(joins.requires_access_iff assembled.linked short).mp owns]
    exact joins.recalls_joined (List.mem_of_getElem? isPlace)

theorem Linked.joins (linked : Linked before)
    (joins :
      Joins scenario name before after operation accesses hint predecessors) :
    Linked after where
  wellFormed := joins.wellFormed
  named other id looked := by
    apply joins.explicit_iff.mpr
    rcases joins.cases_of_get? looked with ⟨_, isJoined⟩ | old
    · exact .inr isJoined
    · exact .inl (linked.named other id old)
  known region id user := by
    obtain ⟨writer, readers⟩ := Hazards.noteAll_among (before.hazardsOf region)
      (joined before accesses) (modesFor region accesses)
    rw [joins.hazardsOf] at user
    apply joins.explicit_iff.mpr
    rcases user with isWriter | isReader
    · rcases writer with isNew | isOld
      · rw [isNew] at isWriter
        exact .inr (Option.some.inj isWriter).symm
      · rw [isOld] at isWriter
        exact .inl (linked.known region id (.inl isWriter))
    · rcases readers id isReader with isNew | isOld
      · exact .inr isNew
      · exact .inl (linked.known region id (.inr isOld))

/-- One more node keeps everything as it should be. -/
theorem Assembled.joins (assembled : Assembled before)
    (joins :
      Joins scenario name before after operation accesses hint predecessors)
    (layout : Layout operation accesses) : Assembled after where
  wellFormed := joins.wellFormed
  bare place device position holds :=
    assembled.bare place device position
      ((TaskGraph.holds_of_regions joins.appends.regions).mp holds)
  staged := joins.staged layout assembled
  fresh id node found := by
    rcases joins.node?_iff.mp found
      with old | ⟨place, access, _, _, rfl⟩ | ⟨_, rfl⟩
    · exact assembled.fresh id node old
    · exact ⟨rfl, rfl⟩
    · exact ⟨rfl, rfl⟩
  named := (assembled.linked.joins joins).named
  known := (assembled.linked.joins joins).known
  writers _ _ _ _ owns asks writes := joins.writers assembled owns asks writes
  users _ _ _ _ owns asks := joins.users assembled owns asks

end Hazards

section Build

variable {scenario : Scenario}

private theorem bare_addRegion {graph : TaskGraph} (bare : Bare graph)
    (name : String) (range : Triple) (elementSize : Nat) :
    Bare (graph.addRegion name range elementSize) := by
  intro place device position holds
  obtain ⟨region, found, valid⟩ := holds
  rw [TaskGraph.region?_addRegion] at found
  split at found
  · cases found
    obtain ⟨allocation, isAllocation, _⟩ := Region.mem_validOn_iff.mp valid
    cases isAllocation
  · exact bare place device position ⟨region, found, valid⟩

theorem addBuffers_ok {graph : TaskGraph} {buffers : Table String RegionId}
    (added : scenario.addBuffers = .ok (graph, buffers)) :
    graph.slots = [] ∧ graph.WellFormed ∧ Bare graph := by
  refine foldlM_keeps
    (fun state => state.1.slots = [] ∧ state.1.WellFormed ∧ Bare state.1) ?_
    ?_ added
  · intro built entry next _ kept stepped
    obtain ⟨graph, buffers⟩ := built
    obtain ⟨name, buffer⟩ := entry
    obtain ⟨noNodes, wellFormed, bare⟩ := kept
    simp only at stepped
    split at stepped
    · cases stepped
    · rw [← pure_eq_ok_iff.mp stepped]
      exact ⟨noNodes, wellFormed.addRegion _ _ _, bare_addRegion bare _ _ _⟩
  · refine ⟨rfl, TaskGraph.wellFormed_empty, ?_⟩
    intro place device position holds
    obtain ⟨region, found, _⟩ := holds
    cases found

theorem node?_eq_none {graph : TaskGraph} (noNodes : graph.slots = [])
    (id : NodeId) : graph.node? id = none := by
  simp only [TaskGraph.node?]
  rw [noNodes]
  rfl

theorem linked_empty {graph : TaskGraph} (buffers : Table String RegionId)
    (wellFormed : graph.WellFormed) :
    Linked ⟨graph, buffers, .empty, .empty⟩ where
  wellFormed := wellFormed
  named name id looked := by cases looked
  known region id user := by rcases user with writer | reader <;> contradiction

/-- An assembly without nodes. -/
private theorem assembled_empty {graph : TaskGraph}
    {buffers : Table String RegionId} (noNodes : graph.slots = [])
    (wellFormed : graph.WellFormed) (bare : Bare graph) :
    Assembled ⟨graph, buffers, .empty, .empty⟩ := by
  have absent {id : NodeId} {node : Node} (found : graph.node? id = some node) :
      False := by
    rw [node?_eq_none noNodes] at found
    cases found
  have noAsks {id : NodeId} {requirement : Requirement} {asked : Option Device}
      (asks : Asks graph id requirement asked) : False :=
    absent asks.choose_spec.1
  exact {
    wellFormed := wellFormed
    bare := bare
    staged := {
      siblings := fun id explicit => (absent explicit.choose_spec.1).elim
      kernels := fun id node kernel found => (absent found).elim
      copies := fun id node copy found => (absent found).elim
      behind := fun id states => (absent states.choose_spec.choose_spec.1).elim
      owner := fun id states => (absent states.choose_spec.choose_spec.1).elim
      ordered := fun _ _ _ _ _ _ _ _ asks => (noAsks asks).elim }
    fresh := fun id node found => (absent found).elim
    named := (linked_empty buffers wellFormed).named
    known := (linked_empty buffers wellFormed).known
    writers := fun _ _ _ _ _ asks => (noAsks asks).elim
    users := fun _ _ _ _ _ asks => (noAsks asks).elim }

/-- The nodes join in their order, after the buffers. -/
theorem build_ok {built : BuiltGraph}
    (builds : scenario.buildBy sorting = .ok built) :
    ∃ graph buffers hazards, scenario.addBuffers = .ok (graph, buffers) ∧
      scenario.submissionOrder sorting = .ok built.order ∧ built.order.foldlM
        scenario.addScenarioNode ⟨graph, buffers, .empty, .empty⟩ =
        .ok ⟨built.graph, built.buffers, built.nodes, hazards⟩ := by
  simp only [buildBy] at builds
  obtain ⟨⟨graph, buffers⟩, added, builds⟩ := bind_eq_ok_iff.mp builds
  obtain ⟨order, ordered, builds⟩ := bind_eq_ok_iff.mp builds
  obtain ⟨assembly, folded, builds⟩ := bind_eq_ok_iff.mp builds
  cases pure_eq_ok_iff.mp builds
  exact ⟨graph, buffers, assembly.hazards, mapError_eq_ok_iff.mp added,
    ordered, folded⟩

/-- What holds before any node and is kept up by every node that joins, in its
turn, holds of the graph that is built. -/
theorem reached_of_build {built : BuiltGraph}
    (Reached : List String → Assembly → Prop)
    (topological : sorting.Topological)
    (builds : scenario.buildBy sorting = .ok built)
    (initially : ∀ graph buffers, scenario.addBuffers = .ok (graph, buffers) →
      Reached [] ⟨graph, buffers, .empty, .empty⟩)
    (each : ∀ done name before after operation accesses hint predecessors,
      name ∉ done → Linked before →
      Joins scenario name before after operation accesses hint predecessors →
      Reached done before → Reached (done ++ [name]) after) :
    ∃ hazards, Reached built.order
      ⟨built.graph, built.buffers, built.nodes, hazards⟩ := by
  obtain ⟨graph, buffers, hazards, added, ordered, folded⟩ := build_ok builds
  obtain ⟨_, wellFormed, _⟩ := addBuffers_ok added
  have reached := foldlM_along (fun done (assembly : Assembly) =>
    Linked assembly ∧ Reached done assembly) ?_
    ⟨linked_empty buffers wellFormed, initially graph buffers added⟩ folded
  · exact ⟨hazards, reached.2⟩
  · intro done name rest assembly next shape reached stepped
    obtain ⟨linked, reached⟩ := reached
    obtain ⟨operation, accesses, hint, predecessors, joins⟩ :=
      joins_of_addScenarioNode linked.wellFormed stepped
    have distinct : (done ++ name :: rest).Nodup :=
      shape ▸ nodup_submissionOrder topological ordered
    have fresh : name ∉ done := fun member =>
      List.disjoint_of_nodup_append distinct member List.mem_cons_self
    refine ⟨linked.joins joins, ?_⟩
    exact each done name assembly next operation accesses hint predecessors
      fresh linked joins reached

/-- The graph of a validated scenario is staged, and nothing was done in it. -/
theorem assembled_of_build (valid : scenario.validateBy sorting = .ok ())
    {built : BuiltGraph} (topological : sorting.Topological)
    (builds : scenario.buildBy sorting = .ok built) :
    ∃ hazards,
      Assembled ⟨built.graph, built.buffers, built.nodes, hazards⟩ := by
  apply reached_of_build (fun _ assembly => Assembled assembly)
    topological builds
  · intro graph buffers added
    obtain ⟨noNodes, wellFormed, bare⟩ := addBuffers_ok added
    exact assembled_empty noNodes wellFormed bare
  · intro _ name before after operation accesses hint predecessors _ _
      joins assembled
    obtain ⟨node, entry, planned, made⟩ := joins.entry
    apply assembled.joins joins
    apply layout_of_doesOneThing _ planned made
    exact doesOneThing_of_validate valid (Table.mem_of_get?_eq_some entry)

end Build

end CoherentTasks.Scenario
