import CoherentTasks.Proofs.Scenario.Enrolment
import CoherentTasks.Proofs.Submission.Windows

/-!
# What has to come before a node

A node of a scenario has to come behind the nodes that it names in `after`, and
behind earlier nodes that it clashes with. The graph says the same along its
requirement edges, although it knows a clash only through the last writer of a
buffer and the readers since then. So the plan for one node contains it together
with exactly those that chains of such reasons put in front of it.
-/

namespace CoherentTasks.Scenario

open CoherentTasks.Backend (Registry)
open CoherentTasks.Computation
open CoherentTasks.Graph (Requirement TaskGraph)
open CoherentTasks.Submission

variable {sorting : Sorting}

/-- The first name stands in front of the second one. -/
def StandsBefore (order : List String) (first second : String) : Prop :=
  ∃ front back, order = front ++ second :: back ∧ first ∈ front

/-- The second node names the first one in `after`, or clashes with it and is
later in the order. -/
def Precedes (scenario : Scenario) (order : List String)
    (first second : String) : Prop :=
  (∃ node, scenario.nodes.get? second = some node ∧ first ∈ node.after) ∨
    (StandsBefore order first second ∧ scenario.Clash first second)

/-- A chain of `after` entries and clashes leads from the first node to the
second one. -/
def MustPrecede (scenario : Scenario) (order : List String) :
    String → String → Prop :=
  Relation.TransGen (scenario.Precedes order)

/-- The node requires those that its entry in the scenario is to come after, and
otherwise nothing but statements of requirements. -/
def Entered (scenario : Scenario) (nodes : Table String NodeId)
    (graph : TaskGraph) (name : String) (id : NodeId) : Prop :=
  ∃ node, scenario.nodes.get? name = some node ∧
    (∀ earlier ∈ node.after, ∃ required, nodes.get? earlier = some required ∧
      graph.Requires id required) ∧
    ∀ required, graph.Requires id required → StatesRequirement graph required ∨
      ∃ earlier ∈ node.after, nodes.get? earlier = some required

/-- Every name stands for a node that requires what its entry says. -/
structure Faithful (scenario : Scenario) (done : List String)
    (nodes : Table String NodeId) (graph : TaskGraph) : Prop where
  enrolled : Enrolled nodes done graph
  entered :
    ∀ name id, nodes.get? name = some id → Entered scenario nodes graph name id

section Joins

variable {scenario : Scenario} {name : String} {before after : Assembly}
  {operation : Graph.Operation} {accesses : List PlannedAccess}
  {hint : Option Device} {predecessors : List NodeId} {done : List String}

/-- A name that stood for a node when another one joined still stands for it. -/
theorem Enrolled.get?_joins (enrolled : Enrolled before.nodes done before.graph)
    (fresh : name ∉ done)
    (joins :
      Joins scenario name before after operation accesses hint predecessors)
    {other : String} {id : NodeId} (named : before.nodes.get? other = some id) :
    after.nodes.get? other = some id := by
  have listed := (enrolled.listed other id named).1
  rw [joins.get?_other (ne_of_mem_of_not_mem listed fresh)]
  exact named

theorem Entered.joins {other : String} {id : NodeId}
    (entered : Entered scenario before.nodes before.graph other id)
    (enrolled : Enrolled before.nodes done before.graph) (fresh : name ∉ done)
    (joins :
      Joins scenario name before after operation accesses hint predecessors)
    (named : before.nodes.get? other = some id) :
    Entered scenario after.nodes after.graph other id := by
  obtain ⟨node, entry, forward, backward⟩ := entered
  have old : id < before.graph.slots.length :=
    (enrolled.listed other id named).2.lt
  refine ⟨node, entry, fun earlier member => ?_, fun required edge => ?_⟩
  · obtain ⟨required, isRequired, edge⟩ := forward earlier member
    exact ⟨required, enrolled.get?_joins fresh joins isRequired,
      joins.requires_iff.mpr (.inl edge)⟩
  · simp only [TaskGraph.Requires] at edge
    rw [joins.requirementsOf_of_lt old] at edge
    rcases backward required edge
      with ⟨other, requirement, found, operation⟩ | listed
    · exact .inl
        ⟨other, requirement, joins.node?_iff.mpr (.inl found), operation⟩
    · obtain ⟨earlier, member, isRequired⟩ := listed
      exact .inr ⟨earlier, member, enrolled.get?_joins fresh joins isRequired⟩

theorem Enrolled.entered_joined
    (enrolled : Enrolled before.nodes done before.graph) (fresh : name ∉ done)
    (joins :
      Joins scenario name before after operation accesses hint predecessors)
    (linked : Linked before) :
    Entered scenario after.nodes after.graph name (joined before accesses) := by
  obtain ⟨node, entry, looked⟩ := joins.follows
  refine ⟨node, entry, fun earlier member => ?_, fun required edge => ?_⟩
  · obtain ⟨required, isPredecessor, isBuilt⟩ :=
      exists_result_of_mem looked member
    have isRequired := builtDependency_eq_ok_iff.mp isBuilt
    exact ⟨required, enrolled.get?_joins fresh joins isRequired,
      joins.requires_iff.mpr (.inr (.inr ⟨rfl, .inl isPredecessor⟩))⟩
  · rcases joins.requires_iff.mp edge with
      old | ⟨place, access, isPlace, same, _⟩ |
        ⟨_, isPredecessor | ⟨place, short, rfl⟩⟩
    · exact absurd (lt_of_requires linked.wellFormed old).1 not_lt_add
    · obtain ⟨short, _⟩ := List.getElem?_eq_some_iff.mp isPlace
      exact absurd (Nat.add_left_cancel same) (Nat.ne_of_gt short)
    · obtain ⟨earlier, member, isBuilt⟩ :=
        exists_value_of_mem looked isPredecessor
      exact .inr ⟨earlier, member,
        enrolled.get?_joins fresh joins (builtDependency_eq_ok_iff.mp isBuilt)⟩
    · have asks := joins.asks_iff.mpr (.inr
        ⟨place, accesses[place], List.getElem?_eq_getElem short, rfl, rfl, rfl⟩)
      exact .inl asks.statesRequirement

theorem Faithful.joins
    (faithful : Faithful scenario done before.nodes before.graph)
    (fresh : name ∉ done)
    (joins :
      Joins scenario name before after operation accesses hint predecessors)
    (linked : Linked before) :
    Faithful scenario (done ++ [name]) after.nodes after.graph where
  enrolled := faithful.enrolled.joins fresh joins
  entered other id named := by
    rcases joins.cases_of_get? named with ⟨rfl, rfl⟩ | old
    · exact faithful.enrolled.entered_joined fresh joins linked
    · exact (faithful.entered other id old).joins faithful.enrolled fresh
        joins old

end Joins

section Build

variable {scenario : Scenario}

private theorem faithful_of_build {built : BuiltGraph}
    (topological : sorting.Topological)
    (builds : scenario.buildBy sorting = .ok built) :
    Faithful scenario built.order built.nodes built.graph := by
  obtain ⟨_, faithful⟩ := reached_of_build
    (fun done assembly => Faithful scenario done assembly.nodes assembly.graph)
    topological builds (fun _ _ added =>
      ⟨enrolled_empty (addBuffers_ok added).1, fun _ _ named => by cases named⟩)
    (fun _ _ _ _ _ _ _ _ fresh linked joins faithful =>
      faithful.joins fresh joins linked)
  exact faithful

/-- The node of the graph is the one of this name, or a requirement of its
own. -/
def BelongsTo (assembly : Assembly) (id : NodeId) (name : String) : Prop :=
  assembly.nodes.get? name = some id ∨
  StatesRequirement assembly.graph id ∧ ∃ owner,
    assembly.nodes.get? name = some owner ∧ assembly.graph.Requires owner id

section Chains

variable {done : List String} {assembly : Assembly}

/-- The requirement of a node leads to others that the node clashes with and
that stand in front of it. -/
theorem Threaded.precedes_of_requires
    (threaded : Threaded scenario done assembly)
    (faithful : Faithful scenario done assembly.nodes assembly.graph)
    {id owner next : NodeId} {name : String}
    (states : StatesRequirement assembly.graph id)
    (named : assembly.nodes.get? name = some owner)
    (owns : assembly.graph.Requires owner id)
    (edge : assembly.graph.Requires id next) :
    ∃ other, assembly.nodes.get? other = some next ∧
      scenario.Precedes done other name := by
  obtain ⟨requirement, hint, asks⟩ := exists_asks states
  obtain ⟨front, holder, back, shape, owned⟩ :=
    threaded.owned id requirement hint asks
  obtain ⟨place, isPlace, only⟩ := owned.owner
  obtain rfl := (only owner).mp owns
  obtain rfl := faithful.enrolled.injective isPlace named
  obtain ⟨mode, ⟨other, member, isNext, buffer, isRegion, accesses⟩, writes⟩ :=
    owned.behind next edge
  obtain ⟨own, isOwn, ownAccesses⟩ := owned.used
  obtain rfl := threaded.distinct own buffer requirement.region isOwn isRegion
  exact ⟨other, isNext, .inr ⟨⟨front, back, shape, member⟩, own, mode,
    requirement.mode, accesses, ownAccesses, writes⟩⟩

/-- An edge stays with a name, or it leads from it to one that precedes it. -/
theorem Threaded.belongsTo_of_requires
    (threaded : Threaded scenario done assembly)
    (faithful : Faithful scenario done assembly.nodes assembly.graph)
    {id next : NodeId} {name : String} (belongs : BelongsTo assembly id name)
    (edge : assembly.graph.Requires id next) :
    (StatesRequirement assembly.graph next ∧ BelongsTo assembly next name) ∨
    ∃ other, assembly.nodes.get? other = some next ∧
      scenario.Precedes done other name := by
  rcases belongs with named | ⟨states, owner, named, owns⟩
  · obtain ⟨node, entry, _, backward⟩ := faithful.entered name id named
    rcases backward next edge with states | ⟨other, member, isNext⟩
    · exact .inl ⟨states, .inr ⟨states, id, named, edge⟩⟩
    · exact .inr ⟨other, isNext, .inl ⟨node, entry, member⟩⟩
  · exact .inr (threaded.precedes_of_requires faithful states named owns edge)

/-- What a node depends on, among kernels and copies, has to come before it. -/
theorem Threaded.mustPrecede_of_dependsOn
    (threaded : Threaded scenario done assembly)
    (faithful : Faithful scenario done assembly.nodes assembly.graph)
    {first second : String} {earlier later : NodeId}
    (isFirst : assembly.nodes.get? first = some earlier)
    (belongs : BelongsTo assembly later second)
    (reached : assembly.graph.DependsOn later earlier) :
    scenario.MustPrecede done first second := by
  have explicit := (faithful.enrolled.listed first earlier isFirst).2
  induction reached
    using Relation.TransGen.head_induction_on generalizing second with
  | single edge =>
      rcases threaded.belongsTo_of_requires faithful belongs edge with
        ⟨states, _⟩ | ⟨other, isOther, precedes⟩
      · exact absurd states explicit.not_statesRequirement
      · obtain rfl := faithful.enrolled.injective isFirst isOther
        exact .single precedes
  | head edge _ induction =>
      rcases threaded.belongsTo_of_requires faithful belongs edge with
        ⟨_, stays⟩ | ⟨other, isOther, precedes⟩
      · exact induction stays
      · exact .tail (induction (.inl isOther)) precedes

theorem Threaded.dependsOn_of_precedes
    (threaded : Threaded scenario done assembly)
    (faithful : Faithful scenario done assembly.nodes assembly.graph)
    {first second : String} {later : NodeId}
    (isSecond : assembly.nodes.get? second = some later)
    (precedes : scenario.Precedes done first second) :
    ∃ earlier, assembly.nodes.get? first = some earlier ∧
      assembly.graph.DependsOn later earlier := by
  rcases precedes
    with ⟨node, entry, member⟩ | ⟨⟨front, back, shape, member⟩, clash⟩
  · obtain ⟨other, isEntry, forward, _⟩ :=
      faithful.entered second later isSecond
    rw [entry] at isEntry
    cases isEntry
    obtain ⟨required, isRequired, edge⟩ := forward first member
    exact ⟨required, isRequired, .single edge⟩
  · have ordered := threaded.ordered
    rw [shape, List.pairwise_append] at ordered
    obtain ⟨earlier, place, isFirst, isPlace, reached⟩ :=
      ordered.2.2 first member second List.mem_cons_self clash
    rw [isSecond] at isPlace
    cases isPlace
    exact ⟨earlier, isFirst, reached⟩

end Chains

/-- A node depends on exactly those kernels and copies that have to come before
it. -/
private theorem mustPrecede_iff {built : BuiltGraph}
    (topological : sorting.Topological)
    (builds : scenario.buildBy sorting = .ok built) {first second : String}
    {later : NodeId} (isSecond : built.nodes.get? second = some later) :
    scenario.MustPrecede built.order first second ↔
      ∃ earlier, built.nodes.get? first = some earlier ∧
        built.graph.DependsOn later earlier := by
  obtain ⟨_, threaded⟩ := threaded_of_build topological builds
  have faithful := faithful_of_build topological builds
  constructor
  · intro chain
    induction chain generalizing later with
    | single precedes =>
        exact threaded.dependsOn_of_precedes faithful isSecond precedes
    | tail _ precedes induction =>
        obtain ⟨between, isBetween, reached⟩ :=
          threaded.dependsOn_of_precedes faithful isSecond precedes
        obtain ⟨earlier, isFirst, further⟩ := induction isBetween
        exact ⟨earlier, isFirst, reached.trans further⟩
  · intro given
    obtain ⟨earlier, isFirst, reached⟩ := given
    exact threaded.mustPrecede_of_dependsOn faithful isFirst
      (.inl isSecond) reached

end Build

/-- The run is one of the graph that was built, however far it has come. -/
structure Run.Presents (built : BuiltGraph) (run : Run) : Prop where
  nodes : run.nodes = built.nodes
  order : run.order = built.order
  sameNodes : built.graph.SameNodes run.scheduler.graph
  wellFormed : run.scheduler.graph.WellFormed

section Plans

variable {scenario : Scenario} {built : BuiltGraph} {run next : Run}

private theorem wellFormed_of_build (topological : sorting.Topological)
    (builds : scenario.buildBy sorting = .ok built) :
    built.graph.WellFormed := by
  obtain ⟨_, threaded⟩ := threaded_of_build topological builds
  exact threaded.linked.wellFormed

private theorem presents_of_prepareOn {registry : Registry} {simulated : Bool}
    (topological : sorting.Topological)
    (prepares : scenario.prepareOnBy sorting registry simulated = .ok run) :
    ∃ built, scenario.buildBy sorting = .ok built ∧ run.Presents built := by
  obtain ⟨built, builds, seeded, nodes, order⟩ := prepareOn_ok prepares
  exact ⟨built, builds, nodes, order, seeded.sameNodes,
    (wellFormed_of_build topological builds).later seeded.sameNodes
      seeded.regions⟩

/-- Neither submissions nor completions change what the run is one of. -/
theorem Run.Presents.proceeds (presents : run.Presents built)
    {summary : Summary} (proceeds : run.Proceeds next summary) :
    next.Presents built := by
  induction proceeds with
  | start => exact presents
  | submit name _ submits induction =>
      obtain ⟨id, _, rfl, _⟩ := submitNode_ok submits
      have submitted : Submits id _ _ _ := submits_submit induction.wellFormed
      obtain ⟨same, grow⟩ := submitted.grows
      exact ⟨induction.nodes, induction.order, induction.sameNodes.trans same,
        induction.wellFormed.later same grow⟩
  | complete fired _ induction =>
      exact ⟨induction.nodes, induction.order, induction.sameNodes,
        induction.wellFormed⟩

theorem Run.Presents.enrolled (presents : run.Presents built)
    (topological : sorting.Topological)
    (builds : scenario.buildBy sorting = .ok built) :
    Enrolled run.nodes run.order run.scheduler.graph := by
  rw [presents.nodes, presents.order]
  exact (faithful_of_build topological builds).enrolled.of_sameNodes
    presents.sameNodes

/-- The plan for a node of a scenario has exactly the node and those that have
to come before it, each once and in the order of the whole plan. Whatever has to
come before a planned node is planned before it. -/
theorem plan_exact (topological : sorting.Topological)
    (builds : scenario.buildBy sorting = .ok built)
    (presents : run.Presents built) {name : String} {entry : NodeEntry}
    (known : scenario.nodes.get? name = some entry) :
    run.plan none = .ok built.order ∧ ∃ plan, run.plan (some name) = .ok plan ∧
      plan.Sublist built.order ∧ plan.Nodup ∧ (∀ other, other ∈ plan ↔
        other = name ∨ scenario.MustPrecede built.order other name) ∧
      ∀ front planned back, plan = front ++ planned :: back → ∀ earlier,
        scenario.MustPrecede built.order earlier planned → earlier ∈ front := by
  have enrolled := (faithful_of_build topological builds).enrolled
  obtain ⟨_, _, _, _, ordered, _⟩ := build_ok builds
  have listed : name ∈ built.order := by
    apply ((submissionOrder_ok topological ordered).1 name).mpr
    exact .inl (List.mem_map_of_mem (Table.mem_of_get?_eq_some known))
  obtain ⟨root, isRoot⟩ := enrolled.placed name listed
  have isRunRoot : run.nodes.get? name = some root := presents.nodes ▸ isRoot
  obtain ⟨plan, planned, sublist, members⟩ := plan_of_some isRunRoot
  rw [presents.order] at sublist
  rw [presents.order, presents.nodes, ← presents.sameNodes.dependsOn] at members
  refine ⟨congrArg Except.ok presents.order, plan, planned, sublist,
    (nodup_submissionOrder topological ordered).sublist sublist,
    fun other => ?_, ?_⟩
  · rw [members, mustPrecede_iff topological builds isRoot]
    constructor
    · intro wanted
      obtain ⟨_, id, isOther, rfl | reached⟩ := wanted
      · exact .inl (enrolled.injective isOther isRoot)
      · exact .inr ⟨id, isOther, reached⟩
    · intro wanted
      rcases wanted with rfl | ⟨id, isOther, reached⟩
      · exact ⟨listed, root, isRoot, .inl rfl⟩
      · exact ⟨(enrolled.listed other id isOther).1, id, isOther, .inr reached⟩
  · intro front between back shape earlier precedes
    have inOrder : between ∈ built.order :=
      sublist.subset (shape ▸ List.mem_append_right _ List.mem_cons_self)
    obtain ⟨id, isBetween⟩ := enrolled.placed between inOrder
    obtain ⟨place, isEarlier, reached⟩ :=
      (mustPrecede_iff topological builds isBetween).mp precedes
    have runEnrolled := presents.enrolled topological builds
    obtain ⟨again, plannedAgain, complete⟩ :=
      complete_of_plan runEnrolled fun other (same : some name = some other) =>
        ⟨root, Option.some.inj same ▸ isRunRoot⟩
    rw [planned] at plannedAgain
    cases plannedAgain
    have isNamed : run.nodes.get? earlier = some place :=
      presents.nodes ▸ isEarlier
    obtain ⟨other, inFront, isOther⟩ :=
      complete.mem_done runEnrolled presents.wellFormed shape
        (presents.nodes ▸ isBetween)
        (runEnrolled.listed earlier place isNamed).2
        (presents.sameNodes.dependsOn ▸ reached)
    exact runEnrolled.injective isNamed isOther ▸ inFront

end Plans

/-- A kernel on the host that accesses one whole buffer. -/
def onHost (after : List String) (buffer mode : String) : NodeEntry :=
  ⟨some "k", none, some "host:0", none, after, [⟨buffer, mode, ⟨none, none⟩⟩]⟩

/-- A buffer is filled after another one was written, and two kernels read one
of them each. -/
def branching : Scenario where
  alignment := 64
  devices := .ofList [("host:0", .standard)]
  buffers := .ofList [("A", ⟨4, [4], none⟩), ("B", ⟨4, [4], some "host:0"⟩)]
  nodes :=
    .ofList [("check", onHost [] "A" "read"),
      ("fill", onHost ["write"] "B" "discard_write"),
      ("save", onHost [] "B" "read"), ("write", onHost [] "A" "discard_write")]

def branchingGraph : BuiltGraph :=
  branching.build.toOption.getD ⟨.empty, .empty, .empty, []⟩

/-- When all of `branching` was submitted, the plan for the kernel that fills
has the one that it names and the one that reads what it overwrites, but not the
reader of the other buffer. -/
theorem plan_branching :
    Sorting.Topological Precedence.sort ∧
    branching.buildBy Precedence.sort = .ok branchingGraph ∧
    branching.submitted.1.Presents branchingGraph ∧
    branchingGraph.order = ["write", "save", "fill", "check"] ∧
    branching.submitted.1.plan (some "fill") = .ok ["write", "save", "fill"] ∧
    branching.MustPrecede branchingGraph.order "save" "fill" ∧
    ¬ branching.MustPrecede branchingGraph.order "check" "fill" := by
  have builds : branching.buildBy Precedence.sort = .ok branchingGraph :=
    eq_ok_getD (by decide +kernel) _
  have prepares :
      branching.prepareOnBy Precedence.sort recordingBackends false =
        .ok branching.recorded :=
    eq_ok_getD (by decide +kernel) _
  have submits : branching.recorded.submitAll none = .ok branching.submitted :=
    eq_ok_getD (by decide +kernel) _
  obtain ⟨built, also, presents⟩ :=
    presents_of_prepareOn topological_sort prepares
  rw [builds] at also
  cases also
  have presents := presents.proceeds (proceeds_of_submitAll submits)
  have known :
      branching.nodes.get? "fill" =
        some (onHost ["write"] "B" "discard_write") := by
    decide +kernel
  have planned :
      branching.submitted.1.plan (some "fill") =
        .ok ["write", "save", "fill"] := by
    decide +kernel
  obtain ⟨_, plan, isPlan, _, _, members, _⟩ :=
    plan_exact topological_sort builds presents known
  rw [planned] at isPlan
  cases isPlan
  refine ⟨topological_sort, builds, presents, by decide +kernel, planned, ?_,
    fun chain => ?_⟩
  · exact ((members "save").mp (by decide)).resolve_left (by decide)
  · exact absurd ((members "check").mpr (.inr chain)) (by decide)

end CoherentTasks.Scenario
