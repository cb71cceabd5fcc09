import CoherentTasks.Proofs.Submission.Run
import Mathlib.Data.List.Basic

/-!
# Staged graphs

In the graph of a scenario every requirement belongs to one kernel or copy, and
comes behind other kernels and copies only. Accesses of different owners that
conflict are ordered. A submission of a kernel or copy therefore settles its own
requirements, in the order in which they are listed, and nothing else.
-/

namespace CoherentTasks.Scenario

open CoherentTasks.Geometry (Box)
open CoherentTasks.Graph (Copy Requirement TaskGraph)
open CoherentTasks.Submission

/-- The node of this number is a kernel or a copy. -/
def Explicit (graph : TaskGraph) (id : NodeId) : Prop :=
  ∃ node, graph.node? id = some node ∧ node.operation.isRequirement = false

/-- The node of this number states a requirement and asks for a device. -/
def Asks (graph : TaskGraph) (id : NodeId) (requirement : Requirement)
    (hint : Option Device) : Prop :=
  ∃ node, graph.node? id = some node ∧
    node.operation = .requirement requirement ∧ node.hint = hint

/-- Two requirements of one node, in their order, are for the same device,
except that a copy reads on one device before it overwrites on another. -/
def Siblings (graph : TaskGraph) (earlier later : NodeId) : Prop :=
  ∀ first second firstHint secondHint,
    Asks graph earlier first firstHint → Asks graph later second secondHint →
    earlier ≠ later ∧ (firstHint = secondHint ∨
      (first.mode = .read ∧ second.mode = .discardWrite))

/-- The requirements of a copy: it reads its window at the source and overwrites
it at the destination. -/
structure CopyAccesses (graph : TaskGraph) (requirements : List NodeId)
    (copy : Copy) (window : Box) (reading writing : NodeId) : Prop where
  listed : ∃ earlier, requirements = earlier ++ [reading, writing] ∧
    ∀ other ∈ earlier, Explicit graph other
  reads : Asks graph reading ⟨copy.source.region, window, .read⟩
    (some copy.source.device)
  writes : Asks graph writing ⟨copy.source.region, window, .discardWrite⟩
    (some copy.destination.device)
  region : copy.destination.region = copy.source.region
  source : copy.sourceBox = window
  destination : copy.destinationBox = window

/-- How kernels, copies and requirements are arranged in the graph of a
scenario. -/
structure Staged (graph : TaskGraph) : Prop where
  siblings : ∀ id,
    Explicit graph id → (graph.requirementsOf id).Pairwise (Siblings graph)
  kernels : ∀ id node kernel, graph.node? id = some node →
    node.operation = .kernel kernel → ∀ other ∈ node.requirements,
      ∀ requirement hint, Asks graph other requirement hint → hint = node.hint
  copies : ∀ id node copy, graph.node? id = some node →
    node.operation = .copy copy → ∃ window reading writing,
      CopyAccesses graph node.requirements copy window reading writing
  behind : ∀ id, StatesRequirement graph id →
    ∀ other, graph.Requires id other → Explicit graph other
  owner : ∀ id, StatesRequirement graph id → ∃ owner, Explicit graph owner ∧
    ∀ dependent, graph.Requires dependent id ↔ dependent = owner
  ordered : ∀ first second firstRequirement secondRequirement firstHint
      secondHint firstOwner secondOwner,
    Asks graph first firstRequirement firstHint →
    Asks graph second secondRequirement secondHint →
    graph.Requires firstOwner first → graph.Requires secondOwner second →
    firstOwner ≠ secondOwner →
    firstRequirement.region = secondRequirement.region →
    (firstRequirement.mode.writes = true ∨
      secondRequirement.mode.writes = true) →
    graph.DependsOn second firstOwner ∨ graph.DependsOn first secondOwner

section SameNodes

variable {graph other : TaskGraph} {id : NodeId}

theorem Explicit.of_sameNodes (same : graph.SameNodes other)
    (explicit : Explicit graph id) : Explicit other id := by
  obtain ⟨node, found, operation⟩ := explicit
  obtain ⟨counterpart, isNode, unchanged, _⟩ := same.node found
  exact ⟨counterpart, isNode, unchanged ▸ operation⟩

theorem Asks.of_sameNodes (same : graph.SameNodes other)
    {requirement : Requirement} {hint : Option Device}
    (asks : Asks graph id requirement hint) :
    Asks other id requirement hint := by
  obtain ⟨node, found, operation, hinted⟩ := asks
  obtain ⟨counterpart, isNode, unchanged, _, sameHint⟩ := same.node found
  exact ⟨counterpart, isNode, unchanged.trans operation, sameHint.trans hinted⟩

theorem Siblings.of_sameNodes (same : graph.SameNodes other)
    {earlier later : NodeId} (siblings : Siblings graph earlier later) :
    Siblings other earlier later :=
  fun first second firstHint secondHint asksFirst asksSecond =>
    siblings first second firstHint secondHint
      (asksFirst.of_sameNodes same.symm) (asksSecond.of_sameNodes same.symm)

theorem CopyAccesses.of_sameNodes (same : graph.SameNodes other)
    {requirements : List NodeId} {copy : Copy} {window : Box}
    {reading writing : NodeId}
    (accesses : CopyAccesses graph requirements copy window reading writing) :
    CopyAccesses other requirements copy window reading writing where
  listed := by
    obtain ⟨earlier, shape, explicit⟩ := accesses.listed
    exact ⟨earlier, shape,
      fun id member => (explicit id member).of_sameNodes same⟩
  reads := accesses.reads.of_sameNodes same
  writes := accesses.writes.of_sameNodes same
  region := accesses.region
  source := accesses.source
  destination := accesses.destination

theorem Staged.of_sameNodes (staged : Staged graph)
    (same : graph.SameNodes other) : Staged other where
  siblings id explicit := by
    rw [← same.requirementsOf]
    exact (staged.siblings id (explicit.of_sameNodes same.symm)).imp
      (·.of_sameNodes same)
  kernels id node kernel found launches required member requirement hint
      asks := by
    obtain ⟨counterpart, isNode, operation, requirements, sameHint⟩ :=
      same.symm.node found
    rw [← sameHint]
    exact staged.kernels id counterpart kernel isNode (operation.trans launches)
      required (requirements ▸ member) requirement hint
      (asks.of_sameNodes same.symm)
  copies id node copy found moves := by
    obtain ⟨counterpart, isNode, operation, requirements, _⟩ :=
      same.symm.node found
    obtain ⟨window, reading, writing, accesses⟩ :=
      staged.copies id counterpart copy isNode (operation.trans moves)
    rw [← requirements]
    exact ⟨window, reading, writing, accesses.of_sameNodes same⟩
  behind id states required edge :=
    (staged.behind id (states.of_sameNodes same.symm) required
      (same.requires ▸ edge)).of_sameNodes same
  owner id states := by
    obtain ⟨owner, explicit, only⟩ :=
      staged.owner id (states.of_sameNodes same.symm)
    exact ⟨owner, explicit.of_sameNodes same,
      fun dependent => same.requires ▸ only dependent⟩
  ordered first second firstRequirement secondRequirement firstHint secondHint
      firstOwner secondOwner asksFirst asksSecond ownsFirst ownsSecond different
      sameRegion writes := by
    rw [← same.dependsOn]
    exact staged.ordered first second firstRequirement secondRequirement
      firstHint secondHint firstOwner secondOwner
      (asksFirst.of_sameNodes same.symm) (asksSecond.of_sameNodes same.symm)
      (same.requires ▸ ownsFirst) (same.requires ▸ ownsSecond) different
      sameRegion writes

end SameNodes

section Kinds

variable {graph : TaskGraph} {id : NodeId} {requirement : Requirement}
  {hint : Option Device}

theorem Asks.statesRequirement (asks : Asks graph id requirement hint) :
    StatesRequirement graph id := by
  obtain ⟨node, found, operation, _⟩ := asks
  exact ⟨node, requirement, found, operation⟩

theorem exists_asks (states : StatesRequirement graph id) :
    ∃ requirement hint, Asks graph id requirement hint := by
  obtain ⟨node, requirement, found, operation⟩ := states
  exact ⟨requirement, node.hint, node, found, operation, rfl⟩

theorem Asks.unique {other : Requirement} {otherHint : Option Device}
    (asks : Asks graph id requirement hint)
    (again : Asks graph id other otherHint) :
    requirement = other ∧ hint = otherHint := by
  obtain ⟨node, found, operation, hinted⟩ := asks
  obtain ⟨same, isNode, sameOperation, sameHint⟩ := again
  rw [found] at isNode
  cases isNode
  rw [operation] at sameOperation
  cases sameOperation
  exact ⟨rfl, hinted.symm.trans sameHint⟩

theorem Explicit.not_statesRequirement (explicit : Explicit graph id) :
    ¬ StatesRequirement graph id := by
  obtain ⟨node, found, operation⟩ := explicit
  intro stated
  obtain ⟨other, requirement, isNode, states⟩ := stated
  rw [found] at isNode
  cases isNode
  rw [states] at operation
  cases operation

/-- A requirement is listed before another node among the requirements of a
node. -/
def ListedBefore (graph : TaskGraph) (root first second : NodeId) : Prop :=
  ∃ earlier later,
    graph.requirementsOf root = earlier ++ second :: later ∧ first ∈ earlier

theorem listedBefore_trichotomy {root first second : NodeId}
    (isFirst : graph.Requires root first)
    (isSecond : graph.Requires root second) :
    first = second ∨ ListedBefore graph root first second ∨
    ListedBefore graph root second first := by
  simp only [TaskGraph.Requires] at isFirst isSecond
  simp only [ListedBefore]
  obtain ⟨earlier, later, shape⟩ := List.append_of_mem isSecond
  rw [shape] at isFirst
  rcases List.mem_append.mp isFirst with before | after
  · exact .inr (.inl ⟨earlier, later, shape, before⟩)
  · rcases List.mem_cons.mp after with same | behind
    · exact .inl same
    · obtain ⟨middle, rest, shapeLater⟩ := List.append_of_mem behind
      refine .inr (.inr ⟨earlier ++ second :: middle, rest, ?_, ?_⟩)
      · rw [shape, shapeLater, List.append_assoc, List.cons_append]
      · exact List.mem_append_right _ List.mem_cons_self

theorem ListedBefore.requires {root first second : NodeId}
    (listed : ListedBefore graph root first second) :
    graph.Requires root first ∧ graph.Requires root second := by
  obtain ⟨earlier, later, shape, member⟩ := listed
  simp only [TaskGraph.Requires]
  rw [shape]
  exact ⟨List.mem_append_left _ member,
    List.mem_append_right _ List.mem_cons_self⟩

theorem Staged.siblings_of_listedBefore (staged : Staged graph)
    {root first second : NodeId} (explicit : Explicit graph root)
    (listed : ListedBefore graph root first second) :
    Siblings graph first second := by
  obtain ⟨earlier, later, shape, member⟩ := listed
  have pairwise := staged.siblings root explicit
  rw [shape] at pairwise
  exact (List.pairwise_append.mp pairwise).2.2 first member second
    List.mem_cons_self

theorem ListedBefore.of_sameNodes {other : TaskGraph}
    (same : graph.SameNodes other) {root first second : NodeId}
    (listed : ListedBefore graph root first second) :
    ListedBefore other root first second := by
  simp only [ListedBefore] at *
  rw [← same.requirementsOf root]
  exact listed

/-- A requirement is listed only once. -/
theorem Staged.split_unique (staged : Staged graph) {root : NodeId}
    (explicit : Explicit graph root) (states : StatesRequirement graph id)
    {earlier later before after : List NodeId}
    (shape : graph.requirementsOf root = earlier ++ id :: later)
    (again : graph.requirementsOf root = before ++ id :: after) :
    earlier = before ∧ later = after := by
  obtain ⟨requirement, hint, asks⟩ := exists_asks states
  have pairwise := staged.siblings root explicit
  rw [shape] at pairwise
  obtain ⟨_, laterPairwise, across⟩ := List.pairwise_append.mp pairwise
  have notEarlier : id ∉ earlier := fun member =>
    (across id member id List.mem_cons_self _ _ _ _ asks asks).1 rfl
  have notLater : id ∉ later := fun member =>
    ((List.pairwise_cons.mp laterPairwise).1 id member _ _ _ _ asks asks).1 rfl
  obtain ⟨front, _, back⟩ :=
    (List.append_cons_inj_of_notMem notEarlier notLater).mp
      (shape.symm.trans again)
  exact ⟨front, back⟩

theorem Staged.listedBefore_asymm (staged : Staged graph)
    {root first second : NodeId} (explicit : Explicit graph root)
    (isFirst : StatesRequirement graph first)
    (isSecond : StatesRequirement graph second)
    (listed : ListedBefore graph root first second) :
    ¬ ListedBefore graph root second first := by
  intro reversed
  obtain ⟨before, after, again, memberSecond⟩ := reversed
  obtain ⟨earlier, later, shape, memberFirst⟩ := listed
  obtain ⟨front, middle, rfl⟩ := List.append_of_mem memberSecond
  have regrouped :
      graph.requirementsOf root =
        front ++ second :: (middle ++ first :: after) := by
    rw [again, List.append_assoc, List.cons_append]
  obtain ⟨rfl, rfl⟩ := staged.split_unique explicit isSecond shape regrouped
  obtain ⟨requirement, hint, asks⟩ := exists_asks isFirst
  have pairwise := staged.siblings root explicit
  rw [shape] at pairwise
  have both := (List.pairwise_append.mp pairwise).2.2 first memberFirst first
    (List.mem_cons_of_mem _ (List.mem_append_right _ List.mem_cons_self))
  exact (both _ _ _ _ asks asks).1 rfl

/-- A requirement settled for an explicit node is one of its own, and all that
are listed before it were submitted. -/
theorem Staged.own_requirement (staged : Staged graph) {root : NodeId}
    (explicit : Explicit graph root) (states : StatesRequirement graph id)
    (inTurn : InTurn graph root id) :
    graph.Requires root id ∧
    ∀ other, ListedBefore graph root other id → graph.Submitted other := by
  rcases inTurn with rfl | ⟨parent, earlier, later, directs, shape, submitted⟩
  · exact absurd states explicit.not_statesRequirement
  · have requires : graph.Requires parent id := by
      simp only [TaskGraph.Requires]
      rw [shape]
      exact List.mem_append_right _ List.mem_cons_self
    have isRoot : parent = root := by
      rcases directs with same | isRequirement
      · exact same
      · exact absurd states
          (staged.behind parent isRequirement id requires).not_statesRequirement
    subst isRoot
    refine ⟨requires, ?_⟩
    intro other listedBefore
    obtain ⟨before, after, again, member⟩ := listedBefore
    obtain ⟨rfl, _⟩ := staged.split_unique explicit states shape again
    exact submitted other member

section Copies

variable {root : NodeId} {copy : Copy} {window : Box} {reading writing : NodeId}

theorem CopyAccesses.aligned {requirements : List NodeId}
    (accesses : CopyAccesses graph requirements copy window reading writing) :
    copy.source.offset = copy.destination.offset :=
  congrArg Box.offset (accesses.source.trans accesses.destination.symm)

theorem CopyAccesses.requires
    (accesses : CopyAccesses graph (graph.requirementsOf root) copy window
      reading writing) :
    graph.Requires root reading ∧ graph.Requires root writing := by
  obtain ⟨earlier, shape, _⟩ := accesses.listed
  simp only [TaskGraph.Requires]
  rw [shape]
  exact ⟨List.mem_append_right _ List.mem_cons_self,
    List.mem_append_right _ (List.mem_cons_of_mem _ List.mem_cons_self)⟩

/-- A copy has no other requirements than these two. -/
theorem CopyAccesses.eq_or_eq
    (accesses : CopyAccesses graph (graph.requirementsOf root) copy window
      reading writing)
    (required : graph.Requires root id) (states : StatesRequirement graph id) :
    id = reading ∨ id = writing := by
  obtain ⟨earlier, shape, explicit⟩ := accesses.listed
  simp only [TaskGraph.Requires] at required
  rw [shape] at required
  rcases List.mem_append.mp required with isEarlier | isOwn
  · exact absurd states (explicit id isEarlier).not_statesRequirement
  · exact List.mem_pair.mp isOwn

/-- No requirement is listed before the one that reads. -/
theorem CopyAccesses.reads_first
    (accesses : CopyAccesses graph (graph.requirementsOf root) copy window
      reading writing) (staged : Staged graph) (explicit : Explicit graph root)
    (listed : ListedBefore graph root id reading) :
    ¬ StatesRequirement graph id := by
  intro states
  obtain ⟨earlier, shape, _⟩ := accesses.listed
  have inOrder : ListedBefore graph root reading writing := by
    refine ⟨earlier ++ [reading], [], ?_,
      List.mem_append_right _ List.mem_cons_self⟩
    rw [shape, List.append_assoc]
    rfl
  rcases accesses.eq_or_eq listed.requires.1 states with rfl | rfl
  · exact staged.listedBefore_asymm explicit states states listed listed
  · exact staged.listedBefore_asymm explicit accesses.reads.statesRequirement
      states inOrder listed

end Copies

end Kinds

end CoherentTasks.Scenario
