import CoherentTasks.Proofs.Submission.Resolution

/-!
# The recursion of a resolution

To resolve a requirement is to resolve first those that it requires, and nothing
keeps track of the nodes that were seen. What carries the recursion is the order
of the nodes: a node requires only nodes with smaller numbers, in every state
that a resolution passes through. So the recursion below a node is never deeper
than its number, and what would be done below that depth makes no difference.
-/

namespace CoherentTasks.Submission

open CoherentTasks.Computation
open CoherentTasks.Graph (Node Operation Requirement TaskGraph)

variable {id : NodeId} {before : Scheduler}

/-- Two computations do the same in a state if they begin in the same way and go
on in the same way. -/
theorem bind_eq_bind {First Second : Type} {first other : Action First}
    {next rest : First → Action Second} (start : first before = other before)
    (goOn : ∀ value between, other before = .ok value between →
      next value between = rest value between) :
    (first >>= next) before = (other >>= rest) before := by
  simp only [bind, EStateM.bind]
  rw [start]
  cases began : other before with
  | ok value between => exact goOn value between began
  | error cause between => rfl

theorem wellFormed_assign (wellFormed : before.graph.WellFormed) (id : NodeId)
    (device : Device) :
    (before.graph.updateNode id (·.assign device)).WellFormed :=
  wellFormed.later (TaskGraph.sameNodes_updateNode _ _ fun _ => rfl)
    (TaskGraph.regionsGrow_of_eq rfl)

/-- Two ways to resolve do the same for every node with a smaller number than
this one. -/
def AgreeBelow (id : NodeId) (resolve other : NodeId → Action Resolution) :
    Prop :=
  ∀ required before, required < id → before.graph.WellFormed →
    resolve required before = other required before

section Agree

variable {resolve other : NodeId → Action Resolution}

private theorem settleRequired_eq (resolves : ∀ root, Resolves root other)
    (agree : AgreeBelow id resolve other) (ids : List NodeId)
    (below : ∀ required ∈ ids, required < id)
    (wellFormed : before.graph.WellFormed) :
    settleRequired resolve id ids before =
      settleRequired other id ids before := by
  induction ids generalizing before with
  | nil => rfl
  | cons required ids induction =>
      obtain ⟨here, below⟩ := List.forall_mem_cons.mp below
      simp only [settleRequired]
      apply bind_eq_bind rfl
      intro node _ first
      obtain ⟨found, rfl⟩ := Action.getNode_ok_iff.mp first
      split
      · rename_i isRequirement
        have states := (statesRequirement_iff found).mpr isRequirement
        apply bind_eq_bind (agree required before here wellFormed)
        intro _ later resolved
        have moves :=
          ((resolves required required before wellFormed states (.inl rfl)).ok
            resolved).1
        exact induction below (Moves.wellFormed moves wellFormed)
      · split
        · rfl
        · split
          · rfl
          · exact induction below wellFormed

/-- To prepare a node, only nodes with smaller numbers are resolved. -/
theorem prepareWith_eq (resolves : ∀ root, Resolves root other)
    (agree : AgreeBelow id resolve other) (device : Device)
    (wellFormed : before.graph.WellFormed) :
    prepareWith resolve id device before =
      prepareWith other id device before := by
  simp only [prepareWith]
  apply bind_eq_bind rfl
  intro scheduler _ began
  obtain ⟨rfl, rfl⟩ := get_ok_iff.mp began
  apply bind_eq_bind rfl
  intro _ between assigned
  have leads :
      Leads (Move id id) (assignDevices device (before.graph.requirementsOf id))
        before _ :=
    leads_assignDevices device _ before
  exact settleRequired_eq resolves agree _
    (fun _ edge => wellFormed.earlier edge)
    (Moves.wellFormed (leads.ok assigned).1 wellFormed)

/-- To resolve a node, only nodes with smaller numbers are resolved. -/
private theorem resolveWith_eq (resolves : ∀ root, Resolves root other)
    (agree : AgreeBelow id resolve other)
    (wellFormed : before.graph.WellFormed) :
    resolveWith resolve id before = resolveWith other id before := by
  simp only [resolveWith]
  apply bind_eq_bind rfl
  intro node _ first
  obtain ⟨_, rfl⟩ := Action.getNode_ok_iff.mp first
  cases node.operation with
  | kernel kernel => rfl
  | copy copy => rfl
  | requirement requirement =>
      simp only
      split
      · rfl
      · split
        · rfl
        · cases node.device.or node.hint with
          | none => rfl
          | some device =>
              apply bind_eq_bind rfl
              intro _ _ assigned
              cases assigned
              exact bind_eq_bind (prepareWith_eq resolves agree device
                (wellFormed_assign wellFormed id device)) fun _ _ _ => rfl

end Agree

/-- Beyond the number of the node, more depth makes no difference, and neither
does what is done at the bottom. -/
private theorem iterate_resolveWith_eq (bottom : NodeId → Action Resolution)
    {depth within : Nat} (enough : id < depth) (isWithin : id < within)
    (wellFormed : before.graph.WellFormed) :
    resolveWith^[depth] bottom id before = resolveWithin within id before := by
  induction depth generalizing within id before with
  | zero => exact absurd enough (Nat.not_lt_zero id)
  | succ depth induction =>
      obtain ⟨within, rfl⟩ :=
        Nat.exists_eq_add_one_of_ne_zero (Nat.ne_zero_of_lt isWithin)
      rw [Function.iterate_succ_apply']
      refine resolveWith_eq (fun _ => resolves_resolveWithin within)
        ?_ wellFormed
      intro required between below wellFormed
      exact induction (Nat.lt_of_lt_of_le below (Nat.le_of_lt_succ enough))
        (Nat.lt_of_lt_of_le below (Nat.le_of_lt_succ isWithin)) wellFormed

/-- From this state, the recursion below a node comes to an end. Unrolled more
often than the number of the node says, the resolution never reaches what would
be done at the bottom, be it a failure or anything else. What is so computed
solves the equations of the recursion, in which resolving and preparing call
each other. -/
structure Terminates (before : Scheduler) (id : NodeId) : Prop where
  resolve : ∀ (bottom : NodeId → Action Resolution) (depth : Nat), id < depth →
    resolveWith^[depth] bottom id before = resolve id before
  prepare :
    ∀ (bottom : NodeId → Action Resolution) (depth : Nat) (device : Device),
      id ≤ depth → prepareWith (resolveWith^[depth] bottom) id device before =
        prepare id device before
  equation :
    Submission.resolve id before = resolveWith Submission.resolve id before

private theorem agreeBelow_iterate (bottom : NodeId → Action Resolution)
    {depth : Nat} (enough : id ≤ depth) :
    AgreeBelow id (resolveWith^[depth] bottom) resolve :=
  fun required _ below wellFormed => iterate_resolveWith_eq bottom
    (Nat.lt_of_lt_of_le below enough) (Nat.lt_succ_self required) wellFormed

theorem terminates (wellFormed : before.graph.WellFormed) (id : NodeId) :
    Terminates before id where
  resolve bottom _ enough :=
    iterate_resolveWith_eq bottom enough (Nat.lt_succ_self id) wellFormed
  prepare bottom _ device enough :=
    prepareWith_eq (fun _ => resolves_resolve)
      (agreeBelow_iterate bottom enough) device wellFormed
  equation := by
    let bottom : NodeId → Action Resolution := fun _ => pure .notARequirement
    calc Submission.resolve id before
      _ = resolveWith^[id + 1] bottom id before :=
        (iterate_resolveWith_eq bottom (Nat.lt_succ_self id)
          (Nat.lt_succ_self id) wellFormed).symm
      _ = resolveWith (resolveWith^[id] bottom) id before := by
        rw [Function.iterate_succ_apply']
      _ = resolveWith Submission.resolve id before :=
        resolveWith_eq (fun _ => resolves_resolve)
          (agreeBelow_iterate bottom (Nat.le_refl id)) wellFormed

end CoherentTasks.Submission
