import CoherentTasks.Proofs.Completion.Handle
import Mathlib.Data.List.Nodup

/-!
# Operations below a handle

A path leads from a handle, through its members and theirs, to a single
operation. The same operation may be found at the end of several paths, and then
it counts as often.
-/

namespace CoherentTasks.Completion

/-- The path, which is a place among members for each join, leads to an
operation with this signal. -/
inductive Leaf : Handle → List Nat → Signal → Prop where
  | single (signal : Signal) : Leaf (.single signal) [] signal
  | joined {members : List Handle} {place : Nat} {member : Handle}
      {path : List Nat} {signal : Signal}
      (isMember : members[place]? = some member)
      (leaf : Leaf member path signal) :
      Leaf (.joined members) (place :: path) signal

/-- The signal of an operation below the handle. -/
def Below (handle : Handle) (signal : Signal) : Prop :=
  ∃ path, Leaf handle path signal

/-- Every operation below the handles has fired. -/
def AllFired (state : Signals) (handles : List Handle) : Prop :=
  ∀ handle ∈ handles,
    ∀ signal, Below handle signal → state.isFired signal = true

namespace Handle

mutual

/-- The paths from the handle, each with the signal to which it leads. -/
def leaves : Handle → List (List Nat × Signal)
  | .single signal => [([], signal)]
  | .joined members => leavesFrom 0 members

/-- The paths through handles whose places are counted from the given one. -/
def leavesFrom (place : Nat) : List Handle → List (List Nat × Signal)
  | [] => []
  | handle :: rest =>
    (leaves handle).map (fun leaf => (place :: leaf.1, leaf.2)) ++
      leavesFrom (place + 1) rest

end

mutual

private theorem mem_leaves_iff {path : List Nat} {signal : Signal} :
    ∀ handle : Handle, (path, signal) ∈ handle.leaves ↔ Leaf handle path signal
  | .single other => by
      rw [leaves, List.mem_singleton]
      constructor
      · intro same
        cases same
        exact .single signal
      · intro leaf
        cases leaf
        rfl
  | .joined members => by
      rw [leaves, mem_leavesFrom_iff members]
      constructor
      · intro listed
        obtain ⟨offset, member, rest, isMember, rfl, leaf⟩ := listed
        exact .joined (by rwa [Nat.zero_add]) leaf
      · intro leaf
        cases leaf with
        | joined isMember leaf =>
            exact ⟨_, _, _, isMember, by rw [Nat.zero_add], leaf⟩

private theorem mem_leavesFrom_iff {path : List Nat} {signal : Signal}
    {place : Nat} :
    ∀ handles : List Handle, (path, signal) ∈ leavesFrom place handles ↔
      ∃ (offset : Nat) (member : Handle) (rest : List Nat),
        handles[offset]? = some member ∧ path = (place + offset) :: rest ∧
        Leaf member rest signal
  | [] => by simp [leavesFrom]
  | handle :: others => by
      rw [leavesFrom, List.mem_append, List.mem_map, mem_leavesFrom_iff others]
      constructor
      · intro listed
        rcases listed with ⟨⟨rest, _⟩, member, same⟩ |
          ⟨offset, member, rest, isMember, rfl, leaf⟩
        · cases same
          exact ⟨0, handle, rest, rfl, rfl, (mem_leaves_iff handle).mp member⟩
        · exact ⟨offset + 1, member, rest, isMember,
            by rw [Nat.add_assoc, Nat.add_comm 1], leaf⟩
      · intro found
        obtain ⟨offset, member, rest, isMember, rfl, leaf⟩ := found
        cases offset with
        | zero =>
            cases isMember
            exact .inl ⟨(rest, signal), (mem_leaves_iff handle).mpr leaf, rfl⟩
        | succ offset =>
            exact .inr ⟨offset, member, rest, isMember,
              by rw [Nat.add_assoc, Nat.add_comm 1], leaf⟩

end

mutual

/-- No path is listed twice. -/
private theorem nodup_leaves :
    ∀ handle : Handle, (handle.leaves.map Prod.fst).Nodup
  | .single signal => List.nodup_singleton _
  | .joined members => by
      rw [leaves]
      exact nodup_leavesFrom members

theorem nodup_leavesFrom {place : Nat} :
    ∀ handles : List Handle, ((leavesFrom place handles).map Prod.fst).Nodup
  | [] => List.nodup_nil
  | handle :: others => by
      rw [leavesFrom, List.map_append, List.map_map]
      have first := nodup_leaves handle
      have rest : ((leavesFrom (place + 1) others).map Prod.fst).Nodup :=
        nodup_leavesFrom others
      refine List.nodup_append.mpr ⟨?_, rest, ?_⟩
      · have distinct := List.Nodup.map (List.cons_injective (a := place)) first
        rwa [List.map_map] at distinct
      -- The first step of a path through a later member is a later place.
      · intro path isFirst other isLater equal
        subst equal
        obtain ⟨leaf, _, rfl⟩ := List.mem_map.mp isFirst
        obtain ⟨⟨_, signal⟩, member, same⟩ := List.mem_map.mp isLater
        obtain ⟨offset, _, _, _, shape, _⟩ :=
          (mem_leavesFrom_iff others).mp member
        have samePlace := (List.cons.inj (same.symm.trans shape)).1
        omega

end

mutual

private theorem map_leaves :
    ∀ handle : Handle, handle.leaves.map Prod.snd = handle.signals
  | .single signal => rfl
  | .joined members => by
      rw [leaves, signals]
      exact map_leavesFrom members

theorem map_leavesFrom {place : Nat} :
    ∀ handles : List Handle,
      (leavesFrom place handles).map Prod.snd = signalsOf handles
  | [] => rfl
  | handle :: others => by
      rw [leavesFrom, signalsOf, List.map_append, List.map_map,
        map_leavesFrom others, ← map_leaves handle]
      rfl

end

mutual

private theorem length_signals :
    ∀ handle : Handle, handle.signals.length = handle.operationCount
  | .single signal => rfl
  | .joined members => by
      rw [signals, operationCount]
      exact length_signalsOf members

theorem length_signalsOf :
    ∀ handles : List Handle,
      (signalsOf handles).length = operationCounts handles
  | [] => rfl
  | handle :: others => by
      rw [signalsOf, operationCounts, List.length_append, length_signals handle,
        length_signalsOf others]

end

private theorem mem_signals_iff {handle : Handle} {signal : Signal} :
    signal ∈ handle.signals ↔ Below handle signal := by
  rw [← map_leaves, List.mem_map]
  constructor
  · intro listed
    obtain ⟨⟨path, _⟩, member, rfl⟩ := listed
    exact ⟨path, (mem_leaves_iff handle).mp member⟩
  · intro below
    obtain ⟨path, leaf⟩ := below
    exact ⟨(path, signal), (mem_leaves_iff handle).mpr leaf, rfl⟩

private theorem mem_signalsOf_iff {handles : List Handle} {signal : Signal} :
    signal ∈ signalsOf handles ↔ ∃ handle ∈ handles, Below handle signal := by
  induction handles with
  | nil => simp [signalsOf]
  | cons handle rest induction =>
      rw [signalsOf, List.mem_append, mem_signals_iff, induction,
        List.exists_mem_cons_iff]

theorem allFired_iff {state : Signals} {handles : List Handle} :
    AllFired state handles ↔
      ∀ signal ∈ signalsOf handles, state.isFired signal = true := by
  simp only [mem_signalsOf_iff]
  constructor
  · intro fired signal found
    obtain ⟨handle, member, below⟩ := found
    exact fired handle member signal below
  · intro fired handle member signal below
    exact fired signal ⟨handle, member, below⟩

/-- A handle is complete exactly if everything below it has fired. -/
theorem isComplete_iff_below {state : Signals} {handle : Handle} :
    handle.isComplete state = true ↔
      ∀ signal, Below handle signal → state.isFired signal = true := by
  simp only [isComplete_iff, mem_signals_iff]

/-- The number of operations is the number of paths that lead to one. -/
theorem operationCount_eq (handle : Handle) :
    ∃ leaves : List (List Nat × Signal), (leaves.map Prod.fst).Nodup ∧
      (∀ path signal, (path, signal) ∈ leaves ↔ Leaf handle path signal) ∧
      handle.operationCount = leaves.length := by
  refine ⟨handle.leaves, nodup_leaves handle,
    fun _ _ => mem_leaves_iff handle, ?_⟩
  rw [← length_signals, ← map_leaves, List.length_map]

end Handle

end CoherentTasks.Completion
