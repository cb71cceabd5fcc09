import CoherentTasks.Proofs.Table
import CoherentTasks.Scenario.Assembly
import Mathlib.Data.List.Induction
import Mathlib.Tactic.Tauto

/-!
# Hazards

Who is taken notice of when the accesses of a node are noted: after a write the
node itself is the last writer, otherwise it joins the readers.
-/

namespace CoherentTasks.Scenario

theorem mem_ascending_iff {numbers : List Nat} {number : Nat} :
    number ∈ ascending numbers ↔ number ∈ numbers := by
  simp only [ascending]
  rw [Table.mem_keys_ofList, List.map_map]
  simp

namespace Hazards

theorem mem_conflicts_iff {hazards : Hazards} {mode : AccessMode}
    {id : NodeId} :
    id ∈ hazards.conflicts mode ↔ hazards.writer = some id ∨
      (mode.writes = true ∧ id ∈ hazards.readers) := by
  simp only [conflicts]
  rw [List.mem_append, Option.mem_toList]
  cases mode.writes <;> simp

/-- Takes notice of accesses of a node in turn. -/
def noteAll (hazards : Hazards) (id : NodeId) (modes : List AccessMode) :
    Hazards :=
  modes.foldl (fun hazards mode => hazards.note id mode) hazards

section Note

variable {hazards : Hazards} {id : NodeId} {mode : AccessMode}

private theorem note_of_write (writes : mode.writes = true) :
    hazards.note id mode = ⟨some id, []⟩ := by
  simp only [note]
  rw [if_pos writes]

private theorem note_of_read (reads : mode.writes = false) :
    (hazards.note id mode).writer = hazards.writer ∧
    ∀ user, user ∈ (hazards.note id mode).readers ↔
      user ∈ hazards.readers ∨ user = id := by
  simp only [note]
  rw [reads]
  by_cases known : id ∈ hazards.readers
  · simp only [Bool.false_eq_true, if_false, known, if_true, true_and]
    intro user
    constructor
    · exact Or.inl
    · intro noted
      rcases noted with member | rfl
      · exact member
      · exact known
  · simp [known]

end Note

section NoteAll

variable {hazards : Hazards} {id : NodeId} {modes : List AccessMode}

theorem noteAll_concat (hazards : Hazards) (id : NodeId)
    (modes : List AccessMode) (mode : AccessMode) :
    hazards.noteAll id (modes ++ [mode]) =
      (hazards.noteAll id modes).note id mode := by
  simp only [noteAll]
  rw [List.foldl_append, List.foldl_cons, List.foldl_nil]

theorem noteAll_of_read (reads : ∀ mode ∈ modes, mode.writes = false) :
    (hazards.noteAll id modes).writer = hazards.writer ∧
      ∀ user, user ∈ (hazards.noteAll id modes).readers ↔
        user ∈ hazards.readers ∨ (modes ≠ [] ∧ user = id) := by
  induction modes using List.reverseRecOn with
  | nil => simp [noteAll]
  | append_singleton modes mode induction =>
      obtain ⟨writer, readers⟩ := induction fun other member =>
        reads other (List.mem_append_left _ member)
      obtain ⟨writerLast, readersLast⟩ := note_of_read
        (reads mode (List.mem_append_right _ List.mem_cons_self))
      rw [noteAll_concat]
      refine ⟨writerLast.trans writer, fun user => ?_⟩
      rw [readersLast, readers]
      simp only [ne_eq, List.append_eq_nil_iff, List.cons_ne_nil, and_false,
        not_false_eq_true, true_and]
      tauto

theorem writer_noteAll_of_write {mode : AccessMode} (member : mode ∈ modes)
    (writes : mode.writes = true) :
    (hazards.noteAll id modes).writer = some id := by
  induction modes using List.reverseRecOn with
  | nil => exact absurd member List.not_mem_nil
  | append_singleton modes last induction =>
      rw [noteAll_concat]
      cases lastWrites : last.writes with
      | true => rw [note_of_write lastWrites]
      | false =>
          rw [(note_of_read lastWrites).1]
          rcases List.mem_append.mp member with earlier | isLast
          · exact induction earlier
          · rw [List.mem_singleton.mp isLast, lastWrites] at writes
            cases writes

/-- Nobody but the node itself is newly taken notice of. -/
theorem noteAll_among (hazards : Hazards) (id : NodeId)
    (modes : List AccessMode) :
    ((hazards.noteAll id modes).writer = some id ∨
      (hazards.noteAll id modes).writer = hazards.writer) ∧
    ∀ user ∈ (hazards.noteAll id modes).readers,
      user = id ∨ user ∈ hazards.readers := by
  induction modes using List.reverseRecOn with
  | nil => exact ⟨.inr rfl, fun user member => .inr member⟩
  | append_singleton modes last induction =>
      obtain ⟨writer, readers⟩ := induction
      rw [noteAll_concat]
      cases lastWrites : last.writes with
      | true =>
          rw [note_of_write lastWrites]
          exact ⟨.inl rfl, fun user member => absurd member List.not_mem_nil⟩
      | false =>
          obtain ⟨sameWriter, withNode⟩ := note_of_read lastWrites
          rw [sameWriter]
          refine ⟨writer, fun user member => ?_⟩
          rcases (withNode user).mp member with earlier | same
          · exact readers user earlier
          · exact .inl same

end NoteAll

end Hazards

/-- The modes of the accesses to a region. -/
def modesFor (region : RegionId) (accesses : List PlannedAccess) :
    List AccessMode :=
  (accesses.filter (·.requirement.region = region)).map (·.requirement.mode)

theorem mem_modesFor_iff {region : RegionId} {accesses : List PlannedAccess}
    {mode : AccessMode} :
    mode ∈ modesFor region accesses ↔ ∃ access ∈ accesses,
      access.requirement.region = region ∧ access.requirement.mode = mode := by
  simp only [modesFor]
  simp only [List.mem_map, List.mem_filter, decide_eq_true_eq]
  constructor
  · intro read
    obtain ⟨access, ⟨member, here⟩, same⟩ := read
    exact ⟨access, member, here, same⟩
  · intro read
    obtain ⟨access, member, here, same⟩ := read
    exact ⟨access, ⟨member, here⟩, same⟩

theorem get?_noteAccesses (id : NodeId) (table : Table RegionId Hazards)
    (accesses : List PlannedAccess) (region : RegionId) :
    ((noteAccesses id table accesses).get? region).getD .none =
      ((table.get? region).getD .none).noteAll id
        (modesFor region accesses) := by
  induction accesses using List.reverseRecOn with
  | nil => rfl
  | append_singleton accesses access induction =>
      simp only [noteAccesses] at *
      rw [List.foldl_append, List.foldl_cons, List.foldl_nil, Table.get?_insert]
      simp only [modesFor] at *
      rw [List.filter_append, List.map_append]
      by_cases here : access.requirement.region = region
      · subst here
        rw [if_pos rfl, List.filter_cons_of_pos (by simp), List.filter_nil,
          List.map_cons, List.map_nil, Hazards.noteAll_concat,
          Option.getD_some, induction]
      · have different : region ≠ access.requirement.region :=
          fun same => here same.symm
        rw [if_neg different, List.filter_cons_of_neg (by simpa using here),
          List.filter_nil, List.map_nil, List.append_nil, induction]

end CoherentTasks.Scenario
