import CoherentTasks.Coherence.Region
import CoherentTasks.Proofs.Geometry.BoxSet
import CoherentTasks.Proofs.Table

/-!
# Elements that a region tracks

Which elements are valid and current on each device after an operation on a
region, in terms of those before it.
-/

namespace CoherentTasks.Coherence

open CoherentTasks.Geometry

namespace Region

section Lookups

variable (region : Region) (device other : Device) (pointer : Pointer)
  (window : Box)

theorem allocation?_addAllocation :
    (region.addAllocation device pointer).allocation? other = if other = device
      then some (.fresh pointer) else region.allocation? other :=
  Table.get?_insert _ _ _ _

theorem allocation?_markValid :
    (region.markValid device window).allocation? other =
      if other = device then
        (region.allocation? other).map fun allocation =>
          { allocation with valid := allocation.valid.insert window }
      else region.allocation? other :=
  Table.get?_modify _ _ _ _

theorem allocation?_markCurrent (present : region.hasAllocation device = true) :
    (region.markCurrent device window).allocation? other =
      (region.allocation? other).map fun allocation =>
        if other = device then
          { allocation with
            valid := allocation.valid.insert window
            current := allocation.current.insert window }
        else
          { allocation with
            valid := allocation.valid.remove window
            current := allocation.current.remove window } := by
  simp only [markCurrent]
  rw [if_pos present]
  exact Table.get?_mapValues _ _ _

theorem allocation?_restore (saved : Snapshot) :
    (region.restore saved).allocation? device =
      (region.allocation? device).map fun allocation =>
        { allocation with
          valid := ((saved.get? device).getD (.empty, .empty)).1
          current := ((saved.get? device).getD (.empty, .empty)).2 } :=
  Table.get?_mapValues _ _ _

theorem get?_snapshot :
    region.snapshot.get? device = (region.allocation? device).map
      fun allocation => (allocation.valid, allocation.current) :=
  Table.get?_mapValues _ _ _

end Lookups

section Allocations

variable {region : Region} {device other : Device}

theorem hasAllocation_iff :
    region.hasAllocation device = true ↔
      ∃ allocation, region.allocation? device = some allocation :=
  Option.isSome_iff_exists

theorem hasAllocation_addAllocation (pointer : Pointer) :
    (region.addAllocation device pointer).hasAllocation other = true ↔
      other = device ∨ region.hasAllocation other = true := by
  simp only [hasAllocation]
  rw [allocation?_addAllocation]
  split <;> simp_all

theorem hasAllocation_markValid (window : Box) :
    (region.markValid device window).hasAllocation other =
      region.hasAllocation other := by
  simp only [hasAllocation]
  rw [allocation?_markValid]
  split <;> simp

theorem hasAllocation_markCurrent (window : Box) :
    (region.markCurrent device window).hasAllocation other =
      region.hasAllocation other := by
  by_cases present : region.hasAllocation device = true
  · simp only [hasAllocation]
    rw [allocation?_markCurrent region device other window present]
    simp
  · simp only [markCurrent]
    rw [if_neg present]

theorem hasAllocation_restore (saved : Snapshot) :
    (region.restore saved).hasAllocation device =
      region.hasAllocation device := by
  simp only [hasAllocation]
  rw [allocation?_restore]
  simp

theorem mem_validOn_iff {position : Triple} :
    position ∈ region.validOn device ↔
      ∃ allocation, region.allocation? device = some allocation ∧
        position ∈ allocation.valid := by
  simp only [validOn]
  cases region.allocation? device <;> simp

theorem mem_currentOn_iff {position : Triple} :
    position ∈ region.currentOn device ↔
      ∃ allocation, region.allocation? device = some allocation ∧
        position ∈ allocation.current := by
  simp only [currentOn]
  cases region.allocation? device <;> simp

theorem hasAllocation_of_mem_validOn {position : Triple}
    (valid : position ∈ region.validOn device) :
    region.hasAllocation device = true := by
  obtain ⟨allocation, found, _⟩ := mem_validOn_iff.mp valid
  exact hasAllocation_iff.mpr ⟨allocation, found⟩

end Allocations

section Elements

variable {region : Region} {device other : Device} {window : Box}
  {position : Triple}

theorem mem_validOn_addAllocation (pointer : Pointer) :
    position ∈ (region.addAllocation device pointer).validOn other ↔
      other ≠ device ∧ position ∈ region.validOn other := by
  rw [mem_validOn_iff, allocation?_addAllocation, mem_validOn_iff]
  split
  · rename_i same
    simp [same, Allocation.fresh]
  · rename_i different
    simp [different]

theorem mem_validOn_markValid :
    position ∈ (region.markValid device window).validOn other ↔
      position ∈ region.validOn other ∨ (other = device ∧
        region.hasAllocation device = true ∧ position ∈ window) := by
  rw [mem_validOn_iff, allocation?_markValid, mem_validOn_iff]
  split
  · rename_i same
    subst same
    simp only [hasAllocation]
    cases region.allocation? other with
    | none => simp
    | some allocation => simp [BoxSet.mem_insert_iff]
  · rename_i different
    simp [different]

theorem mem_validOn_markCurrent_self
    (present : region.hasAllocation device = true) :
    position ∈ (region.markCurrent device window).validOn device ↔
      position ∈ region.validOn device ∨ position ∈ window := by
  obtain ⟨allocation, found⟩ := hasAllocation_iff.mp present
  rw [mem_validOn_iff,
    allocation?_markCurrent region device device window present,
    mem_validOn_iff]
  simp [found, BoxSet.mem_insert_iff]

theorem mem_validOn_markCurrent_other
    (present : region.hasAllocation device = true)
    (different : other ≠ device) :
    position ∈ (region.markCurrent device window).validOn other ↔
      position ∈ region.validOn other ∧ position ∉ window := by
  rw [mem_validOn_iff,
    allocation?_markCurrent region device other window present, mem_validOn_iff]
  cases region.allocation? other with
  | none => simp
  | some allocation => simp [different, BoxSet.mem_remove_iff]

theorem mem_currentOn_markCurrent_self
    (present : region.hasAllocation device = true) :
    position ∈ (region.markCurrent device window).currentOn device ↔
      position ∈ region.currentOn device ∨ position ∈ window := by
  obtain ⟨allocation, found⟩ := hasAllocation_iff.mp present
  rw [mem_currentOn_iff,
    allocation?_markCurrent region device device window present,
    mem_currentOn_iff]
  simp [found, BoxSet.mem_insert_iff]

theorem mem_currentOn_markCurrent_other
    (present : region.hasAllocation device = true)
    (different : other ≠ device) :
    position ∈ (region.markCurrent device window).currentOn other ↔
      position ∈ region.currentOn other ∧ position ∉ window := by
  rw [mem_currentOn_iff,
    allocation?_markCurrent region device other window present,
    mem_currentOn_iff]
  cases region.allocation? other with
  | none => simp
  | some allocation => simp [different, BoxSet.mem_remove_iff]

/-- A seeded region holds the whole buffer on the device, and nothing new
elsewhere. -/
theorem mem_validOn_seed {pointer : Pointer}
    (valid : position ∈ (region.seed device pointer).validOn other) :
    position ∈ region.validOn other ∨
    (other = device ∧ position ∈ region.full) := by
  have present :
      (region.addAllocation device pointer).hasAllocation device = true :=
    (hasAllocation_addAllocation pointer).mpr (.inl rfl)
  by_cases here : other = device
  · subst here
    rcases (mem_validOn_markCurrent_self present).mp valid with fresh | inside
    · exact absurd rfl ((mem_validOn_addAllocation pointer).mp fresh).1
    · exact .inr ⟨rfl, inside⟩
  · have kept := ((mem_validOn_markCurrent_other present here).mp valid).1
    exact .inl ((mem_validOn_addAllocation pointer).mp kept).2

/-- Restoring a snapshot of a region that had no more copies puts back exactly
what was valid. -/
theorem mem_validOn_restore_snapshot {saved : Region}
    (kept : saved.hasAllocation device = true →
      region.hasAllocation device = true) :
    position ∈ (region.restore saved.snapshot).validOn device ↔
      position ∈ saved.validOn device := by
  rw [mem_validOn_iff, allocation?_restore, get?_snapshot, mem_validOn_iff]
  cases before : saved.allocation? device with
  | none =>
      cases region.allocation? device <;> simp
  | some allocation =>
      have present := kept (hasAllocation_iff.mpr ⟨allocation, before⟩)
      obtain ⟨now, found⟩ := hasAllocation_iff.mp present
      simp [found]

/-- Nothing changes when a region is put back to what it is. -/
theorem restore_snapshot (region : Region) :
    region.restore region.snapshot = region := by
  refine congrArg (fun allocations => { region with allocations })
    (Table.mapValues_eq_self _ fun device allocation found => ?_)
  have saved :
      region.snapshot.get? device =
        some (allocation.valid, allocation.current) := by
    rw [get?_snapshot, allocation?, found]
    rfl
  simp [saved]

/-- Without a copy on the device nothing is valid there. -/
theorem outdated_eq_uncovered (region : Region) (device : Device)
    (window : Box) :
    region.outdated device window =
      (region.validOn device).uncovered window := by
  simp only [outdated, validOn]
  cases region.allocation? device with
  | some allocation => rfl
  | none => rfl

theorem covered_outdated_iff :
    Box.Covered (region.outdated device window) position ↔
      position ∈ window ∧ position ∉ region.validOn device := by
  simp only [outdated]
  rw [mem_validOn_iff]
  cases region.allocation? device with
  | some allocation => simp [BoxSet.covered_uncovered_iff]
  | none =>
      cases empty : window.isEmpty with
      | true => simp [Box.not_mem_of_isEmpty empty]
      | false => simp

end Elements

/-- The same buffer at a later moment. Copies are never given up. -/
structure Grows (before after : Region) : Prop where
  id : after.id = before.id
  range : after.range = before.range
  kept : ∀ device,
    before.hasAllocation device = true → after.hasAllocation device = true

section Grows

variable {first second third : Region}

theorem Grows.refl (region : Region) : region.Grows region :=
  ⟨rfl, rfl, fun _ held => held⟩

theorem Grows.trans (start : first.Grows second) (rest : second.Grows third) :
    first.Grows third :=
  ⟨rest.id.trans start.id, rest.range.trans start.range,
    fun device held => rest.kept device (start.kept device held)⟩

theorem grows_addAllocation (region : Region) (device : Device)
    (pointer : Pointer) : region.Grows (region.addAllocation device pointer) :=
  ⟨rfl, rfl,
    fun _ held => (hasAllocation_addAllocation pointer).mpr (.inr held)⟩

theorem grows_markValid (region : Region) (device : Device) (window : Box) :
    region.Grows (region.markValid device window) :=
  ⟨rfl, rfl, fun _ held => (hasAllocation_markValid window).trans held⟩

theorem grows_markCurrent (region : Region) (device : Device) (window : Box) :
    region.Grows (region.markCurrent device window) := by
  refine ⟨?_, ?_, fun _ held => (hasAllocation_markCurrent window).trans held⟩
  · simp only [markCurrent]
    split <;> rfl
  · simp only [markCurrent]
    split <;> rfl

theorem grows_seed (region : Region) (device : Device) (pointer : Pointer) :
    region.Grows (region.seed device pointer) :=
  (grows_addAllocation region device pointer).trans
    (grows_markCurrent _ device _)

theorem Grows.full (grows : first.Grows second) : second.full = first.full := by
  simp only [Region.full]
  rw [grows.range]

theorem grows_restore (region : Region) (saved : Snapshot) :
    region.Grows (region.restore saved) :=
  ⟨rfl, rfl, fun _ held => (hasAllocation_restore saved).trans held⟩

end Grows

/-- A part that another device can supply is valid there, and has elements. -/
theorem mem_updateSources {region : Region} {device source : Device}
    {box part : Box}
    (member : (source, part) ∈ region.updateSources device box) :
    source ≠ device ∧ (∃ position, position ∈ part) ∧ ∀ position,
      position ∈ part → position ∈ region.validOn source ∧ position ∈ box := by
  simp only [updateSources] at member
  obtain ⟨entry, isSource, supplied⟩ := List.mem_flatMap.mp member
  obtain ⟨found, overlaps, pairEq⟩ := List.mem_map.mp supplied
  cases pairEq
  have isOther : entry ∈ region.allocations.entries.filter (·.1 ≠ device) := by
    rcases List.mem_append.mp isSource with writer | reader
    · exact (List.mem_filter.mp writer).1
    · exact (List.mem_filter.mp reader).1
  obtain ⟨isEntry, different⟩ := List.mem_filter.mp isOther
  obtain ⟨occupied, inside⟩ := BoxSet.mem_overlaps overlaps
  refine ⟨by simpa using different, occupied, fun position inPart => ?_⟩
  obtain ⟨valid, inBox⟩ := inside position inPart
  exact ⟨mem_validOn_iff.mpr
    ⟨entry.2, Table.get?_eq_some_of_mem _ isEntry, valid⟩, inBox⟩

end Region

end CoherentTasks.Coherence
