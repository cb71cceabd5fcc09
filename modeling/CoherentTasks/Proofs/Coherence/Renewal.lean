import CoherentTasks.Proofs.Coherence.SingleWriter

/-!
# Copies that are newer than a snapshot

A snapshot says for each device what is valid and current there. It does not say
of which copy: a copy that replaces one of the snapshot gets, when the snapshot
is put back, what the replaced copy held. All other copies that were added
meanwhile hold nothing then.
-/

namespace CoherentTasks.Coherence

open CoherentTasks.Geometry

namespace Region

section Pointers

variable (region : Region) (device other : Device) (pointer : Pointer)
  (window : Box)

theorem pointer?_addAllocation :
    (region.addAllocation device pointer).pointer? other =
      if other = device then some pointer else region.pointer? other := by
  simp only [pointer?]
  rw [allocation?_addAllocation]
  split <;> rfl

@[simp]
theorem pointer?_markValid :
    (region.markValid device window).pointer? other =
      region.pointer? other := by
  simp only [pointer?]
  rw [allocation?_markValid]
  split
  · rw [Option.map_map]
    rfl
  · rfl

@[simp]
theorem pointer?_markCurrent :
    (region.markCurrent device window).pointer? other =
      region.pointer? other := by
  by_cases present : region.hasAllocation device = true
  · simp only [pointer?]
    rw [allocation?_markCurrent region device other window present,
      Option.map_map]
    congr 1
    funext allocation
    simp only [Function.comp_apply]
    split <;> rfl
  · simp only [markCurrent]
    rw [if_neg present]

@[simp]
theorem pointer?_restore (saved : Snapshot) :
    (region.restore saved).pointer? device = region.pointer? device := by
  simp only [pointer?]
  rw [allocation?_restore, Option.map_map]
  rfl

end Pointers

/-- Nothing is valid or current on a device. -/
def Blank (region : Region) (device : Device) : Prop :=
  region.validOn device = .empty ∧ region.currentOn device = .empty

section Restored

variable {saved later : Region} {device : Device}

/-- A later region, put back to an earlier state of it, holds on every device
what it held then, on whichever copy. -/
theorem validOn_restore_snapshot
    (kept : saved.hasAllocation device = true →
      later.hasAllocation device = true) :
    (later.restore saved.snapshot).validOn device = saved.validOn device := by
  rw [validOn_restore, savedValid_snapshot]
  by_cases present : later.hasAllocation device = true
  · exact if_pos present
  · have absent := validOn_of_absent fun held => present (kept held)
    exact (if_neg present).trans absent.symm

theorem currentOn_restore_snapshot
    (kept : saved.hasAllocation device = true →
      later.hasAllocation device = true) :
    (later.restore saved.snapshot).currentOn device =
      saved.currentOn device := by
  rw [currentOn_restore, savedCurrent_snapshot]
  by_cases present : later.hasAllocation device = true
  · exact if_pos present
  · have absent := currentOn_of_absent fun held => present (kept held)
    exact (if_neg present).trans absent.symm

end Restored

end Region

/-- One of the changes adds a copy on the device, instead of an earlier one if
there is any. -/
def Renews (changes : List Change) (device : Device) : Prop :=
  ∃ pointer, .addAllocation device pointer ∈ changes

/-- The region itself is changed, with no snapshot involved. -/
def Change.isEdit : Change → Bool
  | .addAllocation .. | .markValid .. | .markCurrent .. => true
  | .snapshot | .restore _ => false

private theorem grows_apply (tracker : Tracker) (change : Change) :
    tracker.region.Grows (change.apply tracker).region := by
  cases change with
  | addAllocation device pointer =>
      exact Region.grows_addAllocation _ device pointer
  | markValid device window => exact Region.grows_markValid _ device window
  | markCurrent device window => exact Region.grows_markCurrent _ device window
  | snapshot => exact .refl _
  | restore place =>
      simp only [Change.apply]
      split
      · exact Region.grows_restore _ _
      · exact .refl _

private theorem grows_foldl (tracker : Tracker) (changes : List Change) :
    tracker.region.Grows (changes.foldl Change.apply tracker).region := by
  induction changes generalizing tracker with
  | nil => exact .refl _
  | cons change changes induction =>
      exact (grows_apply tracker change).trans (induction _)

/-- One change leaves the copy on a device as it is, or it adds one there. -/
private theorem pointer?_apply (tracker : Tracker) (change : Change)
    (device : Device) :
    (change.apply tracker).region.pointer? device =
      tracker.region.pointer? device ∨
    ∃ pointer, change = .addAllocation device pointer := by
  cases change with
  | addAllocation other pointer =>
      by_cases here : device = other
      · subst here
        exact .inr ⟨pointer, rfl⟩
      · left
        simp only [Change.apply]
        rw [Region.pointer?_addAllocation, if_neg here]
  | markValid other window => exact .inl (Region.pointer?_markValid ..)
  | markCurrent other window => exact .inl (Region.pointer?_markCurrent ..)
  | snapshot => exact .inl rfl
  | restore place =>
      left
      simp only [Change.apply]
      split
      · exact Region.pointer?_restore ..
      · rfl

private theorem pointer?_foldl (tracker : Tracker) {changes : List Change}
    {device : Device} (untouched : ¬Renews changes device) :
    (changes.foldl Change.apply tracker).region.pointer? device =
      tracker.region.pointer? device := by
  induction changes generalizing tracker with
  | nil => rfl
  | cons change changes induction =>
      have rest : ¬Renews changes device := fun ⟨pointer, member⟩ =>
        untouched ⟨pointer, List.mem_cons_of_mem _ member⟩
      refine (induction (change.apply tracker) rest).trans ?_
      rcases pointer?_apply tracker change device with kept | ⟨pointer, rfl⟩
      · exact kept
      · exact absurd ⟨pointer, List.mem_cons_self⟩ untouched

/-- A region is put back to an earlier state after any changes. All copies stay.
A copy of that state holds exactly what it held, and one that was added since
holds nothing exactly if nothing was held on its device, by an earlier copy. -/
theorem restore_snapshot_foldl (region : Region) (taken : List Snapshot)
    (changes : List Change) :
    let later := (changes.foldl Change.apply ⟨region, taken⟩).region
    let restored := later.restore region.snapshot
    (∀ device, restored.pointer? device = later.pointer? device) ∧
    (∀ device, ¬Renews changes device →
      restored.pointer? device = region.pointer? device ∧
      restored.validOn device = region.validOn device ∧
      restored.currentOn device = region.currentOn device) ∧
    ∀ device, Renews changes device →
      (restored.Blank device ↔ region.Blank device) := by
  intro later restored
  have kept device := (grows_foldl ⟨region, taken⟩ changes).kept device
  have valid device : restored.validOn device = region.validOn device :=
    Region.validOn_restore_snapshot (kept device)
  have current device : restored.currentOn device = region.currentOn device :=
    Region.currentOn_restore_snapshot (kept device)
  refine ⟨fun device => Region.pointer?_restore .., ?_, ?_⟩
  · intro device untouched
    refine ⟨?_, valid device, current device⟩
    exact (Region.pointer?_restore ..).trans
      (pointer?_foldl ⟨region, taken⟩ untouched)
  · intro device _
    simp only [Region.Blank]
    rw [valid, current]

/-- A buffer of four elements with a copy on the host, which holds them all. -/
def writtenOnHost : Region :=
  ((Region.create 0 "buffer" ⟨4, 1, 1⟩ 4).addAllocation .hostDevice
    0).markCurrent
    .hostDevice ⟨⟨0, 0, 0⟩, ⟨4, 1, 1⟩⟩

/-- Another device gets a copy, writes a window there, and loses it again; the
host keeps its copy. -/
theorem restore_snapshot_writtenOnHost :
    let changes : List Change :=
      [.addAllocation ⟨.cuda, 0⟩ 1,
        .markCurrent ⟨.cuda, 0⟩ ⟨⟨1, 0, 0⟩, ⟨2, 1, 1⟩⟩]
    let later := (changes.foldl Change.apply ⟨writtenOnHost, []⟩).region
    let restored := later.restore writtenOnHost.snapshot
    ¬Renews changes .hostDevice ∧ Renews changes ⟨.cuda, 0⟩ ∧
    ¬later.Blank ⟨.cuda, 0⟩ ∧ restored.Blank ⟨.cuda, 0⟩ ∧
    restored.pointer? .hostDevice = some 0 ∧
    restored.validOn .hostDevice = ⟨[⟨⟨0, 0, 0⟩, ⟨4, 1, 1⟩⟩]⟩ := by
  intro changes later restored
  have untouched : ¬Renews changes .hostDevice := by
    rintro ⟨pointer, member⟩
    simp [changes, Device.hostDevice] at member
  have renewed : Renews changes ⟨.cuda, 0⟩ := ⟨1, List.mem_cons_self⟩
  obtain ⟨_, earlier, newer⟩ := restore_snapshot_foldl writtenOnHost [] changes
  obtain ⟨pointer, valid, _⟩ := earlier .hostDevice untouched
  refine ⟨untouched, renewed, ?_, (newer _ renewed).mpr ⟨by decide, by decide⟩,
    pointer.trans (by decide), valid.trans (by decide)⟩
  exact fun blank => absurd blank.1 (by decide)

/-- A copy that was added since the snapshot does not always hold nothing when
the snapshot is put back: here it replaces the copy that the snapshot is
about. -/
theorem not_always_blank :
    ¬ ∀ (region : Region) (changes : List Change),
      (∀ change ∈ changes, change.isEdit = true) →
      ∀ device, Renews changes device → ((changes.foldl Change.apply
        ⟨region, []⟩).region.restore region.snapshot).Blank device := by
  intro always
  have blank :=
    always writtenOnHost [.addAllocation .hostDevice 1] (by decide) .hostDevice
      ⟨1, List.mem_cons_self⟩
  exact absurd blank.1 (by decide)

end CoherentTasks.Coherence
