import CoherentTasks.Proofs.Coherence.Region
import CoherentTasks.Proofs.Geometry.History

/-!
# Single writer

Copies of a buffer are added and replaced, windows are marked, and snapshots are
taken and put back, in any order. At every time an element is current on at most
one device, and it is valid there. This module states the two parts for all
devices at once, shows that every change keeps them, and concludes it for all
histories of a region.
-/

namespace CoherentTasks.Coherence

open CoherentTasks.Geometry
open CoherentTasks.Geometry.BoxSet (Canonical)

/-- The boxes are a canonical tiling, and their ends are representable. -/
structure Neat (set : BoxSet) : Prop where
  canonical : Canonical set.boxes
  representable : ∀ box ∈ set.boxes, box.Representable

namespace Neat

variable {set : BoxSet}

theorem empty : Neat .empty :=
  ⟨.nil, fun _ absent => absurd absent List.not_mem_nil⟩

/-- A canonical set is neat if all its elements lie in boxes whose ends are
representable. -/
private theorem of_elements (canonical : Canonical set.boxes)
    (inside : ∀ position ∈ set,
      ∃ box : Box, box.Representable ∧ position ∈ box) : Neat set :=
  ⟨canonical, canonical.tiles.representable inside⟩

private theorem exists_box (neat : Neat set) {position : Triple}
    (member : position ∈ set) :
    ∃ box : Box, box.Representable ∧ position ∈ box := by
  obtain ⟨box, isBox, inside⟩ := member
  exact ⟨box, neat.representable box isBox, inside⟩

theorem insert (neat : Neat set) {window : Box} (fits : window.Representable) :
    Neat (set.insert window) := by
  apply of_elements (BoxSet.canonical_insert neat.canonical window)
  intro position member
  rcases BoxSet.mem_insert_iff.mp member with old | new
  · exact neat.exists_box old
  · exact ⟨window, fits, new⟩

theorem remove (neat : Neat set) (window : Box) : Neat (set.remove window) := by
  apply of_elements (BoxSet.canonical_remove neat.canonical window)
  intro position member
  exact neat.exists_box (BoxSet.mem_remove_iff.mp member).1

end Neat

/-- At most one device wrote an element last. What a device wrote last is valid
there, and all the sets are neat. -/
structure SingleWriter (valid current : Device → BoxSet) : Prop where
  alone : ∀ first second position,
    position ∈ current first → position ∈ current second → first = second
  readable :
    ∀ device position, position ∈ current device → position ∈ valid device
  neatValid : ∀ device, Neat (valid device)
  neatCurrent : ∀ device, Neat (current device)

namespace SingleWriter

variable {valid current : Device → BoxSet}

theorem nothing : SingleWriter (fun _ => .empty) (fun _ => .empty) where
  alone _ _ position absent := absurd absent (BoxSet.not_mem_empty position)
  readable _ position absent := absurd absent (BoxSet.not_mem_empty position)
  neatValid _ := .empty
  neatCurrent _ := .empty

/-- Some devices may lose everything that they hold. -/
theorem restrict (single : SingleWriter valid current) (keeps : Device → Prop)
    [DecidablePred keeps] :
    SingleWriter (fun device => if keeps device then valid device else .empty)
      (fun device => if keeps device then current device else .empty) := by
  have kept {device : Device} {position : Triple}
      (member : position ∈ if keeps device then current device else .empty) :
      keeps device ∧ position ∈ current device := by
    split at member
    · rename_i keep
      exact ⟨keep, member⟩
    · exact absurd member (BoxSet.not_mem_empty position)
  constructor
  case alone =>
    intro first second position onFirst onSecond
    exact single.alone first second position (kept onFirst).2 (kept onSecond).2
  case readable =>
    intro device position member
    obtain ⟨keep, held⟩ := kept member
    rw [if_pos keep]
    exact single.readable device position held
  case neatValid =>
    intro device
    split
    · exact single.neatValid device
    · exact .empty
  case neatCurrent =>
    intro device
    split
    · exact single.neatCurrent device
    · exact .empty

/-- A device may come to hold more valid elements. -/
theorem refresh (single : SingleWriter valid current) (device : Device)
    {window : Box} (fits : window.Representable) :
    SingleWriter (fun other =>
      if other = device then (valid other).insert window else valid other)
      current where
  alone := single.alone
  readable other position member := by
    have held := single.readable other position member
    split
    · exact BoxSet.mem_insert_iff.mpr (.inl held)
    · exact held
  neatValid other := by
    split
    · exact (single.neatValid other).insert fits
    · exact single.neatValid other
  neatCurrent := single.neatCurrent

/-- The sets after a device has written a window, which the others lose. -/
def written (device : Device) (window : Box) (sets : Device → BoxSet)
    (other : Device) : BoxSet :=
  if other = device then (sets other).insert window
    else (sets other).remove window

/-- Inside the window only the writer has elements, outside of it nothing has
changed. -/
private theorem mem_written_iff {device other : Device} {window : Box}
    {sets : Device → BoxSet} {position : Triple} :
    position ∈ written device window sets other ↔
      (position ∈ window ∧ other = device) ∨
      (position ∈ sets other ∧ position ∉ window) := by
  simp only [written]
  split
  · rename_i here
    rw [BoxSet.mem_insert_iff]
    by_cases inside : position ∈ window <;> simp [here, inside]
  · rename_i elsewhere
    rw [BoxSet.mem_remove_iff]
    simp [elsewhere]

private theorem neat_written {window : Box} (fits : window.Representable)
    {sets : Device → BoxSet} (neat : ∀ device, Neat (sets device))
    (device other : Device) : Neat (written device window sets other) := by
  simp only [written]
  split
  · exact (neat other).insert fits
  · exact (neat other).remove window

theorem write (single : SingleWriter valid current) (device : Device)
    {window : Box} (fits : window.Representable) :
    SingleWriter (written device window valid)
      (written device window current) where
  alone first second position onFirst onSecond := by
    rcases mem_written_iff.mp onFirst
      with ⟨inside, isFirst⟩ | ⟨heldFirst, outside⟩
    · rcases mem_written_iff.mp onSecond with ⟨_, isSecond⟩ | ⟨_, outside⟩
      · exact isFirst.trans isSecond.symm
      · exact absurd inside outside
    · rcases mem_written_iff.mp onSecond with ⟨inside, _⟩ | ⟨heldSecond, _⟩
      · exact absurd inside outside
      · exact single.alone first second position heldFirst heldSecond
  readable other position member := by
    apply mem_written_iff.mpr
    exact (mem_written_iff.mp member).imp_right fun kept =>
      ⟨single.readable other position kept.1, kept.2⟩
  neatValid := neat_written fits single.neatValid device
  neatCurrent := neat_written fits single.neatCurrent device

end SingleWriter

/-- What a snapshot holds as valid on a device. -/
def savedValid (saved : Snapshot) (device : Device) : BoxSet :=
  ((saved.get? device).getD (.empty, .empty)).1

/-- What a snapshot holds as current on a device. -/
def savedCurrent (saved : Snapshot) (device : Device) : BoxSet :=
  ((saved.get? device).getD (.empty, .empty)).2

namespace Region

section Sets

theorem allocation?_eq_none {region : Region} {device : Device}
    (absent : ¬region.hasAllocation device = true) :
    region.allocation? device = none :=
  Option.isNone_iff_eq_none.mp (by simpa [hasAllocation] using absent)

theorem validOn_of_absent {region : Region} {device : Device}
    (absent : ¬region.hasAllocation device = true) :
    region.validOn device = .empty := by
  simp only [validOn]
  rw [allocation?_eq_none absent]
  rfl

theorem currentOn_of_absent {region : Region} {device : Device}
    (absent : ¬region.hasAllocation device = true) :
    region.currentOn device = .empty := by
  simp only [currentOn]
  rw [allocation?_eq_none absent]
  rfl

variable (region : Region) (device : Device) (pointer : Pointer) (window : Box)
  (saved : Snapshot)

theorem savedValid_snapshot : savedValid region.snapshot = region.validOn := by
  funext other
  simp only [savedValid, validOn, get?_snapshot]
  cases region.allocation? other <;> rfl

theorem savedCurrent_snapshot :
    savedCurrent region.snapshot = region.currentOn := by
  funext other
  simp only [savedCurrent, currentOn, get?_snapshot]
  cases region.allocation? other <;> rfl

theorem validOn_addAllocation :
    (region.addAllocation device pointer).validOn =
      fun other => if other ≠ device then region.validOn other else .empty := by
  funext other
  simp only [validOn, allocation?_addAllocation]
  by_cases here : other = device <;> simp [here, Allocation.fresh]

theorem currentOn_addAllocation :
    (region.addAllocation device pointer).currentOn = fun other =>
      if other ≠ device then region.currentOn other else .empty := by
  funext other
  simp only [currentOn, allocation?_addAllocation]
  by_cases here : other = device <;> simp [here, Allocation.fresh]

theorem validOn_restore :
    (region.restore saved).validOn = fun other =>
      if region.hasAllocation other = true then savedValid saved other
        else .empty := by
  funext other
  simp only [validOn, allocation?_restore, savedValid]
  by_cases present : region.hasAllocation other = true
  · obtain ⟨allocation, found⟩ := hasAllocation_iff.mp present
    simp [present, found]
  · simp [allocation?_eq_none present, present]

theorem currentOn_restore :
    (region.restore saved).currentOn = fun other =>
      if region.hasAllocation other = true then savedCurrent saved other
        else .empty := by
  funext other
  simp only [currentOn, allocation?_restore, savedCurrent]
  by_cases present : region.hasAllocation other = true
  · obtain ⟨allocation, found⟩ := hasAllocation_iff.mp present
    simp [present, found]
  · simp [allocation?_eq_none present, present]

theorem currentOn_markValid :
    (region.markValid device window).currentOn = region.currentOn := by
  funext other
  simp only [currentOn, allocation?_markValid]
  by_cases here : other = device
  · cases region.allocation? other <;> simp [here]
  · simp [here]

variable {device}

private theorem validOn_markValid
    (present : region.hasAllocation device = true) :
    (region.markValid device window).validOn = fun other => if other = device
      then (region.validOn other).insert window else region.validOn other := by
  obtain ⟨allocation, found⟩ := hasAllocation_iff.mp present
  funext other
  simp only [validOn, allocation?_markValid]
  by_cases here : other = device
  · simp [here, found]
  · simp [here]

private theorem validOn_markValid_of_absent
    (absent : ¬region.hasAllocation device = true) :
    (region.markValid device window).validOn = region.validOn := by
  funext other
  simp only [validOn, allocation?_markValid]
  by_cases here : other = device
  · simp [here, allocation?_eq_none absent]
  · simp [here]

private theorem validOn_markCurrent
    (present : region.hasAllocation device = true) :
    (region.markCurrent device window).validOn = fun other =>
      if other = device then (region.validOn other).insert window
        else (region.validOn other).remove window := by
  obtain ⟨allocation, found⟩ := hasAllocation_iff.mp present
  funext other
  simp only [validOn,
    allocation?_markCurrent region device other window present]
  by_cases here : other = device
  · simp [here, found]
  · cases region.allocation? other <;> simp [here, BoxSet.remove_empty]

private theorem currentOn_markCurrent
    (present : region.hasAllocation device = true) :
    (region.markCurrent device window).currentOn = fun other =>
      if other = device then (region.currentOn other).insert window
        else (region.currentOn other).remove window := by
  obtain ⟨allocation, found⟩ := hasAllocation_iff.mp present
  funext other
  simp only [currentOn,
    allocation?_markCurrent region device other window present]
  by_cases here : other = device
  · simp [here, found]
  · cases region.allocation? other <;> simp [here, BoxSet.remove_empty]

end Sets

end Region

/-- A change of a region, or a snapshot of it that is taken meanwhile. -/
inductive Change where
  | addAllocation (device : Device) (pointer : Pointer)
  | markValid (device : Device) (window : Box)
  | markCurrent (device : Device) (window : Box)
  | snapshot
  /-- The snapshot that was taken when the given number of others were. -/
  | restore (place : Nat)
  deriving DecidableEq, Repr

/-- A region with all the snapshots that were taken of it, the first one
first. -/
structure Tracker where
  region : Region
  taken : List Snapshot
  deriving DecidableEq, Repr

namespace Change

/-- The window that is marked, if one is. -/
def window? : Change → Option Box
  | .markValid _ window => some window
  | .markCurrent _ window => some window
  | .addAllocation .. | .snapshot | .restore _ => none

/-- A snapshot that was never taken cannot be put back. -/
def apply (tracker : Tracker) : Change → Tracker
  | .addAllocation device pointer =>
      { tracker with region := tracker.region.addAllocation device pointer }
  | .markValid device window =>
      { tracker with region := tracker.region.markValid device window }
  | .markCurrent device window =>
      { tracker with region := tracker.region.markCurrent device window }
  | .snapshot =>
    { tracker with taken := tracker.taken ++ [tracker.region.snapshot] }
  | .restore place =>
      match tracker.taken[place]? with
      | some saved => { tracker with region := tracker.region.restore saved }
      | none => tracker

end Change

/-- A new buffer after the changes. -/
def tracked (id : RegionId) (name : String) (range : Triple) (elementSize : Nat)
    (changes : List Change) : Tracker :=
  changes.foldl Change.apply ⟨.create id name range elementSize, []⟩

/-- A region has a single writer, and so had it whenever a snapshot was
taken. -/
structure Tracker.Sound (tracker : Tracker) : Prop where
  single : SingleWriter tracker.region.validOn tracker.region.currentOn
  taken : ∀ saved ∈ tracker.taken,
    SingleWriter (savedValid saved) (savedCurrent saved)

namespace Region

variable {region : Region} {device : Device} {window : Box}

theorem single_addAllocation
    (single : SingleWriter region.validOn region.currentOn)
    (pointer : Pointer) :
    SingleWriter (region.addAllocation device pointer).validOn
      (region.addAllocation device pointer).currentOn := by
  rw [validOn_addAllocation, currentOn_addAllocation]
  exact single.restrict (· ≠ device)

theorem single_markValid (single : SingleWriter region.validOn region.currentOn)
    (fits : window.Representable) :
    SingleWriter (region.markValid device window).validOn
      (region.markValid device window).currentOn := by
  rw [currentOn_markValid]
  by_cases present : region.hasAllocation device = true
  · rw [validOn_markValid _ _ present]
    exact single.refresh device fits
  · rw [validOn_markValid_of_absent _ _ present]
    exact single

theorem single_markCurrent
    (single : SingleWriter region.validOn region.currentOn)
    (fits : window.Representable) :
    SingleWriter (region.markCurrent device window).validOn
      (region.markCurrent device window).currentOn := by
  by_cases present : region.hasAllocation device = true
  · rw [validOn_markCurrent _ _ present, currentOn_markCurrent _ _ present]
    exact single.write device fits
  · simp only [markCurrent]
    rw [if_neg present]
    exact single

theorem single_restore {saved : Snapshot}
    (single : SingleWriter (savedValid saved) (savedCurrent saved)) :
    SingleWriter (region.restore saved).validOn
      (region.restore saved).currentOn := by
  rw [validOn_restore, currentOn_restore]
  exact single.restrict (region.hasAllocation · = true)

end Region

theorem Tracker.Sound.apply {tracker : Tracker} (sound : tracker.Sound)
    {change : Change} (fits : ∀ window ∈ change.window?, window.Representable) :
    (change.apply tracker).Sound := by
  cases change with
  | addAllocation device pointer =>
      constructor
      case single => exact Region.single_addAllocation sound.single pointer
      case taken => exact sound.taken
  | markValid device window =>
      constructor
      case single => exact Region.single_markValid sound.single (fits
        window rfl)
      case taken => exact sound.taken
  | markCurrent device window =>
      constructor
      case single => exact Region.single_markCurrent sound.single (fits
        window rfl)
      case taken => exact sound.taken
  | snapshot =>
      constructor
      case single => exact sound.single
      case taken =>
        intro saved member
        rcases List.mem_append.mp member with earlier | now
        · exact sound.taken saved earlier
        · rw [List.mem_singleton.mp now, Region.savedValid_snapshot,
            Region.savedCurrent_snapshot]
          exact sound.single
  | restore place =>
      simp only [Change.apply]
      split
      · rename_i saved found
        have member := List.mem_of_getElem? found
        constructor
        case single => exact Region.single_restore (sound.taken saved member)
        case taken => exact sound.taken
      · exact sound

theorem Tracker.Sound.foldl {tracker : Tracker} (sound : tracker.Sound)
    {changes : List Change}
    (fits : ∀ change ∈ changes,
      ∀ window ∈ change.window?, window.Representable) :
    (changes.foldl Change.apply tracker).Sound := by
  induction changes generalizing tracker with
  | nil => exact sound
  | cons change changes induction =>
      obtain ⟨first, rest⟩ := List.forall_mem_cons.mp fits
      exact induction (sound.apply first) rest

theorem Tracker.Sound.create (id : RegionId) (name : String) (range : Triple)
    (elementSize : Nat) :
    Tracker.Sound ⟨.create id name range elementSize, []⟩ where
  single := .nothing
  taken _ absent := absurd absent List.not_mem_nil

theorem sound_tracked (id : RegionId) (name : String) (range : Triple)
    (elementSize : Nat) {changes : List Change}
    (fits : ∀ change ∈ changes,
      ∀ window ∈ change.window?, window.Representable) :
    (tracked id name range elementSize changes).Sound :=
  (Tracker.Sound.create id name range elementSize).foldl fits

/-- What is stored for a device is what the device holds. -/
theorem SingleWriter.neat_of_mem {region : Region}
    (single : SingleWriter region.validOn region.currentOn)
    {entry : Device × Allocation}
    (stored : entry ∈ region.allocations.entries) :
    Neat entry.2.valid ∧ Neat entry.2.current := by
  have found : region.allocation? entry.1 = some entry.2 :=
    Table.get?_eq_some_of_mem _ stored
  have isValid : region.validOn entry.1 = entry.2.valid := by
    simp [Region.validOn, found]
  have isCurrent : region.currentOn entry.1 = entry.2.current := by
    simp [Region.currentOn, found]
  exact ⟨isValid ▸ single.neatValid entry.1,
    isCurrent ▸ single.neatCurrent entry.1⟩

/-- After any changes of a new buffer, an element is current on one device at
most, where it is valid, and every set that is stored is a canonical tiling. A
device that has a copy and writes a window then is the only one that holds
it. -/
theorem singleWriter_tracked (id : RegionId) (name : String) (range : Triple)
    (elementSize : Nat) (changes : List Change)
    (fits : ∀ change ∈ changes,
      ∀ window ∈ change.window?, window.Representable) :
    let region := (tracked id name range elementSize changes).region
    SingleWriter region.validOn region.currentOn ∧
    (∀ entry ∈ region.allocations.entries,
      Neat entry.2.valid ∧ Neat entry.2.current) ∧
    ∀ device window, region.hasAllocation device = true →
        let written := region.markCurrent device window
        ∀ position ∈ window, position ∈ written.validOn device ∧
          position ∈ written.currentOn device ∧
          ∀ other, other ≠ device → position ∉ written.validOn other ∧
            position ∉ written.currentOn other := by
  intro region
  have sound := sound_tracked id name range elementSize fits
  refine ⟨sound.single, fun entry stored => sound.single.neat_of_mem stored, ?_⟩
  intro device window present written position inside
  refine ⟨?_, ?_, fun other different => ⟨fun held => ?_, fun held => ?_⟩⟩
  · exact (Region.mem_validOn_markCurrent_self present).mpr (.inr inside)
  · exact (Region.mem_currentOn_markCurrent_self present).mpr (.inr inside)
  · exact ((Region.mem_validOn_markCurrent_other present different).mp held).2
      inside
  · exact ((Region.mem_currentOn_markCurrent_other present different).mp held).2
      inside

/-- A snapshot is put back after another device has written and the first copy
was replaced. -/
def replaced : List Change :=
  [.addAllocation ⟨.host, 0⟩ 0, .addAllocation ⟨.cuda, 0⟩ 1,
    .markCurrent ⟨.host, 0⟩ ⟨⟨0, 0, 0⟩, ⟨4, 1, 1⟩⟩, .snapshot,
    .markCurrent ⟨.cuda, 0⟩ ⟨⟨1, 0, 0⟩, ⟨2, 1, 1⟩⟩, .addAllocation ⟨.host, 0⟩ 2,
    .markValid ⟨.host, 0⟩ ⟨⟨2, 0, 0⟩, ⟨1, 1, 1⟩⟩, .restore 0]

theorem singleWriter_replaced :
    let region := (tracked 0 "buffer" ⟨4, 1, 1⟩ 8 replaced).region
    (∀ change ∈ replaced, ∀ window ∈ change.window?, window.Representable) ∧
    SingleWriter region.validOn region.currentOn ∧
    region.currentOn ⟨.host, 0⟩ = ⟨[⟨⟨0, 0, 0⟩, ⟨4, 1, 1⟩⟩]⟩ ∧
    region.hasAllocation ⟨.cuda, 0⟩ = true ∧ (⟨3, 0, 0⟩ : Triple) ∉
      (region.markCurrent ⟨.cuda, 0⟩ ⟨⟨3, 0, 0⟩, ⟨1, 1, 1⟩⟩).currentOn
        ⟨.host, 0⟩ := by
  intro region
  have fits :
      ∀ change ∈ replaced, ∀ window ∈ change.window?, window.Representable := by
    decide
  have present : region.hasAllocation ⟨.cuda, 0⟩ = true := by decide
  obtain ⟨single, _, written⟩ :=
    singleWriter_tracked 0 "buffer" ⟨4, 1, 1⟩ 8 replaced fits
  have alone :=
    written ⟨.cuda, 0⟩ ⟨⟨3, 0, 0⟩, ⟨1, 1, 1⟩⟩ present ⟨3, 0, 0⟩ (by decide)
  exact ⟨fits, single, by decide, present, (alone.2.2 ⟨.host, 0⟩ (by decide)).2⟩

end CoherentTasks.Coherence
