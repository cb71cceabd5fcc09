import CoherentTasks.Device
import CoherentTasks.Geometry.BoxSet
import CoherentTasks.Identifier
import CoherentTasks.Table
import CoherentTasks.Word

/-!
# Regions

A region tracks one buffer. For every device with an allocation of the buffer it
records which elements are valid there, that is safe to read, and which are
current, that is written there last. A write makes its window current on one
device and invalid on all others.
-/

namespace CoherentTasks.Coherence

open CoherentTasks.Geometry

/-- The copy of a buffer on one device. -/
structure Allocation where
  pointer : Pointer
  valid : BoxSet
  current : BoxSet
  deriving DecidableEq, Repr

def Allocation.fresh (pointer : Pointer) : Allocation :=
  ⟨pointer, .empty, .empty⟩

/-- One buffer and its copies on devices. -/
structure Region where
  id : RegionId
  name : String
  range : Triple
  elementSize : Nat
  allocations : Table Device Allocation
  deriving DecidableEq, Repr

namespace Region

def create (id : RegionId) (name : String) (range : Triple)
    (elementSize : Nat) : Region :=
  ⟨id, name, range, elementSize, .empty⟩

def full (region : Region) : Box :=
  Box.ofExtent region.range

/-- Bytes of one copy, if that is a machine word. -/
def allocationSize? (region : Region) : Option Nat :=
  Word.multiplyAll? region.elementSize region.range.toList

def allocation? (region : Region) (device : Device) : Option Allocation :=
  region.allocations.get? device

def hasAllocation (region : Region) (device : Device) : Bool :=
  (region.allocation? device).isSome

def pointer? (region : Region) (device : Device) : Option Pointer :=
  (region.allocation? device).map (·.pointer)

def devices (region : Region) : List Device :=
  region.allocations.keys

def validOn (region : Region) (device : Device) : BoxSet :=
  ((region.allocation? device).map (·.valid)).getD .empty

def currentOn (region : Region) (device : Device) : BoxSet :=
  ((region.allocation? device).map (·.current)).getD .empty

/-- Records a fresh copy on a device, instead of an earlier one. -/
def addAllocation (region : Region) (device : Device) (pointer : Pointer) :
    Region :=
  { region with
    allocations := region.allocations.insert device (.fresh pointer) }

def containsWindow (region : Region) (window : Box) : Bool :=
  region.full.contains window

/-- The parts of a window that are not valid on a device. -/
def outdated (region : Region) (device : Device) (window : Box) : List Box :=
  match region.allocation? device with
  | some allocation => allocation.valid.uncovered window
  | none => if window.isEmpty then [] else [window]

def isValid (region : Region) (device : Device) (window : Box) : Bool :=
  match region.allocation? device with
  | some allocation => allocation.valid.covers window
  | none => false

/-- Other devices with valid data for parts of a box, and those parts. Devices
with current data for the box come first, each group in ascending order. -/
def updateSources (region : Region) (device : Device) (box : Box) :
    List (Device × Box) :=
  let others := region.allocations.entries.filter (·.1 ≠ device)
  let writers := others.filter (·.2.current.intersects box)
  let readers := others.filter fun entry => !entry.2.current.intersects box
  (writers ++ readers).flatMap fun entry =>
    (entry.2.valid.overlaps box).map fun part => (entry.1, part)

/-- Marks a window as valid on a device; without a copy there, nothing
happens. -/
def markValid (region : Region) (device : Device) (window : Box) : Region :=
  { region with
    allocations := region.allocations.modify device fun allocation =>
      { allocation with valid := allocation.valid.insert window } }

/-- Marks a window as written last on a device, and as invalid on all others;
without a copy there, nothing happens. -/
def markCurrent (region : Region) (device : Device) (window : Box) : Region :=
  if region.hasAllocation device then
    { region with
      allocations := region.allocations.mapValues fun other allocation =>
        if other = device then
          { allocation with
            valid := allocation.valid.insert window
            current := allocation.current.insert window }
        else
          { allocation with
            valid := allocation.valid.remove window
            current := allocation.current.remove window } }
  else region

/-- Records a fresh copy on a device that holds the whole contents of the
buffer, written there last. -/
def seed (region : Region) (device : Device) (pointer : Pointer) : Region :=
  (region.addAllocation device pointer).markCurrent device region.full

end Region

/-- The valid and current elements on every device with a copy, at one
moment. -/
abbrev Snapshot := Table Device (BoxSet × BoxSet)

namespace Region

def snapshot (region : Region) : Snapshot :=
  region.allocations.mapValues
    fun _ allocation => (allocation.valid, allocation.current)

/-- Puts back what was valid and current. Copies stay; one that is not in the
snapshot holds nothing valid. -/
def restore (region : Region) (saved : Snapshot) : Region :=
  { region with
    allocations := region.allocations.mapValues fun device allocation =>
      let (valid, current) := (saved.get? device).getD (.empty, .empty)
      { allocation with valid, current } }

end Region

end CoherentTasks.Coherence
