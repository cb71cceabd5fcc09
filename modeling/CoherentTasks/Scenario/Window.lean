import CoherentTasks.Geometry.Box
import CoherentTasks.Scenario.Model

/-!
# Windows of a scenario

Lists of one to three numbers stand for a number along each axis; a window
without an extent goes to the end of its buffer.
-/

namespace CoherentTasks.Scenario

open CoherentTasks.Geometry (Box Triple)

/-- A number for each axis, where missing ones at the end are filled in. -/
def pad? (numbers : List Nat) (fill : Nat) : Option Triple :=
  match numbers with
  | [x] => some ⟨x, fill, fill⟩
  | [x, y] => some ⟨x, y, fill⟩
  | [x, y, z] => some ⟨x, y, z⟩
  | _ => none

/-- The rest of a buffer from an offset on, unless the offset lies behind the
end. -/
def remainder? (range offset : Triple) : Option Triple :=
  if offset.x ≤ range.x ∧ offset.y ≤ range.y ∧ offset.z ≤ range.z then
    some (range.zipWith (· - ·) offset)
  else none

/-- The window in a buffer of the given range. Whether it fits is not checked
here. -/
def WindowEntry.resolve? (window : WindowEntry) (range : Triple) :
    Option Box := do
  let offset ←
    match window.offset with
    | some numbers => pad? numbers 0
    | none => some .origin
  let extent ←
    match window.extent with
    | some numbers => pad? numbers 1
    | none => remainder? range offset
  return ⟨offset, extent⟩

/-- Number of elements of a buffer along each axis. -/
def BufferEntry.elements? (buffer : BufferEntry) : Option Triple :=
  pad? buffer.range 1

end CoherentTasks.Scenario
