import CoherentTasks.Coherence.Region
import CoherentTasks.Error
import CoherentTasks.Graph.Operation

/-!
# Transfers

Which copies make a window valid on a device. Each outdated part is fetched from
the first device that holds valid data for some of it, and what is then still
missing is looked up again.
-/

namespace CoherentTasks.Submission

open CoherentTasks.Coherence (Region)
open CoherentTasks.Geometry (Box)
open CoherentTasks.Graph (Copy)

/-- The copy of a box of a region between two devices. -/
def transferOf (region : Region) (source destination : Device) (box : Box) :
    Copy :=
  ⟨⟨source, box.offset, region.id⟩,
    ⟨destination, box.offset, region.id⟩, box.extent⟩

/-- Fetches the boxes of a stack, its head first. Every step fetches at least
one element, so the number of elements bounds the number of steps. -/
def fetch (region : Region) (device : Device) :
    Nat → List Box → Except Error (List Copy)
  | 0, _ => .ok []
  | _ + 1, [] => .ok []
  | steps + 1, box :: stack =>
    match region.updateSources device box with
    | [] => .error (.noUpdateSource box region.name device)
    | (source, part) :: _ => do
      let others ←
        fetch region device steps ((box.subtract part).reverse ++ stack)
      return transferOf region source device part :: others

/-- The copies that make a window valid on a device. -/
def planTransfers (region : Region) (device : Device) (window : Box) :
    Except Error (List Copy) := do
  let copies ← (region.outdated device window).mapM fun box =>
    fetch region device box.count [box]
  return copies.flatten

end CoherentTasks.Submission
