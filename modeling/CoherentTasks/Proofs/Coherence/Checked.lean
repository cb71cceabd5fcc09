import CoherentTasks.Proofs.Coherence.SingleWriter
import CoherentTasks.Proofs.Geometry.Checked

/-!
# Regions of machine words

The operations on regions over the checked operations on boxes. A history of a
region is computed without leaving the machine words if all the windows that are
marked have representable ends.
-/

namespace CoherentTasks.Coherence

open CoherentTasks.Geometry

/-- All the boxes of elements that are valid or current have representable
ends. -/
def Region.HoldsRepresentable (region : Region) : Prop :=
  ∀ entry ∈ region.allocations.entries,
    (∀ box ∈ entry.2.valid.boxes, box.Representable) ∧
      ∀ box ∈ entry.2.current.boxes, box.Representable

/-- The outdated parts lie inside the window. -/
theorem Region.outdated_representable {region : Region} {device : Device}
    {window : Box} (fits : window.Representable) :
    ∀ part ∈ region.outdated device window, part.Representable := by
  rw [Region.outdated_eq_uncovered]
  refine (BoxSet.canonical_uncovered _ _).tiles.representable ?_
  exact fun position covered =>
    ⟨window, fits, (BoxSet.covered_uncovered_iff.mp covered).1⟩

theorem Tracker.Sound.holdsRepresentable {tracker : Tracker}
    (sound : tracker.Sound) : tracker.region.HoldsRepresentable :=
  fun _ stored =>
    ⟨(sound.single.neat_of_mem stored).1.representable,
      (sound.single.neat_of_mem stored).2.representable⟩

namespace Checked

open CoherentTasks.Geometry.Checked

def outdated (region : Region) (device : Device) (window : Box) :
    Option (List Box) :=
  match region.allocation? device with
  | some allocation => uncovered allocation.valid window
  | none => some (if window.isEmpty then [] else [window])

/-- The parts of a box that each of the copies holds. -/
def partsOf (sources : List (Device × Allocation)) (box : Box) :
    Option (List (Device × Box)) := do
  let parts ← sources.mapM fun entry => do
    return (← overlaps entry.2.valid box).map fun part => (entry.1, part)
  return parts.flatten

def updateSources (region : Region) (device : Device) (box : Box) :
    Option (List (Device × Box)) := do
  let others := region.allocations.entries.filter (·.1 ≠ device)
  let compared ← others.mapM fun entry => do
    return (entry, ← intersects entry.2.current.boxes box)
  let writers := (compared.filter (·.2)).map (·.1)
  let readers := (compared.filter fun entry => !entry.2).map (·.1)
  partsOf (writers ++ readers) box

/-- Changes every copy of the buffer, if all the changes can be computed. -/
def changeCopies (change : Device → Allocation → Option Allocation)
    (region : Region) : Option Region :=
  if region.allocations.entries.all fun entry =>
      (change entry.1 entry.2).isSome then
    some { region with
      allocations := region.allocations.mapValues fun device allocation =>
        (change device allocation).getD allocation }
  else none

def markValid (region : Region) (device : Device) (window : Box) :
    Option Region :=
  region |> changeCopies fun other allocation => do
    if other = device then
      return { allocation with valid := ← insert allocation.valid window }
    else return allocation

def markCurrent (region : Region) (device : Device) (window : Box) :
    Option Region :=
  if region.hasAllocation device then
    region |> changeCopies fun other allocation => do
      if other = device then
        return { allocation with
          valid := ← insert allocation.valid window
          current := ← insert allocation.current window }
      else
        return { allocation with
          valid := ← remove allocation.valid window
          current := ← remove allocation.current window }
  else some region

/-- Only the marking of windows computes with coordinates. -/
def apply (tracker : Tracker) : Change → Option Tracker
  | .markValid device window => do
    return { tracker with region := ← markValid tracker.region device window }
  | .markCurrent device window => do
    return { tracker with region := ← markCurrent tracker.region device window }
  | change => some (change.apply tracker)

def tracked (id : RegionId) (name : String) (range : Triple)
    (elementSize : Nat) (changes : List Change) : Option Tracker :=
  changes.foldlM apply ⟨.create id name range elementSize, []⟩

variable {fits : Prop} {region : Region} {device : Device} {window box : Box}

theorem computes_outdated (holds : fits → region.HoldsRepresentable)
    (windowFits : fits → window.Representable) :
    Computes fits (outdated region device window)
      (region.outdated device window) := by
  simp only [outdated, Region.outdated]
  cases found : region.allocation? device with
  | none => exact .of_eq_some rfl
  | some allocation =>
      have isEntry := Table.mem_of_get?_eq_some found
      exact computes_uncovered (fun fit => (holds fit _ isEntry).1) windowFits

theorem computes_partsOf {sources : List (Device × Allocation)}
    (boxFits : fits → box.Representable)
    (holds : fits → ∀ entry ∈ sources,
      ∀ box ∈ entry.2.valid.boxes, box.Representable) :
    Computes fits (partsOf sources box) (sources.flatMap fun entry =>
      (entry.2.valid.overlaps box).map fun part => (entry.1, part)) := by
  have each : Computes fits
      (sources.mapM fun entry => do
        return (← overlaps entry.2.valid box).map fun part => (entry.1, part))
      (sources.map fun entry =>
        (entry.2.valid.overlaps box).map fun part => (entry.1, part)) :=
    Computes.mapM fun entry isEntry =>
      (computes_overlaps (fun fit => holds fit entry isEntry) boxFits).bind
        (.of_eq_some rfl)
  exact each.bind (.of_eq_some rfl)

theorem computes_updateSources (holds : fits → region.HoldsRepresentable)
    (boxFits : fits → box.Representable) :
    Computes fits (updateSources region device box)
      (region.updateSources device box) := by
  have others (fit : fits) (entry : Device × Allocation)
      (isEntry : entry ∈ region.allocations.entries.filter (·.1 ≠ device)) :=
    holds fit entry (List.mem_of_mem_filter isEntry)
  simp only [updateSources, Region.updateSources]
  generalize region.allocations.entries.filter (·.1 ≠ device) = entries
    at others ⊢
  have compared : Computes fits
      (entries.mapM fun entry => do
        return (entry, ← intersects entry.2.current.boxes box))
      (entries.map fun entry => (entry, entry.2.current.intersects box)) :=
    Computes.mapM fun entry isEntry =>
      (computes_intersects (fun fit => (others fit entry isEntry).2)
        boxFits).bind (.of_eq_some rfl)
  refine compared.bind ?_
  simp only [List.filter_map, List.map_map, Function.comp_def, List.map_id']
  refine computes_partsOf boxFits fun fit entry isSource =>
    (others fit entry ?_).1
  exact (List.mem_append.mp isSource).elim List.mem_of_mem_filter
    List.mem_of_mem_filter

theorem computes_changeCopies
    {change : Device → Allocation → Option Allocation}
    {result : Device → Allocation → Allocation}
    (each : ∀ entry ∈ region.allocations.entries,
      Computes fits (change entry.1 entry.2) (result entry.1 entry.2)) :
    Computes fits (changeCopies change region)
      { region with allocations := region.allocations.mapValues result } := by
  simp only [changeCopies]
  split
  · rename_i every
    rw [List.all_eq_true] at every
    refine .of_eq_some ?_
    congr 2
    refine Table.mapValues_congr fun entry isEntry => ?_
    obtain ⟨changed, found⟩ := Option.isSome_iff_exists.mp (every entry isEntry)
    rw [found]
    exact (each entry isEntry).eq_of_eq_some found
  · rename_i missing
    refine .inr ⟨rfl, fun fit => missing ?_⟩
    rw [List.all_eq_true]
    intro entry isEntry
    rw [(each entry isEntry).eq_some fit]
    rfl

theorem computes_markValid (holds : fits → region.HoldsRepresentable)
    (windowFits : fits → window.Representable) :
    Computes fits (markValid region device window)
      (region.markValid device window) := by
  refine computes_changeCopies fun entry isEntry => ?_
  split
  · exact (computes_insert (fun fit => (holds fit entry isEntry).1)
      windowFits).bind (.of_eq_some rfl)
  · exact .of_eq_some rfl

theorem computes_markCurrent (holds : fits → region.HoldsRepresentable)
    (windowFits : fits → window.Representable) :
    Computes fits (markCurrent region device window)
      (region.markCurrent device window) := by
  simp only [markCurrent, Region.markCurrent]
  split
  · refine computes_changeCopies fun entry isEntry => ?_
    have validFit (fit : fits) := (holds fit entry isEntry).1
    have currentFit (fit : fits) := (holds fit entry isEntry).2
    split
    · exact (computes_insert validFit windowFits).bind
        ((computes_insert currentFit windowFits).bind (.of_eq_some rfl))
    · exact (computes_remove validFit windowFits).bind
        ((computes_remove currentFit windowFits).bind (.of_eq_some rfl))
  · exact .of_eq_some rfl

/-- Parts that may be fetched end inside a box that is held. -/
theorem updateSources_representable (holds : region.HoldsRepresentable) :
    ∀ source ∈ region.updateSources device box, source.2.Representable := by
  intro source isSource
  simp only [Region.updateSources] at isSource
  obtain ⟨entry, isEntry, fromEntry⟩ := List.mem_flatMap.mp isSource
  obtain ⟨part, isPart, rfl⟩ := List.mem_map.mp fromEntry
  have isEntry : entry ∈ region.allocations.entries :=
    (List.mem_append.mp isEntry).elim
      (fun writer => List.mem_of_mem_filter (List.mem_of_mem_filter writer))
      (fun reader => List.mem_of_mem_filter (List.mem_of_mem_filter reader))
  obtain ⟨valid, isValid, found⟩ := List.mem_filterMap.mp isPart
  exact (Box.within_of_intersection?_eq_some found).representable
    ((holds entry isEntry).1 valid isValid)

end Checked

end CoherentTasks.Coherence
