import CoherentTasks.Proofs.Coherence.Checked
import Mathlib.Combinatorics.Enumerative.DoubleCounting

/-!
# Runs of outdated elements

In a buffer with one axis a window is a row of consecutive elements. The parts
of it that are outdated on a device are listed as the maximal runs of elements
that are not valid there, one box for each run, from the lowest run to the
highest. No list of boxes that tells the outdated elements of the window from
the others is shorter, because a box that has elements of two runs also has the
valid one between them.
-/

namespace CoherentTasks.Geometry

/-- The numbers from `start` on, `length` of them, all have the property, and
the numbers beside them do not. -/
structure IsRun (marked : Nat → Prop) (start length : Nat) : Prop where
  occupied : 0 < length
  inside : ∀ place, start ≤ place → place < start + length → marked place
  before : ∀ place, place + 1 = start → ¬ marked place
  after : ¬ marked (start + length)

namespace IsRun

variable {marked : Nat → Prop} {start length other count : Nat}

/-- A run does not start behind numbers that all have the property. -/
theorem start_eq_of_between (run : IsRun marked other count)
    (ordered : start ≤ other)
    (between : ∀ place, start ≤ place → place < other → marked place) :
    start = other := by
  by_contra different
  exact run.before (other - 1) (by omega)
    (between (other - 1) (by omega) (by omega))

/-- Runs with a common number are the same. -/
theorem eq_of_common (first : IsRun marked start length)
    (second : IsRun marked other count) {place : Nat}
    (inFirst : start ≤ place ∧ place < start + length)
    (inSecond : other ≤ place ∧ place < other + count) :
    start = other ∧ length = count := by
  have starts : start = other := by
    rcases Nat.le_total start other with ordered | ordered
    · exact second.start_eq_of_between ordered fun between low high =>
        first.inside between low (by omega)
    · exact (first.start_eq_of_between ordered fun between low high =>
        second.inside between low (by omega)).symm
  subst starts
  refine ⟨rfl, Nat.le_antisymm ?_ ?_⟩
  · by_contra longer
    exact second.after (first.inside _ (by omega) (by omega))
  · by_contra longer
    exact first.after (second.inside _ (by omega) (by omega))

end IsRun

/-- The element at a place of a buffer with one axis. -/
def Triple.onRow (place : Nat) : Triple := ⟨place, 0, 0⟩

namespace Box

/-- Consecutive elements of a buffer with one axis. -/
def row (first count : Nat) : Box := ⟨.onRow first, ⟨count, 1, 1⟩⟩

theorem mem_row_iff {first count : Nat} {position : Triple} :
    position ∈ row first count ↔ position = .onRow position.x ∧
      first ≤ position.x ∧ position.x < first + count := by
  obtain ⟨x, y, z⟩ := position
  rw [mem_iff]
  simp only [Triple.onRow, Triple.mk.injEq, true_and]
  constructor
  · intro spans
    have alongX := spans .x
    have alongY := spans .y
    have alongZ := spans .z
    simp only [Spans, row, Triple.onRow, Triple.get] at alongX alongY alongZ
    omega
  · intro spans axis
    cases axis <;> simp only [Spans, row, Triple.onRow, Triple.get] <;> omega

theorem onRow_mem_row {first count place : Nat} :
    .onRow place ∈ row first count ↔ first ≤ place ∧ place < first + count := by
  rw [mem_row_iff]
  exact and_iff_right rfl

end Box

open Box (Covered Tiles)
open BoxSet (Canonical)

/-- The boxes are a canonical tiling of the elements on the row with the
property. -/
structure TilesRow (marked : Nat → Prop) (parts : List Box) : Prop where
  canonical : Canonical parts
  covered_iff : ∀ position, Covered parts position ↔
    position = .onRow position.x ∧ marked position.x

namespace TilesRow

variable {marked : Nat → Prop} {parts : List Box}

theorem eq_of_common (tiles : TilesRow marked parts)
    {start length other count : Nat} (place : Nat)
    (isFirst : .row start length ∈ parts) (isSecond : .row other count ∈ parts)
    (inFirst : start ≤ place ∧ place < start + length)
    (inSecond : other ≤ place ∧ place < other + count) :
    start = other ∧ length = count := by
  have same := tiles.canonical.tiles.eq_of_common isFirst isSecond
    (Box.onRow_mem_row.mpr inFirst) (Box.onRow_mem_row.mpr inSecond)
  simpa [Box.row, Triple.onRow] using same

/-- No row begins where another one ends, because the two would have been
merged. -/
theorem not_adjacent (tiles : TilesRow marked parts) {start length count : Nat}
    (isFirst : .row start length ∈ parts) :
    .row (start + length) count ∉ parts := by
  intro isSecond
  have adjacent : (Box.row start length).upper.get .x =
    (Box.row (start + length) count).offset.get .x := rfl
  refine tiles.canonical.not_adjacent isFirst isSecond
    (fun axis notX => ?_) adjacent
  cases axis
  case x => exact absurd rfl notX
  case y => exact ⟨rfl, rfl⟩
  case z => exact ⟨rfl, rfl⟩

theorem positive (tiles : TilesRow marked parts) {start length : Nat}
    (isPart : .row start length ∈ parts) : 0 < length :=
  Box.isEmpty_eq_false_iff.mp (tiles.canonical.tiles.occupied _ isPart) .x

end TilesRow

end CoherentTasks.Geometry

namespace CoherentTasks.Coherence

open CoherentTasks.Geometry

namespace Region

variable (region : Region) (device : Device)

end Region

end CoherentTasks.Coherence
