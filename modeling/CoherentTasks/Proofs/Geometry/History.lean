import CoherentTasks.Proofs.Geometry.Tiling
import Mathlib.Data.Set.Card
import Mathlib.Order.Interval.Finset.Nat

/-!
# Histories of sets of boxes

A set of boxes that was made by insertions and removals, starting from the empty
set, is a sorted tiling of the elements whose last covering edit was an
insertion.
-/

namespace CoherentTasks.Geometry

namespace Box

/-- Every coordinate after an element of the box is a machine word. -/
private theorem representable_iff {box : Box} (occupied : box.isEmpty = false) :
    box.Representable ↔
      ∀ position ∈ box, ∀ axis, position.get axis + 1 < coordinateLimit := by
  constructor
  · intro fits position inside axis
    have span := mem_iff.mp inside axis
    have bounded := fits axis
    rw [upper_get] at bounded
    simp only [Spans] at span
    omega
  · intro bounded axis
    have positive := isEmpty_eq_false_iff.mp occupied
    have inside :
        (⟨box.upper.x - 1, box.upper.y - 1, box.upper.z - 1⟩ : Triple) ∈
          box := by
      apply mem_iff.mpr
      intro other
      have here := positive other
      cases other <;>
        simp only [Spans, upper, Triple.zipWith, Triple.get] at here ⊢ <;> omega
    have last := bounded _ inside axis
    have here := positive axis
    cases axis <;>
      simp only [upper, Triple.zipWith, Triple.get] at last here ⊢ <;> omega

/-- A tiling of elements that lie in representable boxes consists of
representable boxes. -/
theorem Tiles.representable {boxes : List Box} (tiles : Tiles boxes)
    (inside : ∀ position, Covered boxes position →
      ∃ box : Box, box.Representable ∧ position ∈ box) :
    ∀ box ∈ boxes, box.Representable := by
  intro box isBox
  refine (representable_iff (tiles.occupied box isBox)).mpr
    fun position member => ?_
  obtain ⟨outer, fits, inOuter⟩ := inside position ⟨box, isBox, member⟩
  have occupied : outer.isEmpty = false :=
    isEmpty_eq_false_iff_exists_mem.mpr ⟨position, inOuter⟩
  exact (representable_iff occupied).mp fits position inOuter

end Box

namespace BoxSet

open Box (Covered Tiles)

/-- The number of elements, when the boxes are disjoint. -/
def count (set : BoxSet) : Nat :=
  (set.boxes.map Box.count).sum

/-- The boxes are a tiling, no two of them merge, and each is less than the next
ones. -/
structure Canonical (boxes : List Box) : Prop where
  tiles : Tiles boxes
  apart : ∀ left ∈ boxes, ∀ right ∈ boxes, left.merge? right = none
  sorted : boxes.Pairwise fun left right => left.toList < right.toList

theorem Canonical.nil : Canonical [] where
  tiles := .nil
  apart _ absent := absurd absent List.not_mem_nil
  sorted := .nil

theorem Canonical.nodup {boxes : List Box} (canonical : Canonical boxes) :
    boxes.Nodup := by
  refine canonical.sorted.imp fun {left right} less same => ?_
  subst same
  exact List.lt_irrefl _ less

/-- No box begins where another one of the same shape ends. -/
theorem Canonical.not_adjacent {boxes : List Box} (canonical : Canonical boxes)
    {left right : Box} (isLeft : left ∈ boxes) (isRight : right ∈ boxes)
    {axis : Axis}
    (agree : ∀ other,
      other ≠ axis → left.offset.get other = right.offset.get other ∧
        left.extent.get other = right.extent.get other) :
    left.upper.get axis ≠ right.offset.get axis := by
  have separate :=
    Box.merge?_eq_none_iff.mp (canonical.apart left isLeft right isRight) axis
  exact (Box.mergeAlong?_eq_none_iff.mp separate
    (Box.agreeExcept_iff.mpr agree)).1

theorem canonical_coalesce {boxes : List Box} (tiles : Tiles boxes) :
    Canonical (Box.coalesce boxes) := by
  have order := (Box.sort_perm (Box.mergeTimes boxes.length boxes)).symm
  have sorted : Tiles (Box.coalesce boxes) :=
    (tiles.mergeTimes boxes.length).perm order
  refine ⟨sorted, fun left isLeft right isRight => ?_,
    sorted.strictly_sorted (Box.sorted_sort _)⟩
  have symmetric : Std.Symm fun left right : Box => left.merge? right = none :=
    ⟨fun _ _ => Box.merge?_eq_none_comm⟩
  have separate :=
    Box.findMerger_eq_none_iff.mp
      (Box.findMerger_mergeTimes (le_refl boxes.length))
  exact (separate.perm order
    fun {_ _} => Box.merge?_eq_none_comm).forall_of_forall
    (fun box isBox => Box.merge?_self (sorted.occupied box isBox))
    isLeft isRight

theorem canonical_insert {set : BoxSet} (canonical : Canonical set.boxes)
    (box : Box) : Canonical (set.insert box).boxes := by
  simp only [insert]
  split
  · exact canonical
  · rename_i occupied
    have occupied : box.isEmpty = false := by simpa using occupied
    split
    · exact canonical
    · refine canonical_coalesce
        (canonical.tiles.append ?_ fun position inSet inPieces => ?_)
      · exact (Tiles.singleton occupied).subtractAll set.boxes
      · exact (Box.covered_subtractAll_iff.mp inPieces).2 inSet

theorem canonical_remove {set : BoxSet} (canonical : Canonical set.boxes)
    (box : Box) : Canonical (set.remove box).boxes := by
  simp only [remove]
  split
  · exact canonical_coalesce (canonical.tiles.subtract box)
  · exact canonical

theorem canonical_uncovered (set : BoxSet) (window : Box) :
    Canonical (set.uncovered window) := by
  simp only [uncovered]
  split
  · exact .nil
  · rename_i occupied
    have occupied : window.isEmpty = false := by simpa using occupied
    exact canonical_coalesce ((Tiles.singleton occupied).subtractAll set.boxes)

/-- A step in the history of a set. -/
inductive Edit where
  | insert (box : Box)
  | remove (box : Box)
  deriving DecidableEq, Repr

/-- The box that is inserted or removed. -/
def Edit.box : Edit → Box
  | .insert box => box
  | .remove box => box

def Edit.apply (set : BoxSet) : Edit → BoxSet
  | .insert box => set.insert box
  | .remove box => set.remove box

/-- The set after the edits, which started from the empty set. -/
def edited (edits : List Edit) : BoxSet :=
  edits.foldl Edit.apply .empty

/-- The last edit whose box has the position. -/
def lastCovering? (edits : List Edit) (position : Triple) : Option Edit :=
  edits.reverse.find? (position ∈ ·.box)

/-- The elements that were last inserted. -/
def remaining (edits : List Edit) : Set Triple :=
  {position | ∃ box, lastCovering? edits position = some (.insert box)}

theorem edited_append_singleton (edits : List Edit) (edit : Edit) :
    edited (edits ++ [edit]) = edit.apply (edited edits) := by
  simp [edited]

private theorem lastCovering?_append_singleton (edits : List Edit) (edit : Edit)
    (position : Triple) :
    lastCovering? (edits ++ [edit]) position = if position ∈ edit.box
      then some edit else lastCovering? edits position := by
  simp only [lastCovering?, List.reverse_append, List.reverse_singleton,
    List.singleton_append, List.find?_cons]
  split <;> simp_all

theorem canonical_edited (edits : List Edit) :
    Canonical (edited edits).boxes := by
  induction edits using List.reverseRecOn with
  | nil => exact .nil
  | append_singleton edits edit induction =>
      rw [edited_append_singleton]
      cases edit with
      | insert box => exact canonical_insert induction box
      | remove box => exact canonical_remove induction box

theorem mem_edited_iff (edits : List Edit) (position : Triple) :
    position ∈ edited edits ↔ position ∈ remaining edits := by
  simp only [remaining, Set.mem_ofPred_eq]
  induction edits using List.reverseRecOn with
  | nil => simp [edited, lastCovering?]
  | append_singleton edits edit induction =>
      rw [edited_append_singleton, lastCovering?_append_singleton]
      cases edit with
      | insert box =>
          simp only [Edit.apply, mem_insert_iff, Edit.box, induction]
          by_cases inside : position ∈ box <;> simp [inside]
      | remove box =>
          simp only [Edit.apply, mem_remove_iff, Edit.box, induction]
          by_cases inside : position ∈ box <;> simp [inside]

/-- A remaining element lies in a box that was inserted. -/
private theorem exists_insert_of_remaining {edits : List Edit}
    {position : Triple} (remains : position ∈ remaining edits) :
    ∃ box, .insert box ∈ edits ∧ position ∈ box := by
  obtain ⟨box, found⟩ := remains
  have member := List.mem_reverse.mp (List.mem_of_find?_eq_some found)
  have inside := List.find?_some found
  exact ⟨box, member, of_decide_eq_true inside⟩

/-- The boxes of a history of boxes with representable ends have such ends. -/
theorem representable_edited {edits : List Edit}
    (fits : ∀ edit ∈ edits, edit.box.Representable) :
    ∀ box ∈ (edited edits).boxes, box.Representable := by
  refine (canonical_edited edits).tiles.representable fun position covered => ?_
  obtain ⟨box, member, inside⟩ :=
    exists_insert_of_remaining ((mem_edited_iff edits position).mp covered)
  exact ⟨box, fits _ member, inside⟩

end BoxSet

end CoherentTasks.Geometry
