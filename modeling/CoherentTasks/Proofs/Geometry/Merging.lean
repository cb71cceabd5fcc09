import CoherentTasks.Proofs.Geometry.Checked
import CoherentTasks.Proofs.Geometry.Rigid

/-!
# Merging is exact

Two boxes without common elements merge exactly if their elements are together
those of one box: if they are, the boxes share a full face. A list of such boxes
is merged pair by pair. Each merging leaves one box less, so there is a last
one, and then no two boxes are together a box.
-/

namespace CoherentTasks.Geometry

namespace Box

/-- The box has exactly the elements of the two others. -/
def Unites (whole left right : Box) : Prop :=
  ∀ position, position ∈ whole ↔ position ∈ left ∨ position ∈ right

/-- The boxes have the same span along an axis. -/
def AgreeAlong (left right : Box) (axis : Axis) : Prop :=
  left.offset.get axis = right.offset.get axis ∧
  left.extent.get axis = right.extent.get axis

private theorem eq_of_agreeAlong {left right : Box}
    (agree : ∀ axis, left.AgreeAlong right axis) : left = right := by
  obtain ⟨leftOffset, leftExtent⟩ := left
  obtain ⟨rightOffset, rightExtent⟩ := right
  have offsets : leftOffset = rightOffset :=
    Triple.ext_get fun axis => (agree axis).1
  have extents : leftExtent = rightExtent :=
    Triple.ext_get fun axis => (agree axis).2
  rw [offsets, extents]

private theorem agreeAlong_of_within {left right : Box}
    (there : left.Within right) (back : right.Within left) (axis : Axis) :
    left.AgreeAlong right axis := by
  have first := there axis
  have second := back axis
  rw [upper_get, upper_get] at first second
  exact ⟨by omega, by omega⟩

/-- A box that has elements is determined by them. -/
private theorem eq_of_mem_iff {left right : Box}
    (occupied : left.isEmpty = false)
    (same : ∀ position, position ∈ left ↔ position ∈ right) : left = right := by
  have rightOccupied : right.isEmpty = false :=
    isEmpty_eq_false_iff_exists_mem.mpr
      ⟨left.offset, (same _).mp (offset_mem occupied)⟩
  have there : left.Within right :=
    within_of_forall_mem occupied fun position => (same position).mp
  have back : right.Within left :=
    within_of_forall_mem rightOccupied fun position => (same position).mpr
  exact eq_of_agreeAlong (agreeAlong_of_within there back)

/-- Two boxes with elements, of which they share none, have together exactly
those of a third one. -/
structure Halves (left right whole : Box) : Prop where
  left_occupied : left.isEmpty = false
  right_occupied : right.isEmpty = false
  apart : left.Apart right
  unites : whole.Unites left right

namespace Halves

variable {left right whole : Box} {axis : Axis}

theorem symm (halves : Halves left right whole) : Halves right left whole where
  left_occupied := halves.right_occupied
  right_occupied := halves.left_occupied
  apart := halves.apart.symm
  unites position := (halves.unites position).trans or_comm

theorem within (halves : Halves left right whole) : left.Within whole :=
  within_of_forall_mem halves.left_occupied fun position inside =>
    (halves.unites position).mpr (.inl inside)

theorem occupied (halves : Halves left right whole) : whole.isEmpty = false :=
  isEmpty_eq_false_iff_exists_mem.mpr ⟨left.offset,
    (halves.unites _).mpr (.inl (offset_mem halves.left_occupied))⟩

private theorem not_whole (halves : Halves left right whole) :
    left ≠ whole := by
  rintro rfl
  have inRight := offset_mem halves.right_occupied
  exact halves.apart _ ((halves.unites _).mpr (.inr inRight)) inRight

/-- A part that is shorter than the whole along an axis leaves out a full slice
of it. -/
private theorem exists_outside (halves : Halves left right whole)
    (shorter : ¬ left.AgreeAlong whole axis) :
    ∃ number, (whole.offset.get axis ≤ number ∧
      number < whole.offset.get axis + whole.extent.get axis) ∧
      ¬ (left.offset.get axis ≤ number ∧
        number < left.offset.get axis + left.extent.get axis) := by
  have inside := halves.within axis
  have positive := isEmpty_eq_false_iff.mp halves.occupied axis
  simp only [upper_get, AgreeAlong] at inside shorter
  by_cases later : whole.offset.get axis < left.offset.get axis
  · exact ⟨whole.offset.get axis, by omega, by omega⟩
  · exact ⟨left.offset.get axis + left.extent.get axis, by omega, by omega⟩

/-- Where one part leaves out a slice of the whole, the other one has the slice,
so that it extends as far as the whole along the other axes. -/
private theorem agree_of_shorter (halves : Halves left right whole)
    (shorter : ¬ left.AgreeAlong whole axis) {other : Axis}
    (different : other ≠ axis) : right.AgreeAlong whole other := by
  obtain ⟨number, inWhole, outside⟩ := halves.exists_outside shorter
  have sliceOccupied : (whole.withSpan axis number 1).isEmpty = false :=
    isEmpty_withSpan halves.occupied Nat.one_pos
  have slice : (whole.withSpan axis number 1).Within right := by
    refine within_of_forall_mem sliceOccupied fun position inSlice => ?_
    obtain ⟨here, elsewhere⟩ := mem_withSpan.mp inSlice
    have same : position.get axis = number := by omega
    have isInside : position ∈ whole :=
      (mem_iff_split axis).mpr
        ⟨by simpa only [Spans, same] using inWhole, elsewhere⟩
    refine ((halves.unites position).mp isInside).resolve_left
      fun inLeft => outside ?_
    simpa only [Spans, same] using mem_iff.mp inLeft axis
  have back := slice other
  have there := halves.symm.within other
  simp only [upper_get, withSpan, Triple.get_set_other _ _ different]
    at back there
  exact ⟨by omega, by omega⟩

/-- The parts differ from the whole along one axis only, which is the same for
both. -/
private theorem exists_axis (halves : Halves left right whole) :
    ∃ axis, ∀ other, other ≠ axis →
      left.AgreeAlong whole other ∧ right.AgreeAlong whole other := by
  obtain ⟨axis, shorter⟩ : ∃ axis, ¬ left.AgreeAlong whole axis := by
    by_contra none
    push Not at none
    exact halves.not_whole (eq_of_agreeAlong none)
  refine ⟨axis,
    fun other different => ⟨?_, halves.agree_of_shorter shorter different⟩⟩
  -- If the left part were shorter along a second axis, the right one would be
  -- the whole.
  by_contra alsoShorter
  refine halves.symm.not_whole (eq_of_agreeAlong fun along => ?_)
  by_cases same : along = axis
  · exact same ▸ halves.agree_of_shorter alsoShorter different.symm
  · exact halves.agree_of_shorter shorter same

/-- Along that axis, one part ends where the other one begins. -/
theorem adjacent (halves : Halves left right whole)
    (agree : ∀ other, other ≠ axis →
      left.AgreeAlong whole other ∧ right.AgreeAlong whole other) :
    left.upper.get axis = right.offset.get axis ∨
    right.upper.get axis = left.offset.get axis := by
  have atCorner (box : Box)
      (along : ∀ other, other ≠ axis → box.AgreeAlong whole other)
      (number : Nat) :
      whole.offset.set axis number ∈ box ↔ box.offset.get axis ≤ number ∧
        number < box.offset.get axis + box.extent.get axis := by
    rw [mem_set_iff, and_iff_left]
    intro other different
    have corner := mem_iff.mp (offset_mem halves.occupied) other
    simpa only [Spans, (along other different).1, (along other different).2]
      using corner
  have ofLeft := atCorner left fun other different => (agree other different).1
  have ofRight :=
    atCorner right fun other different => (agree other different).2
  have ofWhole := atCorner whole fun _ _ => ⟨rfl, rfl⟩
  have united (number : Nat) := halves.unites (whole.offset.set axis number)
  have disjoint (number : Nat) := halves.apart (whole.offset.set axis number)
  simp only [ofLeft, ofRight, ofWhole] at united disjoint
  have leftStart := united (left.offset.get axis)
  have rightStart := united (right.offset.get axis)
  have leftEnd := united (left.offset.get axis + left.extent.get axis)
  have rightEnd := united (right.offset.get axis + right.extent.get axis)
  have leftApart := disjoint (left.offset.get axis)
  have rightApart := disjoint (right.offset.get axis)
  have leftPositive := isEmpty_eq_false_iff.mp halves.left_occupied axis
  have rightPositive := isEmpty_eq_false_iff.mp halves.right_occupied axis
  rw [upper_get, upper_get]
  omega

private theorem merge?_ne_none (halves : Halves left right whole) :
    left.merge? right ≠ none := by
  intro separate
  obtain ⟨axis, agree⟩ := halves.exists_axis
  have agreement : left.agreeExcept right axis = true := by
    refine agreeExcept_iff.mpr fun other different => ?_
    obtain ⟨ofLeft, ofRight⟩ := agree other different
    exact ⟨ofLeft.1.trans ofRight.1.symm, ofLeft.2.trans ofRight.2.symm⟩
  have apart :=
    mergeAlong?_eq_none_iff.mp (merge?_eq_none_iff.mp separate axis) agreement
  exact (halves.adjacent agree).elim apart.1 apart.2

end Halves

section Pair

variable {left right : Box}

private theorem merge?_eq_some_iff (leftOccupied : left.isEmpty = false)
    (rightOccupied : right.isEmpty = false) (apart : left.Apart right)
    {whole : Box} :
    left.merge? right = some whole ↔ whole.Unites left right := by
  refine ⟨mem_of_merge?_eq_some, fun unites => ?_⟩
  have halves : Halves left right whole :=
    ⟨leftOccupied, rightOccupied, apart, unites⟩
  obtain ⟨merged, found⟩ := Option.ne_none_iff_exists'.mp halves.merge?_ne_none
  have same : whole = merged := eq_of_mem_iff halves.occupied fun position =>
    (unites position).trans (mem_of_merge?_eq_some found position).symm
  exact same ▸ found

private theorem merge?_comm (leftOccupied : left.isEmpty = false)
    (rightOccupied : right.isEmpty = false) (apart : left.Apart right) :
    right.merge? left = left.merge? right := by
  refine Option.ext fun whole => ?_
  rw [merge?_eq_some_iff leftOccupied rightOccupied apart,
    merge?_eq_some_iff rightOccupied leftOccupied apart.symm]
  exact forall_congr' fun position => by rw [or_comm]

end Pair

/-- The result of merging two boxes is the box of their elements, if there is
one, whichever of them comes first. On boxes whose ends are representable, no
sum on the way to it leaves the range of machine words. -/
structure MergesExactly (left right : Box) : Prop where
  merges_iff : ∀ whole, left.merge? right = some whole ↔ whole.Unites left right
  comm : right.merge? left = left.merge? right
  inRange : left.Representable → right.Representable →
    Checked.merge left right = some (left.merge? right)

/-- The boxes of the first pair that merges are replaced by the merged one. -/
def Merging (boxes next : List Box) : Prop :=
  ∃ merger, findMerger boxes = some merger ∧ next = applyMerger boxes merger

theorem Merging.length {boxes next : List Box} (merging : Merging boxes next) :
    boxes.length = next.length + 1 := by
  obtain ⟨merger, found, rfl⟩ := merging
  obtain ⟨left, right, rest, _, before, after⟩ := applyMerger_perm found
  rw [before.length_eq, after.length_eq, List.length_cons, List.length_cons,
    List.length_cons]

private theorem wellFounded_merging :
    WellFounded fun next boxes => Merging boxes next := by
  refine Subrelation.wf (fun {next boxes} merging => ?_)
    (measure List.length).wf
  exact Nat.lt_of_lt_of_eq (Nat.lt_succ_self _) merging.length.symm

private theorem mergings_mergeTimes (times : Nat) (boxes : List Box) :
    Relation.ReflTransGen Merging boxes (mergeTimes times boxes) := by
  induction times generalizing boxes with
  | zero => exact .refl
  | succ times induction =>
      simp only [mergeTimes]
      split
      · exact .refl
      · rename_i merger found
        exact .head ⟨merger, found, rfl⟩ (induction _)

private theorem not_merging_mergeTimes {times : Nat} {boxes : List Box}
    (enough : boxes.length ≤ times) (next : List Box) :
    ¬ Merging (mergeTimes times boxes) next := by
  intro merging
  obtain ⟨merger, found, _⟩ := merging
  rw [findMerger_mergeTimes enough] at found
  cases found

private theorem not_unites_coalesce {boxes : List Box} (tiles : Tiles boxes) :
    (coalesce boxes).Pairwise
      fun left right => ∀ whole : Box, ¬ whole.Unites left right := by
  have canonical := BoxSet.canonical_coalesce tiles
  refine canonical.tiles.apart.imp_of_mem
    fun {left right} isLeft isRight apart whole unites => ?_
  have merges := (merge?_eq_some_iff (canonical.tiles.occupied left isLeft)
    (canonical.tiles.occupied right isRight) apart).mpr unites
  rw [canonical.apart left isLeft right isRight] at merges
  cases merges

/-- One pair after another is merged until none is left that merges, and the
boxes are sorted then. Those that remain are again boxes with elements of which
no two share one, they have the same elements as before, and no two of them are
together a box. On boxes whose ends are representable, no sum on the way to them
leaves the range of machine words. -/
structure CoalescesExactly (boxes : List Box) : Prop where
  terminates : ∃ last, Relation.ReflTransGen Merging boxes last ∧
    (∀ next, ¬ Merging last next) ∧ coalesce boxes = sort last
  tiles : Tiles (coalesce boxes)
  covered_iff :
    ∀ position, Covered (coalesce boxes) position ↔ Covered boxes position
  separate : (coalesce boxes).Pairwise
    fun left right => ∀ whole : Box, ¬ whole.Unites left right
  inRange : (∀ box ∈ boxes, box.Representable) →
    Checked.coalesce boxes = some (coalesce boxes)

/-- Boxes with elements of which no two share one merge exactly if they are
together a box, and a list of them is coalesced until no two are. No list of
boxes can be merged forever. -/
theorem merging_exact :
    (∀ left right : Box, left.isEmpty = false → right.isEmpty = false →
      left.Apart right → MergesExactly left right) ∧
    (∀ boxes, Tiles boxes → CoalescesExactly boxes) ∧
    WellFounded fun next boxes => Merging boxes next := by
  refine ⟨fun left right leftOccupied rightOccupied apart => ?_,
    fun boxes tiles => ?_, wellFounded_merging⟩
  · exact {
      merges_iff :=
        fun whole => merge?_eq_some_iff leftOccupied rightOccupied apart
      comm := merge?_comm leftOccupied rightOccupied apart
      inRange := fun leftFits rightFits =>
        (Checked.computes_merge And.left And.right).eq_some
          ⟨leftFits, rightFits⟩ }
  · exact {
      terminates := ⟨mergeTimes boxes.length boxes, mergings_mergeTimes _ _,
        not_merging_mergeTimes (Nat.le_refl _), rfl⟩
      tiles := (BoxSet.canonical_coalesce tiles).tiles
      covered_iff := fun _ => covered_coalesce_iff
      separate := not_unites_coalesce tiles
      inRange := (Checked.computes_coalesce id).eq_some }

private theorem apart_of_overlaps {left right : Box}
    (separate : left.overlaps right = false) : left.Apart right := by
  intro position inLeft inRight
  have shared := overlaps_iff.mpr ⟨position, inLeft, inRight⟩
  rw [separate] at shared
  cases shared

/-- Four boxes of different sizes that make up a larger one, in an order in
which the first two do not merge, and a box that touches none of them. -/
def quarters : List Box :=
  [⟨⟨0, 0, 0⟩, ⟨2, 3, 1⟩⟩, ⟨⟨2, 3, 0⟩, ⟨4, 1, 1⟩⟩, ⟨⟨9, 9, 9⟩, ⟨1, 1, 1⟩⟩,
    ⟨⟨2, 0, 0⟩, ⟨4, 3, 1⟩⟩, ⟨⟨0, 3, 0⟩, ⟨2, 1, 1⟩⟩]

theorem merging_exact_quarters :
    Tiles quarters ∧ CoalescesExactly quarters ∧
    coalesce quarters = [⟨⟨0, 0, 0⟩, ⟨6, 4, 1⟩⟩, ⟨⟨9, 9, 9⟩, ⟨1, 1, 1⟩⟩] ∧
    MergesExactly ⟨⟨2, 3, 0⟩, ⟨4, 1, 1⟩⟩ ⟨⟨2, 0, 0⟩, ⟨4, 3, 1⟩⟩ ∧
    merge? ⟨⟨2, 3, 0⟩, ⟨4, 1, 1⟩⟩ ⟨⟨2, 0, 0⟩, ⟨4, 3, 1⟩⟩ =
      some ⟨⟨2, 0, 0⟩, ⟨4, 4, 1⟩⟩ := by
  have separate :
      quarters.Pairwise fun left right => left.overlaps right = false := by
    decide
  have tiles : Tiles quarters := ⟨by decide, separate.imp apart_of_overlaps⟩
  have apart : Apart ⟨⟨2, 3, 0⟩, ⟨4, 1, 1⟩⟩ ⟨⟨2, 0, 0⟩, ⟨4, 3, 1⟩⟩ :=
    apart_of_overlaps (by decide)
  exact ⟨tiles, merging_exact.2.1 quarters tiles, by decide,
    merging_exact.1 _ _ rfl rfl apart, by decide⟩

end Box

end CoherentTasks.Geometry
