import CoherentTasks.Proofs.Geometry.BoxSet
import Mathlib.Data.List.Pairwise

/-!
# Tilings

Lists of boxes that have elements and share none. Cutting, merging and sorting
keep a list of boxes a tiling, and merging goes on until no two boxes share a
full face.
-/

namespace CoherentTasks.Geometry

namespace Box

theorem isEmpty_eq_false_iff {box : Box} :
    box.isEmpty = false ↔ ∀ axis, 0 < box.extent.get axis := by
  constructor
  · intro occupied axis
    by_contra flat
    have empty := isEmpty_iff.mpr ⟨axis, Nat.eq_zero_of_not_pos flat⟩
    rw [occupied] at empty
    cases empty
  · intro positive
    by_contra notFalse
    obtain ⟨axis, zero⟩ := isEmpty_iff.mp (by simpa using notFalse)
    exact absurd (positive axis) (by omega)

theorem offset_mem {box : Box} (occupied : box.isEmpty = false) :
    box.offset ∈ box := by
  apply mem_iff.mpr
  intro axis
  have positive := isEmpty_eq_false_iff.mp occupied axis
  simp only [Spans]
  omega

theorem isEmpty_eq_false_iff_exists_mem {box : Box} :
    box.isEmpty = false ↔ ∃ position, position ∈ box := by
  constructor
  · exact fun occupied => ⟨box.offset, offset_mem occupied⟩
  · intro member
    obtain ⟨position, inside⟩ := member
    by_contra notFalse
    exact not_mem_of_isEmpty (by simpa using notFalse) position inside

theorem isEmpty_withSpan {box : Box} {axis : Axis} {offset extent : Nat}
    (occupied : box.isEmpty = false) (positive : 0 < extent) :
    (box.withSpan axis offset extent).isEmpty = false := by
  apply isEmpty_eq_false_iff.mpr
  intro other
  by_cases same : other = axis
  · subst same
    simpa [withSpan, Triple.get_set_self] using positive
  · simpa [withSpan, Triple.get_set_other _ _ same]
      using isEmpty_eq_false_iff.mp occupied other

/-- The boxes have no element in common. -/
def Apart (left right : Box) : Prop :=
  ∀ position, position ∈ left → position ∉ right

theorem Apart.symm {left right : Box} (apart : left.Apart right) :
    right.Apart left :=
  fun position inRight inLeft => apart position inLeft inRight

/-- Every box has elements, and no two boxes share any. -/
structure Tiles (boxes : List Box) : Prop where
  occupied : ∀ box ∈ boxes, box.isEmpty = false
  apart : boxes.Pairwise Apart

namespace Tiles

theorem nil : Tiles [] :=
  ⟨fun _ absent => absurd absent List.not_mem_nil, .nil⟩

theorem singleton {box : Box} (occupied : box.isEmpty = false) : Tiles [box] :=
  ⟨fun _ member => List.mem_singleton.mp member ▸ occupied,
    List.pairwise_singleton _ _⟩

theorem cons_iff {box : Box} {boxes : List Box} :
    Tiles (box :: boxes) ↔ box.isEmpty = false ∧
      (∀ position ∈ box, ¬ Covered boxes position) ∧ Tiles boxes := by
  constructor
  · intro tiles
    obtain ⟨first, rest⟩ := List.pairwise_cons.mp tiles.apart
    refine ⟨tiles.occupied box List.mem_cons_self,
      fun position inside covered => ?_,
      fun other member => tiles.occupied other (List.mem_cons_of_mem _ member),
      rest⟩
    obtain ⟨other, isOther, inOther⟩ := covered
    exact first other isOther position inside inOther
  · intro parts
    obtain ⟨occupied, outside, tiles⟩ := parts
    refine ⟨List.forall_mem_cons.mpr ⟨occupied, tiles.occupied⟩,
      List.pairwise_cons.mpr
        ⟨fun other member position inside inOther => ?_, tiles.apart⟩⟩
    exact outside position inside ⟨other, member, inOther⟩

theorem append {left right : List Box} (first : Tiles left)
    (second : Tiles right)
    (outside : ∀ position, Covered left position → ¬ Covered right position) :
    Tiles (left ++ right) where
  occupied box member :=
    (List.mem_append.mp member).elim (first.occupied box) (second.occupied box)
  apart := by
    refine List.pairwise_append.mpr ⟨first.apart, second.apart, ?_⟩
    intro box inLeft other inRight position inside inOther
    exact outside position ⟨box, inLeft, inside⟩ ⟨other, inRight, inOther⟩

theorem perm {left right : List Box} (tiles : Tiles left)
    (same : left.Perm right) : Tiles right where
  occupied box member := tiles.occupied box (same.mem_iff.mpr member)
  apart := (same.pairwise_iff Apart.symm).mp tiles.apart

/-- Boxes of a tiling with a common element are the same. -/
theorem eq_of_common {boxes : List Box} (tiles : Tiles boxes) {left right : Box}
    (isLeft : left ∈ boxes) (isRight : right ∈ boxes) {position : Triple}
    (inLeft : position ∈ left) (inRight : position ∈ right) : left = right := by
  by_contra different
  have symmetric : Std.Symm Apart := ⟨fun _ _ => Apart.symm⟩
  exact tiles.apart.forall isLeft isRight different position inLeft inRight

/-- When every box is replaced by a tiling of a part of it, the result is a
tiling. -/
theorem flatMap {boxes : List Box} (tiles : Tiles boxes)
    {pieces : Box → List Box} (each : ∀ box ∈ boxes, Tiles (pieces box))
    (inside : ∀ box ∈ boxes,
      ∀ position, Covered (pieces box) position → position ∈ box) :
    Tiles (boxes.flatMap pieces) := by
  induction boxes with
  | nil => exact nil
  | cons box boxes induction =>
      obtain ⟨_, outside, rest⟩ := cons_iff.mp tiles
      obtain ⟨eachFirst, eachLater⟩ := List.forall_mem_cons.mp each
      obtain ⟨insideFirst, insideLater⟩ := List.forall_mem_cons.mp inside
      rw [List.flatMap_cons]
      refine append eachFirst (induction rest eachLater insideLater) ?_
      intro position inFirst inLater
      obtain ⟨piece, member, inPiece⟩ := inLater
      obtain ⟨source, isSource, isPiece⟩ := List.mem_flatMap.mp member
      exact outside position (insideFirst position inFirst) ⟨source, isSource,
        insideLater source isSource position ⟨piece, isPiece, inPiece⟩⟩

end Tiles

private theorem tiles_slabs {box part : Box} (occupied : box.isEmpty = false)
    (axis : Axis) : Tiles (box.slabs part axis) := by
  simp only [slabs, upper_get]
  refine Tiles.append ?_ ?_ ?_
  · split
    · exact .singleton (isEmpty_withSpan occupied (by omega))
    · exact .nil
  · split
    · exact .singleton (isEmpty_withSpan occupied (by omega))
    · exact .nil
  · -- The lower slab ends where the part begins, the upper one begins where the
    -- part ends.
    intro position below above
    split at below
    · split at above
      · rw [covered_cons, or_iff_left (covered_nil position), mem_withSpan]
          at below above
        omega
      · exact covered_nil position above
    · exact covered_nil position below

private theorem isEmpty_narrow {box part : Box} (occupied : box.isEmpty = false)
    (positive : part.isEmpty = false) (axis : Axis) :
    (box.narrow part axis).isEmpty = false :=
  isEmpty_withSpan occupied (isEmpty_eq_false_iff.mp positive axis)

private theorem tiles_peel {box part : Box} (occupied : box.isEmpty = false)
    (positive : part.isEmpty = false) (inside : part.Within box)
    (axes : List Axis) : Tiles (peel part box axes) := by
  induction axes generalizing box with
  | nil => exact .nil
  | cons axis axes induction =>
      refine Tiles.append (tiles_slabs occupied axis)
        (induction (isEmpty_narrow occupied positive axis) (inside.narrow axis))
        ?_
      -- The slabs lie beside the part along the axis, the rest of the pieces
      -- beside none of it.
      intro position inSlab inRest
      have beside := ((exists_mem_slabs_iff inside axis).mp inSlab).2
      have within :=
        ((exists_mem_peel_iff (inside.narrow axis) axes).mp inRest).1
      exact beside ((mem_narrow inside axis).mp within).2

theorem tiles_subtract (box other : Box) : Tiles (box.subtract other) := by
  simp only [subtract]
  split
  · exact .nil
  · rename_i occupied
    have occupied : box.isEmpty = false := by simpa using occupied
    split
    · exact .singleton occupied
    · rename_i part found
      have positive : part.isEmpty = false :=
        isEmpty_eq_false_iff.mpr
          fun axis => (intersection?_eq_some found axis).2.2
      exact tiles_peel occupied positive
        (within_of_intersection?_eq_some found) Axis.all

theorem Tiles.subtract {boxes : List Box} (tiles : Tiles boxes) (other : Box) :
    Tiles (boxes.flatMap (·.subtract other)) :=
  tiles.flatMap (fun box _ => tiles_subtract box other)
    fun _ _ _ covered => (covered_subtract_iff.mp covered).1

theorem Tiles.subtractAll {pieces : List Box} (tiles : Tiles pieces)
    (boxes : List Box) : Tiles (subtractAll pieces boxes) := by
  simp only [Box.subtractAll]
  induction boxes generalizing pieces with
  | nil => exact tiles
  | cons box boxes induction => exact induction (tiles.subtract box)

theorem agreeExcept_comm (left right : Box) (axis : Axis) :
    left.agreeExcept right axis = right.agreeExcept left axis := by
  rw [Bool.eq_iff_iff, agreeExcept_iff, agreeExcept_iff]
  refine forall_congr' fun other => imp_congr_right fun _ => ?_
  rw [eq_comm, eq_comm (a := left.extent.get other)]

theorem mergeAlong?_eq_none_iff {left right : Box} {axis : Axis} :
    left.mergeAlong? right axis = none ↔
      (left.agreeExcept right axis = true →
        left.upper.get axis ≠ right.offset.get axis ∧
          right.upper.get axis ≠ left.offset.get axis) := by
  simp only [mergeAlong?]
  split
  · rename_i agree
    split
    · simp_all
    · split <;> simp_all
  · simp_all

theorem merge?_eq_none_iff {left right : Box} :
    left.merge? right = none ↔ ∀ axis, left.mergeAlong? right axis = none := by
  simp only [merge?, List.findSome?_eq_none_iff]
  exact ⟨fun every axis => every axis axis.mem_all,
    fun every axis _ => every axis⟩

theorem merge?_eq_none_comm {left right : Box}
    (separate : left.merge? right = none) : right.merge? left = none := by
  rw [merge?_eq_none_iff] at separate ⊢
  intro axis
  have here := separate axis
  rw [mergeAlong?_eq_none_iff] at here ⊢
  intro agree
  rw [agreeExcept_comm] at agree
  exact (here agree).symm

theorem merge?_self {box : Box} (occupied : box.isEmpty = false) :
    box.merge? box = none := by
  rw [merge?_eq_none_iff]
  intro axis
  rw [mergeAlong?_eq_none_iff]
  have positive := isEmpty_eq_false_iff.mp occupied axis
  rw [upper_get]
  omega

/-- Two boxes of a tiling can be replaced by the merged one. -/
theorem Tiles.merge {left right merged : Box} {rest : List Box}
    (tiles : Tiles (left :: right :: rest))
    (found : left.merge? right = some merged) : Tiles (merged :: rest) := by
  obtain ⟨occupied, outsideLeft, tiles⟩ := cons_iff.mp tiles
  obtain ⟨_, outsideRight, tiles⟩ := cons_iff.mp tiles
  have either := mem_of_merge?_eq_some found
  refine cons_iff.mpr ⟨?_, fun position inside covered => ?_, tiles⟩
  · exact isEmpty_eq_false_iff_exists_mem.mpr
      ⟨left.offset, (either _).mpr (.inl (offset_mem occupied))⟩
  · rcases (either position).mp inside with inLeft | inRight
    · exact outsideLeft position inLeft (covered_cons.mpr (.inr covered))
    · exact outsideRight position inRight covered

theorem Tiles.mergeTimes {boxes : List Box} (tiles : Tiles boxes)
    (times : Nat) : Tiles (mergeTimes times boxes) := by
  induction times generalizing boxes with
  | zero => exact tiles
  | succ times induction =>
      simp only [Box.mergeTimes]
      split
      · exact tiles
      · rename_i merger found
        obtain ⟨left, right, rest, merges, before, after⟩ :=
          applyMerger_perm found
        exact induction (((tiles.perm before).merge merges).perm after.symm)

private theorem findPartner_eq_none_iff {box : Box} {boxes : List Box} :
    findPartner box boxes = none ↔
      ∀ other ∈ boxes, box.merge? other = none := by
  induction boxes with
  | nil => simp [findPartner]
  | cons head tail induction =>
      simp only [findPartner, List.forall_mem_cons]
      split
      · rename_i merged merges
        simp [merges]
      · rename_i separate
        simp [separate, induction]

theorem findMerger_eq_none_iff {boxes : List Box} :
    findMerger boxes = none ↔
      boxes.Pairwise fun left right => left.merge? right = none := by
  induction boxes with
  | nil => simp [findMerger]
  | cons head tail induction =>
      simp only [findMerger, List.pairwise_cons]
      split
      · rename_i place merged partner
        have notAll : ¬ ∀ other ∈ tail, head.merge? other = none := by
          rw [← findPartner_eq_none_iff, partner]
          exact Option.some_ne_none _
        simp [notAll]
      · rename_i noPartner
        rw [Option.map_eq_none_iff, induction,
          and_iff_right (findPartner_eq_none_iff.mp noPartner)]

/-- Every merger leaves one box less, so that none is left to be made after as
many as boxes. -/
theorem findMerger_mergeTimes {times : Nat} {boxes : List Box}
    (enough : boxes.length ≤ times) :
    findMerger (mergeTimes times boxes) = none := by
  induction times generalizing boxes with
  | zero =>
      have empty : boxes = [] := List.eq_nil_of_length_eq_zero (by omega)
      rw [empty]
      rfl
  | succ times induction =>
      simp only [Box.mergeTimes]
      split
      · assumption
      · rename_i merger found
        obtain ⟨left, right, rest, _, before, after⟩ := applyMerger_perm found
        apply induction
        rw [before.length_eq, List.length_cons, List.length_cons] at enough
        rw [after.length_eq, List.length_cons]
        omega

private theorem toList_injective {left right : Box}
    (same : left.toList = right.toList) : left = right := by
  obtain ⟨⟨ox, oy, oz⟩, ⟨ex, ey, ez⟩⟩ := left
  obtain ⟨⟨px, py, pz⟩, ⟨fx, fy, fz⟩⟩ := right
  simpa [toList, Triple.toList, and_assoc] using same

private theorem mem_insertSorted {box other : Box} {boxes : List Box} :
    other ∈ insertSorted box boxes ↔ other = box ∨ other ∈ boxes := by
  rw [(insertSorted_perm box boxes).mem_iff, List.mem_cons]

/-- The second box is not less than the first. -/
def NotAfter (left right : Box) : Prop :=
  ¬ right.toList < left.toList

theorem NotAfter.trans {first second third : Box}
    (before : first.NotAfter second) (after : second.NotAfter third) :
    first.NotAfter third :=
  List.not_lt.mpr (List.le_trans (List.not_lt.mp before) (List.not_lt.mp after))

private theorem notAfter_of_lt {left right : Box}
    (less : left.toList < right.toList) : left.NotAfter right :=
  List.lt_asymm less

theorem NotAfter.lt_of_ne {left right : Box} (notAfter : left.NotAfter right)
    (different : left ≠ right) : left.toList < right.toList := by
  by_contra notBefore
  exact different (toList_injective
    (List.le_antisymm (List.not_lt.mp notAfter) (List.not_lt.mp notBefore)))

private theorem sorted_insertSorted {box : Box} {boxes : List Box}
    (sorted : boxes.Pairwise NotAfter) :
    (insertSorted box boxes).Pairwise NotAfter := by
  induction boxes with
  | nil => exact List.pairwise_singleton _ _
  | cons head tail induction =>
      obtain ⟨headFirst, tailSorted⟩ := List.pairwise_cons.mp sorted
      simp only [insertSorted]
      split
      · rename_i headLess
        refine List.pairwise_cons.mpr
          ⟨fun other member => ?_, induction tailSorted⟩
        rcases mem_insertSorted.mp member with rfl | later
        · exact notAfter_of_lt headLess
        · exact headFirst other later
      · rename_i boxFirst
        have boxFirst : box.NotAfter head := boxFirst
        refine List.pairwise_cons.mpr
          ⟨List.forall_mem_cons.mpr ⟨boxFirst, ?_⟩, sorted⟩
        exact fun other member => boxFirst.trans (headFirst other member)

theorem sorted_sort (boxes : List Box) : (sort boxes).Pairwise NotAfter := by
  induction boxes with
  | nil => exact .nil
  | cons head tail induction => exact sorted_insertSorted induction

/-- No two boxes of a tiling are equal, so that a sorted one is strictly
sorted. -/
theorem Tiles.strictly_sorted {boxes : List Box} (tiles : Tiles boxes)
    (sorted : boxes.Pairwise NotAfter) :
    boxes.Pairwise fun left right => left.toList < right.toList := by
  refine (sorted.and tiles.apart).imp_of_mem
    fun {left right} isLeft _ both => ?_
  obtain ⟨notAfter, apart⟩ := both
  refine notAfter.lt_of_ne fun same => ?_
  subst same
  have inside := offset_mem (tiles.occupied left isLeft)
  exact apart _ inside inside

end Box

end CoherentTasks.Geometry
