import CoherentTasks.Geometry.BoxSet
import CoherentTasks.Proofs.Geometry.Box
import Mathlib.Data.List.Perm.Basic

/-!
# Elements of sets of boxes

The operations on sets of boxes are those on the elements that the boxes have.
Merging and sorting only change how the elements are divided among boxes.
-/

namespace CoherentTasks.Geometry

namespace Box

/-- Some box of the list has the position. -/
def Covered (boxes : List Box) (position : Triple) : Prop :=
  ∃ box ∈ boxes, position ∈ box

@[simp]
theorem covered_nil (position : Triple) : ¬ Covered [] position := by
  simp [Covered]

@[simp]
theorem covered_cons {box : Box} {boxes : List Box} {position : Triple} :
    Covered (box :: boxes) position ↔
      position ∈ box ∨ Covered boxes position := by
  simp [Covered]

@[simp]
theorem covered_append {left right : List Box} {position : Triple} :
    Covered (left ++ right) position ↔
      Covered left position ∨ Covered right position := by
  simp [Covered, or_and_right, exists_or]

theorem covered_perm {left right : List Box} (same : left.Perm right)
    {position : Triple} : Covered left position ↔ Covered right position := by
  simp only [Covered, same.mem_iff]

theorem covered_subtract_iff {box other : Box} {position : Triple} :
    Covered (box.subtract other) position ↔ position ∈ box ∧ position ∉ other :=
  exists_mem_subtract_iff

theorem covered_flatMap_subtract_iff {boxes : List Box} {other : Box}
    {position : Triple} :
    Covered (boxes.flatMap (·.subtract other)) position ↔
      Covered boxes position ∧ position ∉ other := by
  induction boxes with
  | nil => simp
  | cons box boxes induction =>
      rw [List.flatMap_cons, covered_append, covered_cons,
        covered_subtract_iff, induction]
      tauto

theorem covered_subtractAll_iff {pieces boxes : List Box} {position : Triple} :
    Covered (subtractAll pieces boxes) position ↔
      Covered pieces position ∧ ¬ Covered boxes position := by
  simp only [subtractAll]
  induction boxes generalizing pieces with
  | nil => simp
  | cons box boxes induction =>
      rw [List.foldl_cons, induction, covered_flatMap_subtract_iff,
        covered_cons]
      tauto

theorem insertSorted_perm (box : Box) (boxes : List Box) :
    (insertSorted box boxes).Perm (box :: boxes) := by
  induction boxes with
  | nil => exact List.Perm.refl _
  | cons head tail induction =>
      simp only [insertSorted]
      split
      · exact (List.Perm.cons head induction).trans
          (List.Perm.swap box head tail)
      · exact List.Perm.refl _

theorem sort_perm (boxes : List Box) : (sort boxes).Perm boxes := by
  induction boxes with
  | nil => exact List.Perm.refl _
  | cons head tail induction =>
      exact (insertSorted_perm head (sort tail)).trans
        (List.Perm.cons head induction)

theorem findPartner_eq_some {box merged : Box} {boxes : List Box} {place : Nat}
    (found : findPartner box boxes = some (place, merged)) :
    ∃ front other back, boxes = front ++ other :: back ∧ front.length = place ∧
      box.merge? other = some merged := by
  induction boxes generalizing place with
  | nil => cases found
  | cons head tail induction =>
      simp only [findPartner] at found
      split at found
      · rename_i mergedHead merges
        cases found
        exact ⟨[], head, tail, rfl, rfl, merges⟩
      · obtain ⟨⟨laterPlace, laterMerged⟩, later, pairEq⟩ :=
          Option.map_eq_some_iff.mp found
        cases pairEq
        obtain ⟨front, other, back, split, place, merges⟩ := induction later
        exact ⟨head :: front, other, back, by rw [split]; rfl,
          by simp [place], merges⟩

theorem findMerger_eq_some {boxes : List Box} {merger : Merger}
    (found : findMerger boxes = some merger) :
    ∃ front left middle right back,
      boxes = front ++ left :: (middle ++ right :: back) ∧
      merger.first = front.length ∧
      merger.second = front.length + 1 + middle.length ∧
      left.merge? right = some merger.merged := by
  induction boxes generalizing merger with
  | nil => cases found
  | cons head tail induction =>
      simp only [findMerger] at found
      split at found
      · rename_i place merged partner
        cases found
        obtain ⟨middle, right, back, split, length, merges⟩ :=
          findPartner_eq_some partner
        exact ⟨[], head, middle, right, back, by rw [split]; rfl, rfl,
          by simp [length]; omega, merges⟩
      · obtain ⟨later, laterFound, shifted⟩ := Option.map_eq_some_iff.mp found
        cases shifted
        obtain ⟨front, left, middle, right, back, split, first,
            second, merges⟩ :=
          induction laterFound
        exact ⟨head :: front, left, middle, right, back, by rw [split]; rfl,
          by simp [first], by simp [second]; omega, merges⟩

private theorem dropLast_set_last (front back : List Box) (right : Box) :
    ∀ last, (front ++ right :: back).getLast? = some last →
      (((front ++ right :: back).set front.length last).dropLast).Perm
        (front ++ back) := by
  intro last isLast
  rcases List.eq_nil_or_concat back with rfl | ⟨back, final, rfl⟩
  · simp
  · rw [List.concat_eq_append, ← List.cons_append, ← List.append_assoc,
      List.getLast?_concat] at isLast
    obtain rfl := Option.some.inj isLast
    have shape : (front ++ right :: (back ++ [final])).set front.length final =
        (front ++ final :: back) ++ [final] := by
      simp
    rw [List.concat_eq_append, shape, List.dropLast_concat]
    apply List.perm_append_left_iff front |>.mpr
    exact (List.perm_append_singleton final back).symm

/-- A merger replaces its two boxes by the merged one. -/
theorem applyMerger_perm {boxes : List Box} {merger : Merger}
    (found : findMerger boxes = some merger) :
    ∃ left right rest, left.merge? right = some merger.merged ∧
      boxes.Perm (left :: right :: rest) ∧
      (applyMerger boxes merger).Perm (merger.merged :: rest) := by
  obtain ⟨front, left, middle, right, back, split, first, second, merges⟩ :=
    findMerger_eq_some found
  refine ⟨left, right, front ++ (middle ++ back), merges, ?_, ?_⟩
  · rw [split]
    refine List.perm_middle.trans (List.Perm.cons left ?_)
    rw [← List.append_assoc, ← List.append_assoc]
    exact List.perm_middle
  · have replaced : boxes.set merger.first merger.merged =
        (front ++ merger.merged :: middle) ++ right :: back := by
      rw [split, first]
      simp
    have place : merger.second = (front ++ merger.merged :: middle).length := by
      rw [second]
      simp
      omega
    simp only [applyMerger]
    simp only [replaced]
    split
    · rename_i noLast
      simp at noLast
    · rename_i last isLast
      rw [place]
      apply (dropLast_set_last _ _ _ last isLast).trans
      rw [List.append_assoc, List.cons_append]
      exact List.perm_middle

theorem covered_applyMerger_iff {boxes : List Box} {merger : Merger}
    (found : findMerger boxes = some merger) {position : Triple} :
    Covered (applyMerger boxes merger) position ↔ Covered boxes position := by
  obtain ⟨left, right, rest, merges, before, after⟩ := applyMerger_perm found
  rw [covered_perm before, covered_perm after, covered_cons, covered_cons,
    covered_cons, mem_of_merge?_eq_some merges, or_assoc]

theorem covered_mergeTimes_iff {times : Nat} {boxes : List Box}
    {position : Triple} :
    Covered (mergeTimes times boxes) position ↔ Covered boxes position := by
  induction times generalizing boxes with
  | zero => exact Iff.rfl
  | succ times induction =>
      simp only [mergeTimes]
      split
      · exact Iff.rfl
      · rename_i merger found
        rw [induction, covered_applyMerger_iff found]

theorem covered_coalesce_iff {boxes : List Box} {position : Triple} :
    Covered (coalesce boxes) position ↔ Covered boxes position := by
  rw [coalesce, covered_perm (sort_perm _), covered_mergeTimes_iff]

end Box

namespace BoxSet

open Box (Covered covered_coalesce_iff covered_subtractAll_iff)

theorem mem_iff {set : BoxSet} {position : Triple} :
    position ∈ set ↔ Covered set.boxes position :=
  Iff.rfl

@[simp]
theorem not_mem_empty (position : Triple) : position ∉ BoxSet.empty :=
  Box.covered_nil position

theorem remove_empty (box : Box) : BoxSet.empty.remove box = .empty := rfl

theorem mem_insert_iff {set : BoxSet} {box : Box} {position : Triple} :
    position ∈ set.insert box ↔ position ∈ set ∨ position ∈ box := by
  have pieces :
      Covered (Box.subtractAll [box] set.boxes) position ↔
        Covered [box] position ∧ ¬ Covered set.boxes position :=
    covered_subtractAll_iff
  rw [Box.covered_cons, or_iff_left (Box.covered_nil position)] at pieces
  simp only [insert]
  split
  · rename_i empty
    simp [Box.not_mem_of_isEmpty empty]
  · split
    · rename_i nothing
      rw [nothing] at pieces
      have inside : position ∈ box → Covered set.boxes position := by
        intro member
        by_contra absent
        exact Box.covered_nil position (pieces.mpr ⟨member, absent⟩)
      exact ⟨.inl, fun either => either.elim id inside⟩
    · rw [mem_iff, covered_coalesce_iff, Box.covered_append, pieces, mem_iff]
      tauto

theorem mem_remove_iff {set : BoxSet} {box : Box} {position : Triple} :
    position ∈ set.remove box ↔ position ∈ set ∧ position ∉ box := by
  simp only [remove]
  split
  · rw [mem_iff, covered_coalesce_iff,
      Box.covered_flatMap_subtract_iff, mem_iff]
  · rename_i apart
    refine ⟨fun member => ⟨member, fun there => apart ?_⟩, And.left⟩
    obtain ⟨here, isBox, hasPosition⟩ := member
    exact List.any_eq_true.mpr
      ⟨here, isBox, Box.overlaps_iff.mpr ⟨position, hasPosition, there⟩⟩

theorem covered_uncovered_iff {set : BoxSet} {window : Box}
    {position : Triple} :
    Covered (set.uncovered window) position ↔
      position ∈ window ∧ position ∉ set := by
  simp only [uncovered]
  split
  · rename_i empty
    simp [Box.not_mem_of_isEmpty empty]
  · rw [covered_coalesce_iff, covered_subtractAll_iff, Box.covered_cons,
      or_iff_left (Box.covered_nil position), mem_iff]

/-- A part of a window that a set reports lies in the set and in the window, and
it has elements. -/
theorem mem_overlaps {set : BoxSet} {window part : Box}
    (member : part ∈ set.overlaps window) :
    (∃ position, position ∈ part) ∧
    ∀ position, position ∈ part → position ∈ set ∧ position ∈ window := by
  obtain ⟨box, isBox, found⟩ := List.mem_filterMap.mp member
  have common := Box.mem_of_intersection?_eq_some found
  have overlap : box.overlaps window = true := by simp [Box.overlaps, found]
  obtain ⟨position, both⟩ := Box.overlaps_iff.mp overlap
  refine ⟨⟨position, (common position).mpr both⟩, fun position inPart => ?_⟩
  obtain ⟨inBox, inWindow⟩ := (common position).mp inPart
  exact ⟨⟨box, isBox, inBox⟩, inWindow⟩

end BoxSet

end CoherentTasks.Geometry
