import CoherentTasks.Proofs.Geometry.History
import CoherentTasks.Proofs.Word

/-!
# Boxes of machine words

The operations on boxes and on sets of boxes in the steps that a machine takes,
where every sum and every product has to be a machine word and no difference may
be negative. Each of them refines the plain operation: on boxes whose ends are
representable it has the same result, and it never has another one.
-/

namespace CoherentTasks.Geometry

namespace Checked

def endAlong? (box : Box) (axis : Axis) : Option Nat :=
  Word.add? (box.offset.get axis) (box.extent.get axis)

def upper (box : Box) : Option Triple := do
  return ⟨← endAlong? box .x, ← endAlong? box .y, ← endAlong? box .z⟩

def volume (box : Box) : Option Nat := do
  Word.multiply? (← Word.multiply? box.extent.x box.extent.y) box.extent.z

/-- Replaces the span of a box by the common span of two boxes along each axis
in turn, until there is an axis along which they have none. -/
def meet (left right : Box) (leftEnd rightEnd : Triple) :
    List Axis → Box → Option (Option Box)
  | [], common => some (some common)
  | axis :: axes, common =>
    let low := max (left.offset.get axis) (right.offset.get axis)
    let high := min (leftEnd.get axis) (rightEnd.get axis)
    if high ≤ low then some none
    else do
      let extent ← Word.subtract? high low
      meet left right leftEnd rightEnd axes (common.withSpan axis low extent)

def intersection (left right : Box) : Option (Option Box) := do
  let leftEnd ← upper left
  let rightEnd ← upper right
  meet left right leftEnd rightEnd Axis.all ⟨.origin, .origin⟩

/-- The slab of a box between two places along an axis, if the second one is
behind the first. -/
def slab (box : Box) (axis : Axis) (low high : Nat) : Option (List Box) :=
  if low < high then
    (Word.subtract? high low).map fun extent => [box.withSpan axis low extent]
  else some []

def slabs (box part : Box) (partEnd : Triple) (axis : Axis) :
    Option (List Box) := do
  let boxEnd ← endAlong? box axis
  let below ← slab box axis (box.offset.get axis) (part.offset.get axis)
  let above ← slab box axis (partEnd.get axis) boxEnd
  return below ++ above

def peel (part : Box) (partEnd : Triple) : Box → List Axis → Option (List Box)
  | _, [] => some []
  | box, axis :: axes => do
    let first ← slabs box part partEnd axis
    let others ← peel part partEnd (box.narrow part axis) axes
    return first ++ others

def subtract (box other : Box) : Option (List Box) :=
  if box.isEmpty then some []
  else do
    match ← intersection box other with
    | none => return [box]
    | some part => peel part (← upper part) box Axis.all

def mergeAlong (left right : Box) (axis : Axis) : Option (Option Box) :=
  if left.agreeExcept right axis then do
    if (← endAlong? left axis) = right.offset.get axis then
      let extent ← Word.add? (left.extent.get axis) (right.extent.get axis)
      return some (left.withSpan axis (left.offset.get axis) extent)
    else if (← endAlong? right axis) = left.offset.get axis then
      let extent ← Word.add? (left.extent.get axis) (right.extent.get axis)
      return some (left.withSpan axis (right.offset.get axis) extent)
    else return none
  else return none

def merge (left right : Box) : Option (Option Box) :=
  Axis.all.findSomeM? (mergeAlong left right)

def findPartner (box : Box) : List Box → Option (Option (Nat × Box))
  | [] => some none
  | head :: tail => do
    match ← merge box head with
    | some merged => return some (0, merged)
    | none =>
      return (← findPartner box tail).map fun found => (found.1 + 1, found.2)

def findMerger : List Box → Option (Option Box.Merger)
  | [] => some none
  | head :: tail => do
    match ← findPartner head tail with
    | some (place, merged) => return some ⟨0, place + 1, merged⟩
    | none => return (← findMerger tail).map fun found => { found with
        first := found.first + 1, second := found.second + 1 }

def mergeTimes : Nat → List Box → Option (List Box)
  | 0, boxes => some boxes
  | times + 1, boxes => do
    match ← findMerger boxes with
    | none => return boxes
    | some merger => mergeTimes times (Box.applyMerger boxes merger)

def coalesce (boxes : List Box) : Option (List Box) := do
  return Box.sort (← mergeTimes boxes.length boxes)

def subtractEach (boxes : List Box) (other : Box) : Option (List Box) := do
  return (← boxes.mapM (subtract · other)).flatten

def subtractAll (pieces boxes : List Box) : Option (List Box) :=
  boxes.foldlM subtractEach pieces

def insert (set : BoxSet) (box : Box) : Option BoxSet :=
  if box.isEmpty then some set
  else do
    match ← subtractAll [box] set.boxes with
    | [] => return set
    | pieces => return ⟨← coalesce (set.boxes ++ pieces)⟩

/-- Whether a box of the list overlaps the window; the boxes behind the first
such one are not compared. -/
def intersects : List Box → Box → Option Bool
  | [], _ => some false
  | box :: boxes, window => do
    if (← intersection box window).isSome then return true
    else intersects boxes window

def remove (set : BoxSet) (box : Box) : Option BoxSet := do
  if ← intersects set.boxes box then
    return ⟨← coalesce (← subtractEach set.boxes box)⟩
  else return set

def overlaps (set : BoxSet) (window : Box) : Option (List Box) := do
  return (← set.boxes.mapM (intersection · window)).filterMap id

def uncovered (set : BoxSet) (window : Box) : Option (List Box) :=
  if window.isEmpty then some []
  else do coalesce (← subtractAll [window] set.boxes)

end Checked

namespace Box

theorem representable_of_mem_subtract {box other piece : Box}
    (fits : box.Representable) (isPiece : piece ∈ box.subtract other) :
    piece.Representable :=
  (tiles_subtract box other).representable
    (fun _ covered => ⟨box, fits, (covered_subtract_iff.mp covered).1⟩)
    piece isPiece

/-- A merged box ends where one of the two does. -/
theorem representable_of_mergeAlong? {left right merged : Box} {axis : Axis}
    (fitsLeft : left.Representable) (fitsRight : right.Representable)
    (found : left.mergeAlong? right axis = some merged) :
    merged.Representable ∧
      left.extent.get axis + right.extent.get axis < coordinateLimit := by
  have alongLeft := fitsLeft axis
  have alongRight := fitsRight axis
  rw [upper_get] at alongLeft alongRight
  simp only [mergeAlong?] at found
  have span {offset : Nat}
      (small : offset + (left.extent.get axis + right.extent.get axis) <
        coordinateLimit) :
      (left.withSpan axis offset
        (left.extent.get axis + right.extent.get axis)).Representable := by
    intro other
    rw [upper_get]
    by_cases same : other = axis
    · subst same
      simpa [withSpan, Triple.get_set_self] using small
    · have elsewhere := fitsLeft other
      rw [upper_get] at elsewhere
      simpa [withSpan, Triple.get_set_other _ _ same] using elsewhere
  split at found
  · split at found
    · rename_i adjacent
      cases found
      rw [upper_get] at adjacent
      exact ⟨span (by omega), by omega⟩
    · split at found
      · rename_i adjacent
        cases found
        rw [upper_get] at adjacent
        exact ⟨span (by omega), by omega⟩
      · cases found
  · cases found

theorem narrow_representable {box part : Box} {axis : Axis}
    (fits : box.Representable) (inside : part.Within box) :
    (box.narrow part axis).Representable := by
  have partFits := inside.representable fits
  intro along
  by_cases same : along = axis
  · subst same
    simpa [narrow, withSpan, Triple.get_set_self] using partFits along
  · simpa [narrow, withSpan, Triple.get_set_other _ _ same] using fits along

end Box

namespace Checked

variable {fits : Prop}

section Boxes

variable {left right box part other : Box} {axis : Axis}

theorem computes_endAlong (boxFits : fits → box.Representable) (axis : Axis) :
    Computes fits (endAlong? box axis) (box.upper.get axis) := by
  rw [Box.upper_get]
  refine (Word.computes_add _ _).mono fun fit => ?_
  rw [← Box.upper_get]
  exact boxFits fit axis

theorem computes_upper (boxFits : fits → box.Representable) :
    Computes fits (upper box) box.upper :=
  (computes_endAlong boxFits .x).bind ((computes_endAlong boxFits .y).bind
    ((computes_endAlong boxFits .z).bind (.of_eq_some rfl)))

/-- If the end of a box is known, it is representable. -/
private theorem upper_eq_none (large : ¬ box.Representable) :
    upper box = none := by
  refine Option.eq_none_iff_forall_ne_some.mpr fun found isEnd => large ?_
  simp only [upper] at isEnd
  obtain ⟨first, isFirst, isEnd⟩ := Option.bind_eq_some_iff.mp isEnd
  obtain ⟨second, isSecond, isEnd⟩ := Option.bind_eq_some_iff.mp isEnd
  obtain ⟨third, isThird, _⟩ := Option.bind_eq_some_iff.mp isEnd
  have along {axis : Axis} {number : Nat}
      (isEnd : endAlong? box axis = some number) :
      box.upper.get axis < Box.coordinateLimit := by
    rw [Box.upper_get]
    obtain ⟨same, small⟩ := Word.add?_eq_some isEnd
    exact same ▸ small
  intro axis
  cases axis
  case x => exact along isFirst
  case y => exact along isSecond
  case z => exact along isThird

private theorem meet_of_lt {leftEnd rightEnd : Triple} {axes : List Axis}
    {common : Box}
    (less : max (left.offset.get axis) (right.offset.get axis) <
      min (leftEnd.get axis) (rightEnd.get axis)) :
    meet left right leftEnd rightEnd (axis :: axes) common = meet left right
      leftEnd rightEnd axes
      (common.withSpan axis (max (left.offset.get axis) (right.offset.get axis))
        (min (leftEnd.get axis) (rightEnd.get axis) -
          max (left.offset.get axis) (right.offset.get axis))) := by
  simp only [meet]
  rw [if_neg (Nat.not_le.mpr less), Word.subtract?_of_lt less]
  rfl

private theorem meet_of_not_lt {leftEnd rightEnd : Triple} {axes : List Axis}
    {common : Box}
    (apart : ¬ max (left.offset.get axis) (right.offset.get axis) <
      min (leftEnd.get axis) (rightEnd.get axis)) :
    meet left right leftEnd rightEnd (axis :: axes) common = some none :=
  if_pos (Nat.not_lt.mp apart)

/-- Along an axis on which the boxes meet, the end of the common span is
subtracted from, so the difference is not negative. -/
private theorem meet_eq (left right : Box) :
    meet left right left.upper right.upper Axis.all ⟨.origin, .origin⟩ =
      some (left.intersection? right) := by
  simp only [Box.intersection?, Axis.all]
  by_cases first : max (left.offset.get .x) (right.offset.get .x) <
      min (left.upper.get .x) (right.upper.get .x)
  · rw [meet_of_lt first]
    by_cases second : max (left.offset.get .y) (right.offset.get .y) <
        min (left.upper.get .y) (right.upper.get .y)
    · rw [meet_of_lt second]
      by_cases third : max (left.offset.get .z) (right.offset.get .z) <
          min (left.upper.get .z) (right.upper.get .z)
      · rw [meet_of_lt third, if_pos ⟨first, second, third⟩]
        rfl
      · rw [meet_of_not_lt third, if_neg fun ordered => third ordered.2.2]
    · rw [meet_of_not_lt second, if_neg fun ordered => second ordered.2.1]
  · rw [meet_of_not_lt first, if_neg fun ordered => first ordered.1]

theorem computes_intersection (leftFits : fits → left.Representable)
    (rightFits : fits → right.Representable) :
    Computes fits (intersection left right) (left.intersection? right) :=
  (computes_upper leftFits).bind
    ((computes_upper rightFits).bind (.of_eq_some (meet_eq left right)))

/-- A box is compared with no other before its end is known. -/
private theorem intersection_eq_none (large : ¬ right.Representable) :
    intersection left right = none := by
  simp only [intersection, upper_eq_none large]
  cases upper left <;> rfl

/-- A slab is cut off only where the box goes beyond the part. -/
private theorem slab_eq (box : Box) (axis : Axis) (low high : Nat) :
    slab box axis low high = some
      (if low < high then [box.withSpan axis low (high - low)] else []) := by
  simp only [slab]
  split
  · rename_i less
    rw [Word.subtract?_of_lt less]
    rfl
  · rfl

theorem computes_slabs (boxFits : fits → box.Representable) (part : Box)
    (axis : Axis) :
    Computes fits (slabs box part part.upper axis) (box.slabs part axis) :=
  (computes_endAlong boxFits axis).bind
    (Computes.bind (.of_eq_some (slab_eq box axis _ _))
      (Computes.bind (.of_eq_some (slab_eq box axis _ _)) (.of_eq_some rfl)))

theorem computes_peel (boxFits : fits → box.Representable)
    (inside : part.Within box) (axes : List Axis) :
    Computes fits (peel part part.upper box axes) (Box.peel part box axes) := by
  induction axes generalizing box with
  | nil => exact .of_eq_some rfl
  | cons axis axes induction =>
      have narrowFits (fit : fits) : (box.narrow part axis).Representable :=
        Box.narrow_representable (boxFits fit) inside
      exact (computes_slabs boxFits part axis).bind
        ((induction narrowFits (inside.narrow axis)).bind (.of_eq_some rfl))

theorem computes_subtract (boxFits : fits → box.Representable)
    (otherFits : fits → other.Representable) :
    Computes fits (Checked.subtract box other) (box.subtract other) := by
  simp only [Checked.subtract, Box.subtract]
  split
  · exact .of_eq_some rfl
  · refine (computes_intersection boxFits otherFits).bind ?_
    cases found : box.intersection? other with
    | none => exact .of_eq_some rfl
    | some part =>
        have inside := Box.within_of_intersection?_eq_some found
        have partFits (fit : fits) : part.Representable :=
          inside.representable (boxFits fit)
        exact (computes_upper partFits).bind (computes_peel boxFits inside _)

theorem computes_mergeAlong (leftFits : fits → left.Representable)
    (rightFits : fits → right.Representable) (axis : Axis) :
    Computes fits (mergeAlong left right axis)
      (left.mergeAlong? right axis) := by
  have small {merged : Box} (found : left.mergeAlong? right axis = some merged)
      (fit : fits) :
      left.extent.get axis + right.extent.get axis < Word.limit :=
    (Box.representable_of_mergeAlong? (leftFits fit) (rightFits fit) found).2
  simp only [mergeAlong, Box.mergeAlong?] at small ⊢
  split
  · rename_i agree
    refine (computes_endAlong leftFits axis).bind ?_
    split
    · rename_i adjacent
      rw [if_pos agree, if_pos adjacent] at small
      exact ((Word.computes_add _ _).mono (small rfl)).bind (.of_eq_some rfl)
    · rename_i apart
      refine (computes_endAlong rightFits axis).bind ?_
      split
      · rename_i adjacent
        rw [if_pos agree, if_neg apart, if_pos adjacent] at small
        exact ((Word.computes_add _ _).mono (small rfl)).bind (.of_eq_some rfl)
      · exact .of_eq_some rfl
  · exact .of_eq_some rfl

theorem computes_merge (leftFits : fits → left.Representable)
    (rightFits : fits → right.Representable) :
    Computes fits (merge left right) (left.merge? right) := by
  simp only [merge, Box.merge?]
  induction Axis.all with
  | nil => exact .of_eq_some rfl
  | cons axis axes induction =>
      rw [List.findSomeM?_cons, List.findSome?_cons]
      refine (computes_mergeAlong leftFits rightFits axis).bind ?_
      cases left.mergeAlong? right axis with
      | some merged => exact .of_eq_some rfl
      | none => exact induction

end Boxes

section Lists

variable {box window : Box} {boxes pieces : List Box}

theorem computes_findPartner (boxFits : fits → box.Representable)
    (allFit : fits → ∀ other ∈ boxes, other.Representable) :
    Computes fits (findPartner box boxes) (Box.findPartner box boxes) := by
  induction boxes with
  | nil => exact .of_eq_some rfl
  | cons head tail induction =>
      have headFits (fit : fits) := (List.forall_mem_cons.mp (allFit fit)).1
      have tailFits (fit : fits) := (List.forall_mem_cons.mp (allFit fit)).2
      refine (computes_merge boxFits headFits).bind ?_
      simp only [Box.findPartner]
      cases box.merge? head with
      | some merged => exact .of_eq_some rfl
      | none => exact (induction tailFits).bind (.of_eq_some rfl)

theorem computes_findMerger
    (allFit : fits → ∀ box ∈ boxes, box.Representable) :
    Computes fits (findMerger boxes) (Box.findMerger boxes) := by
  induction boxes with
  | nil => exact .of_eq_some rfl
  | cons head tail induction =>
      have headFits (fit : fits) := (List.forall_mem_cons.mp (allFit fit)).1
      have tailFits (fit : fits) := (List.forall_mem_cons.mp (allFit fit)).2
      refine (computes_findPartner headFits tailFits).bind ?_
      simp only [Box.findMerger]
      cases Box.findPartner head tail with
      | some found => exact .of_eq_some rfl
      | none => exact (induction tailFits).bind (.of_eq_some rfl)

private theorem applyMerger_representable {merger : Box.Merger}
    (found : Box.findMerger boxes = some merger)
    (allFit : ∀ box ∈ boxes, box.Representable) :
    ∀ box ∈ Box.applyMerger boxes merger, box.Representable := by
  obtain ⟨left, right, rest, merges, before, after⟩ :=
    Box.applyMerger_perm found
  simp only [before.mem_iff, List.forall_mem_cons] at allFit
  obtain ⟨fitsLeft, fitsRight, restFits⟩ := allFit
  simp only [after.mem_iff, List.forall_mem_cons]
  obtain ⟨axis, _, along⟩ := List.exists_of_findSome?_eq_some merges
  exact ⟨(Box.representable_of_mergeAlong? fitsLeft fitsRight along).1,
    restFits⟩

theorem computes_mergeTimes {times : Nat}
    (allFit : fits → ∀ box ∈ boxes, box.Representable) :
    Computes fits (mergeTimes times boxes) (Box.mergeTimes times boxes) := by
  induction times generalizing boxes with
  | zero => exact .of_eq_some rfl
  | succ times induction =>
      refine (computes_findMerger allFit).bind ?_
      simp only [Box.mergeTimes]
      cases found : Box.findMerger boxes with
      | none => exact .of_eq_some rfl
      | some merger =>
          exact induction fun fit =>
            applyMerger_representable found (allFit fit)

theorem computes_coalesce (allFit : fits → ∀ box ∈ boxes, box.Representable) :
    Computes fits (coalesce boxes) (Box.coalesce boxes) :=
  (computes_mergeTimes allFit).bind (.of_eq_some rfl)

theorem computes_subtractEach
    (allFit : fits → ∀ box ∈ boxes, box.Representable)
    (windowFits : fits → window.Representable) :
    Computes fits (subtractEach boxes window)
      (boxes.flatMap (Box.subtract · window)) :=
  (Computes.mapM fun box isBox =>
    computes_subtract (fun fit => allFit fit box isBox) windowFits).bind
      (.of_eq_some rfl)

private theorem subtractEach_representable
    (allFit : ∀ box ∈ boxes, box.Representable) (window : Box) :
    ∀ piece ∈ boxes.flatMap (Box.subtract · window), piece.Representable := by
  intro piece isPiece
  obtain ⟨box, isBox, isPiece⟩ := List.mem_flatMap.mp isPiece
  exact Box.representable_of_mem_subtract (allFit box isBox) isPiece

theorem computes_subtractAll
    (piecesFit : fits → ∀ piece ∈ pieces, piece.Representable)
    (allFit : fits → ∀ box ∈ boxes, box.Representable) :
    Computes fits (subtractAll pieces boxes)
      (Box.subtractAll pieces boxes) := by
  simp only [subtractAll, Box.subtractAll]
  induction boxes generalizing pieces with
  | nil => exact .of_eq_some rfl
  | cons box boxes induction =>
      have boxFits (fit : fits) := (List.forall_mem_cons.mp (allFit fit)).1
      have restFits (fit : fits) := (List.forall_mem_cons.mp (allFit fit)).2
      rw [List.foldlM_cons]
      refine (computes_subtractEach piecesFit boxFits).bind ?_
      exact induction
        (fun fit => subtractEach_representable (piecesFit fit) box) restFits

private theorem subtractAll_representable
    (piecesFit : ∀ piece ∈ pieces, piece.Representable) (boxes : List Box) :
    ∀ piece ∈ Box.subtractAll pieces boxes, piece.Representable :=
  List.foldlRecOn
    (motive := fun left : List Box => ∀ piece ∈ left, piece.Representable)
    boxes _ piecesFit fun _ leftFits box _ =>
      subtractEach_representable leftFits box

theorem computes_intersects
    (allFit : fits → ∀ box ∈ boxes, box.Representable)
    (windowFits : fits → window.Representable) :
    Computes fits (intersects boxes window)
      (boxes.any (·.overlaps window)) := by
  induction boxes with
  | nil => exact .of_eq_some rfl
  | cons box boxes induction =>
      have boxFits (fit : fits) := (List.forall_mem_cons.mp (allFit fit)).1
      have restFits (fit : fits) := (List.forall_mem_cons.mp (allFit fit)).2
      refine (computes_intersection boxFits windowFits).bind ?_
      simp only [List.any_cons, Box.overlaps]
      cases box.intersection? window with
      | some part => exact .of_eq_some rfl
      | none => exact induction restFits

end Lists

section Sets

variable {set : BoxSet} {window : Box}

theorem computes_insert (allFit : fits → ∀ box ∈ set.boxes, box.Representable)
    (windowFits : fits → window.Representable) :
    Computes fits (insert set window) (set.insert window) := by
  have oneFits (fit : fits) : ∀ piece ∈ [window], piece.Representable := by
    simpa using windowFits fit
  have together (fit : fits) :
      ∀ box ∈ set.boxes ++ Box.subtractAll [window] set.boxes,
        box.Representable := fun box member =>
    (List.mem_append.mp member).elim (allFit fit box)
      (subtractAll_representable (oneFits fit) set.boxes box)
  simp only [insert, BoxSet.insert]
  split
  · exact .of_eq_some rfl
  · refine (computes_subtractAll oneFits allFit).bind ?_
    cases pieces : Box.subtractAll [window] set.boxes with
    | nil => exact .of_eq_some rfl
    | cons piece rest =>
        rw [pieces] at together
        exact (computes_coalesce together).bind (.of_eq_some rfl)

theorem computes_remove (allFit : fits → ∀ box ∈ set.boxes, box.Representable)
    (windowFits : fits → window.Representable) :
    Computes fits (remove set window) (set.remove window) := by
  refine (computes_intersects allFit windowFits).bind ?_
  simp only [BoxSet.remove]
  split
  · have leftFit (fit : fits) :=
      subtractEach_representable (allFit fit) window
    exact (computes_subtractEach allFit windowFits).bind
      ((computes_coalesce leftFit).bind (.of_eq_some rfl))
  · exact .of_eq_some rfl

theorem computes_overlaps (allFit : fits → ∀ box ∈ set.boxes, box.Representable)
    (windowFits : fits → window.Representable) :
    Computes fits (overlaps set window) (set.overlaps window) := by
  have each : Computes fits (set.boxes.mapM (intersection · window))
      (set.boxes.map (·.intersection? window)) :=
    Computes.mapM fun box isBox =>
      computes_intersection (fun fit => allFit fit box isBox) windowFits
  refine each.bind ?_
  simp only [BoxSet.overlaps, List.filterMap_map]
  exact .of_eq_some rfl

theorem computes_uncovered
    (allFit : fits → ∀ box ∈ set.boxes, box.Representable)
    (windowFits : fits → window.Representable) :
    Computes fits (uncovered set window) (set.uncovered window) := by
  have oneFits (fit : fits) : ∀ piece ∈ [window], piece.Representable := by
    simpa using windowFits fit
  simp only [uncovered, BoxSet.uncovered]
  split
  · exact .of_eq_some rfl
  · exact (computes_subtractAll oneFits allFit).bind (computes_coalesce
      fun fit => subtractAll_representable (oneFits fit) set.boxes)

/-- A window whose end is not representable cannot be removed from a set that
has boxes. -/
theorem remove_eq_none (occupied : set.boxes ≠ [])
    (large : ¬ window.Representable) : remove set window = none := by
  obtain ⟨box, boxes, shape⟩ := List.exists_cons_of_ne_nil occupied
  simp only [remove, shape, intersects, intersection_eq_none large]
  rfl

end Sets

end Checked

end CoherentTasks.Geometry
