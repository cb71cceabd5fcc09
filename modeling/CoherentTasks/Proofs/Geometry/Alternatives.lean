import CoherentTasks.Proofs.Geometry.Rigid

/-!
# Tilings that depend on their history

Which of the canonical tilings of its elements a set of boxes has depends on the
edits that made it. Every tiling in which no two boxes merge is made by
inserting its boxes, and positions that once share a box share one ever after.
So a tiling that is not rigid has an alternative: two boxes that touch can be
joined by inserting neighbouring elements of them first, and a box that is not
slender can be divided.
-/

namespace CoherentTasks.Geometry

open Box (Covered Rigid Tiles)
open BoxSet (Canonical Edit edited)

namespace Box

/-- Some box of the list has both positions. -/
def Together (boxes : List Box) (first second : Triple) : Prop :=
  ∃ box ∈ boxes, first ∈ box ∧ second ∈ box

variable {boxes more : List Box} {first second : Triple}

theorem Together.append (together : Together boxes first second) :
    Together (boxes ++ more) first second := by
  obtain ⟨box, isBox, both⟩ := together
  exact ⟨box, List.mem_append_left _ isBox, both⟩

theorem Together.perm (together : Together boxes first second)
    (same : boxes.Perm more) : Together more first second := by
  obtain ⟨box, isBox, both⟩ := together
  exact ⟨box, same.mem_iff.mp isBox, both⟩

theorem Together.mergeTimes (together : Together boxes first second)
    (times : Nat) : Together (mergeTimes times boxes) first second := by
  induction times generalizing boxes with
  | zero => exact together
  | succ times induction =>
      simp only [Box.mergeTimes]
      split
      · exact together
      · rename_i merger found
        obtain ⟨left, right, rest, merges, before, after⟩ :=
          applyMerger_perm found
        apply induction
        obtain ⟨box, isBox, both⟩ := together
        refine Together.perm ?_ after.symm
        have either := mem_of_merge?_eq_some merges
        -- If one of the two was merged, the merged box has its positions.
        rcases List.mem_cons.mp (before.mem_iff.mp isBox) with rfl | later
        · exact ⟨_, List.mem_cons_self, (either _).mpr (.inl both.1),
            (either _).mpr (.inl both.2)⟩
        · rcases List.mem_cons.mp later with rfl | kept
          · exact ⟨_, List.mem_cons_self, (either _).mpr (.inr both.1),
              (either _).mpr (.inr both.2)⟩
          · exact ⟨box, List.mem_cons_of_mem _ kept, both⟩

theorem Together.coalesce (together : Together boxes first second) :
    Together (coalesce boxes) first second :=
  (together.mergeTimes boxes.length).perm (sort_perm _).symm

theorem Together.insert {set : BoxSet}
    (together : Together set.boxes first second) (box : Box) :
    Together (set.insert box).boxes first second := by
  simp only [BoxSet.insert]
  split
  · exact together
  · split
    · exact together
    · exact together.append.coalesce

end Box

/-- The insertions of boxes, one after the other. -/
def insertions (boxes : List Box) : List Edit :=
  boxes.map .insert

private theorem edited_insertions_concat (boxes : List Box) (box : Box) :
    edited (insertions (boxes ++ [box])) =
      (edited (insertions boxes)).insert box := by
  rw [insertions, List.map_append]
  exact BoxSet.edited_append_singleton _ (.insert box)

private theorem mem_edited_insertions_iff {boxes : List Box}
    {position : Triple} :
    position ∈ edited (insertions boxes) ↔ Covered boxes position := by
  induction boxes using List.reverseRecOn with
  | nil => exact Iff.rfl
  | append_singleton boxes box induction =>
      rw [edited_insertions_concat, BoxSet.mem_insert_iff, induction,
        Box.covered_append, Box.covered_cons,
        or_iff_left (Box.covered_nil position)]

private theorem together_insertions {box : Box} {boxes : List Box}
    {first second : Triple} (inFirst : first ∈ box) (inSecond : second ∈ box) :
    Box.Together (edited (insertions (box :: boxes))).boxes first second := by
  induction boxes using List.reverseRecOn with
  | nil =>
      have occupied := Box.isEmpty_eq_false_iff_exists_mem.mpr ⟨first, inFirst⟩
      have single : (edited (insertions [box])).boxes = [box] := by
        simp only [insertions, edited, List.map_cons, List.map_nil,
          List.foldl_cons, List.foldl_nil, Edit.apply, BoxSet.insert, occupied]
        rfl
      rw [single]
      exact ⟨box, List.mem_singleton_self _, inFirst, inSecond⟩
  | append_singleton boxes last induction =>
      rw [← List.cons_append, edited_insertions_concat]
      exact induction.insert last

namespace Box

/-- No two of the boxes merge. -/
def Unmergeable (boxes : List Box) : Prop :=
  boxes.Pairwise fun left right => left.merge? right = none

private theorem subtract_of_apart {box other : Box}
    (occupied : box.isEmpty = false) (apart : box.Apart other) :
    box.subtract other = [box] := by
  have notOverlaps : box.overlaps other = false := by
    by_contra meets
    obtain ⟨position, inBox, inOther⟩ := overlaps_iff.mp (by simpa using meets)
    exact apart position inBox inOther
  have noPart : box.intersection? other = none := by
    simpa [overlaps] using notOverlaps
  simp only [subtract, occupied, noPart]
  rfl

private theorem subtractAll_of_apart {box : Box} {boxes : List Box}
    (occupied : box.isEmpty = false)
    (apart : ∀ other ∈ boxes, box.Apart other) :
    subtractAll [box] boxes = [box] := by
  simp only [subtractAll]
  induction boxes with
  | nil => rfl
  | cons other boxes induction =>
      obtain ⟨first, rest⟩ := List.forall_mem_cons.mp apart
      simp only [List.foldl_cons, List.flatMap_cons, List.flatMap_nil,
        List.append_nil, subtract_of_apart occupied first]
      exact induction rest

private theorem coalesce_of_unmergeable {boxes : List Box}
    (separate : Unmergeable boxes) : coalesce boxes = sort boxes := by
  have nothing := findMerger_eq_none_iff.mpr separate
  have unchanged : mergeTimes boxes.length boxes = boxes := by
    cases boxes.length with
    | zero => rfl
    | succ times =>
        simp only [mergeTimes]
        rw [nothing]
  rw [coalesce, unchanged]

/-- A tiling without mergers is made by inserting its boxes in any order. -/
theorem edited_insertions_perm {boxes : List Box} (tiles : Tiles boxes)
    (separate : Unmergeable boxes) :
    (edited (insertions boxes)).boxes.Perm boxes := by
  induction boxes using List.reverseRecOn with
  | nil => exact .nil
  | append_singleton boxes box induction =>
      obtain ⟨apart, _, across⟩ := List.pairwise_append.mp tiles.apart
      have before := induction ⟨fun other isOther =>
        tiles.occupied other (List.mem_append_left _ isOther), apart⟩
        (List.pairwise_append.mp separate).1
      have occupied :=
        tiles.occupied box
          (List.mem_append_right _ (List.mem_singleton_self box))
      have outside :
          ∀ other ∈ (edited (insertions boxes)).boxes, box.Apart other :=
        fun other isOther =>
          (across other (before.mem_iff.mp isOther) box
            (List.mem_singleton_self box)).symm
      have order := before.append_right [box]
      have stays : Unmergeable ((edited (insertions boxes)).boxes ++ [box]) :=
        separate.perm order.symm fun {_ _} => merge?_eq_none_comm
      rw [edited_insertions_concat]
      simp only [BoxSet.insert, occupied, subtractAll_of_apart occupied outside,
        coalesce_of_unmergeable stays]
      exact (sort_perm _).trans order

end Box

namespace Box

private theorem touches_of_adjacent {left right : Box} {axis : Axis}
    (occupied : left.isEmpty = false) (occupiedRight : right.isEmpty = false)
    (agree : left.agreeExcept right axis = true)
    (adjacent : left.upper.get axis = right.offset.get axis) :
    left.Touches right := by
  have positive := isEmpty_eq_false_iff.mp occupied
  have positiveRight := isEmpty_eq_false_iff.mp occupiedRight axis
  have here := positive axis
  have same := agreeExcept_iff.mp agree
  rw [upper_get] at adjacent
  refine ⟨left.offset.set axis
    (left.offset.get axis + (left.extent.get axis - 1)),
    axis, .inl ⟨mem_set_iff.mpr
      ⟨by omega, fun other _ => mem_iff.mp (offset_mem occupied) other⟩, ?_⟩⟩
  simp only [Triple.next, Triple.get_set_self]
  refine mem_set_iff.mpr ⟨by omega, fun other different => ?_⟩
  have there := positive other
  have agrees := same other different
  simp only [Spans, Triple.get_set_other _ _ different]
  omega

/-- Boxes that merge touch at the face that they share. -/
theorem merge?_eq_none_of_not_touches {left right : Box}
    (occupied : left.isEmpty = false) (occupiedRight : right.isEmpty = false)
    (separate : ¬ left.Touches right) : left.merge? right = none := by
  refine merge?_eq_none_iff.mpr
    fun axis => mergeAlong?_eq_none_iff.mpr fun agree => ⟨?_, ?_⟩
  · exact fun adjacent =>
      separate (touches_of_adjacent occupied occupiedRight agree adjacent)
  · intro adjacent
    rw [agreeExcept_comm] at agree
    exact separate
      (touches_of_adjacent occupiedRight occupied agree adjacent).symm

theorem Touches.mono {left right inner : Box} (touches : inner.Touches right)
    (inside : ∀ position ∈ inner, position ∈ left) : left.Touches right := by
  obtain ⟨position, axis, either⟩ := touches
  exact ⟨position, axis, either.imp (fun both => ⟨inside _ both.1, both.2⟩)
    fun both => ⟨both.1, inside _ both.2⟩⟩

end Box

theorem Axis.Frame.forall_iff {first second third : Axis}
    (axes : Frame first second third) {holds : Axis → Prop} :
    (∀ axis, holds axis) ↔ holds first ∧ holds second ∧ holds third := by
  refine ⟨fun every => ⟨every first, every second, every third⟩,
    fun each axis => ?_⟩
  rcases axes.every axis with rfl | rfl | rfl
  · exact each.1
  · exact each.2.1
  · exact each.2.2

/-- Consecutive numbers. -/
structure Span where
  start : Nat
  count : Nat

namespace Span

def Has (span : Span) (number : Nat) : Prop :=
  span.start ≤ number ∧ number < span.start + span.count

/-- One of the spans ends before the other one starts. -/
def Apart (left right : Span) : Prop :=
  left.start + left.count ≤ right.start ∨ right.start + right.count ≤ left.start

def Differs (left right : Span) : Prop :=
  left.start ≠ right.start ∨ left.count ≠ right.count

/-- The first number alone. -/
def first (span : Span) : Span := ⟨span.start, 1⟩

/-- All numbers but the first. -/
def rest (span : Span) : Span := ⟨span.start + 1, span.count - 1⟩

/-- The last number alone. -/
def last (span : Span) : Span := ⟨span.start + (span.count - 1), 1⟩

/-- All numbers but the last. -/
def front (span : Span) : Span := ⟨span.start, span.count - 1⟩

/-- All numbers but the first and the last. -/
def middle (span : Span) : Span := ⟨span.start + 1, span.count - 2⟩

end Span

/-- Spans along three axes. -/
structure Brick where
  along : Span
  across : Span
  through : Span

namespace Brick

def Has (brick : Brick) (first second third : Nat) : Prop :=
  brick.along.Has first ∧ brick.across.Has second ∧ brick.through.Has third

/-- The bricks have no element in common, and they differ along two axes at
least. -/
def Beside (left right : Brick) : Prop :=
  (left.along.Apart right.along ∨ left.across.Apart right.across ∨
    left.through.Apart right.through) ∧
  ((left.along.Differs right.along ∧ left.across.Differs right.across) ∨
    (left.along.Differs right.along ∧ left.through.Differs right.through) ∨
    left.across.Differs right.across ∧ left.through.Differs right.through)

/-- The box with the spans of a brick along three axes. -/
def box (first second third : Axis) (brick : Brick) : Box :=
  (((Box.ofExtent .origin).withSpan first brick.along.start
    brick.along.count).withSpan
    second brick.across.start brick.across.count).withSpan
    third brick.through.start brick.through.count

/-- The spans of a box along three axes. -/
def ofBox (first second third : Axis) (box : Box) : Brick where
  along := ⟨box.offset.get first, box.extent.get first⟩
  across := ⟨box.offset.get second, box.extent.get second⟩
  through := ⟨box.offset.get third, box.extent.get third⟩

/-- The first numbers and the others are separated along each axis; four of the
boxes with two first numbers or two others in common are put together in pairs,
the other two stay alone. -/
def knot (brick : Brick) : List Brick :=
  [⟨brick.along.first, brick.across.first, brick.through.first⟩,
    ⟨brick.along.rest, brick.across.rest, brick.through.rest⟩,
    ⟨brick.along.rest, brick.across, brick.through.first⟩,
    ⟨brick.along.first, brick.across.rest, brick.through⟩,
    ⟨brick.along, brick.across.first, brick.through.rest⟩]

/-- Four arms around a middle. -/
def pinwheel (brick : Brick) : List Brick :=
  [⟨brick.along.front, brick.across.first, brick.through⟩,
    ⟨brick.along.last, brick.across.front, brick.through⟩,
    ⟨brick.along.rest, brick.across.last, brick.through⟩,
    ⟨brick.along.first, brick.across.rest, brick.through⟩,
    ⟨brick.along.middle, brick.across.middle, brick.through⟩]

/-- The bricks are parts of another one and make it up, no two of them merge,
and there are several. -/
structure Divides (bricks : List Brick) (whole : Brick) : Prop where
  occupied : ∀ brick ∈ bricks,
    0 < brick.along.count ∧ 0 < brick.across.count ∧ 0 < brick.through.count
  beside : bricks.Pairwise Beside
  covers : ∀ first second third,
    (∃ brick ∈ bricks, brick.Has first second third) ↔
      whole.Has first second third
  several : 1 < bricks.length

/-- At least two elements along each axis. -/
theorem divides_knot {brick : Brick} (long : 2 ≤ brick.along.count)
    (wide : 2 ≤ brick.across.count) (deep : 2 ≤ brick.through.count) :
    Divides brick.knot brick := by
  obtain ⟨⟨i, a⟩, ⟨j, b⟩, ⟨k, c⟩⟩ := brick
  simp only at long wide deep
  constructor
  case occupied =>
    simp only [knot, Span.first, Span.rest, List.forall_mem_cons,
      List.not_mem_nil, false_implies, implies_true, and_true]
    omega
  case beside =>
    simp only [knot, Beside, Span.Apart, Span.Differs, Span.first, Span.rest,
      List.pairwise_cons, List.forall_mem_cons, List.not_mem_nil, false_implies,
      implies_true, and_true, List.Pairwise.nil]
    omega
  case covers =>
    intro first second third
    simp only [knot, Has, Span.Has, Span.first, Span.rest,
      List.exists_mem_cons_iff, List.not_mem_nil, false_and,
      exists_false, or_false]
    omega
  case several => exact Nat.le_add_left 2 3

/-- At least three elements along two axes. -/
theorem divides_pinwheel {brick : Brick} (long : 3 ≤ brick.along.count)
    (wide : 3 ≤ brick.across.count) (deep : 0 < brick.through.count) :
    Divides brick.pinwheel brick := by
  obtain ⟨⟨i, a⟩, ⟨j, b⟩, ⟨k, c⟩⟩ := brick
  simp only at long wide deep
  constructor
  case occupied =>
    simp only [pinwheel, Span.first, Span.rest, Span.last, Span.front,
      Span.middle, List.forall_mem_cons, List.not_mem_nil, false_implies,
      implies_true, and_true]
    omega
  case beside =>
    simp only [pinwheel, Beside, Span.Apart, Span.Differs, Span.first,
      Span.rest, Span.last, Span.front, Span.middle, List.pairwise_cons,
      List.forall_mem_cons, List.not_mem_nil, false_implies, implies_true,
      and_true, List.Pairwise.nil]
    omega
  case covers =>
    intro first second third
    simp only [pinwheel, Has, Span.Has, Span.first, Span.rest, Span.last,
      Span.front, Span.middle, List.exists_mem_cons_iff, List.not_mem_nil,
      false_and, exists_false, or_false]
    omega
  case several => exact Nat.le_add_left 2 3

section Boxes

variable {brick left right : Brick} {first second third : Axis}
  (axes : Axis.Frame first second third)

include axes

private theorem ofBox_box :
    ofBox first second third (brick.box first second third) = brick := by
  simp only [ofBox, box, Box.withSpan, Triple.get_set_self,
    Triple.get_set_other _ _ axes.first_ne_second,
    Triple.get_set_other _ _ axes.first_ne_third,
    Triple.get_set_other _ _ axes.second_ne_third]

theorem mem_iff_ofBox {box : Box} {position : Triple} :
    position ∈ box ↔ (ofBox first second third box).Has (position.get first)
      (position.get second) (position.get third) :=
  Box.mem_iff.trans axes.forall_iff

theorem mem_box_iff {position : Triple} :
    position ∈ brick.box first second third ↔ brick.Has (position.get first)
      (position.get second) (position.get third) := by
  rw [mem_iff_ofBox axes, ofBox_box axes]

theorem isEmpty_box
    (occupied : 0 < brick.along.count ∧ 0 < brick.across.count ∧
      0 < brick.through.count) :
    (brick.box first second third).isEmpty = false := by
  have same : ofBox first second third (brick.box first second third) = brick :=
    ofBox_box axes
  rw [Box.isEmpty_eq_false_iff, axes.forall_iff]
  rw [← same] at occupied
  exact occupied

theorem Beside.apart (beside : left.Beside right) :
    (left.box first second third).Apart (right.box first second third) := by
  intro position inLeft inRight
  rw [mem_box_iff axes] at inLeft inRight
  simp only [Has, Span.Has] at inLeft inRight
  simp only [Beside, Span.Apart] at beside
  omega

/-- Bricks beside each other do not agree along all axes but one. -/
theorem Beside.merge?_eq_none (beside : left.Beside right) :
    (left.box first second third).merge? (right.box first second third) =
      none := by
  refine Box.merge?_eq_none_iff.mpr
    fun axis => Box.mergeAlong?_eq_none_iff.mpr fun agree => ?_
  have agree := Box.agreeExcept_iff.mp agree
  have differ := beside.2
  have leftSame :
      ofBox first second third (left.box first second third) = left :=
    ofBox_box axes
  have rightSame :
      ofBox first second third (right.box first second third) = right :=
    ofBox_box axes
  rw [← leftSame, ← rightSame] at differ
  generalize left.box first second third = leftBox at agree differ
  generalize right.box first second third = rightBox at agree differ
  simp only [ofBox, Span.Differs] at differ
  have agreeOnOne {one two : Axis} (different : one ≠ two) :
      (leftBox.offset.get one = rightBox.offset.get one ∧
        leftBox.extent.get one = rightBox.extent.get one) ∨
      leftBox.offset.get two = rightBox.offset.get two ∧
        leftBox.extent.get two = rightBox.extent.get two := by
    by_cases here : one = axis
    · exact .inr (agree two fun also => different (here.trans also.symm))
    · exact .inl (agree one here)
  have firstTwo := agreeOnOne axes.first_ne_second
  have outerTwo := agreeOnOne axes.first_ne_third
  have lastTwo := agreeOnOne axes.second_ne_third
  omega

end Boxes

end Brick

namespace Box

/-- The pieces are a tiling of the box without mergers, and the box is not among
them. -/
structure Division (pieces : List Box) (box : Box) : Prop where
  tiles : Tiles pieces
  separate : Unmergeable pieces
  covered_iff : ∀ position, Covered pieces position ↔ position ∈ box
  not_mem : box ∉ pieces

theorem Division.of_bricks {bricks : List Brick} {box : Box}
    {first second third : Axis} (axes : Axis.Frame first second third)
    (divides : Brick.Divides bricks (Brick.ofBox first second third box)) :
    Division (bricks.map (Brick.box first second third)) box := by
  have tiles : Tiles (bricks.map (Brick.box first second third)) := by
    constructor
    case occupied =>
      intro piece isPiece
      obtain ⟨brick, isBrick, rfl⟩ := List.mem_map.mp isPiece
      exact Brick.isEmpty_box axes (divides.occupied brick isBrick)
    case apart => exact List.pairwise_map.mpr (divides.beside.imp
      fun beside => beside.apart axes)
  have covered (position : Triple) :
      Covered (bricks.map (Brick.box first second third)) position ↔
        position ∈ box := by
    simp only [Covered, List.mem_map, exists_exists_and_eq_and,
      Brick.mem_box_iff axes]
    rw [divides.covers, ← Brick.mem_iff_ofBox axes]
  refine ⟨tiles, ?_, covered, fun isPiece => ?_⟩
  · exact List.pairwise_map.mpr
      (divides.beside.imp fun beside => beside.merge?_eq_none axes)
  · -- If the box were a piece, there would be no other pieces.
    have every :
        ∀ piece ∈ bricks.map (Brick.box first second third), piece = box := by
      intro piece isOther
      have inPiece := offset_mem (tiles.occupied piece isOther)
      exact tiles.eq_of_common isOther isPiece inPiece
        ((covered _).mp ⟨piece, isOther, inPiece⟩)
    have length := divides.several
    rw [← List.length_map (Brick.box first second third)] at length
    have apart := tiles.apart
    rw [List.eq_replicate_of_mem every] at apart
    obtain ⟨count, more⟩ : ∃ count,
        (bricks.map (Brick.box first second third)).length = count + 1 + 1 :=
      Nat.exists_eq_add_of_le' length
    rw [more, List.replicate_succ, List.replicate_succ] at apart
    have inBox := offset_mem (tiles.occupied box isPiece)
    exact List.rel_of_pairwise_cons apart List.mem_cons_self _ inBox inBox

/-- A box that is not slender has two elements or more along each axis, or three
along two of them. -/
theorem exists_division {box : Box} (occupied : box.isEmpty = false)
    (thick : ¬ box.Slender) : ∃ pieces, Division pieces box := by
  have positive := isEmpty_eq_false_iff.mp occupied
  have others {thin : Axis} (one : box.extent.get thin = 1) (flat : Axis)
      (different : thin ≠ flat) : 3 ≤ box.extent.get flat := by
    by_contra small
    exact thick ⟨thin, flat, different, one, by omega⟩
  by_cases some : ∃ thin, box.extent.get thin = 1
  · obtain ⟨thin, one⟩ := some
    obtain ⟨flat, different⟩ : ∃ flat, thin ≠ flat := by
      cases thin
      · exact ⟨.y, by decide⟩
      · exact ⟨.z, by decide⟩
      · exact ⟨.x, by decide⟩
    obtain ⟨long, axes⟩ := Axis.exists_frame different
    have turned : Axis.Frame flat long thin :=
      ⟨fun axis => (axes.every axis).elim (fun here => .inr (.inr here))
        (·.imp_right .inl),
        axes.second_ne_third, different.symm, axes.first_ne_third.symm⟩
    exact ⟨_, Division.of_bricks turned
      (Brick.divides_pinwheel (others one flat different)
        (others one long axes.first_ne_third) (positive thin))⟩
  · have two (axis : Axis) : 2 ≤ box.extent.get axis := by
      have here := positive axis
      have notOne : box.extent.get axis ≠ 1 := fun one => some ⟨axis, one⟩
      omega
    exact ⟨_, Division.of_bricks Axis.frame_xyz
      (Brick.divides_knot (two .x) (two .y) (two .z))⟩

/-- A position and the one behind it along an axis. -/
def pair (position : Triple) (axis : Axis) : Box :=
  ⟨position, (⟨1, 1, 1⟩ : Triple).set axis 2⟩

theorem mem_pair_iff {position other : Triple} {axis : Axis} :
    other ∈ pair position axis ↔
      other = position ∨ other = position.next axis := by
  have along :
      (pair position axis).Spans axis other ↔
        other.get axis = position.get axis ∨
        other.get axis = position.get axis + 1 := by
    have two : (pair position axis).extent.get axis = 2 :=
      Triple.get_set_self _ _ _
    simp only [Spans, two]
    simp only [pair]
    omega
  have across (beside : Axis) (different : beside ≠ axis) :
      (pair position axis).Spans beside other ↔
        other.get beside = position.get beside := by
    have one : (pair position axis).extent.get beside = 1 :=
      (Triple.get_set_other _ _ different).trans (by cases beside <;> rfl)
    simp only [Spans, one]
    simp only [pair]
    omega
  have itself : other = position ↔ other.get axis = position.get axis ∧
      ∀ beside, beside ≠ axis → other.get beside = position.get beside := by
    rw [← Triple.eq_set_iff, Triple.set_get]
  rw [mem_iff_split axis, along, forall₂_congr across, itself, Triple.next,
    Triple.eq_set_iff, or_and_right]

end Box

section Alternatives

variable {boxes : List Box}

private theorem representable_of_covered
    (fits : ∀ box ∈ boxes, box.Representable) {others : List Box}
    (occupied : ∀ box ∈ others, box.isEmpty = false)
    (same : ∀ position, Covered others position ↔ Covered boxes position) :
    ∀ box ∈ others, box.Representable := by
  intro box isBox
  refine (Tiles.singleton (occupied box isBox)).representable
    (fun position inside => ?_) box (List.mem_singleton_self box)
  rw [Box.covered_cons, or_iff_left (Box.covered_nil position)] at inside
  obtain ⟨outer, isOuter, inOuter⟩ := (same position).mp ⟨box, isBox, inside⟩
  exact ⟨outer, fits outer isOuter, inOuter⟩

/-- Boxes that are inserted give the elements of other boxes, but not these
boxes. -/
structure Alternative (boxes others : List Box) : Prop where
  occupied : ∀ box ∈ others, box.isEmpty = false
  covered_iff : ∀ position, Covered others position ↔ Covered boxes position
  differs : (edited (insertions others)).boxes ≠ boxes

/-- Neighbouring elements of different boxes come to lie in one box when they
are inserted first. -/
private theorem exists_alternative_of_touches (canonical : Canonical boxes)
    {left right : Box} (isLeft : left ∈ boxes) (isRight : right ∈ boxes)
    (different : left ≠ right) (touches : left.Touches right) :
    ∃ others, Alternative boxes others := by
  obtain ⟨position, axis, either⟩ := touches
  have inFirst : position ∈ Box.pair position axis :=
    Box.mem_pair_iff.mpr (.inl rfl)
  have inSecond : position.next axis ∈ Box.pair position axis :=
    Box.mem_pair_iff.mpr (.inr rfl)
  refine ⟨Box.pair position axis :: boxes, ?_⟩
  constructor
  case occupied =>
    exact List.forall_mem_cons.mpr
      ⟨Box.isEmpty_eq_false_iff_exists_mem.mpr ⟨_, inFirst⟩,
        canonical.tiles.occupied⟩
  case covered_iff =>
    intro other
    rw [Box.covered_cons, Box.mem_pair_iff]
    refine or_iff_right_of_imp fun inPair => ?_
    rcases inPair with rfl | rfl
    · exact either.elim (fun both => ⟨left, isLeft, both.1⟩)
        fun both => ⟨right, isRight, both.1⟩
    · exact either.elim (fun both => ⟨right, isRight, both.2⟩)
        fun both => ⟨left, isLeft, both.2⟩
  case differs =>
    intro equal
    have together :
        Box.Together
          (edited (insertions (Box.pair position axis :: boxes))).boxes position
          (position.next axis) := together_insertions inFirst inSecond
    rw [equal] at together
    obtain ⟨box, isBox, hasFirst, hasSecond⟩ := together
    have tiles := canonical.tiles
    rcases either with ⟨first, second⟩ | ⟨first, second⟩
    · exact different ((tiles.eq_of_common isLeft isBox first hasFirst).trans
        (tiles.eq_of_common isBox isRight hasSecond second))
    · exact different ((tiles.eq_of_common isLeft isBox second hasSecond).trans
        (tiles.eq_of_common isBox isRight hasFirst first))

/-- Where no boxes touch, one of them can be replaced by its pieces. -/
private theorem exists_alternative_of_division (canonical : Canonical boxes)
    (separate : ∀ left ∈ boxes,
      ∀ right ∈ boxes, left ≠ right → ¬ left.Touches right)
    {box : Box} (isBox : box ∈ boxes) {pieces : List Box}
    (division : Box.Division pieces box) :
    ∃ others, Alternative boxes others := by
  have isOther {other : Box} (kept : other ∈ boxes.filter (· ≠ box)) :
      other ∈ boxes ∧ other ≠ box := by
    simpa using List.mem_filter.mp kept
  have inside {piece : Box} (isPiece : piece ∈ pieces) :
      ∀ position ∈ piece, position ∈ box :=
    fun position inPiece =>
      (division.covered_iff position).mp ⟨piece, isPiece, inPiece⟩
  have tiles : Tiles (pieces ++ boxes.filter (· ≠ box)) := by
    refine division.tiles.append ⟨fun other kept => ?_, ?_⟩
      fun position inPieces inOthers => ?_
    · exact canonical.tiles.occupied other (isOther kept).1
    · exact canonical.tiles.apart.filter _
    · obtain ⟨other, kept, inOther⟩ := inOthers
      exact (isOther kept).2 (canonical.tiles.eq_of_common (isOther kept).1
        isBox inOther ((division.covered_iff position).mp inPieces))
  have unmergeable : Box.Unmergeable (pieces ++ boxes.filter (· ≠ box)) := by
    refine List.pairwise_append.mpr
      ⟨division.separate, ?_, fun piece isPiece other kept => ?_⟩
    · exact List.pairwise_of_forall_mem_list fun left isLeft right isRight =>
        canonical.apart left (isOther isLeft).1 right (isOther isRight).1
    · obtain ⟨isKept, different⟩ := isOther kept
      refine Box.merge?_eq_none_of_not_touches
        (division.tiles.occupied piece isPiece)
        (canonical.tiles.occupied other isKept) fun touches => ?_
      exact separate box isBox other isKept different.symm
        (touches.mono (inside isPiece))
  refine ⟨_, tiles.occupied, fun position => ?_, fun equal => ?_⟩
  · rw [Box.covered_append, division.covered_iff]
    constructor
    · rintro (inBox | ⟨other, kept, inOther⟩)
      · exact ⟨box, isBox, inBox⟩
      · exact ⟨other, (isOther kept).1, inOther⟩
    · rintro ⟨other, isMember, inOther⟩
      by_cases same : other = box
      · exact .inl (same ▸ inOther)
      · exact .inr ⟨other, by simpa [isMember] using same, inOther⟩
  · have order := Box.edited_insertions_perm tiles unmergeable
    rw [equal] at order
    rcases List.mem_append.mp (order.mem_iff.mp isBox) with isPiece | kept
    · exact division.not_mem isPiece
    · exact (isOther kept).2 rfl

private theorem exists_alternative (canonical : Canonical boxes)
    (notRigid : ¬ Rigid boxes) : ∃ others, Alternative boxes others := by
  by_cases separate :
    ∀ left ∈ boxes, ∀ right ∈ boxes, left ≠ right → ¬ left.Touches right
  · have thick : ∃ box ∈ boxes, ¬ box.Slender := by
      by_contra none
      push Not at none
      exact notRigid ⟨separate, none⟩
    obtain ⟨box, isBox, thick⟩ := thick
    obtain ⟨pieces, division⟩ :=
      Box.exists_division (canonical.tiles.occupied box isBox) thick
    exact exists_alternative_of_division canonical separate isBox division
  · push Not at separate
    obtain ⟨left, isLeft, right, isRight, different, touches⟩ := separate
    exact exists_alternative_of_touches canonical isLeft isRight
      different touches

end Alternatives

namespace BoxSet

/-- Every history that leaves the same elements leaves the same set exactly if
the set is rigid. -/
theorem edited_determined_iff_rigid {edits : List Edit}
    (fits : ∀ edit ∈ edits, edit.box.Representable) :
    (∀ others : List Edit, (∀ edit ∈ others, edit.box.Representable) →
      (∀ position, position ∈ edited others ↔ position ∈ edited edits) →
        edited others = edited edits) ↔ Rigid (edited edits).boxes := by
  have canonical := canonical_edited edits
  constructor
  · intro determined
    by_contra notRigid
    obtain ⟨boxes, alternative⟩ := exists_alternative canonical notRigid
    have small := representable_of_covered (representable_edited fits)
      alternative.occupied alternative.covered_iff
    apply alternative.differs
    refine congrArg BoxSet.boxes
      (determined (insertions boxes) (fun edit isEdit => ?_) ?_)
    · obtain ⟨box, isBox, rfl⟩ := List.mem_map.mp isEdit
      exact small box isBox
    · exact fun position =>
        mem_edited_insertions_iff.trans (alternative.covered_iff position)
  · intro rigid others _ same
    have equal := rigid.eq_of_covered canonical (canonical_edited others) same
    cases left : edited others
    cases right : edited edits
    rw [left, right] at equal
    exact congrArg BoxSet.mk equal

/-- Two separate boxes, of which the first was made in two parts. -/
def separateBoxes : List Edit :=
  insertions
    [⟨⟨0, 0, 0⟩, ⟨1, 2, 1⟩⟩, ⟨⟨4, 0, 0⟩, ⟨1, 1, 3⟩⟩, ⟨⟨1, 0, 0⟩, ⟨2, 2, 1⟩⟩]

theorem separateBoxes_determined :
    (∀ edit ∈ separateBoxes, edit.box.Representable) ∧
    ∀ others : List Edit, (∀ edit ∈ others, edit.box.Representable) →
      (∀ position, position ∈ edited others ↔ position ∈ edited separateBoxes) →
      edited others = edited separateBoxes := by
  have fits : ∀ edit ∈ separateBoxes, edit.box.Representable := by decide
  have boxes : (edited separateBoxes).boxes =
      [⟨⟨0, 0, 0⟩, ⟨3, 2, 1⟩⟩, ⟨⟨4, 0, 0⟩, ⟨1, 1, 3⟩⟩] := by decide
  have gap : ¬ (⟨⟨0, 0, 0⟩, ⟨3, 2, 1⟩⟩ : Box).Touches ⟨⟨4, 0, 0⟩, ⟨1, 1, 3⟩⟩ :=
    Box.not_touches_of_gap
      (show Triple.get ⟨3, 2, 1⟩ .x < Triple.get ⟨4, 0, 0⟩ .x by decide)
  refine ⟨fits, (edited_determined_iff_rigid fits).mpr ?_⟩
  rw [boxes]
  constructor
  case slender =>
    simp only [List.forall_mem_cons]
    exact ⟨⟨.z, .y, by decide⟩, ⟨.x, .y, by decide⟩,
      fun _ absent => absurd absent List.not_mem_nil⟩
  case separate =>
    simp only [List.mem_cons, List.not_mem_nil, or_false]
    rintro left (rfl | rfl) right (rfl | rfl) different
    · exact absurd rfl different
    · exact gap
    · exact fun touches => gap touches.symm
    · exact absurd rfl different

/-- Three elements around a corner: the middle one is put together with one
neighbour or the other. -/
theorem not_determined_by_elements :
    ¬ ∀ edits others : List Edit, (∀ edit ∈ edits, edit.box.Representable) →
      (∀ edit ∈ others, edit.box.Representable) →
        (∀ position, position ∈ edited others ↔ position ∈ edited edits) →
          edited others = edited edits := by
  intro every
  have equal :=
    every (insertions [⟨⟨0, 0, 0⟩, ⟨2, 1, 1⟩⟩, ⟨⟨0, 1, 0⟩, ⟨1, 1, 1⟩⟩])
      (insertions [⟨⟨0, 0, 0⟩, ⟨1, 2, 1⟩⟩, ⟨⟨1, 0, 0⟩, ⟨1, 1, 1⟩⟩]) (by decide)
      (by decide) fun position => by
      rw [mem_edited_insertions_iff, mem_edited_insertions_iff]
      simp only [Box.covered_cons, Box.covered_nil, or_false, Box.mem_iff,
        Axis.frame_xyz.forall_iff, Box.Spans, Triple.get]
      omega
  revert equal
  decide

end BoxSet

end CoherentTasks.Geometry
