import CoherentTasks.Geometry.Box
import Mathlib.Tactic.Ring

/-!
# Elements of boxes

What the operations on boxes do to the elements that a box has, and to its
count.
-/

namespace CoherentTasks.Geometry

namespace Triple

@[simp]
theorem get_zipWith (combine : Nat → Nat → Nat) (left right : Triple)
    (axis : Axis) :
    (left.zipWith combine right).get axis =
      combine (left.get axis) (right.get axis) := by
  cases axis <;> rfl

theorem get_set_self (triple : Triple) (axis : Axis) (number : Nat) :
    (triple.set axis number).get axis = number := by
  cases axis <;> rfl

theorem get_set_other (triple : Triple) {axis other : Axis} (number : Nat)
    (different : other ≠ axis) :
    (triple.set axis number).get other = triple.get other := by
  cases axis <;> cases other <;> first | rfl | exact absurd rfl different

end Triple

theorem Axis.mem_all (axis : Axis) : axis ∈ Axis.all := by
  cases axis <;> simp [Axis.all]

namespace Box

@[simp]
theorem upper_get (box : Box) (axis : Axis) :
    box.upper.get axis = box.offset.get axis + box.extent.get axis := by
  simp [upper]

/-- The position lies between the ends of the box along one axis. -/
def Spans (box : Box) (axis : Axis) (position : Triple) : Prop :=
  box.offset.get axis ≤ position.get axis ∧
    position.get axis < box.offset.get axis + box.extent.get axis

theorem mem_iff {box : Box} {position : Triple} :
    position ∈ box ↔ ∀ axis, box.Spans axis position := by
  simp only [Spans, ← upper_get]
  exact Iff.rfl

instance (box : Box) (position : Triple) : Decidable (position ∈ box) :=
  decidable_of_iff (∀ axis ∈ Axis.all, box.offset.get axis ≤ position.get axis ∧
    position.get axis < box.upper.get axis)
    ⟨fun within axis => within axis axis.mem_all,
      fun within axis _ => within axis⟩

instance (box : Box) : Decidable box.Representable :=
  decidable_of_iff (∀ axis ∈ Axis.all, box.upper.get axis < coordinateLimit)
    ⟨fun small axis => small axis axis.mem_all, fun small axis _ => small axis⟩

/-- A box inside another, along every axis. -/
def Within (inner outer : Box) : Prop :=
  ∀ axis, outer.offset.get axis ≤ inner.offset.get axis ∧
    inner.upper.get axis ≤ outer.upper.get axis

theorem isEmpty_iff {box : Box} :
    box.isEmpty = true ↔ ∃ axis, box.extent.get axis = 0 := by
  constructor
  · intro empty
    simp only [isEmpty, Bool.or_eq_true, beq_iff_eq] at empty
    rcases empty with (first | second) | third
    · exact ⟨.x, first⟩
    · exact ⟨.y, second⟩
    · exact ⟨.z, third⟩
  · intro flat
    obtain ⟨axis, zero⟩ := flat
    cases axis <;> simp_all [isEmpty, Triple.get]

theorem not_mem_of_isEmpty {box : Box} (empty : box.isEmpty = true)
    (position : Triple) : position ∉ box := by
  intro member
  obtain ⟨axis, zero⟩ := isEmpty_iff.mp empty
  have span := mem_iff.mp member axis
  simp only [Spans] at span
  omega

theorem count_pos_of_mem {box : Box} {position : Triple}
    (member : position ∈ box) : 0 < box.count := by
  have positive (axis : Axis) : 0 < box.extent.get axis := by
    have span := mem_iff.mp member axis
    simp only [Spans] at span
    omega
  exact Nat.mul_pos (Nat.mul_pos (positive .x) (positive .y)) (positive .z)

/-- A box that lies inside another one lies inside itself: it is empty, or its
end is representable. -/
theorem contains_self {outer box : Box} (inside : outer.contains box = true) :
    box.contains box = true := by
  simp only [contains, Bool.or_eq_true] at *
  rcases inside with empty | nested
  · exact .inl empty
  · right
    cases ended : box.checkedUpper? with
    | none => cases outer.checkedUpper? <;> simp [ended] at nested
    | some upper => simp

theorem checkedUpper?_eq_some_iff {box : Box} {upper : Triple} :
    box.checkedUpper? = some upper ↔ box.Representable ∧ upper = box.upper := by
  simp only [checkedUpper?]
  split
  · rename_i small
    obtain ⟨first, second, third⟩ := small
    have fits : box.Representable := fun axis => by cases axis <;> assumption
    simp [fits, eq_comm]
  · rename_i large
    have tooLarge : ¬ box.Representable :=
      fun fits => large ⟨fits .x, fits .y, fits .z⟩
    simp [tooLarge]

theorem Within.representable {inner outer : Box} (inside : inner.Within outer)
    (fits : outer.Representable) : inner.Representable := fun axis =>
  Nat.lt_of_le_of_lt (inside axis).2 (fits axis)

/-- A box that lies inside another one and has elements has a representable
end. -/
theorem within_of_contains {outer inner : Box}
    (occupied : inner.isEmpty = false) (inside : outer.contains inner = true) :
    inner.Within outer ∧ inner.Representable := by
  simp only [contains, occupied, Bool.false_or] at inside
  cases outerEnd : outer.checkedUpper? with
  | none => simp [outerEnd] at inside
  | some outerUpper =>
      cases innerEnd : inner.checkedUpper? with
      | none => simp [outerEnd, innerEnd] at inside
      | some innerUpper =>
          simp only [outerEnd, innerEnd, List.all_eq_true, Bool.and_eq_true,
            decide_eq_true_eq] at inside
          obtain ⟨_, rfl⟩ := checkedUpper?_eq_some_iff.mp outerEnd
          obtain ⟨fits, rfl⟩ := checkedUpper?_eq_some_iff.mp innerEnd
          exact ⟨fun axis => inside axis axis.mem_all, fits⟩

theorem Within.mem {inner outer : Box} {position : Triple}
    (inside : inner.Within outer) (member : position ∈ inner) :
    position ∈ outer := fun axis =>
  ⟨(inside axis).1.trans (member axis).1,
    Nat.lt_of_lt_of_le (member axis).2 (inside axis).2⟩

theorem mem_of_contains {outer inner : Box} {position : Triple}
    (inside : outer.contains inner = true) (member : position ∈ inner) :
    position ∈ outer := by
  have occupied : inner.isEmpty = false := by
    by_contra empty
    exact not_mem_of_isEmpty (by simpa using empty) position member
  exact (within_of_contains occupied inside).1.mem member

theorem intersection?_eq_some {left right part : Box}
    (found : left.intersection? right = some part) :
    ∀ axis, part.offset.get axis =
      max (left.offset.get axis) (right.offset.get axis) ∧
      part.upper.get axis = min (left.upper.get axis) (right.upper.get axis) ∧
      0 < part.extent.get axis := by
  simp only [intersection?] at found
  split at found
  · rename_i ordered
    cases found
    obtain ⟨first, second, third⟩ := ordered
    intro axis
    have below : (left.offset.zipWith max right.offset).get axis <
        (left.upper.zipWith min right.upper).get axis := by
      cases axis <;> assumption
    simp only [Triple.get_zipWith, upper_get] at below ⊢
    refine ⟨trivial, ?_, ?_⟩ <;> omega
  · cases found

theorem mem_of_intersection?_eq_some {left right part : Box}
    (found : left.intersection? right = some part) (position : Triple) :
    position ∈ part ↔ position ∈ left ∧ position ∈ right := by
  have ends := intersection?_eq_some found
  simp only [mem_iff, ← forall_and]
  apply forall_congr'
  intro axis
  have here := ends axis
  simp only [Spans, upper_get] at here ⊢
  omega

theorem not_mem_of_intersection?_eq_none {left right : Box}
    (absent : left.intersection? right = none) {position : Triple}
    (member : position ∈ left) : position ∉ right := by
  intro other
  have ordered (axis : Axis) : (left.offset.zipWith max right.offset).get axis <
      (left.upper.zipWith min right.upper).get axis := by
    have here := mem_iff.mp member axis
    have there := mem_iff.mp other axis
    simp only [Spans, Triple.get_zipWith, upper_get] at here there ⊢
    omega
  simp only [intersection?] at absent
  rw [if_pos ⟨ordered .x, ordered .y, ordered .z⟩] at absent
  cases absent

theorem within_of_intersection?_eq_some {left right part : Box}
    (found : left.intersection? right = some part) : part.Within left := by
  intro axis
  have here := intersection?_eq_some found axis
  omega

theorem count_pos_of_intersection?_eq_some {left right part : Box}
    (found : left.intersection? right = some part) : 0 < part.count := by
  have positive (axis : Axis) : 0 < part.extent.get axis :=
    (intersection?_eq_some found axis).2.2
  exact Nat.mul_pos (Nat.mul_pos (positive .x) (positive .y)) (positive .z)

theorem overlaps_iff {left right : Box} :
    left.overlaps right = true ↔
      ∃ position, position ∈ left ∧ position ∈ right := by
  simp only [overlaps]
  constructor
  · intro some
    obtain ⟨part, found⟩ := Option.isSome_iff_exists.mp some
    have inside : part.offset ∈ part := by
      apply mem_iff.mpr
      intro axis
      have here := intersection?_eq_some found axis
      simp only [Spans]
      omega
    exact ⟨part.offset, (mem_of_intersection?_eq_some found _).mp inside⟩
  · intro shared
    obtain ⟨position, here, there⟩ := shared
    cases found : left.intersection? right with
    | none => exact absurd there (not_mem_of_intersection?_eq_none found here)
    | some part => rfl

theorem spans_withSpan_self (box : Box) (axis : Axis) (offset extent : Nat)
    (position : Triple) :
    (box.withSpan axis offset extent).Spans axis position ↔
      offset ≤ position.get axis ∧ position.get axis < offset + extent := by
  simp [Spans, withSpan, Triple.get_set_self]

theorem spans_withSpan_other (box : Box) {axis other : Axis}
    (offset extent : Nat) (position : Triple) (different : other ≠ axis) :
    (box.withSpan axis offset extent).Spans other position ↔
      box.Spans other position := by
  simp [Spans, withSpan, Triple.get_set_other _ _ different]

theorem mem_withSpan {box : Box} {axis : Axis} {offset extent : Nat}
    {position : Triple} :
    position ∈ box.withSpan axis offset extent ↔
      (offset ≤ position.get axis ∧ position.get axis < offset + extent) ∧
      ∀ other, other ≠ axis → box.Spans other position := by
  rw [mem_iff]
  constructor
  · intro spans
    refine ⟨(spans_withSpan_self ..).mp (spans axis), fun other different => ?_⟩
    exact (spans_withSpan_other _ _ _ _ different).mp (spans other)
  · intro spans other
    obtain ⟨here, elsewhere⟩ := spans
    by_cases same : other = axis
    · subst same
      exact (spans_withSpan_self ..).mpr here
    · exact (spans_withSpan_other _ _ _ _ same).mpr (elsewhere other same)

theorem mem_iff_split {box : Box} (axis : Axis) {position : Triple} :
    position ∈ box ↔ box.Spans axis position ∧
      ∀ other, other ≠ axis → box.Spans other position := by
  rw [mem_iff]
  constructor
  · intro spans
    exact ⟨spans axis, fun other _ => spans other⟩
  · intro spans other
    obtain ⟨here, elsewhere⟩ := spans
    by_cases same : other = axis
    · exact same ▸ here
    · exact elsewhere other same

/-- Volumes add up along the axis whose span is divided. -/
theorem count_withSpan_add (box : Box) (axis : Axis)
    (first second third left right : Nat) :
    (box.withSpan axis first (left + right)).count =
      (box.withSpan axis second left).count +
        (box.withSpan axis third right).count := by
  cases axis <;> simp only [count, withSpan, Triple.set] <;> ring

theorem count_withSpan_zero (box : Box) (axis : Axis) (offset : Nat) :
    (box.withSpan axis offset 0).count = 0 := by
  cases axis <;> simp [count, withSpan, Triple.set]

theorem count_withSpan_own (box : Box) (axis : Axis) (offset : Nat) :
    (box.withSpan axis offset (box.extent.get axis)).count = box.count := by
  cases axis <;> rfl

theorem exists_mem_slabs_iff {box part : Box} (inside : part.Within box)
    (axis : Axis) {position : Triple} :
    (∃ piece ∈ box.slabs part axis, position ∈ piece) ↔
      position ∈ box ∧ ¬ part.Spans axis position := by
  have ends := inside axis
  rw [mem_iff_split axis]
  simp only [slabs, List.mem_append, upper_get] at ends ⊢
  constructor
  · intro inPiece
    rcases inPiece with ⟨piece, below | above, member⟩
    · split at below
      · rw [List.mem_singleton.mp below, mem_withSpan] at member
        simp only [Spans] at member ⊢
        exact ⟨⟨by omega, member.2⟩, by omega⟩
      · cases below
    · split at above
      · rw [List.mem_singleton.mp above, mem_withSpan] at member
        simp only [Spans] at member ⊢
        exact ⟨⟨by omega, member.2⟩, by omega⟩
      · cases above
  · intro remains
    obtain ⟨⟨here, elsewhere⟩, outside⟩ := remains
    simp only [Spans] at here outside
    by_cases below : position.get axis < part.offset.get axis
    · refine ⟨box.withSpan axis (box.offset.get axis)
        (part.offset.get axis - box.offset.get axis),
        .inl ?_, mem_withSpan.mpr ⟨?_, elsewhere⟩⟩
      · rw [if_pos (by omega)]
        exact List.mem_singleton_self _
      · omega
    · refine ⟨box.withSpan axis (part.offset.get axis + part.extent.get axis)
        (box.offset.get axis + box.extent.get axis -
          (part.offset.get axis + part.extent.get axis)), .inr ?_,
        mem_withSpan.mpr ⟨?_, elsewhere⟩⟩
      · rw [if_pos (by omega)]
        exact List.mem_singleton_self _
      · omega

theorem mem_narrow {box part : Box} (inside : part.Within box) (axis : Axis)
    {position : Triple} :
    position ∈ box.narrow part axis ↔
      position ∈ box ∧ part.Spans axis position := by
  have ends := inside axis
  rw [narrow, mem_withSpan, mem_iff_split axis]
  simp only [Spans, upper_get] at ends ⊢
  constructor
  · intro inside
    obtain ⟨here, elsewhere⟩ := inside
    exact ⟨⟨by omega, elsewhere⟩, here⟩
  · intro inside
    obtain ⟨⟨_, elsewhere⟩, here⟩ := inside
    exact ⟨here, elsewhere⟩

theorem Within.narrow {box part : Box} (inside : part.Within box)
    (axis : Axis) : part.Within (box.narrow part axis) := by
  intro other
  have ends := inside other
  by_cases same : other = axis
  · subst same
    simp [Box.narrow, withSpan, Triple.get_set_self]
  · simpa [Box.narrow, withSpan, Triple.get_set_other _ _ same] using ends

/-- Peeling leaves the elements that lie outside the part along one of the
axes. -/
theorem exists_mem_peel_iff {box part : Box} (inside : part.Within box)
    (axes : List Axis) {position : Triple} :
    (∃ piece ∈ peel part box axes, position ∈ piece) ↔
      position ∈ box ∧ ∃ axis ∈ axes, ¬ part.Spans axis position := by
  induction axes generalizing box with
  | nil => simp [peel]
  | cons axis axes induction =>
      have rest := induction (inside.narrow axis)
      rw [mem_narrow inside axis] at rest
      simp only [peel, List.mem_append, or_and_right, exists_or]
      rw [rest, exists_mem_slabs_iff inside axis]
      simp only [List.mem_cons, exists_eq_or_imp]
      tauto

theorem exists_mem_subtract_iff {box other : Box} {position : Triple} :
    (∃ piece ∈ box.subtract other, position ∈ piece) ↔
      position ∈ box ∧ position ∉ other := by
  simp only [subtract]
  split
  · rename_i empty
    simp [not_mem_of_isEmpty empty]
  · split
    · rename_i absent
      constructor
      · intro inPiece
        obtain ⟨piece, only, member⟩ := inPiece
        rw [List.mem_singleton.mp only] at member
        exact ⟨member, not_mem_of_intersection?_eq_none absent member⟩
      · intro remains
        obtain ⟨member, _⟩ := remains
        exact ⟨box, List.mem_singleton_self _, member⟩
    · rename_i part found
      rw [exists_mem_peel_iff (within_of_intersection?_eq_some found)]
      apply and_congr_right
      intro member
      have common := mem_of_intersection?_eq_some found position
      rw [mem_iff] at common
      constructor
      · intro apart there
        obtain ⟨axis, _, outside⟩ := apart
        exact outside (common.mpr ⟨member, there⟩ axis)
      · intro outside
        by_contra all
        push Not at all
        exact outside (common.mp fun axis => all axis axis.mem_all).2

theorem count_slabs {box part : Box} (inside : part.Within box) (axis : Axis) :
    ((box.slabs part axis).map count).sum + (box.narrow part axis).count =
      box.count := by
  have ends := inside axis
  simp only [upper_get] at ends
  obtain ⟨below, lower⟩ := Nat.exists_eq_add_of_le ends.1
  obtain ⟨above, upper⟩ := Nat.exists_eq_add_of_le ends.2
  have whole := count_withSpan_own box axis 0
  have extent : box.extent.get axis = below + (part.extent.get axis + above) :=
    by omega
  rw [extent, count_withSpan_add box axis 0 (box.offset.get axis) 0 below,
    count_withSpan_add box axis 0 (part.offset.get axis)
      (part.offset.get axis + part.extent.get axis)] at whole
  have lowSlab : part.offset.get axis - box.offset.get axis = below := by omega
  have highSlab : box.offset.get axis + box.extent.get axis -
      (part.offset.get axis + part.extent.get axis) = above := by omega
  simp only [slabs, upper_get, lowSlab, highSlab, narrow]
  split <;> split <;> simp only [List.map_append, List.map_cons, List.map_nil,
    List.sum_append, List.sum_cons, List.sum_nil]
  · omega
  · have none : above = 0 := by omega
    rw [none, count_withSpan_zero] at whole
    omega
  · have none : below = 0 := by omega
    rw [none, count_withSpan_zero] at whole
    omega
  · have none : above = 0 := by omega
    have noneBelow : below = 0 := by omega
    rw [none, noneBelow, count_withSpan_zero, count_withSpan_zero] at whole
    omega

theorem count_peel {box part : Box} (inside : part.Within box)
    (axes : List Axis) :
    ((peel part box axes).map count).sum +
        (axes.foldl (narrow · part) box).count =
      box.count := by
  induction axes generalizing box with
  | nil => simp [peel]
  | cons axis axes induction =>
      have rest := induction (inside.narrow axis)
      have here := count_slabs inside axis
      simp only [peel, List.map_append, List.sum_append, List.foldl_cons]
      omega

theorem narrow_all (box part : Box) :
    Axis.all.foldl (narrow · part) box = part := rfl

/-- The parts of a box outside another box that meets it are smaller than the
box. -/
theorem count_subtract_lt {box other : Box} {position : Triple}
    (member : position ∈ box) (common : position ∈ other) :
    ((box.subtract other).map count).sum < box.count := by
  simp only [subtract]
  split
  · rename_i empty
    exact absurd member (not_mem_of_isEmpty empty position)
  · split
    · rename_i absent
      exact absurd common (not_mem_of_intersection?_eq_none absent member)
    · rename_i part found
      have total := count_peel (within_of_intersection?_eq_some found) Axis.all
      rw [narrow_all] at total
      have positive := count_pos_of_intersection?_eq_some found
      omega

theorem agreeExcept_iff {left right : Box} {axis : Axis} :
    left.agreeExcept right axis = true ↔ ∀ other, other ≠ axis →
      left.offset.get other = right.offset.get other ∧
        left.extent.get other = right.extent.get other := by
  simp only [agreeExcept, List.all_eq_true, Bool.or_eq_true,
    Bool.and_eq_true, beq_iff_eq]
  constructor
  · intro agreement other different
    exact (agreement other other.mem_all).resolve_left different
  · intro agreement other _
    by_cases same : other = axis
    · exact .inl same
    · exact .inr (agreement other same)

theorem mem_of_mergeAlong?_eq_some {left right merged : Box} {axis : Axis}
    (found : left.mergeAlong? right axis = some merged) (position : Triple) :
    position ∈ merged ↔ position ∈ left ∨ position ∈ right := by
  simp only [mergeAlong?] at found
  split at found
  · rename_i agree
    have agreement := agreeExcept_iff.mp agree
    have elsewhere : (∀ other, other ≠ axis → right.Spans other position) ↔
        ∀ other, other ≠ axis → left.Spans other position := by
      refine forall_congr' fun other => imp_congr_right fun different => ?_
      simp only [Spans, (agreement other different).1,
        (agreement other different).2]
    have ofLeft : position ∈ left ↔ _ := mem_iff_split axis
    have ofRight : position ∈ right ↔ _ := mem_iff_split axis
    rw [ofLeft, ofRight, elsewhere, ← or_and_right]
    simp only [upper_get] at found
    split at found
    · cases found
      rw [mem_withSpan]
      apply and_congr_left
      intro _
      simp only [Spans]
      omega
    · split at found
      · cases found
        rw [mem_withSpan]
        apply and_congr_left
        intro _
        simp only [Spans]
        omega
      · cases found
  · cases found

theorem mem_of_merge?_eq_some {left right merged : Box}
    (found : left.merge? right = some merged) (position : Triple) :
    position ∈ merged ↔ position ∈ left ∨ position ∈ right := by
  obtain ⟨axis, _, along⟩ := List.exists_of_findSome?_eq_some found
  exact mem_of_mergeAlong?_eq_some along position

end Box

end CoherentTasks.Geometry
