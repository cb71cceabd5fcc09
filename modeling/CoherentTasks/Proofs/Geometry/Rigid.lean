import CoherentTasks.Proofs.Geometry.History

/-!
# Rigid sets of boxes

Two canonical tilings of the same elements need not be equal: merging is done
pair by pair, and it stops at tilings that cannot be merged further, of which
there may be several. A canonical tiling is the only one of its elements if no
two of its boxes touch and each of them is slender, that is one element thick
along one axis and at most two elements along another.
-/

namespace CoherentTasks.Geometry

/-- The three axes, in some order. -/
structure Axis.Frame (first second third : Axis) : Prop where
  every : ∀ axis, axis = first ∨ axis = second ∨ axis = third
  first_ne_second : first ≠ second
  first_ne_third : first ≠ third
  second_ne_third : second ≠ third

theorem Axis.frame_xyz : Frame .x .y .z where
  every axis := by cases axis <;> simp
  first_ne_second := by decide
  first_ne_third := by decide
  second_ne_third := by decide

theorem Axis.exists_frame {first second : Axis} (different : first ≠ second) :
    ∃ third, Frame first second third := by
  have frame (third : Axis) (notFirst : first ≠ third)
      (notSecond : second ≠ third) : ∃ third, Frame first second third := by
    refine ⟨third, fun axis => ?_, different, notFirst, notSecond⟩
    cases axis <;> cases first <;> cases second <;> cases third <;> simp_all
  cases first <;> cases second <;>
    first
    | exact absurd rfl different
    | exact frame .x (by decide) (by decide)
    | exact frame .y (by decide) (by decide)
    | exact frame .z (by decide) (by decide)

namespace Triple

theorem ext_get {left right : Triple}
    (same : ∀ axis, left.get axis = right.get axis) : left = right := by
  obtain ⟨lx, ly, lz⟩ := left
  obtain ⟨rx, ry, rz⟩ := right
  have alongX := same .x
  have alongY := same .y
  have alongZ := same .z
  simp only [get] at alongX alongY alongZ
  rw [alongX, alongY, alongZ]

theorem set_get (triple : Triple) (axis : Axis) :
    triple.set axis (triple.get axis) = triple := by
  cases axis <;> rfl

theorem eq_set_iff {position other : Triple} {axis : Axis} {number : Nat} :
    other = position.set axis number ↔ other.get axis = number ∧
      ∀ along, along ≠ axis → other.get along = position.get along := by
  constructor
  · rintro rfl
    exact ⟨get_set_self _ _ _,
      fun along different => get_set_other _ _ different⟩
  · rintro ⟨here, elsewhere⟩
    refine ext_get fun along => ?_
    by_cases isAxis : along = axis
    · rw [isAxis, get_set_self, here]
    · rw [get_set_other _ _ isAxis, elsewhere along isAxis]

/-- The position behind this one along an axis. -/
def next (position : Triple) (axis : Axis) : Triple :=
  position.set axis (position.get axis + 1)

def sum (position : Triple) : Nat :=
  position.x + position.y + position.z

private theorem sum_set (position : Triple) (axis : Axis) (number : Nat) :
    (position.set axis number).sum + position.get axis =
      position.sum + number := by
  cases axis <;> simp only [sum, set, get] <;> omega

end Triple

namespace Box

/-- An element of one box lies next to an element of the other. -/
def Touches (left right : Box) : Prop :=
  ∃ position axis, (position ∈ left ∧ position.next axis ∈ right) ∨
    (position ∈ right ∧ position.next axis ∈ left)

theorem Touches.symm {left right : Box} (touches : left.Touches right) :
    right.Touches left := by
  obtain ⟨position, axis, either⟩ := touches
  exact ⟨position, axis, either.symm⟩

/-- Boxes with a gap between them do not touch. -/
theorem not_touches_of_gap {left right : Box} {axis : Axis}
    (gap : left.upper.get axis < right.offset.get axis) :
    ¬ left.Touches right := by
  intro touches
  obtain ⟨position, along, either⟩ := touches
  have step : position.get axis ≤ (position.next along).get axis ∧
      (position.next along).get axis ≤ position.get axis + 1 := by
    by_cases same : axis = along
    · subst same
      simp [Triple.next, Triple.get_set_self]
    · simp [Triple.next, Triple.get_set_other _ _ same]
  rw [upper_get] at gap
  rcases either with ⟨here, there⟩ | ⟨here, there⟩
  · have before := mem_iff.mp here axis
    have behind := mem_iff.mp there axis
    simp only [Spans] at before behind
    omega
  · have behind := mem_iff.mp here axis
    have before := mem_iff.mp there axis
    simp only [Spans] at before behind
    omega

/-- One element thick along one axis, and at most two elements along another. -/
def Slender (box : Box) : Prop :=
  ∃ thin flat, thin ≠ flat ∧ box.extent.get thin = 1 ∧ box.extent.get flat ≤ 2

/-- No two of the boxes touch, and each of them is slender. -/
structure Rigid (boxes : List Box) : Prop where
  separate :
    ∀ left ∈ boxes, ∀ right ∈ boxes, left ≠ right → ¬ left.Touches right
  slender : ∀ box ∈ boxes, box.Slender

theorem mem_set_iff {box : Box} {axis : Axis} {number : Nat}
    {position : Triple} :
    position.set axis number ∈ box ↔ (box.offset.get axis ≤ number ∧
      number < box.offset.get axis + box.extent.get axis) ∧
      ∀ other, other ≠ axis → box.Spans other position := by
  rw [mem_iff_split axis]
  simp only [Spans, Triple.get_set_self]
  refine and_congr_right
    fun _ => forall_congr' fun other => imp_congr_right fun different => ?_
  rw [Triple.get_set_other _ _ different]

theorem offset_le_of_mem {box : Box} {position : Triple}
    (inside : position ∈ box) (axis : Axis) :
    box.offset.get axis ≤ position.get axis :=
  (mem_iff.mp inside axis).1

/-- A box lies inside another one if all its elements do. -/
theorem within_of_forall_mem {inner outer : Box}
    (occupied : inner.isEmpty = false)
    (inside : ∀ position ∈ inner, position ∈ outer) : inner.Within outer := by
  intro axis
  have positive := isEmpty_eq_false_iff.mp occupied
  have first := mem_iff.mp (inside _ (offset_mem occupied)) axis
  have here := positive axis
  have isLast :
      inner.offset.set axis
          (inner.offset.get axis + (inner.extent.get axis - 1)) ∈ inner :=
    mem_set_iff.mpr
      ⟨by omega, fun other _ => mem_iff.mp (offset_mem occupied) other⟩
  have last := (mem_set_iff.mp (inside _ isLast)).1
  simp only [Spans, upper_get] at first last ⊢
  omega

/-- A box that has elements of boxes that do not touch lies inside one of them:
from its first element, every other one is reached by steps along the axes. -/
theorem Rigid.within {boxes : List Box} (rigid : Rigid boxes) {tile box : Box}
    (occupied : tile.isEmpty = false)
    (covered : ∀ position ∈ tile, Covered boxes position) (isBox : box ∈ boxes)
    (start : tile.offset ∈ box) : tile.Within box := by
  refine within_of_forall_mem occupied fun position inside => ?_
  induction steps : position.sum
    using Nat.strong_induction_on generalizing position with
  | h steps induction =>
      by_cases first : ∀ axis, position.get axis ≤ tile.offset.get axis
      · have same : position = tile.offset := Triple.ext_get fun axis =>
          Nat.le_antisymm (first axis) (offset_le_of_mem inside axis)
        exact same ▸ start
      · push Not at first
        obtain ⟨axis, later⟩ := first
        have sum := position.sum_set axis (position.get axis - 1)
        have here := mem_iff.mp inside axis
        simp only [Spans] at here
        have previous : position.set axis (position.get axis - 1) ∈ tile :=
          mem_set_iff.mpr ⟨by omega, fun other _ => mem_iff.mp inside other⟩
        have reached := induction _ (by omega) _ previous rfl
        have next :
            position =
              (position.set axis (position.get axis - 1)).next axis := by
          refine Triple.eq_set_iff.mpr ⟨?_, fun other different => ?_⟩
          · rw [Triple.get_set_self]
            omega
          · rw [Triple.get_set_other _ _ different]
        obtain ⟨other, isOther, inOther⟩ := covered position inside
        by_contra outside
        have different : box ≠ other := fun same => outside (same ▸ inOther)
        exact rigid.separate box isBox other isOther different
          ⟨_, axis, .inl ⟨reached, next ▸ inOther⟩⟩

/-- Among the boxes are tiles that have all the elements of the box and no
others. -/
structure Fills (boxes : List Box) (box : Box) : Prop where
  reaches : ∀ position ∈ box, Covered boxes position
  within : ∀ tile ∈ boxes, ∀ position ∈ tile, position ∈ box → tile.Within box

/-- The box is thin along the first axis, nearly so along the second, and of any
length along the third. -/
structure Strip (box : Box) (thin flat long : Axis) : Prop where
  axes : Axis.Frame thin flat long
  thin : box.extent.get thin = 1
  flat : box.extent.get flat ≤ 2

theorem Slender.exists_strip {box : Box} (slender : box.Slender) :
    ∃ thin flat long, box.Strip thin flat long := by
  obtain ⟨thin, flat, different, isThin, isFlat⟩ := slender
  obtain ⟨long, axes⟩ := Axis.exists_frame different
  exact ⟨thin, flat, long, axes, isThin, isFlat⟩

end Box

open Box (Fills Strip)

namespace BoxSet.Canonical

variable {boxes : List Box} {box tile next : Box} {thin flat long : Axis}

/-- The box that has the position just behind a tile has another shape than the
tile. -/
private theorem not_continued (canonical : Canonical boxes)
    (isTile : tile ∈ boxes) (isNext : next ∈ boxes) {axis : Axis}
    (behind : tile.offset.set axis (tile.upper.get axis) ∈ next)
    (agree : ∀ other,
      other ≠ axis → tile.offset.get other = next.offset.get other ∧
        tile.extent.get other = next.extent.get other) : False := by
  have positive :=
    Box.isEmpty_eq_false_iff.mp (canonical.tiles.occupied tile isTile) axis
  obtain ⟨along, elsewhere⟩ := Box.mem_set_iff.mp behind
  have adjacent := canonical.not_adjacent isTile isNext agree
  rw [Box.upper_get] at along adjacent
  -- The box before that position would lie in both.
  have inNext :
      tile.offset.set axis (tile.offset.get axis + (tile.extent.get axis - 1)) ∈
        next :=
    Box.mem_set_iff.mpr ⟨by omega, elsewhere⟩
  have inTile :
      tile.offset.set axis (tile.offset.get axis + (tile.extent.get axis - 1)) ∈
        tile :=
    Box.mem_set_iff.mpr ⟨by omega, fun other _ => Box.mem_iff.mp
      (Box.offset_mem (canonical.tiles.occupied tile isTile)) other⟩
  have same := canonical.tiles.eq_of_common isTile isNext inTile inNext
  subst same
  omega

end BoxSet.Canonical

open BoxSet (Canonical)

/-- A canonical tiling of a strip, among other boxes. -/
structure TilesStrip (boxes : List Box) (box : Box) (thin flat long : Axis) :
    Prop where
  canonical : Canonical boxes
  fills : Fills boxes box
  strip : box.Strip thin flat long

namespace TilesStrip

variable {boxes : List Box} {box tile other : Box} {thin flat long : Axis}
  {position : Triple}

/-- A tile of the strip that does not reach from one side to the other along the
flat axis. -/
structure Half (boxes : List Box) (box : Box) (flat : Axis) (tile : Box) :
    Prop where
  isTile : tile ∈ boxes
  within : tile.Within box
  narrow : tile.extent.get flat < box.extent.get flat

private theorem exists_tile (tiles : TilesStrip boxes box thin flat long)
    (inside : position ∈ box) :
    ∃ tile ∈ boxes, tile.Within box ∧ position ∈ tile := by
  obtain ⟨tile, isTile, inTile⟩ := tiles.fills.reaches position inside
  exact ⟨tile, isTile,
    tiles.fills.within tile isTile position inTile inside, inTile⟩

/-- Behind a tile that ends before the strip does there is another one. -/
private theorem exists_next (tiles : TilesStrip boxes box thin flat long)
    (isTile : tile ∈ boxes) (within : tile.Within box)
    (short : tile.upper.get long < box.upper.get long) :
    ∃ next ∈ boxes,
      next.Within box ∧ tile.offset.set long (tile.upper.get long) ∈ next := by
  have inBox :=
    within.mem (Box.offset_mem (tiles.canonical.tiles.occupied tile isTile))
  have starts := (within long).1
  apply tiles.exists_tile
  simp only [Box.upper_get] at short ⊢
  exact Box.mem_set_iff.mpr ⟨by omega, fun axis _ => Box.mem_iff.mp inBox axis⟩

/-- Along the thin axis every tile is as thick as the strip. -/
private theorem agree_thin (tiles : TilesStrip boxes box thin flat long)
    (isTile : tile ∈ boxes) (within : tile.Within box) :
    tile.offset.get thin = box.offset.get thin ∧ tile.extent.get thin = 1 := by
  have positive :=
    Box.isEmpty_eq_false_iff.mp
      (tiles.canonical.tiles.occupied tile isTile) thin
  have ends := within thin
  have isThin := tiles.strip.thin
  simp only [Box.upper_get] at ends
  omega

/-- A half tile has one of the two rows of the strip. -/
theorem Half.row (tiles : TilesStrip boxes box thin flat long)
    (half : Half boxes box flat tile) :
    tile.extent.get flat = 1 ∧ box.extent.get flat = 2 := by
  have positive :=
    Box.isEmpty_eq_false_iff.mp
      (tiles.canonical.tiles.occupied tile half.isTile) flat
  have narrow := half.narrow
  have isFlat := tiles.strip.flat
  omega

/-- A tile that is not a half one has, with an element, the one beside it in
each row. -/
private theorem mem_beside (within : tile.Within box)
    (full : ¬ tile.extent.get flat < box.extent.get flat)
    (inTile : position ∈ tile) {row : Nat}
    (isRow : box.offset.get flat ≤ row ∧
      row < box.offset.get flat + box.extent.get flat) :
    position.set flat row ∈ tile := by
  have ends := within flat
  simp only [Box.upper_get] at ends
  exact Box.mem_set_iff.mpr
    ⟨by omega, fun other _ => Box.mem_iff.mp inTile other⟩

/-- Beside each element of a half tile, every row has a half tile of its own. -/
theorem Half.exists_beside (tiles : TilesStrip boxes box thin flat long)
    (half : Half boxes box flat tile) (inTile : position ∈ tile) {row : Nat}
    (isRow : box.offset.get flat ≤ row ∧
      row < box.offset.get flat + box.extent.get flat) :
    ∃ other, Half boxes box flat other ∧ other.offset.get flat = row ∧
      position.set flat row ∈ other := by
  have inBox := half.within.mem inTile
  have beside : position.set flat row ∈ box :=
    Box.mem_set_iff.mpr ⟨isRow, fun axis _ => Box.mem_iff.mp inBox axis⟩
  obtain ⟨other, isOther, within, inOther⟩ := tiles.exists_tile beside
  have narrow : other.extent.get flat < box.extent.get flat := by
    by_contra full
    -- The other tile would have the element itself.
    have back := mem_beside within full inOther (Box.mem_iff.mp inBox flat)
    have same :
        position = (position.set flat row).set flat (position.get flat) :=
      Triple.eq_set_iff.mpr
        ⟨rfl, fun axis notFlat => (Triple.get_set_other _ _ notFlat).symm⟩
    rw [← same] at back
    have equal :=
      tiles.canonical.tiles.eq_of_common half.isTile isOther inTile back
    exact full (equal ▸ half.narrow)
  have isHalf : Half boxes box flat other := ⟨isOther, within, narrow⟩
  have oneRow := (Half.row tiles isHalf).1
  have along := (Box.mem_set_iff.mp inOther).1
  exact ⟨other, isHalf, by omega, inOther⟩

/-- Of two half tiles that start side by side, neither is shorter: the next tile
in the row of the shorter one would merge with it. -/
theorem Half.not_shorter (tiles : TilesStrip boxes box thin flat long)
    (half : Half boxes box flat tile) (beside : Half boxes box flat other)
    (rows : tile.offset.get flat ≠ other.offset.get flat)
    (start : tile.offset.get long = other.offset.get long) :
    ¬ tile.extent.get long < other.extent.get long := by
  intro shorter
  have otherEnds := (beside.within long).2
  simp only [Box.upper_get] at otherEnds
  obtain ⟨next, isNext, within, inNext⟩ :=
    tiles.exists_next half.isTile half.within (by
    simp only [Box.upper_get]
    omega)
  obtain ⟨_, elsewhere⟩ := Box.mem_set_iff.mp inNext
  obtain ⟨tileThin, tileThick⟩ := tiles.agree_thin half.isTile half.within
  by_cases narrow : next.extent.get flat < box.extent.get flat
  · refine tiles.canonical.not_continued half.isTile isNext inNext
      fun axis notLong => ?_
    rcases tiles.strip.axes.every axis with rfl | rfl | rfl
    · obtain ⟨nextThin, nextThick⟩ := tiles.agree_thin isNext within
      omega
    · have row := Half.row tiles half
      have nextRow := Half.row tiles ⟨isNext, within, narrow⟩
      have here := elsewhere _ tiles.strip.axes.second_ne_third
      simp only [Box.Spans] at here
      omega
    · exact absurd rfl notLong
  · -- A tile of both rows would have an element of the longer half tile.
    have otherRow := beside.within flat
    have positive :=
      Box.isEmpty_eq_false_iff.mp
        (tiles.canonical.tiles.occupied other beside.isTile) flat
    simp only [Box.upper_get] at otherRow
    have rowOfOther :
        box.offset.get flat ≤ other.offset.get flat ∧
        other.offset.get flat < box.offset.get flat + box.extent.get flat := by
      omega
    have inBoth := mem_beside within narrow inNext rowOfOther
    have inOther :
        (tile.offset.set long (tile.upper.get long)).set flat
            (other.offset.get flat) ∈ other := by
      refine Box.mem_set_iff.mpr ⟨by omega, fun axis notFlat => ?_⟩
      rcases tiles.strip.axes.every axis with rfl | rfl | rfl
      · obtain ⟨otherThin, otherThick⟩ :=
          tiles.agree_thin beside.isTile beside.within
        simp only [Box.Spans,
          Triple.get_set_other _ _ tiles.strip.axes.first_ne_third]
        omega
      · exact absurd rfl notFlat
      · simp only [Box.Spans, Triple.get_set_self, Box.upper_get]
        omega
    have same :=
      tiles.canonical.tiles.eq_of_common isNext beside.isTile inBoth inOther
    exact narrow (same ▸ beside.narrow)

/-- The strip has no half tiles: the first one, and the one beside its first
element, could be merged. -/
private theorem not_half (tiles : TilesStrip boxes box thin flat long)
    (half : Half boxes box flat tile) : False := by
  induction start : tile.offset.get long
    using Nat.strong_induction_on generalizing tile with
  | h start induction =>
      have inTile :=
        Box.offset_mem (tiles.canonical.tiles.occupied tile half.isTile)
      obtain ⟨oneRow, twoRows⟩ := Half.row tiles half
      have rows := half.within flat
      simp only [Box.upper_get] at rows
      obtain ⟨row, isRow, different⟩ :
          ∃ row, (box.offset.get flat ≤ row ∧
            row < box.offset.get flat + box.extent.get flat) ∧
            row ≠ tile.offset.get flat := by
        by_cases first : tile.offset.get flat = box.offset.get flat
        · exact ⟨box.offset.get flat + 1, by omega, by omega⟩
        · exact ⟨box.offset.get flat, by omega, by omega⟩
      obtain ⟨other, beside, inRow, inOther⟩ :=
        half.exists_beside tiles inTile isRow
      have otherRow := (Half.row tiles beside).1
      have along :=
        (Box.mem_set_iff.mp inOther).2 long
          tiles.strip.axes.second_ne_third.symm
      simp only [Box.Spans] at along
      have starts : tile.offset.get long = other.offset.get long := by
        by_contra earlier
        exact induction _ (by omega) beside rfl
      have notShorter := half.not_shorter tiles beside (by omega) starts
      have notLonger := beside.not_shorter tiles half (by omega) starts.symm
      have agree (axis : Axis) (notFlat : axis ≠ flat) :
          tile.offset.get axis = other.offset.get axis ∧
            tile.extent.get axis = other.extent.get axis := by
        rcases tiles.strip.axes.every axis with rfl | rfl | rfl
        · have tileThin := tiles.agree_thin half.isTile half.within
          have otherThin := tiles.agree_thin beside.isTile beside.within
          omega
        · exact absurd rfl notFlat
        · omega
      have above := tiles.canonical.not_adjacent half.isTile beside.isTile agree
      have below :=
        tiles.canonical.not_adjacent beside.isTile half.isTile
          fun axis notFlat =>
        ⟨(agree axis notFlat).1.symm, (agree axis notFlat).2.symm⟩
      simp only [Box.upper_get] at above below
      omega

/-- So along the flat axis every tile is as thick as the strip, too. -/
private theorem agree_flat (tiles : TilesStrip boxes box thin flat long)
    (isTile : tile ∈ boxes) (within : tile.Within box) :
    tile.offset.get flat = box.offset.get flat ∧
    tile.extent.get flat = box.extent.get flat := by
  have full : ¬ tile.extent.get flat < box.extent.get flat := fun narrow =>
    tiles.not_half ⟨isTile, within, narrow⟩
  have ends := within flat
  simp only [Box.upper_get] at ends
  omega

/-- No tile ends before the strip does: it could be merged with the one behind
it. -/
private theorem upper_long_le (tiles : TilesStrip boxes box thin flat long)
    (isTile : tile ∈ boxes) (within : tile.Within box) :
    box.upper.get long ≤ tile.upper.get long := by
  by_contra short
  obtain ⟨next, isNext, nextWithin, inNext⟩ :=
    tiles.exists_next isTile within (Nat.lt_of_not_le short)
  refine tiles.canonical.not_continued isTile isNext inNext
    fun axis notLong => ?_
  rcases tiles.strip.axes.every axis with rfl | rfl | rfl
  · have tileThin := tiles.agree_thin isTile within
    have nextThin := tiles.agree_thin isNext nextWithin
    omega
  · have tileFlat := tiles.agree_flat isTile within
    have nextFlat := tiles.agree_flat isNext nextWithin
    omega
  · exact absurd rfl notLong

/-- The only canonical tiling of a strip is the strip itself. -/
theorem mem (tiles : TilesStrip boxes box thin flat long)
    (occupied : box.isEmpty = false) : box ∈ boxes := by
  obtain ⟨tile, isTile, within, inTile⟩ :=
    tiles.exists_tile (Box.offset_mem occupied)
  have starts (axis : Axis) : tile.offset.get axis = box.offset.get axis :=
    Nat.le_antisymm (Box.offset_le_of_mem inTile axis) (within axis).1
  have same : tile = box := by
    have extents (axis : Axis) :
        tile.extent.get axis = box.extent.get axis := by
      rcases tiles.strip.axes.every axis with rfl | rfl | rfl
      · rw [(tiles.agree_thin isTile within).2, tiles.strip.thin]
      · exact (tiles.agree_flat isTile within).2
      · have startsHere := starts axis
        have ends := (within axis).2
        have reaches := tiles.upper_long_le isTile within
        simp only [Box.upper_get] at ends reaches
        omega
    have offset := Triple.ext_get starts
    have extent := Triple.ext_get extents
    obtain ⟨tileOffset, tileExtent⟩ := tile
    simp only at offset extent
    rw [offset, extent]
  exact same ▸ isTile

end TilesStrip

/-- A rigid tiling is the only canonical one of its elements. -/
theorem Box.Rigid.eq_of_covered {rigid boxes : List Box} (isRigid : Rigid rigid)
    (canonicalRigid : Canonical rigid) (canonical : Canonical boxes)
    (same : ∀ position, Covered boxes position ↔ Covered rigid position) :
    boxes = rigid := by
  have fills {box : Box} (isBox : box ∈ rigid) : Fills boxes box := by
    constructor
    case reaches =>
      exact fun position inside => (same position).mpr ⟨box, isBox, inside⟩
    case within =>
      intro tile isTile position inTile inBox
      have occupied := canonical.tiles.occupied tile isTile
      have covered : ∀ position ∈ tile, Covered rigid position :=
        fun position inside =>
        (same position).mp ⟨tile, isTile, inside⟩
      obtain ⟨first, isFirst, start⟩ := covered _ (offset_mem occupied)
      have within := isRigid.within occupied covered isFirst start
      have equal := canonicalRigid.tiles.eq_of_common isFirst isBox
        (within.mem inTile) inBox
      exact equal ▸ within
  have kept {box : Box} (isBox : box ∈ rigid) : box ∈ boxes := by
    obtain ⟨thin, flat, long, strip⟩ := (isRigid.slender box isBox).exists_strip
    exact TilesStrip.mem ⟨canonical, fills isBox, strip⟩
      (canonicalRigid.tiles.occupied box isBox)
  have members (box : Box) : box ∈ boxes ↔ box ∈ rigid := by
    refine ⟨fun isTile => ?_, kept⟩
    have start := offset_mem (canonical.tiles.occupied box isTile)
    obtain ⟨other, isOther, inOther⟩ :=
      (same box.offset).mp ⟨box, isTile, start⟩
    have equal :=
      canonical.tiles.eq_of_common isTile (kept isOther) start inOther
    exact equal ▸ isOther
  have order :=
    (List.perm_ext_iff_of_nodup canonical.nodup canonicalRigid.nodup).mpr
      members
  refine order.eq_of_pairwise (fun left right _ _ less greater => ?_)
    canonical.sorted canonicalRigid.sorted
  exact absurd greater (List.lt_asymm less)

end CoherentTasks.Geometry
