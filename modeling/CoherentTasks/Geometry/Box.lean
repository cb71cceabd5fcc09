import CoherentTasks.Word

/-!
# Boxes

Half-open boxes of element coordinates in three dimensions. The operations work
one axis at a time; their results are again boxes or lists of boxes.
-/

namespace CoherentTasks.Geometry

inductive Axis where
  | x
  | y
  | z
  deriving DecidableEq, Repr

/-- Every axis, in the order in which boxes are cut. -/
def Axis.all : List Axis := [.x, .y, .z]

/-- A number for each axis: an element's position, or a count of elements. -/
structure Triple where
  x : Nat
  y : Nat
  z : Nat
  deriving DecidableEq, Repr

namespace Triple

def get (triple : Triple) : Axis → Nat
  | .x => triple.x
  | .y => triple.y
  | .z => triple.z

def set (triple : Triple) (axis : Axis) (number : Nat) : Triple :=
  match axis with
  | .x => { triple with x := number }
  | .y => { triple with y := number }
  | .z => { triple with z := number }

def zipWith (combine : Nat → Nat → Nat) (left right : Triple) : Triple :=
  ⟨combine left.x right.x, combine left.y right.y, combine left.z right.z⟩

def toList (triple : Triple) : List Nat :=
  [triple.x, triple.y, triple.z]

def origin : Triple := ⟨0, 0, 0⟩

end Triple

/-- The elements from `offset` on, `extent` of them along each axis. -/
structure Box where
  offset : Triple
  extent : Triple
  deriving DecidableEq, Repr

namespace Box

def ofExtent (extent : Triple) : Box := ⟨.origin, extent⟩

/-- The first position behind the box, along each axis. -/
def upper (box : Box) : Triple :=
  box.offset.zipWith (· + ·) box.extent

def Has (box : Box) (position : Triple) : Prop :=
  ∀ axis, box.offset.get axis ≤ position.get axis ∧
    position.get axis < box.upper.get axis

instance : Membership Triple Box := ⟨Has⟩

/-- One more than the greatest coordinate that a machine word holds. -/
def coordinateLimit : Nat := Word.limit

/-- Every coordinate of the end of the box is a machine word. -/
def Representable (box : Box) : Prop :=
  ∀ axis, box.upper.get axis < coordinateLimit

/-- The end of the box, if it is representable. -/
def checkedUpper? (box : Box) : Option Triple :=
  if box.upper.x < coordinateLimit ∧ box.upper.y < coordinateLimit ∧
      box.upper.z < coordinateLimit then
    some box.upper
  else none

def isEmpty (box : Box) : Bool :=
  box.extent.x == 0 || box.extent.y == 0 || box.extent.z == 0

/-- The number of elements. -/
def count (box : Box) : Nat :=
  box.extent.x * box.extent.y * box.extent.z

/-- The number of elements as a product of machine words, which wraps around. -/
def volume (box : Box) : Nat :=
  Word.wrap (Word.wrap (box.extent.x * box.extent.y) * box.extent.z)

/-- The common part of two boxes, if it has elements. -/
def intersection? (left right : Box) : Option Box :=
  let low := left.offset.zipWith max right.offset
  let high := left.upper.zipWith min right.upper
  if low.x < high.x ∧ low.y < high.y ∧ low.z < high.z then
    some ⟨low, high.zipWith (· - ·) low⟩
  else none

def overlaps (left right : Box) : Bool :=
  (left.intersection? right).isSome

/-- Whether the second box lies inside the first. An empty box lies everywhere,
and a box whose end is not representable nowhere. -/
def contains (outer inner : Box) : Bool :=
  inner.isEmpty ||
    match outer.checkedUpper?, inner.checkedUpper? with
    | some outerUpper, some innerUpper =>
      Axis.all.all fun axis =>
        outer.offset.get axis ≤ inner.offset.get axis &&
        innerUpper.get axis ≤ outerUpper.get axis
    | _, _ => false

/-- The same box with another span along one axis. -/
def withSpan (box : Box) (axis : Axis) (offset extent : Nat) : Box :=
  ⟨box.offset.set axis offset, box.extent.set axis extent⟩

/-- The slabs of a box below and above a part of it, along one axis. -/
def slabs (box part : Box) (axis : Axis) : List Box :=
  let low := part.offset.get axis
  let high := part.upper.get axis
  (if box.offset.get axis < low
    then [box.withSpan axis (box.offset.get axis) (low - box.offset.get axis)]
    else []) ++
  (if high < box.upper.get axis then
    [box.withSpan axis high (box.upper.get axis - high)] else [])

/-- The box, narrowed to a part of it along one axis. -/
def narrow (box part : Box) (axis : Axis) : Box :=
  box.withSpan axis (part.offset.get axis) (part.extent.get axis)

/-- What lies around a part of a box, cut along each axis of the list in
turn. -/
def peel (part : Box) : Box → List Axis → List Box
  | _, [] => []
  | box, axis :: axes =>
    box.slabs part axis ++ peel part (box.narrow part axis) axes

/-- The first box without the second, as disjoint boxes. -/
def subtract (box other : Box) : List Box :=
  if box.isEmpty then []
  else
    match box.intersection? other with
    | none => [box]
    | some part => peel part box Axis.all

/-- Two boxes agree along every axis but the given one. -/
def agreeExcept (left right : Box) (axis : Axis) : Bool :=
  Axis.all.all fun other => other == axis ||
    (left.offset.get other == right.offset.get other &&
      left.extent.get other == right.extent.get other)

/-- The two boxes as one, if they agree but along this axis and are adjacent
there. -/
def mergeAlong? (left right : Box) (axis : Axis) : Option Box :=
  let extent := left.extent.get axis + right.extent.get axis
  if left.agreeExcept right axis then
    if left.upper.get axis = right.offset.get axis then
      some (left.withSpan axis (left.offset.get axis) extent)
    else if right.upper.get axis = left.offset.get axis then
      some (left.withSpan axis (right.offset.get axis) extent)
    else none
  else none

/-- The two boxes as one, if they share a full face; the first axis that allows
it decides. -/
def merge? (left right : Box) : Option Box :=
  Axis.all.findSome? (left.mergeAlong? right)

def toList (box : Box) : List Nat :=
  box.offset.toList ++ box.extent.toList

/-- Boxes are ordered by their numbers, offset first. -/
instance : Ord Box :=
  ⟨fun left right => compareOfLessAndEq left.toList right.toList⟩

def description (box : Box) : String :=
  let triple (numbers : Triple) : String :=
    "(" ++ ",".intercalate (numbers.toList.map toString) ++ ")"
  triple box.offset ++ "+" ++ triple box.extent

end Box

end CoherentTasks.Geometry
