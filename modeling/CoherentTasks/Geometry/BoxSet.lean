import CoherentTasks.Geometry.Box

/-!
# Sets of boxes

A set of elements, kept as disjoint boxes of which no two share a full face, in
ascending order.
-/

namespace CoherentTasks.Geometry

namespace Box

/-- Inserts a box before the first one that is not less. -/
def insertSorted (box : Box) : List Box → List Box
  | [] => [box]
  | head :: tail =>
    if head.toList < box.toList then head :: insertSorted box tail
      else box :: head :: tail

def sort : List Box → List Box
  | [] => []
  | head :: tail => insertSorted head (sort tail)

/-- A pair of places of a list whose boxes merge, and the merged box. -/
structure Merger where
  first : Nat
  second : Nat
  merged : Box

/-- The first box of the list that merges with `box`, with its place. -/
def findPartner (box : Box) : List Box → Option (Nat × Box)
  | [] => none
  | head :: tail =>
    match box.merge? head with
    | some merged => some (0, merged)
    | none => (findPartner box tail).map fun found => (found.1 + 1, found.2)

/-- The first pair of places whose boxes merge, in lexicographic order of the
places. -/
def findMerger : List Box → Option Merger
  | [] => none
  | head :: tail =>
    match findPartner head tail with
    | some (place, merged) => some ⟨0, place + 1, merged⟩
    | none => (findMerger tail).map fun found => { found with
        first := found.first + 1, second := found.second + 1 }

/-- Puts the merged box at the first place and the last box of the list at the
second. -/
def applyMerger (boxes : List Box) (merger : Merger) : List Box :=
  let replaced := boxes.set merger.first merger.merged
  match replaced.getLast? with
  | none => []
  | some last => (replaced.set merger.second last).dropLast

/-- Merges pairs, at most the given number of times. -/
def mergeTimes : Nat → List Box → List Box
  | 0, boxes => boxes
  | times + 1, boxes =>
    match findMerger boxes with
    | none => boxes
    | some merger => mergeTimes times (applyMerger boxes merger)

/-- Merges boxes until no two share a full face, then sorts. Each merging leaves
one box less, so there are at most as many as boxes. -/
def coalesce (boxes : List Box) : List Box :=
  sort (mergeTimes boxes.length boxes)

/-- What is left of the pieces without any of the boxes. -/
def subtractAll (pieces boxes : List Box) : List Box :=
  boxes.foldl (fun left box => left.flatMap (·.subtract box)) pieces

end Box

structure BoxSet where
  boxes : List Box
  deriving DecidableEq, Repr

namespace BoxSet

def empty : BoxSet := ⟨[]⟩

/-- A position belongs to the set when a box of the set has it. -/
def Has (set : BoxSet) (position : Triple) : Prop :=
  ∃ box ∈ set.boxes, position ∈ box

instance : Membership Triple BoxSet := ⟨Has⟩

def isEmpty (set : BoxSet) : Bool :=
  set.boxes.isEmpty

def size (set : BoxSet) : Nat :=
  set.boxes.length

/-- The number of elements as a sum of machine words, which wraps around. -/
def volume (set : BoxSet) : Nat :=
  set.boxes.foldl (fun sum box => Word.wrap (sum + box.volume)) 0

def insert (set : BoxSet) (box : Box) : BoxSet :=
  if box.isEmpty then set
  else
    match Box.subtractAll [box] set.boxes with
    | [] => set
    | pieces => ⟨Box.coalesce (set.boxes ++ pieces)⟩

def remove (set : BoxSet) (box : Box) : BoxSet :=
  if set.boxes.any (·.overlaps box) then
    ⟨Box.coalesce (set.boxes.flatMap (·.subtract box))⟩
  else set

def overlaps (set : BoxSet) (window : Box) : List Box :=
  set.boxes.filterMap (·.intersection? window)

/-- The parts of a window outside the set. -/
def uncovered (set : BoxSet) (window : Box) : List Box :=
  if window.isEmpty then []
  else Box.coalesce (Box.subtractAll [window] set.boxes)

def covers (set : BoxSet) (window : Box) : Bool :=
  (set.uncovered window).isEmpty

def intersects (set : BoxSet) (window : Box) : Bool :=
  set.boxes.any (·.overlaps window)

end BoxSet

end CoherentTasks.Geometry
