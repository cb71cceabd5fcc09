import CoherentTasks.Proofs.Geometry.Checked

/-!
# What is left of a box

A box without another one is cut into at most six boxes, and on boxes whose ends
are representable no sum and no difference on the way leaves the range of
machine words.
-/

namespace CoherentTasks.Geometry

namespace Box

private theorem length_slabs_le (box part : Box) (axis : Axis) :
    (box.slabs part axis).length ≤ 2 := by
  simp only [slabs, List.length_append]
  split <;> split <;> simp

private theorem length_peel_le (part box : Box) (axes : List Axis) :
    (peel part box axes).length ≤ 2 * axes.length := by
  induction axes generalizing box with
  | nil => exact Nat.le_refl _
  | cons axis axes induction =>
      have here := length_slabs_le box part axis
      have rest := induction (box.narrow part axis)
      simp only [peel, List.length_append, List.length_cons]
      omega

private theorem length_subtract_le (box other : Box) :
    (box.subtract other).length ≤ 6 := by
  simp only [subtract]
  split
  · exact Nat.zero_le _
  · split
    · rw [List.length_singleton]
      decide
    · exact length_peel_le _ box Axis.all

/-- The pieces are at most six boxes with elements, of which no two share one,
whose ends are representable and which cover exactly what the first box has and
the second one has not. -/
structure Partitions (box other : Box) (pieces : List Box) : Prop where
  few : pieces.length ≤ 6
  occupied : ∀ piece ∈ pieces, piece.isEmpty = false
  apart : pieces.Pairwise Apart
  representable : ∀ piece ∈ pieces, piece.Representable
  covers : ∀ position,
    (∃ piece ∈ pieces, position ∈ piece) ↔ position ∈ box ∧ position ∉ other

/-- What is left of a box without another one is a partition of the difference,
and no sum and no difference on the way to it leaves the range of machine
words. -/
theorem partitions_subtract {box other : Box} (fits : box.Representable)
    (otherFits : other.Representable) :
    Partitions box other (box.subtract other) ∧
      Checked.subtract box other = some (box.subtract other) where
  left := {
    few := length_subtract_le box other
    occupied := (tiles_subtract box other).occupied
    apart := (tiles_subtract box other).apart
    representable := fun _ => representable_of_mem_subtract fits
    covers := fun _ => exists_mem_subtract_iff }
  right := (Checked.computes_subtract And.left And.right).eq_some
    ⟨fits, otherFits⟩

/-- The whole range of machine words without a box in its middle leaves six
boxes. -/
theorem partitions_subtract_middle :
    let last := UInt64.size - 1
    let box : Box := ⟨.origin, ⟨last, last, last⟩⟩
    let other : Box := ⟨⟨1, 2, 3⟩, ⟨4, 5, 6⟩⟩
    box.Representable ∧ other.Representable ∧ (box.subtract other).length = 6 ∧
      Partitions box other (box.subtract other) ∧
      Checked.subtract box other = some (box.subtract other) := by
  intro last box other
  have fits : box.Representable := by decide
  have otherFits : other.Representable := by decide
  exact ⟨fits, otherFits, by decide, partitions_subtract fits otherFits⟩

end Box

end CoherentTasks.Geometry
