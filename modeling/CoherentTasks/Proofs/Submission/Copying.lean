import CoherentTasks.Proofs.Submission.Transfer

/-!
# Copies between memories

What a copy does to the memories of the devices, and what the copies of a plan
do one after another. Copies that read up to date elements make others up to
date, and none outdated.
-/

namespace CoherentTasks

open CoherentTasks.Coherence (Region)
open CoherentTasks.Geometry (Box Triple)

namespace Graph.Copy

/-- Where the element that a copy puts at a position comes from. -/
def origin (copy : Copy) (position : Triple) : Triple :=
  (position.zipWith (· - ·) copy.destination.offset).zipWith (· + ·)
    copy.source.offset

theorem origin_of_mem {copy : Copy}
    (aligned : copy.source.offset = copy.destination.offset) {position : Triple}
    (member : position ∈ copy.destinationBox) :
    copy.origin position = position := by
  have within (axis) : copy.destination.offset.get axis ≤ position.get axis :=
    (member axis).1
  have x := within .x
  have y := within .y
  have z := within .z
  simp only [Triple.get] at x y z
  simp only [origin]
  rw [aligned]
  simp only [Triple.zipWith, Nat.sub_add_cancel x, Nat.sub_add_cancel y,
    Nat.sub_add_cancel z]

/-- What a copy puts into its destination comes from its source. -/
theorem origin_mem {copy : Copy} {position : Triple}
    (member : position ∈ copy.destinationBox) :
    copy.origin position ∈ copy.sourceBox := by
  intro axis
  have within := member axis
  simp only [Box.upper_get, destinationBox] at within
  simp only [Box.upper_get, sourceBox, origin, Triple.get_zipWith]
  omega

section Moved

variable {Value : Type}

/-- What the devices hold after a copy. -/
def moved (memories : RegionId → Device → Triple → Value) (copy : Copy) :
    RegionId → Device → Triple → Value := fun place device position =>
  if place = copy.destination.region ∧ device = copy.destination.device ∧
      position ∈ copy.destinationBox then
    memories copy.source.region copy.source.device (copy.origin position)
  else memories place device position

variable {memories : RegionId → Device → Triple → Value}
  {latest : RegionId → Triple → Value}

/-- Where a copy reads elements that are up to date, it makes others up to date
and none outdated. -/
theorem moved_brings {copy : Copy}
    (brings : ∀ position ∈ copy.destinationBox,
      memories copy.source.region copy.source.device (copy.origin position) =
        latest copy.destination.region position) :
    (∀ place device position,
      memories place device position = latest place position →
      moved memories copy place device position = latest place position) ∧
    ∀ position ∈ copy.destinationBox, moved memories copy
      copy.destination.region copy.destination.device position =
      latest copy.destination.region position := by
  constructor
  · intro place device position same
    simp only [moved]
    split
    · rename_i written
      obtain ⟨rfl, _, member⟩ := written
      exact brings position member
    · exact same
  · intro position member
    exact (if_pos ⟨rfl, rfl, member⟩).trans (brings position member)

/-- Copies to a device from others that are up to date where the region says
so. -/
theorem foldl_moved_fetched {region : Region} {device : Device}
    {wanted : Triple → Prop} {copies : List Copy}
    (fetches : ∀ copy ∈ copies, Submission.Fetches region device wanted copy)
    (supplied : ∀ source position,
      source ≠ device → position ∈ region.validOn source →
      memories region.id source position = latest region.id position) :
    (∀ place holder position,
      memories place holder position = latest place position → copies.foldl
        moved memories place holder position = latest place position) ∧
    ∀ copy ∈ copies, ∀ position ∈ copy.destinationBox,
      copies.foldl moved memories region.id device position =
        latest region.id position := by
  induction copies generalizing memories with
  | nil =>
      exact ⟨fun _ _ _ same => same,
        fun copy member => absurd member List.not_mem_nil⟩
  | cons copy copies induction =>
      obtain ⟨source, part, shape, different, _, inside⟩ :=
        fetches copy List.mem_cons_self
      have brings :
          ∀ position ∈ copy.destinationBox, memories copy.source.region
            copy.source.device (copy.origin position) =
            latest copy.destination.region position := by
        subst shape
        intro position member
        rw [origin_of_mem rfl member]
        exact supplied source position different (inside position member).1
      obtain ⟨kept, brought⟩ := moved_brings brings
      subst shape
      obtain ⟨stays, others⟩ := induction
        (fun copy member => fetches copy (List.mem_cons_of_mem _ member))
        fun source position different valid =>
          kept region.id source position
            (supplied source position different valid)
      refine ⟨fun place holder position same => stays _ _ _ (kept _ _ _ same),
        ?_⟩
      intro copy member position inDestination
      rcases List.mem_cons.mp member with rfl | later
      · exact stays _ _ _ (brought position inDestination)
      · exact others copy later position inDestination

end Moved

end Graph.Copy

end CoherentTasks
