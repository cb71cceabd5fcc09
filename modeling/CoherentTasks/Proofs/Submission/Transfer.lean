import CoherentTasks.Proofs.Coherence.Region
import CoherentTasks.Proofs.Computation
import CoherentTasks.Submission.Transfer
import Mathlib.Algebra.Order.BigOperators.Group.List

/-!
# What a plan of copies fetches

A plan for a window fetches every element that is outdated on the device, and
only such elements, each from another device where it is valid.
-/

namespace CoherentTasks.Submission

open CoherentTasks.Coherence (Region)
open CoherentTasks.Computation
open CoherentTasks.Geometry (Box Triple)
open CoherentTasks.Graph (Copy)

/-- The copy brings elements that `wanted` admits from another device that holds
them. -/
def Fetches (region : Region) (device : Device) (wanted : Triple → Prop)
    (copy : Copy) : Prop :=
  ∃ source part, copy = transferOf region source device part ∧ source ≠ device ∧
    (∃ position, position ∈ part) ∧ ∀ position,
      position ∈ part → position ∈ region.validOn source ∧ wanted position

theorem Fetches.mono {region : Region} {device : Device}
    {wanted admitted : Triple → Prop} {copy : Copy}
    (fetches : Fetches region device wanted copy)
    (weaker : ∀ position, wanted position → admitted position) :
    Fetches region device admitted copy := by
  obtain ⟨source, part, shape, different, occupied, inside⟩ := fetches
  refine ⟨source, part, shape, different, occupied, fun position member => ?_⟩
  exact (inside position member).imp id (weaker position)

section Stack

variable {region : Region} {device source : Device} {box part : Box}
  {sources : List (Device × Box)}

/-- The first source holds what it supplies, which is a part of the box. -/
theorem first_supplies
    (supplied : region.updateSources device box = (source, part) :: sources) :
    source ≠ device ∧ (∃ position, position ∈ part) ∧ ∀ position,
      position ∈ part → position ∈ region.validOn source ∧ position ∈ box := by
  apply Region.mem_updateSources
  rw [supplied]
  exact List.mem_cons_self

/-- What is left to serve has fewer elements once the first source has supplied
a part. -/
theorem count_rest_lt
    (supplied : region.updateSources device box = (source, part) :: sources)
    (stack : List Box) :
    (((box.subtract part).reverse ++ stack).map Box.count).sum <
      ((box :: stack).map Box.count).sum := by
  obtain ⟨_, ⟨common, inPart⟩, inside⟩ := first_supplies supplied
  have smaller := Box.count_subtract_lt (inside common inPart).2 inPart
  simp only [List.map_append, List.map_reverse, List.sum_append,
    List.sum_reverse, List.map_cons, List.sum_cons]
  omega

/-- What the stack covers once its head was served in part. -/
theorem covered_rest_iff (box part : Box) (stack : List Box)
    (position : Triple) :
    Box.Covered ((box.subtract part).reverse ++ stack) position ↔
      (position ∈ box ∧ position ∉ part) ∨ Box.Covered stack position := by
  rw [Box.covered_append, Box.covered_perm (List.reverse_perm _),
    Box.covered_subtract_iff]

private theorem fetch_sound {steps : Nat} {stack : List Box}
    {copies : List Copy}
    (planned : fetch region device steps stack = .ok copies) :
    ∀ copy, copy ∈ copies → Fetches region device (Box.Covered stack) copy := by
  induction steps generalizing stack copies with
  | zero =>
      cases planned
      exact fun copy member => absurd member List.not_mem_nil
  | succ steps induction =>
      cases stack with
      | nil =>
          cases planned
          exact fun copy member => absurd member List.not_mem_nil
      | cons box stack =>
          simp only [fetch] at planned
          split at planned
          · cases planned
          · rename_i source part sources supplied
            obtain ⟨others, rest, planned⟩ := bind_eq_ok_iff.mp planned
            rw [← pure_eq_ok_iff.mp planned]
            obtain ⟨different, occupied, inside⟩ := first_supplies supplied
            intro copy member
            rcases List.mem_cons.mp member with rfl | later
            · refine ⟨source, part, rfl, different, occupied,
                fun position inPart => ?_⟩
              obtain ⟨valid, inBox⟩ := inside position inPart
              exact ⟨valid, Box.covered_cons.mpr (.inl inBox)⟩
            · apply (induction rest copy later).mono
              intro position covered
              rw [covered_rest_iff] at covered
              exact Box.covered_cons.mpr (covered.imp And.left id)

private theorem fetch_complete {steps : Nat} {stack : List Box}
    {copies : List Copy} (enough : (stack.map Box.count).sum ≤ steps)
    (planned : fetch region device steps stack = .ok copies) {position : Triple}
    (covered : Box.Covered stack position) :
    ∃ copy ∈ copies, position ∈ copy.destinationBox := by
  induction steps generalizing stack copies with
  | zero =>
      obtain ⟨box, isBox, member⟩ := covered
      have positive := Box.count_pos_of_mem member
      have bound :=
        List.le_sum_of_mem (List.mem_map_of_mem (f := Box.count) isBox)
      omega
  | succ steps induction =>
      cases stack with
      | nil => exact absurd covered (Box.covered_nil position)
      | cons box stack =>
          simp only [fetch] at planned
          split at planned
          · cases planned
          · rename_i source part sources supplied
            obtain ⟨others, rest, planned⟩ := bind_eq_ok_iff.mp planned
            rw [← pure_eq_ok_iff.mp planned]
            have fits :
                (((box.subtract part).reverse ++ stack).map Box.count).sum ≤
                  steps :=
              Nat.le_of_lt_succ ((count_rest_lt supplied stack).trans_le enough)
            by_cases served : position ∈ part
            · exact ⟨_, List.mem_cons_self, served⟩
            · have left :
                  Box.Covered ((box.subtract part).reverse ++ stack)
                    position := by
                rw [covered_rest_iff]
                exact (Box.covered_cons.mp covered).imp (⟨·, served⟩) id
              obtain ⟨copy, member, inDestination⟩ := induction fits rest left
              exact ⟨copy, List.mem_cons_of_mem _ member, inDestination⟩

end Stack

/-- The copies of a plan bring outdated elements of the window from devices
where they are valid. -/
theorem planTransfers_sound {region : Region} {device : Device} {window : Box}
    {copies : List Copy}
    (planned : planTransfers region device window = .ok copies) :
    ∀ copy, copy ∈ copies → Fetches region device (fun position =>
      position ∈ window ∧ position ∉ region.validOn device) copy := by
  obtain ⟨lists, fetched, planned⟩ := bind_eq_ok_iff.mp planned
  rw [← pure_eq_ok_iff.mp planned]
  intro copy member
  obtain ⟨list, isList, inList⟩ := List.mem_flatten.mp member
  obtain ⟨box, isBox, plan⟩ := exists_value_of_mem fetched isList
  apply (fetch_sound plan copy inList).mono
  intro position covered
  rw [Box.covered_cons, or_iff_left (Box.covered_nil position)] at covered
  exact Region.covered_outdated_iff.mp ⟨box, isBox, covered⟩

/-- The copies of a plan bring every outdated element of the window. -/
theorem planTransfers_complete {region : Region} {device : Device}
    {window : Box} {copies : List Copy}
    (planned : planTransfers region device window = .ok copies)
    {position : Triple} (member : position ∈ window)
    (outdated : position ∉ region.validOn device) :
    ∃ copy ∈ copies, position ∈ copy.destinationBox := by
  obtain ⟨lists, fetched, planned⟩ := bind_eq_ok_iff.mp planned
  rw [← pure_eq_ok_iff.mp planned]
  obtain ⟨box, isBox, inBox⟩ :=
    Region.covered_outdated_iff.mpr ⟨member, outdated⟩
  obtain ⟨list, isList, plan⟩ := exists_result_of_mem fetched isBox
  obtain ⟨copy, inList, inDestination⟩ :=
    fetch_complete (by simp) plan (Box.covered_cons.mpr (.inl inBox))
  exact ⟨copy, List.mem_flatten.mpr ⟨list, isList, inList⟩, inDestination⟩

end CoherentTasks.Submission
