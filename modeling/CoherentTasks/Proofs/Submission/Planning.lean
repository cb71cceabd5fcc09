import CoherentTasks.Proofs.Submission.Checked
import CoherentTasks.Proofs.Submission.Transfer

/-!
# Plans of copies are exact

The loop that plans copies, as a relation without a bound on its steps. A source
supplies at least one element of the box that it is asked for, so what is left
to serve gets smaller at every step: the loop ends, and its result is that of
the bounded function. A plan is found if and only if every element of the window
is valid somewhere. Its copies then bring each outdated element exactly once.
-/

namespace CoherentTasks.Submission

open CoherentTasks.Coherence (Change Region tracked)
open CoherentTasks.Computation
open CoherentTasks.Geometry (Box Triple)
open CoherentTasks.Graph (Copy)

/-- What the loop results in, from the boxes that are left to serve, the next
one first. -/
inductive Serves (region : Region) (device : Device) :
    List Box → Except Error (List Copy) → Prop
    where
  | done : Serves region device [] (.ok [])
  | stops {box : Box} {stack : List Box}
      (nowhere : region.updateSources device box = []) :
      Serves region device (box :: stack)
        (.error (.noUpdateSource box region.name device))
  | goesOn {box part : Box} {stack : List Box} {source : Device}
      {sources : List (Device × Box)} {result : Except Error (List Copy)}
      (supplied : region.updateSources device box = (source, part) :: sources)
      (rest :
        Serves region device ((box.subtract part).reverse ++ stack) result) :
      Serves region device (box :: stack)
        (result.map (transferOf region source device part :: ·))

/-- The copies bring the wanted elements to the device, each of them once. Every
copy brings some, to the same place, from another device where they are
valid. -/
structure Plan (region : Region) (device : Device) (wanted : Triple → Prop)
    (copies : List Copy) : Prop where
  tiles : Box.Tiles (copies.map (·.destinationBox))
  covered : ∀ position,
    Box.Covered (copies.map (·.destinationBox)) position ↔ wanted position
  regions : ∀ copy ∈ copies,
    copy.source.region = region.id ∧ copy.destination.region = region.id
  aligned : ∀ copy ∈ copies, copy.source.offset = copy.destination.offset
  devices : ∀ copy ∈ copies,
    copy.destination.device = device ∧ copy.source.device ≠ device
  valid : ∀ copy ∈ copies, ∀ position ∈ copy.sourceBox,
    position ∈ region.validOn copy.source.device

variable {region : Region} {device : Device} {window : Box} {stack : List Box}
  {result other : Except Error (List Copy)} {copies : List Copy}

private theorem tiles_outdated (region : Region) (device : Device)
    (window : Box) : Box.Tiles (region.outdated device window) := by
  simp only [Region.outdated]
  split
  · exact (Geometry.BoxSet.canonical_uncovered _ window).tiles
  · split
    · exact .nil
    · rename_i occupied
      exact .singleton (by simpa using occupied)

private theorem tiles_rest {box part : Box} (tiles : Box.Tiles (box :: stack)) :
    Box.Tiles ((box.subtract part).reverse ++ stack) := by
  obtain ⟨_, outside, rest⟩ := Box.Tiles.cons_iff.mp tiles
  refine ((Box.tiles_subtract box part).perm (List.reverse_perm _).symm).append
    rest ?_
  intro position cut covered
  rw [Box.covered_perm (List.reverse_perm _), Box.covered_subtract_iff] at cut
  exact outside position cut.1 covered

/-- Every step serves an element, so as many steps as elements are enough. -/
private theorem serves_fetch {steps : Nat} (tiles : Box.Tiles stack)
    (enough : (stack.map Box.count).sum ≤ steps) :
    Serves region device stack (fetch region device steps stack) := by
  induction steps generalizing stack with
  | zero =>
      cases stack with
      | nil => exact .done
      | cons box stack =>
          have occupied := tiles.occupied box List.mem_cons_self
          have positive := Box.count_pos_of_mem (Box.offset_mem occupied)
          rw [List.map_cons, List.sum_cons] at enough
          omega
  | succ steps induction =>
      cases stack with
      | nil => exact .done
      | cons box stack =>
          simp only [fetch]
          split
          · rename_i nowhere
            exact .stops nowhere
          · rename_i source part sources supplied
            have less := count_rest_lt supplied stack
            have rest :=
              induction (tiles_rest tiles)
                (Nat.le_of_lt_succ (less.trans_le enough))
            exact .goesOn supplied rest

/-- Boxes that are served one after the other are served as one stack. -/
theorem Serves.append {first second : List Box}
    (serves : Serves region device first result)
    (later : Serves region device second other) :
    Serves region device (first ++ second)
    (do return (← result) ++ (← other)) := by
  induction serves with
  | done => cases other <;> exact later
  | stops nowhere => exact .stops nowhere
  | @goesOn box part stack source sources result supplied rest induction =>
      rw [List.append_assoc] at induction
      have goesOn := Serves.goesOn supplied induction
      cases result <;> cases other <;> exact goesOn

/-- The boxes of a window are served one after the other, each with its own
bound. -/
private theorem serves_mapM_fetch {boxes : List Box} (tiles : Box.Tiles boxes) :
    Serves region device boxes (do
      let copies ← boxes.mapM fun box => fetch region device box.count [box]
      return copies.flatten) := by
  induction boxes with
  | nil => exact .done
  | cons box boxes induction =>
      obtain ⟨occupied, _, rest⟩ := Box.Tiles.cons_iff.mp tiles
      have here :
          Serves region device [box] (fetch region device box.count [box]) :=
        serves_fetch (.singleton occupied) (by simp)
      have both := here.append (induction rest)
      rw [List.mapM_cons]
      cases fetched : fetch region device box.count [box] with
      | error cause =>
          rw [fetched] at both
          exact both
      | ok copies =>
          rw [fetched] at both
          cases later :
            boxes.mapM fun box => fetch region device box.count [box] with
          | error cause =>
              rw [later] at both
              exact both
          | ok lists =>
              rw [later] at both
              exact both

private theorem serves_planTransfers :
    Serves region device (region.outdated device window)
      (planTransfers region device window) :=
  serves_mapM_fetch (tiles_outdated region device window)

theorem Serves.unique (first : Serves region device stack result)
    (second : Serves region device stack other) : result = other := by
  induction first generalizing other with
  | done =>
      cases second
      rfl
  | stops nowhere =>
      cases second with
      | stops => rfl
      | goesOn supplied =>
          rw [nowhere] at supplied
          cases supplied
  | goesOn supplied rest induction =>
      cases second with
      | stops nowhere =>
          rw [nowhere] at supplied
          cases supplied
      | goesOn found later =>
          rw [supplied] at found
          cases found
          rw [induction later]

/-- The loop fails at a box with elements, of which no other device holds
any. -/
theorem Serves.fails (serves : Serves region device stack result)
    (tiles : Box.Tiles stack) {cause : Error} (failed : result = .error cause) :
    ∃ box, cause = .noUpdateSource box region.name device ∧
      box.isEmpty = false ∧ region.updateSources device box = [] ∧
      ∀ position ∈ box, Box.Covered stack position := by
  induction serves with
  | done => cases failed
  | @stops box stack nowhere =>
      cases failed
      exact ⟨box, rfl, tiles.occupied box List.mem_cons_self, nowhere,
        fun position inside => Box.covered_cons.mpr (.inl inside)⟩
  | @goesOn box part stack source sources result supplied rest induction =>
      cases result with
      | ok copies => cases failed
      | error stopped =>
          cases failed
          obtain ⟨piece, same, occupied, nowhere, inside⟩ :=
            induction (tiles_rest tiles) rfl
          refine ⟨piece, same, occupied, nowhere, fun position member => ?_⟩
          rw [Box.covered_cons]
          exact ((covered_rest_iff box part stack position).mp
            (inside position member)).imp
            And.left id

/-- No element of the stack is brought twice. -/
theorem Serves.tiles (serves : Serves region device stack result)
    (tiles : Box.Tiles stack) (planned : result = .ok copies) :
    Box.Tiles (copies.map (·.destinationBox)) ∧
      ∀ position, Box.Covered (copies.map (·.destinationBox)) position →
        Box.Covered stack position := by
  induction serves generalizing copies with
  | done =>
      cases planned
      exact ⟨.nil, fun _ covered => covered⟩
  | stops nowhere => cases planned
  | @goesOn box part stack source sources result supplied rest induction =>
      cases result with
      | error cause => cases planned
      | ok others =>
          cases planned
          obtain ⟨disjoint, among⟩ := induction (tiles_rest tiles) rfl
          obtain ⟨_, occupied, inside⟩ := first_supplies supplied
          obtain ⟨_, outside, _⟩ := Box.Tiles.cons_iff.mp tiles
          simp only [covered_rest_iff] at among
          rw [List.map_cons]
          constructor
          · -- What is brought later lies beside the part, or in another box of
            -- the stack.
            refine Box.Tiles.cons_iff.mpr
              ⟨Box.isEmpty_eq_false_iff_exists_mem.mpr occupied, ?_, disjoint⟩
            intro position inPart covered
            rcases among position covered with ⟨_, beside⟩ | later
            · exact beside inPart
            · exact outside position (inside position inPart).2 later
          · intro position covered
            rw [Box.covered_cons] at covered ⊢
            rcases covered with inPart | later
            · exact .inl (inside position inPart).2
            · exact (among position later).imp And.left id

theorem plan_of_planTransfers
    (planned : planTransfers region device window = .ok copies) :
    Plan region device
      (fun position => position ∈ window ∧ position ∉ region.validOn device)
      copies := by
  obtain ⟨tiles, among⟩ :=
    (serves_planTransfers).tiles (tiles_outdated region device window) planned
  have sound := planTransfers_sound planned
  constructor
  case tiles => exact tiles
  case covered =>
    intro position
    constructor
    · exact fun covered =>
        Region.covered_outdated_iff.mp (among position covered)
    · intro wanted
      obtain ⟨copy, member, inside⟩ :=
        planTransfers_complete planned wanted.1 wanted.2
      exact ⟨copy.destinationBox, List.mem_map_of_mem member, inside⟩
  case regions =>
    intro copy member
    obtain ⟨source, part, rfl, _⟩ := sound copy member
    exact ⟨rfl, rfl⟩
  case aligned =>
    intro copy member
    obtain ⟨source, part, rfl, _⟩ := sound copy member
    rfl
  case devices =>
    intro copy member
    obtain ⟨source, part, rfl, different, _⟩ := sound copy member
    exact ⟨rfl, different⟩
  case valid =>
    intro copy member position inside
    obtain ⟨source, part, rfl, _, _, supplied⟩ := sound copy member
    exact (supplied position inside).1

end CoherentTasks.Submission
