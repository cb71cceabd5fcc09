import CoherentTasks.Proofs.Coherence.Checked
import CoherentTasks.Submission.Transfer

/-!
# Plans in machine words

The loop that plans copies over the checked operations on regions. Where all the
boxes have representable ends, it has the same result as the plain one.
-/

namespace CoherentTasks.Submission

open CoherentTasks.Coherence (Region)
open CoherentTasks.Geometry (Box)
open CoherentTasks.Graph (Copy)

namespace Checked

open CoherentTasks.Coherence.Checked
open CoherentTasks.Geometry.Checked (subtract computes_subtract)

def fetch (region : Region) (device : Device) :
    Nat → List Box → Option (Except Error (List Copy))
  | 0, _ => some (.ok [])
  | _ + 1, [] => some (.ok [])
  | steps + 1, box :: stack => do
    match ← updateSources region device box with
    | [] => return .error (.noUpdateSource box region.name device)
    | (source, part) :: _ =>
      let others ←
        fetch region device steps ((← subtract box part).reverse ++ stack)
      return (transferOf region source device part :: ·) <$> others

def planTransfers (region : Region) (device : Device) (window : Box) :
    Option (Except Error (List Copy)) := do
  let plans ← (← outdated region device window).mapM fun box =>
    fetch region device box.count [box]
  return List.flatten <$> plans.mapM id

variable {fits : Prop} {region : Region} {device : Device} {window : Box}

theorem computes_fetch (holds : fits → region.HoldsRepresentable) {steps : Nat}
    {stack : List Box} (stackFits : fits → ∀ box ∈ stack, box.Representable) :
    Computes fits (fetch region device steps stack)
      (Submission.fetch region device steps stack) := by
  induction steps generalizing stack with
  | zero => cases stack <;> exact .of_eq_some rfl
  | succ steps induction =>
      cases stack with
      | nil => exact .of_eq_some rfl
      | cons box stack =>
          have boxFits (fit : fits) :=
            (List.forall_mem_cons.mp (stackFits fit)).1
          have restFits (fit : fits) :=
            (List.forall_mem_cons.mp (stackFits fit)).2
          refine (computes_updateSources holds boxFits).bind ?_
          simp only [Submission.fetch]
          cases sources : region.updateSources device box with
          | nil => exact .of_eq_some rfl
          | cons source rest =>
              have partFits (fit : fits) : source.2.Representable :=
                updateSources_representable (holds fit) source
                  (sources ▸ List.mem_cons_self)
              have nextFits (fit : fits) :
                  ∀ piece ∈ (box.subtract source.2).reverse ++ stack,
                    piece.Representable := by
                intro piece isPiece
                rcases List.mem_append.mp isPiece with cut | waiting
                · exact Box.representable_of_mem_subtract (boxFits fit)
                    (List.mem_reverse.mp cut)
                · exact restFits fit piece waiting
              exact (computes_subtract boxFits partFits).bind
                ((induction nextFits).bind (.of_eq_some rfl))

theorem computes_planTransfers (holds : fits → region.HoldsRepresentable)
    (windowFits : fits → window.Representable) :
    Computes fits (planTransfers region device window)
      (Submission.planTransfers region device window) := by
  have each : Computes fits
      ((region.outdated device window).mapM fun box =>
        fetch region device box.count [box])
      ((region.outdated device window).map fun box =>
        Submission.fetch region device box.count [box]) :=
    Computes.mapM fun box isBox => computes_fetch holds fun fit => by
      simpa using Region.outdated_representable (windowFits fit) box isBox
  refine (computes_outdated holds windowFits).bind (each.bind ?_)
  rw [List.mapM_map]
  exact .of_eq_some rfl

end Checked

end CoherentTasks.Submission
