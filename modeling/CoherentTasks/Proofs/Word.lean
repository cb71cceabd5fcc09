import CoherentTasks.Word

/-!
# Computations that may leave the machine words

A computation that checks every sum and every difference has no result when one
of them leaves the range of machine words. Here is what it means that such a
computation refines a plain one, and how this carries over to the steps of
which a computation is made.
-/

namespace CoherentTasks

/-- The difference, unless it is negative. -/
def Word.subtract? (left right : Nat) : Option Nat :=
  if right ≤ left then some (left - right) else none

/-- The checked computation has the result if the numbers in it fit, and no
other result if they do not. -/
def Computes {Result : Type} (fits : Prop) (computed : Option Result)
    (result : Result) : Prop :=
  computed = some result ∨ computed = none ∧ ¬ fits

namespace Computes

variable {Source Middle Result : Type} {fits weaker : Prop}
  {computed : Option Result} {result other : Result}

theorem eq_some (computes : Computes fits computed result) (fit : fits) :
    computed = some result :=
  computes.resolve_right fun missing => missing.2 fit

theorem eq_of_eq_some (computes : Computes fits computed result)
    (found : computed = some other) : other = result := by
  rcases computes with same | missing
  · exact Option.some.inj (found.symm.trans same)
  · rw [missing.1] at found
    cases found

theorem of_eq_some (found : computed = some result) :
    Computes fits computed result :=
  .inl found

theorem mono (computes : Computes weaker computed result)
    (enough : fits → weaker) : Computes fits computed result :=
  computes.imp_right fun missing => ⟨missing.1, mt enough missing.2⟩

theorem bind {first : Option Middle} {middle : Middle}
    {next : Middle → Option Result} (start : Computes fits first middle)
    (rest : Computes fits (next middle) result) :
    Computes fits (first >>= next) result := by
  rcases start with same | missing
  · rw [same]
    exact rest
  · rw [missing.1]
    exact .inr ⟨rfl, missing.2⟩

theorem mapM {step : Source → Option Result} {value : Source → Result}
    {list : List Source}
    (each : ∀ source ∈ list, Computes fits (step source) (value source)) :
    Computes fits (list.mapM step) (list.map value) := by
  induction list with
  | nil => exact .of_eq_some rfl
  | cons head tail induction =>
      obtain ⟨here, later⟩ := List.forall_mem_cons.mp each
      rw [List.mapM_cons]
      exact here.bind ((induction later).bind (.of_eq_some rfl))

end Computes

namespace Word

theorem computes_add (left right : Nat) :
    Computes (left + right < limit) (add? left right) (left + right) := by
  simp only [add?, check?]
  split
  · exact .inl rfl
  · exact .inr ⟨rfl, ‹_›⟩

theorem add?_eq_some {left right sum : Nat}
    (found : add? left right = some sum) :
    sum = left + right ∧ sum < limit := by
  simp only [add?, check?] at found
  split at found
  · cases found
    exact ⟨rfl, ‹_›⟩
  · cases found

theorem subtract?_of_lt {low high : Nat} (less : low < high) :
    subtract? high low = some (high - low) :=
  if_pos (Nat.le_of_lt less)

end Word

end CoherentTasks
