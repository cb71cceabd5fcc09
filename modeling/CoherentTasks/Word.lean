/-!
# Machine words

Sizes and addresses are natural numbers. Where the result of an addition or a
multiplication has to be a machine word, the checked operations of this module
say whether it is. A result that is not checked wraps around.
-/

namespace CoherentTasks.Word

/-- One more than the greatest machine word. -/
def limit : Nat := UInt64.size

/-- What a machine word keeps of a number. -/
def wrap (number : Nat) : Nat :=
  number % limit

theorem wrap_of_lt {number : Nat} (small : number < limit) :
    wrap number = number :=
  Nat.mod_eq_of_lt small

def check? (number : Nat) : Option Nat :=
  if number < limit then some number else none

def add? (left right : Nat) : Option Nat :=
  check? (left + right)

/-- The product, if it is a machine word. -/
def multiply? (left right : Nat) : Option Nat :=
  check? (left * right)

/-- The product of a number with each factor in turn, if every step is a machine
word. -/
def multiplyAll? (number : Nat) (factors : List Nat) : Option Nat :=
  factors.foldlM multiply? number

end CoherentTasks.Word
