import CoherentTasks.Error
import CoherentTasks.Scenario.Model

/-!
# Order of submission

The nodes of a scenario are submitted in an order in which every node comes
behind those that it is to come after. How names are sorted is a parameter. The
sorting of this module is a depth-first search, so that its order is the same in
every run.
-/

namespace CoherentTasks.Scenario

/-- Names, and the pairs of a name and one that has to come later, each in a
fixed order. -/
structure Precedence where
  names : List String
  edges : List (String × String)
  deriving DecidableEq, Repr

namespace Precedence

def successors (precedence : Precedence) (name : String) : List String :=
  (precedence.edges.filter (·.1 == name)).map (·.2)

def predecessors (precedence : Precedence) (name : String) : List String :=
  (precedence.edges.filter (·.2 == name)).map (·.1)

def addName (precedence : Precedence) (name : String) : Precedence :=
  if name ∈ precedence.names then precedence
  else { precedence with names := precedence.names ++ [name] }

def addEdge (precedence : Precedence) (earlier later : String) : Precedence :=
  let named := (precedence.addName earlier).addName later
  if (earlier, later) ∈ named.edges then named
  else { named with edges := named.edges ++ [(earlier, later)] }

structure Search where
  discovered : List String
  finished : List String
  deriving DecidableEq, Repr

/-- Searches from the head of a stack. A name is finished once everything behind
it is; a name that comes behind itself is reported. Every step discovers a name
or takes one off the stack. -/
def explore (precedence : Precedence) :
    Nat → List String → Search → Except String Search
  | 0, _, search => .ok search
  | _ + 1, [], search => .ok search
  | steps + 1, name :: stack, search =>
    if name ∈ search.discovered then
      explore precedence steps stack
        (if name ∈ search.finished then search
        else { search with finished := search.finished ++ [name] })
    else
      let successors := precedence.successors name
      if name ∈ successors then .error name
      else
        let discovered := search.discovered ++ [name]
        let fresh := successors.filter (· ∉ discovered)
        explore precedence steps (fresh.reverse ++ name :: stack)
          { search with discovered }

/-- A bound on the steps of a search: every name is discovered once, and it is
put on the stack once at the beginning and once for every pair. -/
def bound (precedence : Precedence) : Nat :=
  2 * precedence.names.length + precedence.edges.length + 1

/-- The names in the order in which a search from each of them in turn finishes
them. -/
def finishOrder (precedence : Precedence) : Except String (List String) := do
  let search ← precedence.names.foldlM (fun search name =>
    if name ∈ search.discovered then pure search
    else precedence.explore precedence.bound [name] search) (⟨[], []⟩ : Search)
  return search.finished

/-- Takes names off the stack up to one that was not seen before, and then looks
at what is in front of it. If there is another such name, it is reported. -/
def checkFront (precedence : Precedence) :
    Nat → List String → List String → Bool → Except String (List String)
  | 0, _, seen, _ => .ok seen
  | _ + 1, [], seen, _ => .ok seen
  | steps + 1, name :: stack, seen, found =>
    if name ∈ seen then checkFront precedence steps stack seen found
    else if found then .error name
    else
      let seen := seen ++ [name]
      let fresh := (precedence.predecessors name).filter (· ∉ seen)
      checkFront precedence steps (fresh.reverse ++ stack) seen true

/-- Checks that everything in front of a name has been seen before the name. -/
def checkOrder (precedence : Precedence) (order : List String) :
    Except String Unit := do
  let _ ← order.foldlM (fun seen name =>
    precedence.checkFront precedence.bound [name] seen false) []

/-- The names in an order in which every pair is in its order. If there is none,
a name that comes behind itself is reported. -/
def sort (precedence : Precedence) : Except String (List String) := do
  let order := (← precedence.finishOrder).reverse
  precedence.checkOrder order
  return order

end Precedence

/-- A way to put names in an order in which every pair is in its order, or to
report a name that comes behind itself. -/
abbrev Sorting := Precedence → Except String (List String)

/-- The nodes of a scenario and what they come after. Nodes are taken in the
order of their names. -/
def precedence (scenario : Scenario) : Precedence :=
  scenario.nodes.entries.foldl (fun precedence (name, node) => node.after.foldl
    (fun precedence earlier => precedence.addEdge earlier name) precedence)
    ⟨scenario.nodes.keys, []⟩

def submissionOrder (sorting : Sorting) (scenario : Scenario) :
    Except Error (List String) :=
  match sorting scenario.precedence with
  | .ok order => .ok order
  | .error name => .error (.cycle name)

end CoherentTasks.Scenario
