import CoherentTasks.Text.Quoted

/-!
# Identifiers

Nodes and regions are numbered in the order of their creation. Numbers are never
used again.
-/

namespace CoherentTasks

/-- Number of a node in its graph. -/
abbrev NodeId := Nat

/-- Number of a region in its graph. -/
abbrev RegionId := Nat

abbrev Pointer := Nat

def nodeLabel (node : NodeId) : String := "node#" ++ toString node

def regionLabel (region : RegionId) : String := "region#" ++ toString region

def pointerLabel (pointer : Pointer) : String := Text.hexadecimal pointer

end CoherentTasks
