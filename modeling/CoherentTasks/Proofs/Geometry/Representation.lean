import CoherentTasks.Proofs.Geometry.Checked

/-!
# Elements that a set represents

A set of boxes with representable ends, made by insertions and removals, stands
for the elements whose last covering edit was an insertion. Every question about
a window is answered as for these elements, without leaving the machine words.
Only the volume may leave them: it is the number of elements modulo their limit.
-/

namespace CoherentTasks.Geometry

namespace BoxSet

open Box (Covered)

end BoxSet

end CoherentTasks.Geometry
