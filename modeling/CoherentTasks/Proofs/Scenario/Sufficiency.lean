import CoherentTasks.Proofs.Scenario.Provision
import CoherentTasks.Proofs.Submission.Obstacle

/-!
# What validation is sufficient for

A validated scenario can be built and, as far as memory suffices, prepared for a
run on simulated backends. What can still go wrong when its nodes are submitted
is limited: a backend is missing only for a kernel that insists on a platform
without devices.
-/

namespace CoherentTasks.Scenario

open CoherentTasks.Backend (Registry)
open CoherentTasks.Coherence (Region)
open CoherentTasks.Computation
open CoherentTasks.Graph (Copy Node Operation Requirement TaskGraph)
open CoherentTasks.Submission

variable {sorting : Sorting}

section Submission

variable {scenario : Scenario} {devices : List Device}
  {nodes : Table String NodeId} {graph : TaskGraph} {name : String}
  {root id : NodeId} {asked device : Device} {requirement : Requirement}
  {cause : Error} {before stopped after : Scheduler}

end Submission

section Runs

variable {scenario : Scenario} {devices : List Device} {start run : Run}
  {summary : Summary}

end Runs

end CoherentTasks.Scenario
