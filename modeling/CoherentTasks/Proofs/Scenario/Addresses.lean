import CoherentTasks.Proofs.Scenario.Provision

/-!
# Addresses in a run

An address that is granted is not checked and may wrap around. On the simulated
backends of a scenario this takes memory that reaches beyond the last machine
word: if the memory of every declared device ends before it, no address wraps
around, neither while the initial contents are put in place nor at any time of
the run.
-/

namespace CoherentTasks.Scenario

open CoherentTasks.Backend (Memory Registry)
open CoherentTasks.Computation

variable {sorting : Sorting} {scenario : Scenario} {devices : List Device}
  {registry : Registry}

/-- The memory of every one of the devices ends at a machine word. -/
def FitsAddresses (scenario : Scenario) (devices : List Device) : Prop :=
  ∀ device ∈ devices,
    Memory.baseOf device + (scenario.deviceEntry device).memory < Word.limit

section Backends

/-- The memory of a simulated device is new and as large as was asked for. -/
private theorem memory?_simulated {platform : Platform} {device : Device}
    {entries : List (Device × Nat × Nat)} {memory : Memory}
    (simulated :
      (Backend.simulated platform entries).memory? device = some memory) :
    ∃ entry ∈ entries, memory = .create entry.1 entry.2.1 := by
  obtain ⟨own, found, rfl⟩ := Option.map_eq_some_iff.mp simulated
  have listed := Table.mem_of_mem_ofList (Table.mem_of_get?_eq_some found)
  obtain ⟨entry, isEntry, same⟩ := List.mem_map.mp listed
  cases same
  exact ⟨entry, List.mem_of_mem_filter isEntry, rfl⟩

private theorem addressable_backendFor (fits : scenario.FitsAddresses devices)
    (platform : Platform) :
    (scenario.backendFor devices platform).Addressable := by
  intro device memory simulated
  obtain ⟨entry, member, rfl⟩ := memory?_simulated simulated
  obtain ⟨declared, isDeclared, rfl⟩ := List.mem_map.mp member
  exact ⟨fits declared isDeclared, Nat.zero_le _⟩

/-- At first, all addresses of the simulated backends are machine words. -/
theorem addressable_simulatedRegistry
    (declared : scenario.declaredDevices = .ok devices)
    (fits : scenario.FitsAddresses devices)
    (provides : scenario.simulatedRegistry = .ok registry) :
    registry.Addressable := by
  simp only [simulatedRegistry] at provides
  rw [declared] at provides
  cases provides
  intro platform backend inForce
  obtain ⟨own, _, rfl⟩ := List.mem_map.mp (mem_of_backend?_ofList inForce)
  exact addressable_backendFor fits own

end Backends

section Runs

variable {run next : Run} {summary : Summary}

/-- If the memory of all declared devices fits, all addresses remain machine
words at any time of a run on simulated backends. -/
theorem addressable_of_proceeds (topological : sorting.Topological)
    (valid : scenario.validateBy sorting = .ok ())
    (declared : scenario.declaredDevices = .ok devices)
    (fits : scenario.FitsAddresses devices)
    (prepares : scenario.prepareSimulatedBy sorting = .ok run)
    (proceeds : run.Proceeds next summary) :
    next.scheduler.registry.Addressable := by
  simp only [prepareSimulatedBy] at prepares
  obtain ⟨registry, provides, prepares⟩ := bind_eq_ok_iff.mp prepares
  have first := addressable_simulatedRegistry declared fits
    (mapError_eq_ok_iff.mp provides)
  obtain ⟨built, _, seeded, _⟩ := prepareOn_ok prepares
  obtain ⟨runs, _⟩ := runs_of_prepareOn valid topological prepares
  exact (first.continues seeded.registry).continues (runs.continues proceeds)

/-- Whatever a simulated device grants then starts at the next aligned offset
from the start of its memory. -/
theorem granted_of_proceeds (topological : sorting.Topological)
    (valid : scenario.validateBy sorting = .ok ())
    (declared : scenario.declaredDevices = .ok devices)
    (fits : scenario.FitsAddresses devices)
    (prepares : scenario.prepareSimulatedBy sorting = .ok run)
    (proceeds : run.Proceeds next summary) {device : Device}
    {backend : Backend} {memory : Memory} {alignment bytes : Nat}
    {pointer : Pointer} {registry : Registry}
    (inForce :
      next.scheduler.registry.backend? device.platform = some backend)
    (simulated : backend.memory? device = some memory)
    (allocated : next.scheduler.registry.allocate device alignment bytes =
      .ok (some pointer, registry)) :
    pointer = memory.base + memory.offset ⟨alignment, bytes⟩ :=
  (addressable_of_proceeds topological valid declared fits prepares
    proceeds).granted inForce simulated allocated

end Runs

end CoherentTasks.Scenario
