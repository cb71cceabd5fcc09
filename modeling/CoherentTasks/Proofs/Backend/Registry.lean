import CoherentTasks.Backend.Registry
import CoherentTasks.Proofs.Backend.Memory
import CoherentTasks.Proofs.Computation

/-!
# What registries serve

Whether a simulated backend has memory of a device, and whether it has an
executor, does not depend on what was allocated so far. So a registry of
simulated backends goes on serving what it served at first, and if all addresses
of its devices are machine words, they remain so. Nothing of the kind is known
about a backend that was plugged in.
-/

namespace CoherentTasks.Backend

open CoherentTasks.Computation

/-- Whether the backend simulates the device. -/
def simulates (backend : Backend) (device : Device) : Bool :=
  match backend.resources with
  | .simulated devices => (devices.get? device).isSome
  | .plugged .. => false

/-- Whether the backend simulates any device. -/
def isSimulation (backend : Backend) : Bool :=
  match backend.resources with
  | .simulated devices => devices.entries.isEmpty = false
  | .plugged .. => false

/-- The memory of a device, if the backend simulates it. -/
def memory? (backend : Backend) (device : Device) : Option Memory :=
  match backend.resources with
  | .simulated devices => (devices.get? device).map (·.memory)
  | .plugged .. => none

/-- All addresses of the devices that the backend simulates are machine
words. -/
def Addressable (backend : Backend) : Prop :=
  ∀ device memory, backend.memory? device = some memory → memory.Sound

private theorem isSome_allocate? {backend : Backend} {device : Device}
    (simulates : backend.simulates device = true) (alignment bytes : Nat) :
    (backend.allocate? device alignment bytes).isSome = true := by
  simp only [Backend.simulates] at simulates
  simp only [allocate?]
  cases resources : backend.resources with
  | simulated devices =>
      rw [resources] at simulates
      exact Option.isSome_map.trans simulates
  | plugged plugin served =>
      rw [resources] at simulates
      cases simulates

private theorem isSome_executor? {backend : Backend}
    (simulation : backend.isSimulation = true) (device : Device) :
    (backend.executor? device).isSome = true := by
  simp only [isSimulation] at simulation
  simp only [executor?]
  cases resources : backend.resources with
  | simulated devices =>
      rw [resources] at simulation
      simp only
      cases devices.get? device with
      | some entry => rfl
      | none =>
          cases entries : devices.entries with
          | nil => simp [entries] at simulation
          | cons first rest => rfl
  | plugged plugin served =>
      rw [resources] at simulation
      cases simulation

/-- The same backend at a later moment. -/
structure Continues (before after : Backend) : Prop where
  platform : after.platform = before.platform
  memory : ∀ device,
    before.simulates device = true → after.simulates device = true
  executor : before.isSimulation = true → after.isSimulation = true
  addressable : before.Addressable → after.Addressable

theorem Continues.refl (backend : Backend) : backend.Continues backend :=
  ⟨rfl, fun _ has => has, id, id⟩

theorem Continues.trans {first second third : Backend}
    (start : first.Continues second) (rest : second.Continues third) :
    first.Continues third where
  platform := rest.platform.trans start.platform
  memory device has := rest.memory device (start.memory device has)
  executor has := rest.executor (start.executor has)
  addressable sound := rest.addressable (start.addressable sound)

private theorem continues_allocate? {backend changed : Backend}
    {device : Device} {alignment bytes : Nat} {granted : Option Pointer}
    (allocated :
      backend.allocate? device alignment bytes = some (granted, changed)) :
    backend.Continues changed := by
  simp only [allocate?] at allocated
  cases resources : backend.resources with
  | simulated devices =>
      rw [resources] at allocated
      obtain ⟨entry, found, answer⟩ := Option.map_eq_some_iff.mp allocated
      split at answer
      · cases answer
        exact .refl backend
      · rename_i pointer memory granted
        cases answer
        constructor
        case platform => rfl
        case memory =>
          intro other has
          simp only [simulates] at has ⊢
          rw [resources] at has
          rw [Table.get?_insert]
          split
          · rfl
          · exact has
        case executor =>
          intro _
          simp only [isSimulation]
          rw [decide_eq_true_iff, List.isEmpty_eq_false_iff]
          exact List.ne_nil_of_mem
            (Table.mem_of_get?_eq_some (Table.get?_insert_self _ device _))
        case addressable =>
          intro sound other current has
          simp only [Addressable, memory?] at sound has
          rw [Table.get?_insert] at has
          rw [resources] at sound
          split at has
          · cases has
            have earlier := sound device entry.memory
              (Option.map_eq_some_iff.mpr ⟨entry, found, rfl⟩)
            exact (earlier.granted ⟨alignment, bytes⟩ granted).2
          · exact sound other current has
  | plugged plugin served =>
      rw [resources] at allocated
      obtain ⟨allocator, _, answer⟩ := Option.map_eq_some_iff.mp allocated
      cases answer
      refine ⟨rfl, fun other has => ?_, fun has => ?_, fun _ _ _ has => ?_⟩
      · simp [simulates, resources] at has
      · simp [isSimulation, resources] at has
      · cases has

/-- What is granted on a simulated device is granted by its memory. -/
private theorem memory?_allocate? {backend changed : Backend} {device : Device}
    {memory : Memory} {alignment bytes : Nat} {pointer : Pointer}
    (simulated : backend.memory? device = some memory)
    (allocated : backend.allocate? device alignment bytes =
      some (some pointer, changed)) :
    ∃ rest, memory.allocate? alignment bytes = some (pointer, rest) := by
  simp only [memory?] at simulated
  simp only [allocate?] at allocated
  cases resources : backend.resources with
  | simulated devices =>
      rw [resources] at simulated allocated
      obtain ⟨entry, found, rfl⟩ := Option.map_eq_some_iff.mp simulated
      obtain ⟨same, isSame, answer⟩ := Option.map_eq_some_iff.mp allocated
      rw [found] at isSame
      cases isSame
      split at answer
      · cases answer
      · rename_i granted rest accepted
        cases answer
        exact ⟨rest, accepted⟩
  | plugged plugin served =>
      rw [resources] at simulated
      cases simulated

namespace Registry

/-- The platforms that have a backend are the same later on, and their backends
continue the earlier ones. -/
def Continues (before after : Registry) : Prop :=
  ∀ platform, Option.Rel Backend.Continues (before.backend? platform)
    (after.backend? platform)

theorem Continues.refl (registry : Registry) :
    registry.Continues registry := by
  intro platform
  cases registry.backend? platform with
  | none => exact .none
  | some backend => exact .some (.refl backend)

theorem Continues.trans {first second third : Registry}
    (start : first.Continues second) (rest : second.Continues third) :
    first.Continues third := by
  intro platform
  have began := start platform
  have went := rest platform
  generalize first.backend? platform = earliest at began
  generalize second.backend? platform = middle at began went
  generalize third.backend? platform = last at went
  cases began with
  | none => exact went
  | some began =>
      cases went with
      | some went => exact .some (began.trans went)

/-- Whatever backend served a platform, one that continues it does so later. -/
private theorem Continues.later {before after : Registry} {platform : Platform}
    {backend : Backend} (continued : before.Continues after)
    (found : before.backend? platform = some backend) :
    ∃ later, after.backend? platform = some later ∧
      backend.Continues later := by
  have related := continued platform
  rw [found] at related
  generalize after.backend? platform = answer at related
  cases related with
  | some went => exact ⟨_, rfl, went⟩

/-- A backend that serves a platform continues an earlier one. -/
private theorem Continues.earlier {before after : Registry}
    {platform : Platform} {later : Backend}
    (continued : before.Continues after)
    (found : after.backend? platform = some later) :
    ∃ backend, before.backend? platform = some backend ∧
      backend.Continues later := by
  have related := continued platform
  rw [found] at related
  generalize before.backend? platform = answer at related
  cases related with
  | some went => exact ⟨_, rfl, went⟩

theorem platform_of_backend? {registry : Registry} {platform : Platform}
    {backend : Backend} (found : registry.backend? platform = some backend) :
    backend.platform = platform := by
  simpa using List.find?_some found

private theorem backend_eq_ok_iff {registry : Registry} {platform : Platform}
    {backend : Backend} :
    registry.backend platform = .ok backend ↔
      registry.backend? platform = some backend := by
  simp only [Registry.backend]
  cases registry.backend? platform <;> simp

/-- A backend in the place of the newest one of its platform is the one in
force. -/
private theorem find?_replaceNewest {changed : Backend}
    {backends : List Backend} (platform : Platform)
    (present : (backends.find? (·.platform = changed.platform)).isSome = true) :
    (replaceNewest changed backends).find? (·.platform = platform) =
      if platform = changed.platform then some changed
        else backends.find? (·.platform = platform) := by
  induction backends with
  | nil => cases present
  | cons first rest induction =>
      simp only [replaceNewest]
      by_cases here : first.platform = changed.platform
      · rw [if_pos here]
        by_cases same : changed.platform = platform
        · simp [same]
        · simp [same, here, Ne.symm same]
      · rw [if_neg here]
        have later :
            (rest.find? (·.platform = changed.platform)).isSome = true := by
          simpa [here] using present
        by_cases same : first.platform = platform
        · subst same
          simp [here]
        · simp only [List.find?_cons_of_neg, same, decide_false,
            Bool.false_eq_true, not_false_eq_true]
          exact induction later

theorem continues_allocate {registry changed : Registry} {device : Device}
    {alignment bytes : Nat} {granted : Option Pointer}
    (allocated :
      registry.allocate device alignment bytes = .ok (granted, changed)) :
    registry.Continues changed := by
  simp only [allocate] at allocated
  obtain ⟨backend, served, allocated⟩ := bind_eq_ok_iff.mp allocated
  have found := backend_eq_ok_iff.mp served
  split at allocated
  · cases allocated
  · rename_i pointer later answer
    cases pure_eq_ok_iff.mp allocated
    have continued := continues_allocate? answer
    have ofPlatform := continued.platform.trans (platform_of_backend? found)
    have present :
        (registry.backends.find? (·.platform = later.platform)).isSome =
          true := by
      simp only [backend?] at found
      rw [ofPlatform, found]
      rfl
    intro platform
    have unchanged := Continues.refl registry platform
    simp only [backend?] at found unchanged ⊢
    rw [find?_replaceNewest platform present]
    split
    · rename_i same
      rw [same, ofPlatform, found]
      exact .some continued
    · exact unchanged

/-- A simulated backend answers requests for memory on the device. -/
def ServesMemory (registry : Registry) (device : Device) : Prop :=
  ∃ backend, registry.backend? device.platform = some backend ∧
    backend.simulates device = true

/-- A simulated backend runs operations for the platform. -/
def ServesPlatform (registry : Registry) (platform : Platform) : Prop :=
  ∃ backend,
    registry.backend? platform = some backend ∧ backend.isSimulation = true

theorem ServesMemory.continues {before after : Registry} {device : Device}
    (serves : before.ServesMemory device) (continued : before.Continues after) :
    after.ServesMemory device := by
  obtain ⟨backend, found, has⟩ := serves
  obtain ⟨later, isLater, went⟩ := continued.later found
  exact ⟨later, isLater, went.memory device has⟩

theorem ServesPlatform.continues {before after : Registry} {platform : Platform}
    (serves : before.ServesPlatform platform)
    (continued : before.Continues after) : after.ServesPlatform platform := by
  obtain ⟨backend, found, has⟩ := serves
  obtain ⟨later, isLater, went⟩ := continued.later found
  exact ⟨later, isLater, went.executor has⟩

/-- All addresses of the devices that are simulated are machine words. -/
def Addressable (registry : Registry) : Prop :=
  ∀ platform backend, registry.backend? platform = some backend →
    backend.Addressable

theorem Addressable.continues {before after : Registry}
    (sound : before.Addressable) (continued : before.Continues after) :
    after.Addressable := by
  intro platform later found
  obtain ⟨backend, wasThere, went⟩ := continued.earlier found
  exact went.addressable (sound platform backend wasThere)

/-- If all addresses are machine words, none that is granted on a simulated
device has wrapped around. -/
theorem Addressable.granted {registry changed : Registry} {device : Device}
    {backend : Backend} {memory : Memory} {alignment bytes : Nat}
    {pointer : Pointer} (sound : registry.Addressable)
    (found : registry.backend? device.platform = some backend)
    (simulated : backend.memory? device = some memory)
    (allocated :
      registry.allocate device alignment bytes = .ok (some pointer, changed)) :
    pointer = memory.base + memory.offset ⟨alignment, bytes⟩ := by
  simp only [allocate] at allocated
  obtain ⟨same, served, allocated⟩ := bind_eq_ok_iff.mp allocated
  rw [backend_eq_ok_iff, found] at served
  cases served
  split at allocated
  · cases allocated
  · rename_i granted later answer
    cases pure_eq_ok_iff.mp allocated
    obtain ⟨rest, granted⟩ := memory?_allocate? simulated answer
    have within := sound device.platform backend found device memory simulated
    exact (within.granted ⟨alignment, bytes⟩ granted).1

private theorem backend_error {registry : Registry} {platform : Platform}
    {cause : Error} (failed : registry.backend platform = .error cause) :
    cause = .noBackend platform ∧ registry.backend? platform = none := by
  simp only [Registry.backend] at failed
  cases found : registry.backend? platform with
  | none =>
      rw [found] at failed
      cases failed
      exact ⟨rfl, rfl⟩
  | some backend =>
      rw [found] at failed
      cases failed

/-- A request that is not answered shows that the device is not served. -/
theorem allocate_error {registry : Registry} {device : Device}
    {alignment bytes : Nat} {cause : Error}
    (failed : registry.allocate device alignment bytes = .error cause) :
    cause.kind = .backendUnavailable ∧ ¬ registry.ServesMemory device := by
  simp only [allocate] at failed
  rcases bind_eq_error_iff.mp failed with absent | ⟨backend, present, failed⟩
  · obtain ⟨rfl, nothing⟩ := backend_error absent
    refine ⟨rfl, fun serves => ?_⟩
    obtain ⟨other, found, _⟩ := serves
    rw [nothing] at found
    cases found
  · have served := backend_eq_ok_iff.mp present
    split at failed
    · rename_i unanswered
      cases failed
      refine ⟨rfl, fun serves => ?_⟩
      obtain ⟨other, found, has⟩ := serves
      rw [served] at found
      cases found
      have answered := isSome_allocate? has alignment bytes
      rw [unanswered] at answered
      cases answered
    · cases failed

/-- An operation that is not taken shows that the platform is not served. -/
theorem executor_error {registry : Registry} {platform : Platform}
    {device : Device} {cause : Error}
    (failed : registry.executor platform device = .error cause) :
    cause.kind = .backendUnavailable ∧ ¬ registry.ServesPlatform platform := by
  simp only [executor] at failed
  rcases bind_eq_error_iff.mp failed with absent | ⟨backend, present, failed⟩
  · obtain ⟨rfl, nothing⟩ := backend_error absent
    refine ⟨rfl, fun serves => ?_⟩
    obtain ⟨other, found, _⟩ := serves
    rw [nothing] at found
    cases found
  · have served := backend_eq_ok_iff.mp present
    split at failed
    · rename_i unanswered
      cases failed
      refine ⟨rfl, fun serves => ?_⟩
      obtain ⟨other, found, has⟩ := serves
      rw [served] at found
      cases found
      have answered := isSome_executor? has device
      rw [unanswered] at answered
      cases answered
    · cases failed

end Registry

end CoherentTasks.Backend
