import CoherentTasks.Proofs.Computation
import CoherentTasks.Proofs.Geometry.Box
import CoherentTasks.Proofs.Table
import CoherentTasks.Scenario.Validation

/-!
# What validation establishes

Each check of a scenario is read as the rule that it decides. A window is
checked again when a graph is built, then as a box inside the box of a region,
so the two ways to check it are compared here.
-/

namespace CoherentTasks.Scenario

open CoherentTasks.Computation
open CoherentTasks.Geometry (Axis Box Triple)

variable {sorting : Sorting}

/-- The text names one of the devices. -/
def Names (devices : List Device) (text : String) : Prop :=
  ∃ device ∈ devices, Device.parse text = .ok device

/-- The numbers of elements are machine words, and the initial contents are on
one of the devices. -/
structure SoundBuffer (devices : List Device) (buffer : BufferEntry) :
    Prop where
  sized : ∃ elements,
    buffer.elements? = some elements ∧ ∀ axis, elements.get axis < Word.limit
  initial : ∀ text, buffer.initialDevice = some text → Names devices text

/-- The buffer exists, and the window lies inside it. -/
def SoundWindow (scenario : Scenario) (buffer : String) (window : WindowEntry) :
    Prop :=
  ∃ entry elements box, scenario.buffers.get? buffer = some entry ∧
    entry.elements? = some elements ∧ window.resolve? elements = some box ∧
    fits elements box = true

/-- The node does exactly one thing. -/
def DoesOneThing (node : NodeEntry) : Prop :=
  (∃ kernel, node.kernel = some kernel ∧ node.copy = none) ∨
    ∃ copy, node.kernel = none ∧ node.copy = some copy

/-- Everything that the node names exists. -/
structure SoundNode (scenario : Scenario) (devices : List Device)
    (node : NodeEntry) : Prop where
  single : DoesOneThing node
  device : ∀ text, node.device = some text → Names devices text
  platform : ∀ text, node.preferredBackend = some text →
    ∃ platform, Platform.parse text = .ok platform
  accesses : ∀ access ∈ node.access,
    (∃ mode, AccessMode.parse access.mode = .ok mode) ∧
      scenario.SoundWindow access.buffer access.window
  copy : ∀ copy, node.copy = some copy →
    Names devices copy.source ∧ Names devices copy.destination ∧
    scenario.SoundWindow copy.buffer copy.window

/-- What a scenario must be like, given its devices. -/
structure Validated (scenario : Scenario) (sorting : Sorting)
    (devices : List Device) : Prop where
  declared : scenario.declaredDevices = .ok devices
  buffers : ∀ entry ∈ scenario.buffers.entries, SoundBuffer devices entry.2
  nodes : ∀ entry ∈ scenario.nodes.entries, scenario.SoundNode devices entry.2
  dependencies : ∀ entry ∈ scenario.nodes.entries, ∀ dependency ∈ entry.2.after,
    scenario.nodes.contains dependency = true
  ordered : ∃ order, scenario.submissionOrder sorting = .ok order

section Checks

variable {scenario : Scenario} {devices : List Device} {name : String}

private theorem require_ok {condition : Bool} {fault : Fault}
    (checked : require condition fault = .ok ()) : condition = true := by
  simp only [require] at checked
  split at checked
  · assumption
  · cases checked

private theorem names_of_knownDevice {role : DeviceRole} {text : String}
    {device : Device} (checked : knownDevice devices role text = .ok device) :
    Names devices text := by
  simp only [knownDevice] at checked
  obtain ⟨named, parsed, checked⟩ := bind_eq_ok_iff.mp checked
  obtain ⟨_, known, _⟩ := bind_eq_ok_iff.mp checked
  exact ⟨named, by simpa using require_ok known, mapError_eq_ok_iff.mp parsed⟩

/-- If the product of positive numbers is a machine word, every one of them
is. -/
private theorem lt_limit_of_multiplyAll? {number : Nat} {factors : List Nat}
    (positive : 0 < number) (nonzero : ∀ factor ∈ factors, factor ≠ 0)
    (product : (Word.multiplyAll? number factors).isSome = true) :
    ∀ factor ∈ factors, factor < Word.limit := by
  induction factors generalizing number with
  | nil => exact fun factor member => absurd member List.not_mem_nil
  | cons first rest induction =>
      obtain ⟨total, multiplied⟩ := Option.isSome_iff_exists.mp product
      simp only [Word.multiplyAll?, List.foldlM_cons, Option.bind_eq_bind]
        at multiplied
      obtain ⟨step, stepped, further⟩ := Option.bind_eq_some_iff.mp multiplied
      simp only [Word.multiply?, Word.check?] at stepped
      split at stepped
      · rename_i small
        cases stepped
        have first_pos : 0 < first :=
          Nat.pos_of_ne_zero (nonzero first List.mem_cons_self)
        have others := induction (Nat.mul_pos positive first_pos)
          (fun factor member => nonzero factor (List.mem_cons_of_mem _ member))
          (Option.isSome_iff_exists.mpr ⟨total, further⟩)
        intro factor member
        rcases List.mem_cons.mp member with rfl | later
        · exact Nat.lt_of_le_of_lt
            (Nat.le_mul_of_pos_left factor positive) small
        · exact others factor later
      · cases stepped

private theorem get_mem_toList (triple : Triple) (axis : Axis) :
    triple.get axis ∈ triple.toList := by
  cases axis <;> simp [Triple.get, Triple.toList]

private theorem soundBuffer_of_checkBuffer {buffer : BufferEntry}
    (checked : checkBuffer devices name buffer = .ok ()) :
    SoundBuffer devices buffer := by
  simp only [checkBuffer] at checked
  obtain ⟨_, sized, checked⟩ := bind_eq_ok_iff.mp checked
  split at checked
  · cases checked
  · rename_i elements isElements
    obtain ⟨_, nonzero, checked⟩ := bind_eq_ok_iff.mp checked
    obtain ⟨_, product, checked⟩ := bind_eq_ok_iff.mp checked
    have small :=
      lt_limit_of_multiplyAll?
        (Nat.pos_of_ne_zero (by simpa using require_ok sized))
        (by simpa using require_ok nonzero) (require_ok product)
    refine ⟨⟨elements, isElements,
      fun axis => small _ (get_mem_toList elements axis)⟩, ?_⟩
    intro text isText
    rw [isText] at checked
    obtain ⟨_, known, _⟩ := bind_eq_ok_iff.mp checked
    exact names_of_knownDevice known

private theorem soundWindow_of_checkWindow {buffer : String}
    {window : WindowEntry}
    (checked : scenario.checkWindow name buffer window = .ok ()) :
    scenario.SoundWindow buffer window := by
  simp only [checkWindow] at checked
  obtain ⟨elements, counted, inside⟩ := bind_eq_ok_iff.mp checked
  simp only [bufferElements] at counted
  split at counted
  · rename_i found isElements
    cases counted
    obtain ⟨entry, isEntry, isElements⟩ := Option.bind_eq_some_iff.mp isElements
    obtain ⟨box, resolved, inside⟩ :=
      (Option.any_eq_true _ _).mp (require_ok inside)
    exact ⟨entry, elements, box, isEntry, isElements, resolved, inside⟩
  · cases counted

private theorem doesOneThing_of_checkNode {node : NodeEntry}
    (checked : scenario.checkNode devices name node = .ok ()) :
    DoesOneThing node := by
  simp only [checkNode] at checked
  simp only [DoesOneThing]
  cases kernel : node.kernel with
  | none =>
      cases copy : node.copy with
      | none =>
          simp [kernel, copy, bind, Except.bind, throw, throwThe,
            MonadExceptOf.throw] at checked
      | some copied => exact .inr ⟨copied, rfl, rfl⟩
  | some launched =>
      cases copy : node.copy with
      | none => exact .inl ⟨launched, rfl, rfl⟩
      | some copied =>
          simp [kernel, copy, bind, Except.bind, throw, throwThe,
            MonadExceptOf.throw] at checked

/-- Checks something, unless it is left out. -/
def checkGiven {Given Result : Type} (check : Given → Check Result) :
    Option Given → Check Unit
  | none => pure ()
  | some value => do let _ ← check value

private theorem exists_of_checkGiven {Given Result : Type}
    {check : Given → Check Result} {given : Option Given}
    (checked : checkGiven check given = .ok ()) {value : Given}
    (isGiven : given = some value) : ∃ result, check value = .ok result := by
  subst isGiven
  obtain ⟨result, passed, _⟩ := bind_eq_ok_iff.mp checked
  exact ⟨result, passed⟩

private theorem soundAccess_of_checkAccess {access : AccessEntry}
    (checked : scenario.checkAccess name access = .ok ()) :
    (∃ mode, AccessMode.parse access.mode = .ok mode) ∧
      scenario.SoundWindow access.buffer access.window := by
  obtain ⟨mode, spelt, placed⟩ := bind_eq_ok_iff.mp checked
  exact ⟨⟨mode, mapError_eq_ok_iff.mp spelt⟩, soundWindow_of_checkWindow placed⟩

private theorem soundCopy_of_checkCopy {copy : CopyEntry}
    (checked : scenario.checkCopy devices name copy = .ok ()) :
    Names devices copy.source ∧ Names devices copy.destination ∧
      scenario.SoundWindow copy.buffer copy.window := by
  obtain ⟨_, source, checked⟩ := bind_eq_ok_iff.mp checked
  obtain ⟨_, destination, placed⟩ := bind_eq_ok_iff.mp checked
  exact ⟨names_of_knownDevice source, names_of_knownDevice destination,
    soundWindow_of_checkWindow placed⟩

/-- The checks of a node that does one thing, one after another. -/
private theorem checkNode_of_doesOneThing {node : NodeEntry}
    (single : DoesOneThing node) :
    scenario.checkNode devices name node = (do
      checkGiven (knownDevice devices (.deviceOf name)) node.device
      checkGiven
        (fun text => spelled (.misspelledPlatform name) (Platform.parse text))
        node.preferredBackend
      node.access.forM (scenario.checkAccess name)
      checkGiven (scenario.checkCopy devices name) node.copy) := by
  simp only [checkNode]
  rcases single with ⟨kernel, isKernel, noCopy⟩ | ⟨copy, noKernel, isCopy⟩
  · rw [isKernel, noCopy]
    cases node.device <;> cases node.preferredBackend <;> simp [checkGiven]
  · rw [noKernel, isCopy]
    cases node.device <;> cases node.preferredBackend <;> simp [checkGiven]

private theorem soundNode_of_checkNode {node : NodeEntry}
    (checked : scenario.checkNode devices name node = .ok ()) :
    scenario.SoundNode devices node := by
  have single := doesOneThing_of_checkNode checked
  rw [checkNode_of_doesOneThing single] at checked
  obtain ⟨_, device, checked⟩ := bind_eq_ok_iff.mp checked
  obtain ⟨_, platform, checked⟩ := bind_eq_ok_iff.mp checked
  obtain ⟨_, accesses, copy⟩ := bind_eq_ok_iff.mp checked
  constructor
  case single => exact single
  case device =>
    intro text isText
    obtain ⟨_, known⟩ := exists_of_checkGiven device isText
    exact names_of_knownDevice known
  case platform =>
    intro text isText
    obtain ⟨parsed, spelt⟩ := exists_of_checkGiven platform isText
    exact ⟨parsed, mapError_eq_ok_iff.mp spelt⟩
  case accesses =>
    exact fun access member =>
      soundAccess_of_checkAccess (forM_eq_ok accesses access member)
  case copy =>
    intro moved isMoved
    obtain ⟨_, passed⟩ := exists_of_checkGiven copy isMoved
    exact soundCopy_of_checkCopy passed

private theorem contains_of_checkDependencies {node : NodeEntry}
    (checked : scenario.checkDependencies name node = .ok ()) :
    ∀ dependency ∈ node.after, scenario.nodes.contains dependency = true := by
  intro dependency member
  obtain ⟨_, known, _⟩ :=
    bind_eq_ok_iff.mp (forM_eq_ok checked dependency member)
  exact require_ok known

private theorem declared_of_checkDevices
    (checked : scenario.checkDevices = .ok devices) :
    scenario.declaredDevices = .ok devices := by
  obtain ⟨declared, isDeclared, checked⟩ := bind_eq_ok_iff.mp checked
  obtain ⟨_, _, same⟩ := bind_eq_ok_iff.mp checked
  rw [isDeclared, pure_eq_ok_iff.mp same]

end Checks

/-- Validation decides all the rules, and that there is an order of
submission. -/
theorem validated_of_validate {scenario : Scenario}
    (valid : scenario.validateBy sorting = .ok ()) :
    ∃ devices, scenario.Validated sorting devices := by
  obtain ⟨_, contents, valid⟩ := bind_eq_ok_iff.mp valid
  obtain ⟨order, ordered, _⟩ := bind_eq_ok_iff.mp valid
  have checked := mapError_eq_ok_iff.mp contents
  simp only [checkContents] at checked
  obtain ⟨_, _, checked⟩ := bind_eq_ok_iff.mp checked
  obtain ⟨_, _, checked⟩ := bind_eq_ok_iff.mp checked
  obtain ⟨devices, declared, checked⟩ := bind_eq_ok_iff.mp checked
  obtain ⟨_, buffers, checked⟩ := bind_eq_ok_iff.mp checked
  obtain ⟨_, nodes, dependencies⟩ := bind_eq_ok_iff.mp checked
  exact ⟨devices, {
    declared := declared_of_checkDevices declared
    buffers :=
      fun entry member =>
        soundBuffer_of_checkBuffer (forM_eq_ok buffers entry member)
    nodes :=
      fun entry member => soundNode_of_checkNode (forM_eq_ok nodes entry member)
    dependencies := fun entry member =>
      contains_of_checkDependencies (forM_eq_ok dependencies entry member)
    ordered := ⟨order, ordered⟩ }⟩

private theorem fits_iff {range : Triple} {window : Box} :
    fits range window = true ↔
      ∀ axis, 0 < window.extent.get axis ∧ window.upper.get axis < Word.limit ∧
        window.upper.get axis ≤ range.get axis := by
  have each (axis : Axis) :
      (Word.add? (window.offset.get axis) (window.extent.get axis)).any
            (· ≤ range.get axis) = true ↔
        window.upper.get axis < Word.limit ∧
        window.upper.get axis ≤ range.get axis := by
    rw [Box.upper_get]
    simp only [Word.add?, Word.check?]
    split <;> simp [*]
  simp only [fits, List.all_eq_true, Bool.and_eq_true, decide_eq_true_eq, each]
  exact ⟨fun inside axis => inside axis axis.mem_all,
    fun inside axis _ => inside axis⟩

/-- A window that fits lies inside the box of its buffer. -/
theorem contains_of_fits {range : Triple} {window : Box}
    (small : ∀ axis, range.get axis < Word.limit)
    (inside : fits range window = true) :
    (Box.ofExtent range).contains window = true := by
  have along := fits_iff.mp inside
  have origin (axis : Axis) : (Box.ofExtent range).offset.get axis = 0 := by
    cases axis <;> rfl
  have upper (axis : Axis) :
      (Box.ofExtent range).upper.get axis = range.get axis := by
    rw [Box.upper_get, origin, Nat.zero_add]
    rfl
  have outerSmall : (Box.ofExtent range).Representable :=
    fun axis => (upper axis).symm ▸ small axis
  have innerSmall : window.Representable := fun axis => (along axis).2.1
  simp only [Box.contains]
  rw [Box.checkedUpper?_eq_some_iff.mpr ⟨outerSmall, rfl⟩,
    Box.checkedUpper?_eq_some_iff.mpr ⟨innerSmall, rfl⟩, Bool.or_eq_true,
    List.all_eq_true]
  refine .inr fun axis _ => ?_
  rw [Bool.and_eq_true, decide_eq_true_eq, decide_eq_true_eq, origin, upper]
  exact ⟨Nat.zero_le _, (along axis).2.2⟩

end CoherentTasks.Scenario
