import CoherentTasks.Backend.Basic
import CoherentTasks.Proofs.Table
import Mathlib.Algebra.Group.Nat.Defs
import Mathlib.Order.Bounds.Defs

/-!
# Memory that is handed out

The memory of a simulated device serves requests one after the other. What it
grants are ranges of addresses that lie inside its own range, at aligned offsets
from the start of it, and no two of them have an address in common. As long as
all addresses are machine words, it refuses a request only if the range at the
next aligned offset would go beyond its capacity.
-/

namespace CoherentTasks.Backend

/-- As many addresses as the length, from the start on. -/
structure Span where
  start : Pointer
  length : Nat
  deriving DecidableEq, Repr

namespace Span

def stop (span : Span) : Pointer :=
  span.start + span.length

instance : Membership Pointer Span :=
  ⟨fun span address => span.start ≤ address ∧ address < span.stop⟩

instance (address : Pointer) (span : Span) : Decidable (address ∈ span) :=
  inferInstanceAs (Decidable (span.start ≤ address ∧ address < span.stop))

/-- No address is in both. -/
def Apart (first second : Span) : Prop :=
  ∀ address, address ∈ first → address ∉ second

variable {first second outer : Span}

theorem apart_of_stop_le (before : first.stop ≤ second.start) :
    first.Apart second := by
  intro address inFirst inSecond
  exact absurd (Nat.lt_of_lt_of_le inFirst.2 before) (Nat.not_lt.mpr inSecond.1)

theorem Apart.symm (apart : first.Apart second) : second.Apart first :=
  fun address inSecond inFirst => apart address inFirst inSecond

/-- One range is part of another. -/
def Inside (inner outer : Span) : Prop :=
  outer.start ≤ inner.start ∧ inner.stop ≤ outer.stop

theorem Inside.mem {inner : Span} (inside : inner.Inside outer)
    {address : Pointer} (member : address ∈ inner) : address ∈ outer :=
  ⟨Nat.le_trans inside.1 member.1, Nat.lt_of_lt_of_le member.2 inside.2⟩

end Span

/-- What an offset is a multiple of; an alignment of zero counts as one. -/
def stepOf (alignment : Nat) : Nat :=
  max alignment 1

private theorem stepOf_pos (alignment : Nat) : 0 < stepOf alignment :=
  Nat.le_max_right alignment 1

private theorem isLeast_alignUp (number alignment : Nat) :
    IsLeast {offset | number ≤ offset ∧ stepOf alignment ∣ offset}
      (alignUp number alignment) := by
  have positive := stepOf_pos alignment
  rw [show alignUp number alignment =
    (number + (stepOf alignment - 1)) / stepOf alignment * stepOf alignment
    from rfl]
  generalize stepOf alignment = step at positive
  refine ⟨⟨?_, Nat.dvd_mul_left ..⟩, ?_⟩
  · have parts := Nat.div_add_mod' (number + (step - 1)) step
    have rest := Nat.mod_lt (number + (step - 1)) positive
    omega
  · rintro offset ⟨bound, quotient, rfl⟩
    rw [Nat.mul_comm step]
    apply Nat.mul_le_mul_right
    have less : (number + (step - 1)) / step < quotient + 1 := by
      rw [Nat.div_lt_iff_lt_mul positive, Nat.succ_mul, Nat.mul_comm quotient]
      omega
    exact Nat.lt_succ_iff.mp less

private theorem le_alignUp (number alignment : Nat) :
    number ≤ alignUp number alignment :=
  (isLeast_alignUp number alignment).1.1

/-- A number of bytes at an aligned offset. -/
structure Request where
  alignment : Nat
  bytes : Nat
  deriving DecidableEq, Repr

/-- The alignment is zero or a machine word that is a power of two. -/
def Request.Proper (request : Request) : Prop :=
  request.alignment = 0 ∨ ∃ exponent < 64, request.alignment = 2 ^ exponent

theorem Request.Proper.step_dvd_limit {request : Request}
    (proper : request.Proper) : stepOf request.alignment ∣ Word.limit := by
  rcases proper with zero | ⟨exponent, small, power⟩
  · rw [zero]
    exact Nat.one_dvd _
  · have step : stepOf request.alignment = 2 ^ exponent := by
      rw [power]
      exact Nat.max_eq_left Nat.one_le_two_pow
    rw [step]
    exact Nat.pow_dvd_pow 2 (Nat.le_of_lt small)

namespace Memory

/-- The answer to a request, and the memory after it. -/
def serve (memory : Memory) (request : Request) : Option Pointer × Memory :=
  match memory.allocate? request.alignment request.bytes with
  | none => (none, memory)
  | some (pointer, rest) => (some pointer, rest)

/-- The memory after requests in turn. -/
def after (memory : Memory) (requests : List Request) : Memory :=
  requests.foldl (fun memory request => (memory.serve request).2) memory

/-- What is granted to requests in turn. -/
def grants (memory : Memory) : List Request → List Span
  | [] => []
  | request :: rest =>
    match memory.serve request with
    | (none, next) => next.grants rest
    | (some pointer, next) => ⟨pointer, request.bytes⟩ :: next.grants rest

/-- All addresses that a memory can hand out. -/
def space (memory : Memory) : Span :=
  ⟨memory.base, memory.capacity⟩

/-- Where the range for a request starts, counted from the start of the
memory. -/
def offset (memory : Memory) (request : Request) : Nat :=
  alignUp memory.used request.alignment

/-- All addresses of a memory are machine words, and no more is used than there
is. -/
structure Sound (memory : Memory) : Prop where
  addresses : memory.base + memory.capacity < Word.limit
  room : memory.used ≤ memory.capacity

section Serve

variable {memory rest : Memory} {request : Request} {pointer : Pointer}

private theorem allocate?_eq_some
    (granted :
      memory.allocate? request.alignment request.bytes = some (pointer, rest)) :
    memory.offset request + request.bytes ≤ memory.capacity ∧
    pointer = Word.wrap (memory.base + memory.offset request) ∧
    rest = { memory with used := memory.offset request + request.bytes } := by
  simp only [allocate?] at granted
  obtain ⟨_, _, granted⟩ := Option.bind_eq_some_iff.mp granted
  obtain ⟨stop, isStop, granted⟩ := Option.bind_eq_some_iff.mp granted
  simp only [Word.add?, Word.check?] at isStop
  split at isStop
  · cases isStop
    split at granted
    · rename_i fits
      cases granted
      exact ⟨fits, rfl, rfl⟩
    · cases granted
  · cases isStop

/-- If the aligned offset cannot be computed with machine words, no memory
reaches that far. -/
private theorem limit_le_offset (proper : request.Proper)
    (overflow : Word.limit ≤ memory.used + (stepOf request.alignment - 1)) :
    Word.limit ≤ memory.offset request := by
  obtain ⟨quotient, multiple⟩ := proper.step_dvd_limit
  rw [show memory.offset request =
    (memory.used + (stepOf request.alignment - 1)) / stepOf request.alignment *
      stepOf request.alignment from rfl]
  rw [multiple, Nat.mul_comm] at overflow ⊢
  apply Nat.mul_le_mul_right
  exact (Nat.le_div_iff_mul_le (stepOf_pos _)).mpr overflow

theorem allocate?_eq_none_iff (sound : memory.Sound) (proper : request.Proper) :
    memory.allocate? request.alignment request.bytes = none ↔
      memory.capacity < memory.offset request + request.bytes := by
  have words : memory.capacity < Word.limit :=
    Nat.lt_of_le_of_lt (Nat.le_add_left ..) sound.addresses
  constructor
  · intro refused
    refine Nat.lt_of_not_le fun fits => ?_
    have isStop :
        alignUp memory.used request.alignment + request.bytes < Word.limit :=
      Nat.lt_of_le_of_lt fits words
    have rounds : memory.used + (max request.alignment 1 - 1) < Word.limit := by
      refine Nat.lt_of_not_le fun overflow => ?_
      have beyond := limit_le_offset proper overflow
      omega
    simp only [allocate?, Word.add?, Word.check?] at refused
    rw [if_pos rounds, if_pos isStop] at refused
    simp only [Option.bind_eq_bind, Option.bind_some] at refused
    exact absurd ((if_pos fits).symm.trans refused) (Option.some_ne_none _)
  · intro exceeds
    cases granted : memory.allocate? request.alignment request.bytes with
    | none => rfl
    | some answer =>
        have fits := (allocate?_eq_some granted).1
        omega

/-- A memory refuses and stays as it is, or it grants the range at the next
aligned offset and goes on behind it. -/
theorem serve_cases (memory : Memory) (request : Request) :
    (memory.serve request = (none, memory) ∧
      memory.allocate? request.alignment request.bytes = none) ∨
    (memory.serve request =
      (some (Word.wrap (memory.base + memory.offset request)), { memory with
        used := memory.offset request + request.bytes }) ∧
      memory.offset request + request.bytes ≤ memory.capacity) := by
  simp only [serve]
  cases granted : memory.allocate? request.alignment request.bytes with
  | none => exact .inl ⟨rfl, rfl⟩
  | some answer =>
      obtain ⟨pointer, rest⟩ := answer
      obtain ⟨fits, rfl, rfl⟩ := allocate?_eq_some granted
      exact .inr ⟨rfl, fits⟩

/-- An address inside a memory does not wrap around. -/
theorem Sound.wrap_address (sound : memory.Sound)
    (fits : memory.offset request + request.bytes ≤ memory.capacity) :
    Word.wrap (memory.base + memory.offset request) =
      memory.base + memory.offset request := by
  have inside : memory.offset request ≤ memory.capacity :=
    Nat.le_trans (Nat.le_add_right ..) fits
  exact Word.wrap_of_lt
    (Nat.lt_of_le_of_lt (Nat.add_le_add_left inside _) sound.addresses)

/-- What is granted starts at an address that did not wrap around, and the rest
of the memory is as sound. -/
theorem Sound.granted (sound : memory.Sound) (request : Request)
    (granted :
      memory.allocate? request.alignment request.bytes = some (pointer, rest)) :
    pointer = memory.base + memory.offset request ∧ rest.Sound := by
  obtain ⟨fits, rfl, rfl⟩ := allocate?_eq_some granted
  exact ⟨sound.wrap_address fits, sound.addresses, fits⟩

/-- How a memory answers one request. -/
structure Answers (memory : Memory) (request : Request) : Prop where
  aligned :
    IsLeast {offset | memory.used ≤ offset ∧ stepOf request.alignment ∣ offset}
      (memory.offset request)
  refused_iff : (memory.serve request).1 = none ↔
    memory.capacity < memory.offset request + request.bytes
  granted : ∀ pointer, (memory.serve request).1 = some pointer →
    pointer = memory.base + memory.offset request
  unchanged :
    (memory.serve request).1 = none → (memory.serve request).2 = memory
  grows : memory.used ≤ (memory.serve request).2.used
  room : (memory.serve request).2.used ≤ memory.capacity

private theorem used_le_used_serve (memory : Memory) (request : Request) :
    memory.used ≤ (memory.serve request).2.used := by
  rcases serve_cases memory request with ⟨served, _⟩ | ⟨served, _⟩
  · exact Nat.le_of_eq (by rw [served])
  · rw [served]
    exact Nat.le_trans (le_alignUp ..) (Nat.le_add_right ..)

/-- Where a memory is and how much it holds does not depend on what was asked of
it. -/
private theorem space_serve (memory : Memory) (request : Request) :
    (memory.serve request).2.space = memory.space := by
  rcases serve_cases memory request with ⟨served, _⟩ | ⟨served, _⟩
  · rw [served]
  · rw [served]
    rfl

theorem Sound.serve (sound : memory.Sound) (request : Request) :
    (memory.serve request).2.Sound := by
  rcases serve_cases memory request with ⟨served, _⟩ | ⟨served, fits⟩
  · rw [served]
    exact sound
  · rw [served]
    exact ⟨sound.addresses, fits⟩

private theorem answers (sound : memory.Sound) (proper : request.Proper) :
    memory.Answers request := by
  have refusal := allocate?_eq_none_iff sound proper
  have aligned := isLeast_alignUp memory.used request.alignment
  have grows := used_le_used_serve memory request
  rcases serve_cases memory request with ⟨served, refused⟩ | ⟨served, fits⟩
  · have exceeds := refusal.mp refused
    constructor
    case aligned => exact aligned
    case refused_iff => simp [served, exceeds]
    case granted => simp [served]
    case unchanged => simp [served]
    case grows => exact grows
    case room => simpa [served] using sound.room
  · constructor
    case aligned => exact aligned
    case refused_iff => simpa [served] using fits
    case granted => simp [served, sound.wrap_address fits]
    case unchanged => simp [served]
    case grows => exact grows
    case room => simpa [served] using fits

end Serve

section Runs

variable {memory : Memory}

theorem Sound.after (sound : memory.Sound) (requests : List Request) :
    (memory.after requests).Sound :=
  List.foldlRecOn (motive := Sound) requests _ sound
    fun _ sound request _ => sound.serve request

private theorem space_after (memory : Memory) (requests : List Request) :
    (memory.after requests).space = memory.space :=
  List.foldlRecOn (motive := fun now => now.space = memory.space) requests _ rfl
    fun now same request _ => (space_serve now request).trans same

/-- What is granted starts where nothing was used yet, and ends inside the
memory. -/
private theorem bounds_of_mem_grants (sound : memory.Sound)
    {requests : List Request} {span : Span}
    (granted : span ∈ memory.grants requests) :
    memory.base + memory.used ≤ span.start ∧ span.stop ≤ memory.space.stop := by
  induction requests generalizing memory with
  | nil => cases granted
  | cons request rest induction =>
      have later (member : span ∈ (memory.serve request).2.grants rest) :
          memory.base + memory.used ≤ span.start ∧
          span.stop ≤ memory.space.stop := by
        obtain ⟨start, stop⟩ := induction (sound.serve request) member
        have same := space_serve memory request
        have base : (memory.serve request).2.base = memory.base :=
          congrArg Span.start same
        have grows := used_le_used_serve memory request
        rw [base] at start
        rw [same] at stop
        exact ⟨Nat.le_trans (Nat.add_le_add_left grows _) start, stop⟩
      rcases serve_cases memory request with ⟨served, _⟩ | ⟨served, fits⟩
      · simp only [grants, served] at granted later
        exact later granted
      · simp only [grants, served, sound.wrap_address fits] at granted later
        rcases List.mem_cons.mp granted with rfl | member
        · simp only [Span.stop, space]
          rw [Nat.add_assoc]
          exact ⟨Nat.add_le_add_left (le_alignUp ..) _,
            Nat.add_le_add_left fits _⟩
        · exact later member

/-- A later grant starts where an earlier one ends, or beyond. -/
private theorem pairwise_grants (sound : memory.Sound)
    (requests : List Request) :
    (memory.grants requests).Pairwise Span.Apart := by
  induction requests generalizing memory with
  | nil => exact .nil
  | cons request rest induction =>
      have next := sound.serve request
      rcases serve_cases memory request with ⟨served, _⟩ | ⟨served, fits⟩
      · simp only [grants, served]
        exact induction sound
      · rw [served] at next
        simp only [grants, served, sound.wrap_address fits]
        refine .cons ?_ (induction next)
        intro span member
        have start := (bounds_of_mem_grants next member).1
        apply Span.apart_of_stop_le
        simp only [Span.stop]
        rw [Nat.add_assoc]
        exact start

theorem grants_inside (sound : memory.Sound) {requests : List Request}
    {span : Span} (granted : span ∈ memory.grants requests) :
    span.Inside memory.space := by
  obtain ⟨start, stop⟩ := bounds_of_mem_grants sound granted
  exact ⟨Nat.le_trans (Nat.le_add_right ..) start, stop⟩

theorem sound_create {device : Device} {capacity : Nat}
    (addresses : baseOf device + capacity < Word.limit) :
    (create device capacity).Sound :=
  ⟨addresses, Nat.zero_le capacity⟩

/-- A device serves any requests, in any number. What it grants lies inside its
memory, and no two ranges have an address in common. At every time the next
request is refused exactly if the range at the next aligned offset goes beyond
the capacity, and then nothing changes; else it gets that range. -/
theorem grants_create {device : Device} {capacity : Nat}
    (addresses : baseOf device + capacity < Word.limit)
    {requests : List Request} (proper : ∀ request ∈ requests, request.Proper) :
    let memory := create device capacity
    (memory.grants requests).Pairwise Span.Apart ∧
      (∀ span ∈ memory.grants requests, span.Inside ⟨baseOf device, capacity⟩) ∧
      ∀ earlier request later, requests = earlier ++ request :: later →
        (memory.after earlier).space = ⟨baseOf device, capacity⟩ ∧
          (memory.after earlier).Answers request := by
  intro memory
  have sound : memory.Sound := sound_create addresses
  refine ⟨pairwise_grants sound requests, fun span => grants_inside sound, ?_⟩
  intro earlier request later split
  refine ⟨space_after memory earlier, ?_⟩
  apply answers (sound.after earlier)
  apply proper
  rw [split]
  exact List.mem_append_right _ List.mem_cons_self

/-- A request that does not fit any more, between two that do, one of them for
no bytes at all. -/
theorem grants_create_fourThousand :
    let requests : List Request := [⟨128, 100⟩, ⟨2 ^ 63, 1⟩, ⟨0, 0⟩, ⟨64, 3968⟩]
    let memory := create ⟨.cuda, 0⟩ 4096
    baseOf ⟨.cuda, 0⟩ + 4096 < Word.limit ∧
    (∀ request ∈ requests, request.Proper) ∧ memory.grants requests =
      [⟨0x20100000000, 100⟩, ⟨0x20100000064, 0⟩, ⟨0x20100000080, 3968⟩] ∧
    (memory.grants requests).Pairwise Span.Apart ∧
    (memory.after (requests.take 1)).Answers ⟨2 ^ 63, 1⟩ := by
  intro requests memory
  have addresses : baseOf ⟨.cuda, 0⟩ + 4096 < Word.limit := by decide
  have proper : ∀ request ∈ requests, request.Proper := by
    simp only [requests, List.forall_mem_cons]
    exact ⟨.inr ⟨7, by decide, rfl⟩, .inr ⟨63, by decide, rfl⟩, .inl rfl,
      .inr ⟨6, by decide, rfl⟩, fun _ absent => absurd absent List.not_mem_nil⟩
  obtain ⟨apart, _, answered⟩ := grants_create addresses proper
  exact ⟨addresses, proper, by decide, apart, (answered [⟨128, 100⟩] _ _ rfl).2⟩

end Runs

end Memory

end CoherentTasks.Backend
