import CoherentTasks.Proofs.Backend.Memory

/-!
# Address ranges of different devices

A device hands out addresses from its first one on, up to its capacity. What two
devices hand out is apart for all requests exactly if the two whole ranges are.
The first address is made of platform and index in bit fields, so this holds for
small indices and memories of up to four gibibytes; a greater index runs into
the bits of the platform.
-/

namespace CoherentTasks.Backend

namespace Span

variable {first second outer other : Span}

theorem Apart.inside (apart : outer.Apart other)
    (firstInside : first.Inside outer) (secondInside : second.Inside other) :
    first.Apart second :=
  fun address inFirst inSecond =>
    apart address (firstInside.mem inFirst) (secondInside.mem inSecond)

end Span

namespace Memory

/-- One request can take the whole of an unused memory. -/
private theorem grants_whole {memory : Memory} (sound : memory.Sound)
    (unused : memory.used = 0) :
    memory.grants [⟨1, memory.capacity⟩] = [memory.space] := by
  have proper : Request.Proper ⟨1, memory.capacity⟩ := .inr ⟨0, by decide, rfl⟩
  have atStart : memory.offset ⟨1, memory.capacity⟩ = 0 := by
    simp [offset, alignUp, unused]
  rcases serve_cases memory ⟨1, memory.capacity⟩
    with ⟨_, refused⟩ | ⟨served, fits⟩
  · have exceeds := (allocate?_eq_none_iff sound proper).mp refused
    rw [atStart] at exceeds
    simp at exceeds
  · have start := sound.wrap_address fits
    simp only [grants, served]
    rw [start, atStart]
    rfl

/-- The place of a device among the stretches of four gibibytes. -/
def slot (device : Device) : Nat :=
  (device.platform.rank + 1) * 256 + (device.index.toNat + 1)

/-- The bit fields of a small index and of the platform do not meet. -/
private theorem baseOf_of_small {device : Device}
    (small : device.index.toNat < 255) :
    baseOf device = 2 ^ 32 * slot device := by
  have rank := device.platform.rank_lt
  have low : (device.index.toNat + 1) <<< 32 < 2 ^ 40 := by
    rw [Nat.shiftLeft_eq]
    omega
  have sum :
      (device.platform.rank + 1) <<< 40 ||| (device.index.toNat + 1) <<< 32 =
        2 ^ 32 * slot device := by
    rw [← Nat.shiftLeft_add_eq_or_of_lt low, Nat.shiftLeft_eq, Nat.shiftLeft_eq]
    simp only [slot]
    omega
  simp only [baseOf]
  rw [sum]
  apply Nat.mod_eq_of_lt
  simp only [slot, Word.limit, UInt64.size]
  omega

/-- The first addresses of different devices with small indices are at least
four gibibytes apart. -/
private theorem baseOf_gap {first second : Device} (different : first ≠ second)
    (smallFirst : first.index.toNat < 255)
    (smallSecond : second.index.toNat < 255) :
    baseOf first + 2 ^ 32 ≤ baseOf second ∨
    baseOf second + 2 ^ 32 ≤ baseOf first := by
  have otherSlot : slot first ≠ slot second := by
    intro same
    simp only [slot] at same
    apply different
    apply Device.rank_injective
    have sameRank : first.platform.rank = second.platform.rank := by omega
    have sameIndex : first.index.toNat = second.index.toNat := by omega
    simp only [Device.rank]
    rw [sameRank, sameIndex]
  rw [baseOf_of_small smallFirst, baseOf_of_small smallSecond, ← Nat.mul_succ,
    ← Nat.mul_succ]
  exact (Nat.lt_or_gt_of_ne otherSlot).imp (Nat.mul_le_mul_left _)
    (Nat.mul_le_mul_left _)

private theorem apart_of_small {first second : Device} {capacity other : Nat}
    (different : first ≠ second) (smallFirst : first.index.toNat < 255)
    (smallSecond : second.index.toNat < 255) (fits : capacity ≤ 2 ^ 32)
    (otherFits : other ≤ 2 ^ 32) :
    (Span.mk (baseOf first) capacity).Apart ⟨baseOf second, other⟩ := by
  rcases baseOf_gap different smallFirst smallSecond with before | behind
  · apply Span.apart_of_stop_le
    exact Nat.le_trans (Nat.add_le_add_left fits _) before
  · apply Span.Apart.symm
    apply Span.apart_of_stop_le
    exact Nat.le_trans (Nat.add_le_add_left otherFits _) behind

/-- What two devices grant has no address in common, whatever is requested,
exactly if their whole memories have none. For different devices with indices
below 255 and at most four gibibytes each this is so. -/
theorem apart_grants_iff {first second : Device} {capacity other : Nat}
    (addresses : baseOf first + capacity < Word.limit)
    (otherAddresses : baseOf second + other < Word.limit) :
    ((∀ requests otherRequests : List Request,
      ∀ span ∈ (create first capacity).grants requests,
        ∀ otherSpan ∈ (create second other).grants otherRequests,
          span.Apart otherSpan) ↔
      (Span.mk (baseOf first) capacity).Apart ⟨baseOf second, other⟩) ∧
    (first ≠ second → first.index.toNat < 255 → second.index.toNat < 255 →
      capacity ≤ 2 ^ 32 → other ≤ 2 ^ 32 →
      (Span.mk (baseOf first) capacity).Apart ⟨baseOf second, other⟩) := by
  refine ⟨⟨fun every => ?_,
    fun apart requests otherRequests span granted otherSpan otherGranted => ?_⟩,
    apart_of_small⟩
  · have whole := grants_whole (sound_create addresses) rfl
    have otherWhole := grants_whole (sound_create otherAddresses) rfl
    exact every _ _ _ (whole ▸ List.mem_singleton_self _) _
      (otherWhole ▸ List.mem_singleton_self _)
  · exact apart.inside (grants_inside (sound_create addresses) granted)
      (grants_inside (sound_create otherAddresses) otherGranted)

/-- Neighbouring devices with four gibibytes each. -/
theorem apart_grants_neighbours :
    baseOf ⟨.cuda, 0⟩ + 2 ^ 32 < Word.limit ∧
    baseOf ⟨.cuda, 1⟩ + 2 ^ 32 < Word.limit ∧
    ∀ requests otherRequests : List Request,
      ∀ span ∈ (create ⟨.cuda, 0⟩ (2 ^ 32)).grants requests,
        ∀ otherSpan ∈ (create ⟨.cuda, 1⟩ (2 ^ 32)).grants otherRequests,
          span.Apart otherSpan := by
  have addresses : baseOf ⟨.cuda, 0⟩ + 2 ^ 32 < Word.limit := by decide
  have otherAddresses : baseOf ⟨.cuda, 1⟩ + 2 ^ 32 < Word.limit := by decide
  obtain ⟨apart_iff, small⟩ := apart_grants_iff addresses otherAddresses
  refine ⟨addresses, otherAddresses, apart_iff.mpr (small ?_ ?_ ?_ ?_ ?_)⟩ <;>
    decide

/-- Different devices do not always have addresses of their own: the index 255
sets the lowest bit of the field of the platform, which is set for one platform
already and not for the other. -/
theorem not_always_apart :
    ¬ ∀ (first second : Device) (capacity other : Nat),
      first ≠ second → baseOf first + capacity < Word.limit →
      baseOf second + other < Word.limit →
      ∀ requests otherRequests : List Request,
        ∀ span ∈ (create first capacity).grants requests,
          ∀ otherSpan ∈ (create second other).grants otherRequests,
            span.Apart otherSpan := by
  intro always
  have apart :=
    always ⟨.cuda, 255⟩ ⟨.hip, 255⟩ 128 128 (by decide) (by decide) (by decide)
      [⟨1, 8⟩] [⟨1, 8⟩] ⟨0x30000000000, 8⟩ (by decide)
      ⟨0x30000000000, 8⟩ (by decide)
  exact apart 0x30000000000 (by decide) (by decide)

end Memory

end CoherentTasks.Backend
