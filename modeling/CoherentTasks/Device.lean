/-!
# Devices

A device belongs to a backend family, here called its platform, and has an index
there. Devices are ordered by platform, then by index.
-/

namespace CoherentTasks

/-- A backend family. The host is the machine that runs the scheduler. -/
inductive Platform where
  | host
  | cuda
  | hip
  | levelZero
  deriving DecidableEq, Repr

namespace Platform

def name : Platform → String
  | .host => "host"
  | .cuda => "cuda"
  | .hip => "hip"
  | .levelZero => "level_zero"

def rank : Platform → Nat
  | .host => 0
  | .cuda => 1
  | .hip => 2
  | .levelZero => 3

/-- Every platform, in ascending order. -/
def all : List Platform := [.host, .cuda, .hip, .levelZero]

theorem mem_all (platform : Platform) : platform ∈ all := by
  cases platform <;> simp [all]

theorem rank_lt (platform : Platform) : platform.rank < 4 := by
  cases platform <;> decide

theorem rank_injective {left right : Platform} (same : left.rank = right.rank) :
    left = right := by
  cases left <;> cases right <;> first | rfl | exact absurd same (by decide)

end Platform

structure Device where
  platform : Platform
  index : UInt32
  deriving DecidableEq, Repr

namespace Device

/-- The device that always exists. -/
def hostDevice : Device := ⟨.host, 0⟩

def isHost (device : Device) : Bool :=
  device.platform == .host

def name (device : Device) : String :=
  device.platform.name ++ ":" ++ toString device.index.toNat

/-- A number that orders devices by platform, then by index. -/
def rank (device : Device) : Nat :=
  device.platform.rank * UInt32.size + device.index.toNat

theorem rank_injective {left right : Device} (same : left.rank = right.rank) :
    left = right := by
  obtain ⟨leftPlatform, leftIndex⟩ := left
  obtain ⟨rightPlatform, rightIndex⟩ := right
  have leftBound := leftIndex.toNat_lt
  have rightBound := rightIndex.toNat_lt
  simp only [rank, UInt32.size] at same
  have platforms : leftPlatform = rightPlatform :=
    Platform.rank_injective (by omega)
  subst platforms
  have indices : leftIndex.toNat = rightIndex.toNat := by omega
  rw [UInt32.toNat_inj.mp indices]

instance : Ord Device := ⟨fun left right => compare left.rank right.rank⟩

theorem compare_eq_compare_rank (left right : Device) :
    compare left right = compare left.rank right.rank := rfl

instance : Std.TransOrd Device where
  eq_swap {left right} := by
    rw [compare_eq_compare_rank, compare_eq_compare_rank]
    exact Std.OrientedOrd.eq_swap
  isLE_trans {first second third} := by
    simp only [compare_eq_compare_rank]
    exact Std.TransOrd.isLE_trans

instance : Std.LawfulEqOrd Device where
  compare_self {device} := by
    rw [compare_eq_compare_rank]
    exact Std.compare_self
  eq_of_compare {left right} equal := by
    rw [compare_eq_compare_rank] at equal
    exact rank_injective (Std.compare_eq_iff_eq.mp equal)

end Device

end CoherentTasks
