import Krometrail.Lib.BigEndian

/-!
# Identifiers and clocks

UUIDs as sixteen bytes, the identifier types that wrap them, and the clock readings in nanoseconds.
-/

namespace Krometrail

/-- `u64::MAX`. -/
def u64Max : Nat := 2 ^ 64 - 1

def checkedAdd (a b : Nat) : Option Nat := if a + b ≤ u64Max then some (a + b) else none

@[simp] theorem checkedAdd_eq_some {a b c : Nat} : checkedAdd a b = some c ↔ a + b ≤ u64Max ∧ a + b = c := by
  unfold checkedAdd
  split <;> simp_all

def checkedSub (a b : Nat) : Option Nat := if b ≤ a then some (a - b) else none

@[simp] theorem checkedSub_eq_some {a b c : Nat} : checkedSub a b = some c ↔ b ≤ a ∧ a - b = c := by
  unfold checkedSub
  split <;> simp_all

def saturatingAdd (a b : Nat) : Nat := min (a + b) u64Max

structure Uuid where
  bytes : List UInt8
  length_bytes : bytes.length = 16
  deriving DecidableEq

def someUuid (byte : UInt8) : Uuid := ⟨List.replicate 16 byte, List.length_replicate⟩

structure SegmentId where
  uuid : Uuid
  deriving DecidableEq

structure SessionId where
  uuid : Uuid
  deriving DecidableEq

structure TargetId where
  uuid : Uuid
  deriving DecidableEq

structure FrameId where
  uuid : Uuid
  deriving DecidableEq

structure SessionTime where
  nanos : UInt64
  deriving DecidableEq

structure ObservedTime where
  nanos : UInt64
  deriving DecidableEq

/-- `SourceTime(i128)`, in two's complement. -/
structure SourceTime where
  nanos : BitVec 128
  deriving DecidableEq

end Krometrail
