import Krometrail.Core.Error
import Krometrail.Core.Values

/-!
# Session times and ranges

The order of the session clock, closed ranges of it, their intersection, and the clamping of a time to a range.
-/

namespace Krometrail

namespace SessionTime

instance : LinearOrder SessionTime :=
  LinearOrder.lift' (fun time => time.nanos.toNat) fun a b h => by
    cases a
    cases b
    exact congrArg SessionTime.mk (UInt64.toNat_inj.1 h)

/-- `saturating_add(1)`. -/
def next (time : SessionTime) : SessionTime := if time.nanos = (-1 : UInt64) then time else ⟨time.nanos + 1⟩

theorem le_iff {a b : SessionTime} : a ≤ b ↔ a.nanos.toNat ≤ b.nanos.toNat := Iff.rfl

theorem toNat_next (time : SessionTime) : time.next.nanos.toNat = saturatingAdd time.nanos.toNat 1 := by
  unfold next saturatingAdd u64Max
  split
  · rename_i h
    rw [h]
    decide
  · rename_i h
    have hne : time.nanos.toNat ≠ (-1 : UInt64).toNat := fun heq => h (UInt64.toNat_inj.1 heq)
    have hlt := time.nanos.toNat_lt
    have hmax : (-1 : UInt64).toNat = 2 ^ 64 - 1 := by decide
    show (time.nanos + 1).toNat = _
    rw [UInt64.toNat_add]
    have hone : (1 : UInt64).toNat = 1 := rfl
    omega

/-- The next time, which is the same one at the end of the clock. -/
instance : SuccOrder SessionTime where
  succ := next
  le_succ a := by
    rw [le_iff, toNat_next, saturatingAdd, u64Max]
    have := a.nanos.toNat_lt
    omega
  max_of_succ_le {a} h b _ := by
    rw [le_iff, toNat_next, saturatingAdd, u64Max] at h
    rw [le_iff]
    have := a.nanos.toNat_lt
    have := b.nanos.toNat_lt
    omega
  succ_le_of_lt {a b} h := by
    have hlt := not_le.2 h
    rw [le_iff] at hlt
    rw [le_iff, toNat_next, saturatingAdd, u64Max]
    have := b.nanos.toNat_lt
    omega

end SessionTime

abbrev SessionRange : Type := NonemptyInterval SessionTime

def invalidTime (message : String) : KrometrailError := .new .invalidTime message

def SessionRange.new (start stop : SessionTime) : Result SessionRange :=
  if h : start ≤ stop then .ok ⟨⟨start, stop⟩, h⟩
  else .error (invalidTime "session range start must not exceed its end")

theorem SessionRange.new_eq_ok {start stop : SessionTime} {range : SessionRange}
    (h : SessionRange.new start stop = .ok range) : range.fst = start ∧ range.snd = stop := by
  unfold SessionRange.new at h
  split at h
  · cases h
    exact ⟨rfl, rfl⟩
  · cases h

def rangesIntersect (left right : SessionRange) : Prop := left.fst ≤ right.snd ∧ right.fst ≤ left.snd

instance (left right : SessionRange) : Decidable (rangesIntersect left right) := inferInstanceAs (Decidable (_ ∧ _))

instance (time : SessionTime) (range : SessionRange) : Decidable (time ∈ range) :=
  decidable_of_iff _ NonemptyInterval.mem_def.symm

def intersection (left right : SessionRange) (h : rangesIntersect left right) : SessionRange :=
  ⟨⟨max left.fst right.fst, min left.snd right.snd⟩,
    max_le (le_min left.fst_le_snd h.1) (le_min h.2 right.fst_le_snd)⟩

theorem mem_intersection {left right : SessionRange} {h : rangesIntersect left right} {time : SessionTime} :
    time ∈ intersection left right h ↔ time ∈ left ∧ time ∈ right := by
  simp only [NonemptyInterval.mem_def, intersection, max_le_iff, le_min_iff]
  tauto

theorem rangesIntersect_iff {left right : SessionRange} : rangesIntersect left right ↔ ∃ time, time ∈ left ∧ time ∈ right := by
  constructor
  · intro h
    exact ⟨(intersection left right h).fst, mem_intersection.1 ⟨le_rfl, NonemptyInterval.fst_le_snd _⟩⟩
  · rintro ⟨time, hleft, hright⟩
    exact ⟨hleft.1.trans hright.2, hright.1.trans hleft.2⟩

def clampTime (value : SessionTime) (range : SessionRange) : SessionTime :=
  if value < range.fst then range.fst else if range.snd < value then range.snd else value

theorem clampTime_mem (value : SessionTime) (range : SessionRange) : clampTime value range ∈ range := by
  unfold clampTime
  split
  · exact ⟨le_rfl, range.fst_le_snd⟩
  · rename_i hfirst
    split
    · exact ⟨range.fst_le_snd, le_rfl⟩
    · rename_i hlast
      exact ⟨not_lt.1 hfirst, not_lt.1 hlast⟩

def SessionTime.fromNanos (nanos : Nat) : SessionTime := ⟨UInt64.ofNat nanos⟩

theorem SessionTime.toNat_fromNanos {nanos : Nat} (h : nanos ≤ u64Max) : (fromNanos nanos).nanos.toNat = nanos :=
  UInt64.toNat_ofNat_of_lt' (by unfold u64Max at h; show nanos < 2 ^ 64; omega)

def rangeMidpoint (range : SessionRange) : SessionTime :=
  .fromNanos (range.fst.nanos.toNat + (range.snd.nanos.toNat - range.fst.nanos.toNat) / 2)

theorem rangeMidpoint_mem (range : SessionRange) : rangeMidpoint range ∈ range := by
  have horder := SessionTime.le_iff.1 range.fst_le_snd
  have hlast := range.snd.nanos.toNat_lt
  have hmidpoint : (rangeMidpoint range).nanos.toNat =
      range.fst.nanos.toNat + (range.snd.nanos.toNat - range.fst.nanos.toNat) / 2 :=
    SessionTime.toNat_fromNanos (by unfold u64Max; omega)
  exact ⟨SessionTime.le_iff.2 (by omega), SessionTime.le_iff.2 (by omega)⟩

end Krometrail
