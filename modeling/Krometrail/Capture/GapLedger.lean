import Mathlib.Data.List.Perm.Subperm
import Krometrail.Events.Ledger

/-!
# The ledger of capture gaps

A capture stream keeps the gaps that it has declared and not stored in a bounded ledger.  Consecutive gaps of a saturated
queue are merged into one, and a full ledger merges its two oldest gaps, or the new one into its only one.
-/

namespace Krometrail.CaptureGaps

open Events (hull)

def aggregateEstimatedFrames (first second : Option Nat) : Option Nat :=
  match first, second with
  | some left, some right => some (saturatingAdd left right)
  | some only, none => some only
  | none, some only => some only
  | none, none => none

/-- The later of two times. -/
def later (a b : ObservedTime) : ObservedTime := if a.nanos ≤ b.nanos then b else a

theorem le_later (a b : ObservedTime) : a.nanos ≤ (later a b).nanos ∧ b.nanos ≤ (later a b).nanos := by
  unfold later
  split
  · rename_i hle
    exact ⟨hle, UInt64.le_refl _⟩
  · rename_i hnot
    exact ⟨UInt64.le_refl _, (UInt64.le_total _ _).resolve_left hnot⟩

theorem hull_endsBy (first second : CaptureGap) :
    (hull first.range second.range).snd.nanos ≤ (later first.observedTime second.observedTime).nanos := by
  obtain ⟨hfirst, hsecond⟩ := le_later first.observedTime second.observedTime
  rcases max_choice first.range.snd second.range.snd with hmax | hmax
  · exact congrArg SessionTime.nanos hmax ▸ UInt64.le_trans first.endsBy hfirst
  · exact congrArg SessionTime.nanos hmax ▸ UInt64.le_trans second.endsBy hsecond

/-- The first gap, as far as the second reaches. -/
def coalesced (first second : CaptureGap) : CaptureGap where
  id := first.id
  sessionId := first.sessionId
  targetId := first.targetId
  range := hull first.range second.range
  observedTime := later first.observedTime second.observedTime
  reason := first.reason
  estimatedMissingFrames := aggregateEstimatedFrames first.estimatedMissingFrames second.estimatedMissingFrames
  endsBy := hull_endsBy first second

def mergeGaps (first second : CaptureGap) : Option CaptureGap :=
  if first.reason ≠ second.reason ∨ first.sessionId ≠ second.sessionId ∨ first.targetId ≠ second.targetId then none
  else some (coalesced first second)

/-- A merge in which the first reason stands for both. -/
def conservativeMergeGaps (first second : CaptureGap) : CaptureGap :=
  (mergeGaps first second).getD (coalesced first second)

theorem mergeGaps_eq_some {first second merged : CaptureGap} (h : mergeGaps first second = some merged) :
    merged = coalesced first second := (Option.some.inj (Option.ite_none_left_eq_some.1 h).2).symm

@[simp] theorem conservativeMergeGaps_eq (first second : CaptureGap) :
    conservativeMergeGaps first second = coalesced first second := by
  unfold conservativeMergeGaps mergeGaps
  split <;> rfl

theorem le_hull (a b : SessionRange) : a ≤ hull a b ∧ b ≤ hull a b :=
  ⟨⟨min_le_left _ _, le_max_left _ _⟩, ⟨min_le_right _ _, le_max_right _ _⟩⟩

/-- A `GapLedger`; its capacity is not zero. -/
structure GapLedger where
  capacity : ℕ+
  pending : List CaptureGap
  saturationOpen : Bool

namespace GapLedger

variable (ledger : GapLedger) (gap : CaptureGap)

/-- The last gap, when the new one goes on with its saturation. -/
def saturated : Option CaptureGap :=
  if gap.reason = .ingestionQueueSaturated ∧ ledger.saturationOpen = true then
    ledger.pending.getLast?.bind (mergeGaps · gap)
  else none

/-- What `push` answers with, and the ledger afterwards. -/
def push : CaptureGap × GapLedger :=
  let isSaturation : Bool := gap.reason = .ingestionQueueSaturated
  match ledger.saturated gap with
  | some merged => (merged, { ledger with pending := ledger.pending.dropLast ++ [merged] })
  | none =>
    if ledger.capacity ≤ ledger.pending.length then
      if ledger.capacity = 1 then
        match ledger.pending with
        | previous :: rest =>
          let merged := conservativeMergeGaps previous gap
          (merged, ⟨ledger.capacity, rest ++ [merged], isSaturation⟩)
        | [] => (gap, ⟨ledger.capacity, [gap], isSaturation⟩)
      else
        match ledger.pending with
        | first :: second :: rest =>
          (gap, ⟨ledger.capacity, conservativeMergeGaps first second :: rest ++ [gap], isSaturation⟩)
        | _ => (gap, ⟨ledger.capacity, [gap], isSaturation⟩)
    else (gap, ⟨ledger.capacity, ledger.pending ++ [gap], isSaturation⟩)

def closeSaturation : GapLedger := { ledger with saturationOpen := false }

/-- The ledger after `take`, which answers with the gaps in it. -/
def take : GapLedger := ⟨ledger.capacity, [], false⟩

end GapLedger

/-- The range lies inside that of one of the gaps. -/
def Covered (gaps : List CaptureGap) (range : SessionRange) : Prop := ∃ gap ∈ gaps, range ≤ gap.range

theorem Covered.mono {gaps gaps' : List CaptureGap} {range : SessionRange} (h : Covered gaps range) (hsub : gaps ⊆ gaps') :
    Covered gaps' range := h.imp fun _ h => ⟨hsub h.1, h.2⟩

/-- What `push` does to the gaps of the ledger: the new one comes last, or two are coalesced. -/
inductive Pushed (pending : List CaptureGap) (gap : CaptureGap) (result : List CaptureGap) : Prop
  | last : result = pending ++ [gap] → Pushed pending gap result
  | merged {first second : CaptureGap} {others : List CaptureGap} : (pending ++ [gap]).Perm (first :: second :: others) →
      result.Perm (coalesced first second :: others) → Pushed pending gap result

theorem GapLedger.pushed (ledger : GapLedger) (gap : CaptureGap) : Pushed ledger.pending gap (ledger.push gap).2.pending := by
  unfold push
  dsimp only
  split
  · rename_i merged hsaturated
    obtain ⟨-, hmerged⟩ := Option.ite_none_right_eq_some.1 hsaturated
    obtain ⟨previous, hprevious, hmerged⟩ := Option.bind_eq_some_iff.1 hmerged
    obtain rfl := mergeGaps_eq_some hmerged
    obtain ⟨earlier, hpending⟩ := List.getLast?_eq_some_iff.1 hprevious
    rw [hpending, List.dropLast_concat]
    exact .merged (List.append_assoc earlier [previous] [gap] ▸ List.perm_append_comm) List.perm_append_comm
  · have hpos := ledger.capacity.pos
    split
    · rename_i hfull
      split
      · split
        · rename_i previous rest hpending
          rw [conservativeMergeGaps_eq, hpending]
          have hcomm : (rest ++ [gap]).Perm ([gap] ++ rest) := List.perm_append_comm
          exact .merged (hcomm.cons previous) List.perm_append_comm
        · rename_i hpending
          exact .last (by simp [hpending])
      · rename_i hcapacity
        split
        · rename_i first second rest hpending
          rw [conservativeMergeGaps_eq, hpending]
          exact .merged (List.Perm.refl _) (List.Perm.refl _)
        · rename_i hshort
          have hlong : 2 ≤ ledger.pending.length := by
            have hne : (ledger.capacity : Nat) ≠ 1 := fun h => hcapacity (PNat.coe_eq_one_iff.1 h)
            omega
          match hpending : ledger.pending, hlong with
          | first :: second :: rest, _ => exact (hshort first second rest hpending).elim
    · exact .last rfl

theorem Pushed.covered {pending result : List CaptureGap} {gap : CaptureGap} (h : Pushed pending gap result) {range : SessionRange}
    (hcovered : Covered (pending ++ [gap]) range) : Covered result range := by
  cases h with
  | last hresult => exact hresult ▸ hcovered
  | @merged first second others hpending hresult =>
    have hcoalesced : coalesced first second ∈ result := hresult.symm.subset List.mem_cons_self
    obtain ⟨other, hother, hle⟩ := hcovered
    rcases List.mem_cons.1 (hpending.subset hother) with rfl | hother
    · exact ⟨_, hcoalesced, hle.trans (le_hull _ _).1⟩
    · rcases List.mem_cons.1 hother with rfl | hother
      · exact ⟨_, hcoalesced, hle.trans (le_hull _ _).2⟩
      · exact ⟨other, hresult.symm.subset (by simp [hother]), hle⟩

theorem Pushed.ids {pending result : List CaptureGap} {gap : CaptureGap} (h : Pushed pending gap result) :
    (result.map CaptureGap.id).Subperm (pending.map CaptureGap.id ++ [gap.id]) := by
  have hmap : (pending ++ [gap]).map CaptureGap.id = pending.map CaptureGap.id ++ [gap.id] := by simp
  cases h with
  | last hresult => exact hmap ▸ (hresult ▸ List.Subperm.refl _)
  | merged hpending hresult =>
    refine ((hresult.map CaptureGap.id).subperm).trans (List.Subperm.trans ?_ (hmap ▸ (hpending.map CaptureGap.id).symm.subperm))
    exact ((List.sublist_cons_self _ _).cons_cons _).subperm

end Krometrail.CaptureGaps
