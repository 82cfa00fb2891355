import Krometrail.Index.EvictedRanges
import Krometrail.Lib.Coalescing
import Krometrail.Lib.Intervals
import Krometrail.Lib.Results
import Krometrail.Timeline.Ranges

/-!
# The ranges of protected segments

The retained ranges of the segments that a pin protects are coalesced to the list of their union, which the validator of
a pin state computes again and compares.
-/

namespace Krometrail.Retention

open Coalescing EvictedRanges Results Sorting

structure ProtectedSegment where
  segmentId : SegmentId
  retainedRange : SessionRange
  byteLen : Nat

/-- The range begins right behind the last one. -/
def adjacent (last range : SessionRange) : Bool :=
  (checkedAdd last.snd.nanos.toNat 1).any fun next => decide (range.fst.nanos.toNat ≤ next)

/-- The body of the loop of `coalesce_ranges`. -/
def coalesceRange (coalesced : List SessionRange) (range : SessionRange) : Result (List SessionRange) :=
  match coalesced.getLast? with
  | some last =>
    if range.fst ≤ last.snd ∨ adjacent last range = true then do
      let widened ← SessionRange.new last.fst (max last.snd range.snd)
      return coalesced.dropLast ++ [widened]
    else return coalesced ++ [range]
  | none => return coalesced ++ [range]

def coalesceRanges (segments : List ProtectedSegment) : Result (List SessionRange) :=
  (sortByKey (fun range : SessionRange => toLex (range.fst, range.snd)) (segments.map (·.retainedRange))).foldlM
    coalesceRange []

/-- What `PinState::new` checks of the coalesced ranges. -/
def checkCoalesced (segments : List ProtectedSegment) (coalesced : List SessionRange) : Result Unit := do
  let ranges ← coalesceRanges segments
  refuse (coalesced ≠ ranges) (invalid "coalesced protected ranges must be the true segment union")

variable {segments : List ProtectedSegment} {last range : SessionRange} {coalesced : List SessionRange}

theorem joins_iff : (range.fst ≤ last.snd ∨ adjacent last range = true) ↔ range.fst ≤ Order.succ last.snd := by
  have hnext : (Order.succ last.snd).nanos.toNat = saturatingAdd last.snd.nanos.toNat 1 := SessionTime.toNat_next _
  rw [SessionTime.le_iff, SessionTime.le_iff, hnext]
  unfold adjacent checkedAdd saturatingAdd
  have hrange := range.fst.nanos.toNat_lt
  split <;> simp [u64Max] at * <;> omega

theorem coalesceRange_eq (coalesced : List SessionRange) (range : SessionRange) :
    coalesceRange coalesced range = .ok (absorb Order.succ coalesced range) := by
  rcases List.eq_nil_or_concat coalesced with rfl | ⟨front, last, rfl⟩
  · rfl
  · have hnew : SessionRange.new last.fst (max last.snd range.snd) = .ok (widen last range) := dif_pos _
    rw [List.concat_eq_append]
    simp only [coalesceRange, absorb, List.getLast?_append, List.getLast?_singleton, Option.some_or, joins_iff, hnew]
    split <;> rfl

theorem coalesceRanges_eq (segments : List ProtectedSegment) :
    coalesceRanges segments = .ok (coalesce Order.succ (segments.map (·.retainedRange))) := by
  have hfold : ∀ (ranges coalesced : List SessionRange),
      ranges.foldlM coalesceRange coalesced = .ok (ranges.foldl (absorb Order.succ) coalesced) := by
    intro ranges
    induction ranges with
    | nil => exact fun _ => rfl
    | cons range ranges ih =>
      intro coalesced
      rw [List.foldlM_cons, coalesceRange_eq, ok_bind, ih, List.foldl_cons]
  exact hfold _ _

/-- The times of the segments. -/
def Protected (segments : List ProtectedSegment) (time : SessionTime) : Prop :=
  ∃ segment ∈ segments, time ∈ segment.retainedRange

theorem mem_points_iff {time : SessionTime} :
    time ∈ points id (segments.map (·.retainedRange)) ↔ Protected segments time := by
  unfold points Protected
  simp [NonemptyInterval.mem_def]

/-- Coalescing succeeds, with the sorted list of ranges that do not touch and have the times of the segments, for every
list of segments with these times; and the validator accepts that list only. -/
theorem coalesce_ranges_exact (segments : List ProtectedSegment) : ∃ ranges, coalesceRanges segments = .ok ranges ∧
    ranges.Pairwise Intervals.Before ∧ (∀ time, (∃ range ∈ ranges, time ∈ range) ↔ Protected segments time) ∧
    (∀ others, (∀ time, Protected others time ↔ Protected segments time) → coalesceRanges others = .ok ranges) ∧
    (∀ others, others.Perm segments → coalesceRanges others = .ok ranges) ∧
    (∀ again : List ProtectedSegment, again.map (·.retainedRange) = ranges → coalesceRanges again = .ok ranges) ∧
    ∀ coalesced, checkCoalesced segments coalesced = .ok () ↔ coalesced = ranges := by
  have hsame : ∀ others, (∀ time, Protected others time ↔ Protected segments time) →
      coalesceRanges others = .ok (coalesce Order.succ (segments.map (·.retainedRange))) := by
    intro others h
    rw [coalesceRanges_eq, coalesce_eq_of_points]
    ext time
    rw [mem_points_iff, mem_points_iff, h]
  refine ⟨_, coalesceRanges_eq segments, beyond_coalesce succ_reaches _, fun time => ?_, hsame, fun others h => ?_,
    fun again h => ?_, fun coalesced => ?_⟩
  · rw [← mem_points_iff, ← points_coalesce succ_reaches]
    rfl
  · exact hsame others fun time => exists_congr fun segment => and_congr_left' h.mem_iff
  · rw [coalesceRanges_eq, h, coalesce_of_beyond (beyond_coalesce succ_reaches _)]
  · rw [checkCoalesced, coalesceRanges_eq, ok_bind, refuse_eq_ok, not_not]

/-- The ranges that the table keeps for a target, to which each eviction is added where it falls, are those that coalescing
the retained ranges of all the evicted segments at once gives. -/
theorem evicted_ranges_coalesced (targets : List (SessionId × TargetId)) (recordings : List Recording) (sessionId : SessionId)
    (targetId : TargetId) (segments : List ProtectedSegment)
    (hsegments : ∀ time, Protected segments time ↔
      (sessionId, targetId) ∈ targets ∧ Recorded recordings sessionId targetId time) :
    coalesceRanges segments = .ok (evictedRanges (recordAll targets recordings) sessionId targetId) := by
  obtain ⟨hcoalesced, hcovered⟩ := recordAll_exact targets recordings
  rw [coalesceRanges_eq]
  refine congrArg Except.ok (eq_of_points (beyond_coalesce succ_reaches _) (hcoalesced.selected sessionId targetId) ?_)
  rw [points_coalesce succ_reaches]
  ext time
  rw [mem_points_iff, hsegments, ← hcovered]
  simp only [points, evictedRanges, List.mem_map, mem_selectRows, Covered, Set.mem_ofPred_eq, id]
  constructor
  · rintro ⟨row, hmem, hof, hin⟩
    exact ⟨_, ⟨row, ⟨hmem, hof⟩, rfl⟩, hin⟩
  · rintro ⟨_, ⟨row, ⟨hmem, hof⟩, rfl⟩, hin⟩
    exact ⟨row, hmem, hof, hin⟩

theorem evicted_ranges_coalesced_two :
    coalesceRanges [⟨⟨someUuid 4⟩, .pure ⟨6⟩, 0⟩, ⟨⟨someUuid 3⟩, .pure ⟨5⟩, 0⟩] = .ok (evictedRanges
      (recordAll [(⟨someUuid 1⟩, ⟨someUuid 2⟩)] [⟨⟨someUuid 1⟩, ⟨someUuid 2⟩, .pure ⟨5⟩, .largest⟩,
        ⟨⟨someUuid 1⟩, ⟨someUuid 2⟩, .pure ⟨6⟩, .largest⟩]) ⟨someUuid 1⟩ ⟨someUuid 2⟩) :=
  evicted_ranges_coalesced _ _ _ _ _ fun time => by simp [Protected, Recorded, or_comm]

end Krometrail.Retention
