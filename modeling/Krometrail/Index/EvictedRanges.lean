import Krometrail.Lib.Intervals
import Krometrail.Lib.Keyed
import Krometrail.Lib.Sorting
import Krometrail.Segments.Wire
import Krometrail.Timeline.Ranges

/-!
# The ranges of evicted frames

The table `evicted_frame_ranges` and the coalescing of a range with the stored ones that it touches.  The rows of a
target are always apart from each other, and their times are those of the ranges that were recorded.
-/

namespace Krometrail.EvictedRanges

open Intervals Keyed Sorting

/-- A row of `evicted_frame_ranges`; `CHECK(start_time_be <= end_time_be)` is the order of its range. -/
structure EvictedRow where
  evictionId : Int
  sessionId : SessionId
  targetId : TargetId
  range : SessionRange

/-- How SQLite chooses the key of a new row: it is not the key of any row. -/
structure RowidChoice where
  choose : List Int → Int
  fresh : ∀ ids, choose ids ∉ ids

/-- One more than the largest key. -/
def largestRowid (ids : List Int) : Int := ids.foldr max 0 + 1

theorem lt_largestRowid {ids : List Int} {id : Int} (h : id ∈ ids) : id < largestRowid ids := by
  unfold largestRowid
  induction ids with
  | nil => cases h
  | cons other ids ih =>
    rw [List.foldr_cons]
    rcases List.mem_cons.1 h with rfl | h
    · omega
    · have := ih h
      omega

def RowidChoice.largest : RowidChoice := ⟨largestRowid, fun _ h => lt_irrefl _ (lt_largestRowid h)⟩

/-- `WHERE session_id=?1 AND target_id=?2`. -/
def ofTarget (sessionId : SessionId) (targetId : TargetId) (rows : List EvictedRow) : List EvictedRow :=
  rows.filter fun row => row.sessionId = sessionId ∧ row.targetId = targetId

/-- The rows of a target, `ORDER BY start_time_be, end_time_be, eviction_id`. -/
def selectRows (sessionId : SessionId) (targetId : TargetId) (rows : List EvictedRow) : List EvictedRow :=
  sortByKey (fun row => toLex (row.range.fst, toLex (row.range.snd, row.evictionId))) (ofTarget sessionId targetId rows)

def evictedRanges (rows : List EvictedRow) (sessionId : SessionId) (targetId : TargetId) : List SessionRange :=
  (selectRows sessionId targetId rows).map EvictedRow.range

/-- The locals `start` and `end`, and `merged_ids`. -/
structure Merging where
  range : SessionRange
  mergedIds : List Int

/-- The body of the loop: a row that touches the range widens it, to the lesser start and the greater end. -/
def Merging.absorb (merging : Merging) (row : EvictedRow) : Merging :=
  if row.range.fst ≤ merging.range.snd.next ∧ merging.range.fst ≤ row.range.snd.next then
    { range := merging.range ⊔ row.range, mergedIds := merging.mergedIds ++ [row.evictionId] }
  else merging

/-- `INSERT OR IGNORE`, which `UNIQUE(session_id, target_id, start_time_be, end_time_be)` may ignore. -/
def insertRow (rowid : RowidChoice) (sessionId : SessionId) (targetId : TargetId) (range : SessionRange)
    (rows : List EvictedRow) : List EvictedRow :=
  if ∃ row ∈ ofTarget sessionId targetId rows, row.range = range then rows
  else rows ++ [⟨rowid.choose (rows.map EvictedRow.evictionId), sessionId, targetId, range⟩]

/-- `record_evicted_frame_range_tx`, in a transaction on a database with these targets.  A range of another target
violates the foreign key. -/
def recordEvictedFrameRangeTx (targets : List (SessionId × TargetId)) (rowid : RowidChoice) (sessionId : SessionId)
    (targetId : TargetId) (range : SessionRange) (rows : List EvictedRow) : Result (List EvictedRow) :=
  let merging := (selectRows sessionId targetId rows).foldl Merging.absorb ⟨range, []⟩
  let kept := rows.filter fun row => row.evictionId ∉ merging.mergedIds
  if (sessionId, targetId) ∈ targets then .ok (insertRow rowid sessionId targetId merging.range kept)
  else .error (persistenceError "could not persist eviction range")

variable {rows rows' : List EvictedRow} {row : EvictedRow} {range : SessionRange} {sessionId : SessionId}
  {targetId : TargetId} {time : SessionTime} {rowid : RowidChoice} {targets : List (SessionId × TargetId)}

theorem Merging.absorb_of_touch {merging : Merging} (h : Touch merging.range row.range) :
    merging.absorb row = ⟨merging.range ⊔ row.range, merging.mergedIds ++ [row.evictionId]⟩ := if_pos h

theorem Merging.absorb_of_not_touch {merging : Merging} (h : ¬ Touch merging.range row.range) :
    merging.absorb row = merging := if_neg h

/-- What holds after the loop has seen these rows. -/
structure Absorbed (range : SessionRange) (seen : List EvictedRow) (merging : Merging) : Prop where
  ids : ∀ id ∈ merging.mergedIds, ∃ row ∈ seen, row.evictionId = id
  times : ∀ time, time ∈ merging.range ↔
    time ∈ range ∨ ∃ row ∈ seen, row.evictionId ∈ merging.mergedIds ∧ time ∈ row.range
  apart : ∀ row ∈ seen, row.evictionId ∉ merging.mergedIds → Apart row.range merging.range

theorem Absorbed.step {seen : List EvictedRow} {merging : Merging} (h : Absorbed range seen merging)
    (hnew : ∀ other ∈ seen, other.evictionId ≠ row.evictionId) (hafter : ∀ other ∈ seen, Before other.range row.range) :
    Absorbed range (seen ++ [row]) (merging.absorb row) := by
  by_cases htouch : Touch merging.range row.range
  · rw [Merging.absorb_of_touch htouch]
    refine ⟨?_, ?_, ?_⟩
    · intro id hid
      rcases List.mem_append.1 hid with hid | hid
      · obtain ⟨other, hother, heq⟩ := h.ids id hid
        exact ⟨other, List.mem_append_left _ hother, heq⟩
      · exact ⟨row, by simp, (List.mem_singleton.1 hid).symm⟩
    · intro time
      rw [mem_sup htouch, h.times]
      constructor
      · rintro ((hin | ⟨other, hother, hid, hin⟩) | hin)
        · exact .inl hin
        · exact .inr ⟨other, List.mem_append_left _ hother, List.mem_append_left _ hid, hin⟩
        · exact .inr ⟨row, by simp, by simp, hin⟩
      · rintro (hin | ⟨other, hother, hid, hin⟩)
        · exact .inl (.inl hin)
        · rcases List.mem_append.1 hother with hother | hother
          · have hold : other.evictionId ∈ merging.mergedIds := by simpa [hnew other hother] using hid
            exact .inl (.inr ⟨other, hother, hold, hin⟩)
          · exact .inr (List.mem_singleton.1 hother ▸ hin)
    · intro other hother hid
      simp only [List.mem_append, List.mem_singleton, not_or] at hother hid
      rcases hother with hother | rfl
      · rcases h.apart other hother hid.1 with hbefore | hbehind
        · exact .inl (hbefore.sup (hafter other hother))
        · -- a row behind the range is before this one, which then cannot touch the range
          have hbetween : row.range.fst ≤ other.range.fst := htouch.1.trans hbehind.le
          exact absurd (other.range.fst_le_snd.trans_lt (hafter other hother).lt) (not_lt.2 hbetween)
      · exact absurd rfl hid.2
  · rw [Merging.absorb_of_not_touch htouch]
    have hrow : row.evictionId ∉ merging.mergedIds := by
      intro hid
      obtain ⟨other, hother, heq⟩ := h.ids _ hid
      exact hnew other hother heq
    refine ⟨?_, ?_, ?_⟩
    · intro id hid
      obtain ⟨other, hother, heq⟩ := h.ids id hid
      exact ⟨other, List.mem_append_left _ hother, heq⟩
    · intro time
      rw [h.times]
      simp [or_and_right, exists_or, hrow]
    · intro other hother hid
      rcases List.mem_append.1 hother with hother | hother
      · exact h.apart other hother hid
      · obtain rfl := List.mem_singleton.1 hother
        exact not_touch.1 htouch

theorem absorbed_foldl (hkeys : UniqueKeys EvictedRow.evictionId rows)
    (hbefore : rows.Pairwise fun a b => Before a.range b.range) :
    Absorbed range rows (rows.foldl Merging.absorb ⟨range, []⟩) := by
  induction rows using List.reverseRecOn with
  | nil => exact ⟨nofun, fun _ => by simp, nofun⟩
  | append_singleton rows row ih =>
    rw [List.foldl_append]
    obtain ⟨hbefore, -, hafter⟩ := List.pairwise_append.1 hbefore
    have hseen := ih (hkeys.sublist (List.sublist_append_left _ _)) hbefore
    refine hseen.step ?_ fun other hother => hafter other hother row List.mem_cons_self
    rw [UniqueKeys, List.map_append, List.nodup_append] at hkeys
    exact fun other hother => hkeys.2.2 _ (List.mem_map_of_mem hother) _ (by simp)

theorem mem_ofTarget : row ∈ ofTarget sessionId targetId rows ↔
    row ∈ rows ∧ row.sessionId = sessionId ∧ row.targetId = targetId := by
  simp [ofTarget]

theorem mem_selectRows : row ∈ selectRows sessionId targetId rows ↔
    row ∈ rows ∧ row.sessionId = sessionId ∧ row.targetId = targetId := by
  rw [selectRows, mem_sortByKey, mem_ofTarget]

/-- The time lies in a stored range of the target. -/
def Covered (rows : List EvictedRow) (sessionId : SessionId) (targetId : TargetId) (time : SessionTime) : Prop :=
  ∃ row ∈ rows, (row.sessionId = sessionId ∧ row.targetId = targetId) ∧ time ∈ row.range

/-- Keys are unique, and the ranges of a target are apart from each other. -/
structure Coalesced (rows : List EvictedRow) : Prop where
  keys : UniqueKeys EvictedRow.evictionId rows
  apart : ∀ sessionId targetId, (ofTarget sessionId targetId rows).Pairwise fun a b => Apart a.range b.range

theorem coalesced_nil : Coalesced [] := ⟨unique_nil, fun _ _ => List.Pairwise.nil⟩

theorem Coalesced.selected (h : Coalesced rows) (sessionId : SessionId) (targetId : TargetId) :
    (evictedRanges rows sessionId targetId).Pairwise Before := by
  unfold evictedRanges
  refine pairwise_before ?_ ?_
  · rw [List.pairwise_map]
    refine (pairwise_sortByKey _ _).imp ?_
    intro a b hle
    rcases Prod.Lex.toLex_le_toLex.1 hle with hlt | ⟨heq, -⟩
    · exact hlt.le
    · exact heq.le
  · rw [List.pairwise_map, selectRows, (perm_sortByKey _ _).pairwise_iff fun hab => hab.symm]
    exact h.apart sessionId targetId

theorem Coalesced.absorbed (h : Coalesced rows) (sessionId : SessionId) (targetId : TargetId) (range : SessionRange) :
    Absorbed range (selectRows sessionId targetId rows)
      ((selectRows sessionId targetId rows).foldl Merging.absorb ⟨range, []⟩) := by
  refine absorbed_foldl ?_ (List.pairwise_map.1 (h.selected sessionId targetId))
  exact ((perm_sortByKey _ _).map _).nodup_iff.2 (h.keys.filter _)

theorem recordEvictedFrameRangeTx_eq (h : Coalesced rows)
    (hrecorded : recordEvictedFrameRangeTx targets rowid sessionId targetId range rows = .ok rows') :
    ∃ merging id, Absorbed range (selectRows sessionId targetId rows) merging ∧
      (∀ row ∈ rows, row.evictionId ∉ merging.mergedIds → row.evictionId ≠ id) ∧
      rows' = (rows.filter fun row => row.evictionId ∉ merging.mergedIds) ++ [⟨id, sessionId, targetId, merging.range⟩] := by
  unfold recordEvictedFrameRangeTx at hrecorded
  dsimp only at hrecorded
  have habsorbed := h.absorbed sessionId targetId range
  generalize (selectRows sessionId targetId rows).foldl Merging.absorb ⟨range, []⟩ = merging at hrecorded habsorbed
  split at hrecorded
  · cases hrecorded
    refine ⟨merging, rowid.choose _, habsorbed, ?_, if_neg ?_⟩
    · intro row hrow hid heq
      have hkept : row ∈ rows.filter fun row => row.evictionId ∉ merging.mergedIds :=
        List.mem_filter.2 ⟨hrow, decide_eq_true hid⟩
      have hused := List.mem_map_of_mem (f := EvictedRow.evictionId) hkept
      rw [heq] at hused
      exact rowid.fresh _ hused
    · -- a stored range that is the merged one would have been absorbed
      rintro ⟨row, hrow, heq⟩
      obtain ⟨hkept, hof⟩ := mem_ofTarget.1 hrow
      obtain ⟨hmem, hid⟩ := List.mem_filter.1 hkept
      have hapart := habsorbed.apart row (mem_selectRows.2 ⟨hmem, hof⟩) (of_decide_eq_true hid)
      exact not_apart_self (heq ▸ hapart)
  · cases hrecorded

theorem Coalesced.record (h : Coalesced rows)
    (hrecorded : recordEvictedFrameRangeTx targets rowid sessionId targetId range rows = .ok rows') : Coalesced rows' := by
  obtain ⟨merging, id, habsorbed, hnew, rfl⟩ := recordEvictedFrameRangeTx_eq h hrecorded
  constructor
  · refine (h.keys.filter _).insert fun row hrow => ?_
    obtain ⟨hmem, hid⟩ := List.mem_filter.1 hrow
    exact hnew row hmem (of_decide_eq_true hid)
  · intro otherSession otherTarget
    unfold ofTarget
    rw [List.filter_append, List.pairwise_append]
    refine ⟨((h.apart otherSession otherTarget).sublist (List.filter_sublist.filter _)), ?_, ?_⟩
    · exact (List.pairwise_singleton _ _).sublist List.filter_sublist
    · intro row hrow merged hmerged
      obtain ⟨hsingle, hof⟩ := List.mem_filter.1 hmerged
      obtain rfl := List.mem_singleton.1 hsingle
      obtain ⟨hkept, hof'⟩ := List.mem_filter.1 hrow
      obtain ⟨hmem, hid⟩ := List.mem_filter.1 hkept
      obtain ⟨rfl, rfl⟩ := of_decide_eq_true hof
      exact habsorbed.apart row (mem_selectRows.2 ⟨hmem, of_decide_eq_true hof'⟩) (of_decide_eq_true hid)

theorem Coalesced.covered_record (h : Coalesced rows)
    (hrecorded : recordEvictedFrameRangeTx targets rowid sessionId targetId range rows = .ok rows')
    (otherSession : SessionId) (otherTarget : TargetId) :
    Covered rows' otherSession otherTarget time ↔ Covered rows otherSession otherTarget time ∨
      ((sessionId = otherSession ∧ targetId = otherTarget) ∧ time ∈ range) := by
  obtain ⟨merging, id, habsorbed, -, rfl⟩ := recordEvictedFrameRangeTx_eq h hrecorded
  constructor
  · rintro ⟨row, hrow, hof, hin⟩
    rcases List.mem_append.1 hrow with hrow | hrow
    · exact .inl ⟨row, (List.mem_filter.1 hrow).1, hof, hin⟩
    · obtain rfl := List.mem_singleton.1 hrow
      rcases (habsorbed.times time).1 hin with hin | ⟨other, hother, -, hin⟩
      · exact .inr ⟨hof, hin⟩
      · obtain ⟨hmem, hof'⟩ := mem_selectRows.1 hother
        exact .inl ⟨other, hmem, ⟨hof'.1.trans hof.1, hof'.2.trans hof.2⟩, hin⟩
  · rintro (⟨row, hmem, hof, hin⟩ | ⟨hof, hin⟩)
    · by_cases hid : row.evictionId ∈ merging.mergedIds
      · -- the absorbed row with this key is the row itself
        obtain ⟨other, hother, heq⟩ := habsorbed.ids _ hid
        obtain ⟨hother', hof'⟩ := mem_selectRows.1 hother
        obtain rfl := h.keys.eq_of_key_eq hother' hmem heq
        refine ⟨_, List.mem_append_right _ List.mem_cons_self, ⟨hof'.1.symm.trans hof.1, hof'.2.symm.trans hof.2⟩, ?_⟩
        exact (habsorbed.times time).2 (.inr ⟨other, hother, hid, hin⟩)
      · refine ⟨row, List.mem_append_left _ (List.mem_filter.2 ⟨hmem, decide_eq_true hid⟩), hof, hin⟩
    · exact ⟨_, List.mem_append_right _ List.mem_cons_self, hof, (habsorbed.times time).2 (.inl hin)⟩

/-- A call of `record_evicted_frame_range_tx`, with the key that SQLite chooses. -/
structure Recording where
  sessionId : SessionId
  targetId : TargetId
  range : SessionRange
  rowid : RowidChoice

/-- A call that is refused leaves the table as it was. -/
def recordAll (targets : List (SessionId × TargetId)) (recordings : List Recording) : List EvictedRow :=
  recordings.foldl (fun rows recording =>
    match recordEvictedFrameRangeTx targets recording.rowid recording.sessionId recording.targetId recording.range rows with
    | .ok rows => rows
    | .error _ => rows) []

/-- Neighbours are joined at both ends of the clock. -/
example :
    let record (first last : UInt64) (h : first ≤ last) : Recording :=
      ⟨⟨someUuid 1⟩, ⟨someUuid 2⟩, ⟨⟨⟨first⟩, ⟨last⟩⟩, UInt64.le_iff_toNat_le.1 h⟩, .largest⟩
    (evictedRanges (recordAll [(⟨someUuid 1⟩, ⟨someUuid 2⟩)]
      [record 7 9 (by decide), record 0 3 (by decide), record (-1) (-1) (by decide), record (-9) (-2) (by decide),
        record 4 5 (by decide)]) ⟨someUuid 1⟩ ⟨someUuid 2⟩).map (fun range => (range.fst.nanos, range.snd.nanos)) =
      [(0, 5), (7, 9), (-9, -1)] := by
  decide +kernel

/-- The time lies in a range that was recorded for the target. -/
def Recorded (recordings : List Recording) (sessionId : SessionId) (targetId : TargetId) (time : SessionTime) : Prop :=
  ∃ recording ∈ recordings, (recording.sessionId = sessionId ∧ recording.targetId = targetId) ∧ time ∈ recording.range

theorem target_of_recorded (h : recordEvictedFrameRangeTx targets rowid sessionId targetId range rows = .ok rows') :
    (sessionId, targetId) ∈ targets := by
  by_contra hmem
  cases (if_neg hmem).symm.trans h

theorem not_refused {error : KrometrailError} (hmem : (sessionId, targetId) ∈ targets) :
    recordEvictedFrameRangeTx targets rowid sessionId targetId range rows ≠ .error error := by
  intro h
  cases (if_pos hmem).symm.trans h

theorem frameAvailability_new {ranges : List SessionRange} (retainedBounds : Option SessionRange)
    (h : ranges.Pairwise Before) :
    FrameAvailability.new retainedBounds ranges = .ok { retainedBounds, evictedRanges := ranges } := by
  have hchain : ranges.IsChain fun first second => ¬ (second.fst < first.fst ∨ second.fst ≤ first.snd.next) := by
    refine h.isChain.imp fun first second hbefore => ?_
    rw [not_or, not_lt, not_le]
    exact ⟨first.fst_le_snd.trans hbefore.lt.le, hbefore⟩
  unfold FrameAvailability.new refuse
  rw [if_neg (not_not.2 hchain)]
  rfl

theorem recordAll_exact (targets : List (SessionId × TargetId)) (recordings : List Recording) :
    Coalesced (recordAll targets recordings) ∧ ∀ sessionId targetId time,
      Covered (recordAll targets recordings) sessionId targetId time ↔
        (sessionId, targetId) ∈ targets ∧ Recorded recordings sessionId targetId time := by
  induction recordings using List.reverseRecOn with
  | nil => exact ⟨coalesced_nil, fun _ _ _ => by simp [Covered, Recorded, recordAll]⟩
  | append_singleton recordings recording ih =>
    obtain ⟨hcoalesced, hcovered⟩ := ih
    have hlast : ∀ sessionId targetId time, Recorded (recordings ++ [recording]) sessionId targetId time ↔
        Recorded recordings sessionId targetId time ∨
          ((recording.sessionId = sessionId ∧ recording.targetId = targetId) ∧ time ∈ recording.range) := by
      intro sessionId targetId time
      simp [Recorded, or_and_right, exists_or]
    have hstep : recordAll targets (recordings ++ [recording]) =
        match recordEvictedFrameRangeTx targets recording.rowid recording.sessionId recording.targetId recording.range
          (recordAll targets recordings) with
        | .ok rows => rows
        | .error _ => recordAll targets recordings := List.foldl_append ..
    rw [hstep]
    split
    · rename_i rows hrecorded
      refine ⟨hcoalesced.record hrecorded, fun sessionId targetId time => ?_⟩
      rw [hcoalesced.covered_record hrecorded, hcovered, hlast, and_or_left]
      refine or_congr_right (and_iff_right_of_imp ?_).symm
      rintro ⟨⟨rfl, rfl⟩, -⟩
      exact target_of_recorded hrecorded
    · rename_i hrefused
      refine ⟨hcoalesced, fun sessionId targetId time => ?_⟩
      rw [hcovered, hlast, and_or_left]
      refine (or_iff_left ?_).symm
      rintro ⟨hmem, ⟨rfl, rfl⟩, -⟩
      exact not_refused hmem hrefused

/-- However many ranges are recorded, for whatever targets: those that the store gives for a target pass as the evicted
ranges of a frame availability, each ends before the next begins with a time between them, and their times are those of
the recorded ranges. -/
theorem evicted_ranges_exact (targets : List (SessionId × TargetId)) (recordings : List Recording)
    (sessionId : SessionId) (targetId : TargetId) (retainedBounds : Option SessionRange) :
    let ranges := evictedRanges (recordAll targets recordings) sessionId targetId
    ranges.Pairwise (fun a b => a.snd.next < b.fst) ∧
      FrameAvailability.new retainedBounds ranges = .ok { retainedBounds, evictedRanges := ranges } ∧
      ∀ time, (∃ range ∈ ranges, time ∈ range) ↔
        (sessionId, targetId) ∈ targets ∧ ∃ recording ∈ recordings,
          (recording.sessionId = sessionId ∧ recording.targetId = targetId) ∧ time ∈ recording.range := by
  intro ranges
  obtain ⟨hcoalesced, hcovered⟩ := recordAll_exact targets recordings
  have hbefore := hcoalesced.selected sessionId targetId
  refine ⟨hbefore, frameAvailability_new retainedBounds hbefore, fun time => ?_⟩
  rw [← Recorded, ← hcovered]
  simp only [ranges, evictedRanges, List.mem_map, mem_selectRows, Covered]
  constructor
  · rintro ⟨_, ⟨row, ⟨hmem, hof⟩, rfl⟩, hin⟩
    exact ⟨row, hmem, hof, hin⟩
  · rintro ⟨row, hmem, hof, hin⟩
    exact ⟨_, ⟨row, ⟨hmem, hof⟩, rfl⟩, hin⟩

end Krometrail.EvictedRanges
