import Krometrail.EventIndex.StoreRuns
import Krometrail.EventIndex.Unavailable

/-!
# The ledger of lost events

Evictions and records of unavailable ranges in any order, over a table of ranges that is empty in the beginning.  What was
lost is written down beside the tables, for the record: the events that an eviction removes, and the records.
-/

namespace Krometrail.EventIndex

open Keyed (UniqueKeys)
open Runs (Run System exists_run)
open Sorting (sortByKey perm_sortByKey)

variable {db db' : Db} {raw : RawEvent} {rows rows' : List UnavailableRow} {record : UnavailableRecord}
  {lost lost' : List UnavailableRecord}

def pointRecord (sessionId : SessionId) (targetId : TargetId) (time : SessionTime) (ordinal : Option ℕ+)
    (reason : UnavailableReason) : UnavailableRecord :=
  ⟨sessionId, targetId, ⟨⟨time, time⟩, le_rfl⟩, ordinal, ordinal, 1, reason⟩

/-- The loss of an event that is evicted; the ordinal of such an event is not zero. -/
def lossOf (raw : RawEvent) : UnavailableRecord :=
  pointRecord raw.sessionId raw.targetId raw.sessionTime (if h : 0 < raw.ordinal then some ⟨raw.ordinal, h⟩ else none)
    .retentionEvicted

/-- The tables, and what was lost from them. -/
structure LossHistory where
  db : Db
  lost : List UnavailableRecord

namespace LossHistory

inductive Op
  | record (record : UnavailableRecord)
  | evict (before required : Option Nat)
  /-- Anything that is done to the other tables. -/
  | change (db : Db) (valid : db.Valid)

/-- A transaction that fails changes nothing. -/
def exec (history : LossHistory) : Op → LossHistory
  | .record record =>
    match recordUnavailableTx history.db.unavailable record with
    | .ok rows => { db := { history.db with unavailable := rows }, lost := history.lost ++ [record] }
    | .error _ => history
  | .evict before required =>
    match evictEvents history.db before required with
    | .ok (_, db) => { db, lost := history.lost ++ (history.db.events.filter (· ∉ db.events)).map lossOf }
    | .error _ => history
  | .change db _ => { history with db := { db with unavailable := history.db.unavailable } }

def IsInitial (history : LossHistory) : Prop := history.db.Valid ∧ history.db.unavailable = [] ∧ history.lost = []

end LossHistory

open LossHistory Results

def lossLedger : System LossHistory Op Unit := .ofExec IsInitial fun history op => some (history.exec op)

/-- The events that the rows of a scope count. -/
def countedIn (scope : UnavailableScope) (rows : List UnavailableRow) : Nat :=
  ((rows.filter (·.scope = scope)).map (·.eventCount)).sum

/-- The events of a scope that were recorded as lost. -/
def lostIn (scope : UnavailableScope) (lost : List UnavailableRecord) : Nat :=
  ((lost.filter (·.scope = scope)).map (·.count)).sum

/-- The rows account for what was lost: they count it, every loss lies inside a row of its scope, and every row is read
back. -/
structure Accounts (rows : List UnavailableRow) (lost : List UnavailableRecord) : Prop where
  counts : ∀ scope, countedIn scope rows = lostIn scope lost
  spans : ∀ loss ∈ lost, ∃ row ∈ rows, row.scope = loss.scope ∧ row.Spans loss.range
  decodes : ∀ row ∈ rows, ∃ value, decodeUnavailable row = .ok value

@[simp] theorem countedIn_append (scope : UnavailableScope) (front back : List UnavailableRow) :
    countedIn scope (front ++ back) = countedIn scope front + countedIn scope back := by simp [countedIn]

@[simp] theorem lostIn_append (scope : UnavailableScope) (front back : List UnavailableRecord) :
    lostIn scope (front ++ back) = lostIn scope front + lostIn scope back := by simp [lostIn]

@[simp] theorem countedIn_cons (scope : UnavailableScope) (row : UnavailableRow) (rows : List UnavailableRow) :
    countedIn scope (row :: rows) = (if row.scope = scope then row.eventCount else 0) + countedIn scope rows := by
  by_cases h : row.scope = scope <;> simp [countedIn, h]

@[simp] theorem lostIn_cons (scope : UnavailableScope) (record : UnavailableRecord) (lost : List UnavailableRecord) :
    lostIn scope (record :: lost) = (if record.scope = scope then record.count else 0) + lostIn scope lost := by
  by_cases h : record.scope = scope <;> simp [lostIn, h]

/-- What the ledger keeps: rows that are accepted account for what was lost. -/
structure Accounting (rows : List UnavailableRow) (lost : List UnavailableRecord) : Prop where
  counts : ∀ scope, countedIn scope rows = lostIn scope lost
  spans : ∀ loss ∈ lost, ∃ row ∈ rows, row.scope = loss.scope ∧ row.Spans loss.range
  accepted : ∀ row ∈ rows, row.Accepted

namespace Accounting

theorem nil : Accounting [] [] := ⟨fun _ => rfl, nofun, nofun⟩

theorem accounts (h : Accounting rows lost) : Accounts rows lost := ⟨h.counts, h.spans, fun row hrow => (h.accepted row hrow).decodes⟩

theorem perm (h : Accounting rows lost) (hperm : lost.Perm lost') : Accounting rows lost' where
  counts scope := (h.counts scope).trans ((hperm.filter _).map _).sum_eq
  spans loss hloss := h.spans loss (hperm.mem_iff.2 hloss)
  accepted := h.accepted

theorem recorded (h : Accounting rows lost) (hrecorded : Recorded rows record rows') : Accounting rows' (lost ++ [record]) := by
  cases hrecorded with
  | @inserted row hscope haccepted hcount hspans =>
    refine ⟨fun scope => ?_, fun loss hloss => ?_, fun other hother => ?_⟩
    · rw [countedIn_append, lostIn_append, h.counts, countedIn_cons, lostIn_cons, hscope, hcount]
      rfl
    · rcases List.mem_append.1 hloss with hloss | hloss
      · obtain ⟨other, hother, hspans⟩ := h.spans loss hloss
        exact ⟨other, List.mem_append_left _ hother, hspans⟩
      · obtain rfl := List.mem_singleton.1 hloss
        exact ⟨row, by simp, hscope, hspans⟩
    · rcases List.mem_append.1 hother with hother | hother
      · exact h.accepted other hother
      · exact List.mem_singleton.1 hother ▸ haccepted
  | @merged front back tail row hrows htail hscope haccepted hcount hcovers hspans =>
    subst hrows
    refine ⟨fun scope => ?_, fun loss hloss => ?_, fun other hother => ?_⟩
    · have hcounts := h.counts scope
      rw [countedIn_append, countedIn_cons, htail] at hcounts
      rw [countedIn_append, lostIn_append, countedIn_cons, lostIn_cons, ← hcounts, hscope, hcount]
      show _ = _ + (_ + 0)
      split <;> omega
    · rcases List.mem_append.1 hloss with hloss | hloss
      · obtain ⟨other, hother, hin, hspan⟩ := h.spans loss hloss
        -- the row of an earlier loss is still there, or it is the one that was merged into
        rcases List.mem_append.1 hother with hfront | hback
        · exact ⟨other, List.mem_append_left _ hfront, hin, hspan⟩
        · rcases List.mem_cons.1 hback with rfl | hback
          · exact ⟨row, by simp, hscope.trans (htail.symm.trans hin), hcovers _ hspan⟩
          · exact ⟨other, by simp [hback], hin, hspan⟩
      · obtain rfl := List.mem_singleton.1 hloss
        exact ⟨row, by simp, hscope, hspans⟩
    · simp only [List.mem_append, List.mem_cons] at hother
      rcases hother with hother | rfl | hother
      · exact h.accepted other (by simp [hother])
      · exact haccepted
      · exact h.accepted other (by simp [hother])

end Accounting

variable {time : SessionTime} {ordinal : Option ℕ+}

theorem takesIn_isSome {tail : UnavailableRow} (h : tail.takesIn time (ordinal.map PNat.val) = true)
    : tail.firstOrdinal.isSome = ordinal.isSome := by
  simp only [UnavailableRow.takesIn, Bool.and_eq_true, beq_iff_eq, Option.isSome_map] at h
  exact h.2

theorem checked_mergedInto {sessionId : SessionId} {targetId : TargetId} {reason : UnavailableReason} {tail : UnavailableRow}
    {count : Nat} (haccepted : tail.Accepted) (hsome : tail.firstOrdinal.isSome = ordinal.isSome) :
    ((pointRecord sessionId targetId time ordinal reason).mergedInto tail count).Checked := by
  obtain ⟨first, last, hfirst, hlast, hordered⟩ := haccepted.ordinals
  refine ⟨(min_le_right _ _).trans (le_max_right _ _), ?_⟩
  have hlastSome : tail.lastOrdinal.isSome = ordinal.isSome := by
    rw [← hsome, hfirst, hlast, Option.isSome_map, Option.isSome_map, hordered.1]
  have hmap₂ : ∀ (f : Nat → Nat → Nat) (a b : Option Nat), (Option.map₂ f a b).isSome = (a.isSome && b.isSome) := by
    rintro f (_ | a) (_ | b) <;> rfl
  simp only [UnavailableRecord.mergedInto, pointRecord, hmap₂, hsome, hlastSome]

theorem recordUnavailable_tx (db : Db) {sessionId : SessionId} {targetId : TargetId} {reason : UnavailableReason}
    (haccepted : ∀ row ∈ db.unavailable, row.Accepted)
    (h : recordUnavailable db sessionId targetId time (ordinal.map PNat.val) reason = .ok db') :
    recordUnavailableTx db.unavailable (pointRecord sessionId targetId time ordinal reason) = .ok db'.unavailable := by
  have hinsert (h : (do
      refuse (sessionId.uuid.isNil ∨ targetId.uuid.isNil) (persistenceError "browser event unavailable range is invalid")
      return { db with unavailable := db.unavailable ++ [⟨sessionId, targetId, time, time, ordinal.map PNat.val,
        ordinal.map PNat.val, 1, reason⟩] } : Result Db) = .ok db') : (do
      let count ← nonZero 1 (persistenceError "browser event unavailable count must be non-zero")
      let _ ← (BrowserEventUnavailableRange.new sessionId targetId ⟨⟨time, time⟩, le_rfl⟩ ordinal ordinal count
        reason).mapError fun _ => persistenceError "browser event unavailable range is invalid"
      return db.unavailable ++ [(pointRecord sessionId targetId time ordinal reason).toRow] : Result (List UnavailableRow)) =
        .ok db'.unavailable := by
    simp only [bind_eq_ok, pure_eq_ok, refuse_eq_ok, not_or, Bool.not_eq_true] at h
    obtain ⟨-, hscope, rfl⟩ := h
    have hordered : OrdinalsOrdered ordinal ordinal := ⟨rfl, fun a ha b hb => (Option.some.inj (ha.symm.trans hb)).le⟩
    have hcount := nonZero_val 1 (persistenceError "browser event unavailable count must be non-zero")
    have hnew : BrowserEventUnavailableRange.new sessionId targetId ⟨⟨time, time⟩, le_rfl⟩ ordinal ordinal 1 reason = .ok _ :=
      rangeNew_eq_ok.2 ⟨hscope, hordered, rfl⟩
    exact bind_eq_ok.2 ⟨1, hcount, bind_eq_ok.2 ⟨_, mapError_eq_ok.2 hnew, rfl⟩⟩
  unfold recordUnavailable at h
  unfold recordUnavailableTx
  dsimp only [pointRecord] at h ⊢
  cases htail : unavailableTail db.unavailable sessionId targetId reason with
  | none =>
    rw [htail] at h
    exact hinsert h
  | some i =>
    rw [htail] at h
    dsimp only at h ⊢
    cases hget : db.unavailable[i]? with
    | none =>
      rw [hget] at h
      exact hinsert h
    | some tail =>
      rw [hget] at h
      dsimp only at h ⊢
      by_cases htakes : tail.takesIn time (ordinal.map PNat.val) = true
      · rw [if_pos htakes] at h
        obtain ⟨count, hcount, h⟩ := bind_eq_ok.1 h
        obtain rfl := pure_eq_ok.1 h
        have hchecked : ((pointRecord sessionId targetId time ordinal reason).mergedInto tail count).Checked :=
          checked_mergedInto (haccepted tail (List.mem_of_getElem? hget)) (takesIn_isSome htakes)
        refine (if_pos htakes).trans (bind_eq_ok.2 ⟨count, hcount, ?_⟩)
        exact bind_eq_ok.2 ⟨(), refuse_eq_ok.2 (not_not.2 hchecked), rfl⟩
      · rw [if_neg htakes] at h
        exact (if_neg htakes).trans (hinsert h)

theorem evictCandidates_accounting {required : Option Nat} {candidates : List RawEvent} {removed removed' : Nat}
    (haccounting : Accounting db.unavailable lost) (h : evictCandidates required candidates removed db = .ok (removed', db')) :
    ∃ evicted rest, candidates = evicted ++ rest ∧ db'.events = db.events.filter (·.eventId ∉ evicted.map (·.eventId)) ∧
      Accounting db'.unavailable (lost ++ evicted.map lossOf) := by
  induction candidates generalizing removed db lost with
  | nil =>
    obtain ⟨-, rfl⟩ := Prod.mk.inj (Except.ok.inj h)
    exact ⟨[], [], rfl, by simp, by simpa using haccounting⟩
  | cons raw candidates ih =>
    unfold evictCandidates at h
    split at h
    · obtain ⟨-, rfl⟩ := Prod.mk.inj (Except.ok.inj h)
      exact ⟨[], raw :: candidates, rfl, by simp, by simpa using haccounting⟩
    · simp only [bind_eq_ok] at h
      obtain ⟨scope, hscope, next, hrecorded, removed₁, -, h⟩ := h
      have hordinal : 0 < raw.ordinal := by
        simp only [RawEvent.decodeScope, bind_eq_ok, refuse_eq_ok] at hscope
        obtain ⟨-, hordinal, -⟩ := hscope
        omega
      obtain ⟨rfl, -⟩ := decodeScope_eq hscope
      have haccounting' : Accounting next.unavailable (lost ++ [lossOf raw]) := by
        have hloss : lossOf raw = pointRecord raw.sessionId raw.targetId raw.sessionTime (some ⟨raw.ordinal, hordinal⟩)
            .retentionEvicted := by rw [lossOf, dif_pos hordinal]
        refine haccounting.recorded (recorded_of_tx haccounting.accepted ?_)
        rw [hloss]
        exact recordUnavailable_tx ((db.removeEventDependents raw.eventId).deleteEvent raw.eventId) haccounting.accepted hrecorded
      obtain ⟨unavailable, rfl⟩ := recordUnavailable_eq hrecorded
      split at h
      · obtain ⟨-, rfl⟩ := Prod.mk.inj (Except.ok.inj h)
        exact ⟨[raw], candidates, rfl, by simp [Db.deleteEvent, Db.removeEventDependents], haccounting'⟩
      · obtain ⟨evicted, rest, rfl, hevents, hrest⟩ := ih haccounting' h
        refine ⟨raw :: evicted, rest, rfl, ?_, by simpa using hrest⟩
        rw [hevents]
        show (db.events.filter (·.eventId ≠ raw.eventId)).filter _ = _
        rw [List.filter_filter]
        refine List.filter_congr fun other _ => ?_
        by_cases hother : other.eventId = raw.eventId <;> simp [hother]

theorem evictEvents_accounting {before required : Option Nat} {removed : Nat} (hvalid : db.Valid)
    (haccounting : Accounting db.unavailable lost) (h : evictEvents db before required = .ok (removed, db')) :
    Accounting db'.unavailable (lost ++ (db.events.filter (· ∉ db'.events)).map lossOf) := by
  obtain ⟨evicted, rest, hcandidates, hevents, hrest⟩ := evictCandidates_accounting haccounting h
  have hnodup : db.events.Nodup := List.Nodup.of_map _ hvalid.events
  have hperm := perm_sortByKey RawEvent.retentionSequence (db.events.filter fun raw => before.all (raw.retentionSequence < ·))
  have hsub : evicted.Sublist (sortByKey RawEvent.retentionSequence (db.events.filter fun raw => before.all (raw.retentionSequence < ·))) := by
    refine (List.sublist_append_left evicted rest).trans ?_
    rw [← hcandidates]
    exact List.take_sublist _ _
  have hmem : ∀ raw ∈ evicted, raw ∈ db.events := fun raw hraw => (List.mem_filter.1 (hperm.mem_iff.1 (hsub.subset hraw))).1
  -- what has left the table are the evicted rows, each once
  have hgone : evicted.Perm (db.events.filter (· ∉ db'.events)) := by
    refine (List.perm_ext_iff_of_nodup (((hnodup.filter _).perm hperm.symm).sublist hsub) (hnodup.filter _)).2 fun raw => ?_
    rw [hevents]
    simp only [List.mem_filter, List.mem_map, decide_eq_true_eq, not_and, not_not]
    constructor
    · exact fun hraw => ⟨hmem raw hraw, fun _ => ⟨raw, hraw, rfl⟩⟩
    · rintro ⟨hraw, hout⟩
      obtain ⟨other, hother, hid⟩ := hout hraw
      exact hvalid.events.eq_of_key_eq (hmem other hother) hraw hid ▸ hother
  exact hrest.perm ((hgone.map lossOf).append_left lost)

/-- In every state of every run the rows account for what was lost. -/
theorem losses_accounted {history : LossHistory} (h : lossLedger.Reachable history) : Accounts history.db.unavailable history.lost := by
  have hkept : history.db.Valid ∧ Accounting history.db.unavailable history.lost := by
    refine h.invariant (P := fun history => history.db.Valid ∧ Accounting history.db.unavailable history.lost) ?_ ?_
    · rintro history ⟨hvalid, hrows, hlost⟩
      exact ⟨hvalid, by rw [hrows, hlost]; exact .nil⟩
    · rintro history op u history' ⟨hvalid, haccounting⟩ hstep
      cases hstep
      unfold LossHistory.exec
      cases op with
      | record record =>
        dsimp only
        split
        · rename_i rows hrecorded
          exact ⟨⟨hvalid.events, hvalid.timeline, hvalid.usage⟩, haccounting.recorded (recorded_of_tx haccounting.accepted hrecorded)⟩
        · exact ⟨hvalid, haccounting⟩
      | evict before required =>
        dsimp only
        split
        · rename_i hevicted
          exact ⟨evictEvents_valid hvalid hevicted, evictEvents_accounting hvalid haccounting hevicted⟩
        · exact ⟨hvalid, haccounting⟩
      | change db valid => exact ⟨⟨valid.events, valid.timeline, valid.usage⟩, haccounting⟩
  exact hkept.2.accounts

/-- The record of an event that comes right behind the sample event. -/
def nextRecord : UnavailableRecord := pointRecord sample.sessionId sample.targetId ⟨1⟩ (some 2) .retentionEvicted

/-- The sample event is evicted and another one is recorded, and both are counted by one row. -/
theorem losses_accounted_merged : ∃ history, lossLedger.Reachable history ∧
    (history.lost = [lossOf sampleRow, nextRecord] ∧ history.db.unavailable.map (·.eventCount) = [2]) ∧
      Accounts history.db.unavailable history.lost := by
  obtain ⟨history, hreachable, hresult⟩ := Runs.exists_reachable IsInitial (fun history op => some (history.exec op))
    ⟨holding sampleRow, []⟩ ⟨holding_valid _, rfl, rfl⟩ [.evict none none, .record nextRecord]
    (fun history => history.lost = [lossOf sampleRow, nextRecord] ∧ history.db.unavailable.map (·.eventCount) = [2])
    (by decide +kernel)
  exact ⟨history, hreachable, hresult, losses_accounted hreachable⟩

end Krometrail.EventIndex
