import Krometrail.Lib.Keyed
import Krometrail.Lib.Results
import Krometrail.EventIndex.Store

/-!
# What recovery does to one row

A row that decodes is left with one reference and one usage that agree with it, and any other row is deleted with both.
The dependents of other rows stay.
-/

namespace Krometrail.EventIndex

open Results
open Keyed (UniqueKeys)

variable {P : Type} {payloads : Payloads P} {db db' : Db} {raw : RawEvent} {event : BrowserEvent P}

/-- What the primary keys and the index on references say. -/
structure Db.Valid (db : Db) : Prop where
  events : UniqueKeys RawEvent.eventId db.events
  timeline : UniqueKeys TimelineRow.sortKey db.timeline
  usage : UniqueKeys UsageRow.objectKey db.usage

/-- The row decodes, and its dependents agree with it. -/
def Settled (payloads : Payloads P) (db : Db) (raw : RawEvent) : Prop :=
  ∃ event, raw.decodeEvent payloads = .ok event ∧ timelineRow payloads event ∈ db.timeline ∧
    usageRow event raw.accountedBytes ∈ db.usage

/-- Only the dependents with this key have changed. -/
structure Touches (db db' : Db) (key : List UInt8) : Prop where
  timeline : ∀ row, row.sortKey ≠ key → (row ∈ db'.timeline ↔ row ∈ db.timeline)
  usage : ∀ row, row.objectKey ≠ key → (row ∈ db'.usage ↔ row ∈ db.usage)

theorem decodeScope_eq {scope : EventScope} (h : raw.decodeScope = .ok scope) :
    scope = ⟨raw.eventId, raw.sessionId, raw.targetId, raw.ordinal, raw.sessionTime⟩ ∧ raw.sessionId.uuid.isNil = false ∧
      raw.targetId.uuid.isNil = false := by
  simp only [RawEvent.decodeScope, bind_eq_ok, pure_eq_ok, refuse_eq_ok, not_or, Bool.not_eq_true] at h
  obtain ⟨-, -, -, hscope, rfl⟩ := h
  exact ⟨rfl, hscope.2.1, hscope.2.2.1⟩

theorem decodeEvent_eq (h : raw.decodeEvent payloads = .ok event) :
    (∃ scope, raw.decodeScope = .ok scope) ∧ event.id = raw.eventId ∧ event.valid payloads = true := by
  simp only [RawEvent.decodeEvent, bind_eq_ok, pure_eq_ok, refuse_eq_ok, not_or, Bool.not_eq_false] at h
  obtain ⟨scope, hscope, source, -, payload, -, -, hvalid, -, -, -, -, -, -, rfl⟩ := h
  obtain ⟨rfl, -⟩ := decodeScope_eq hscope
  exact ⟨⟨_, hscope⟩, rfl, hvalid.2⟩

theorem validateTimelineReference_eq_ok (hvalid : db.Valid) :
    validateTimelineReference payloads event db = .ok () ↔ timelineRow payloads event ∈ db.timeline := by
  rw [validateTimelineReference, refuse_eq_ok, not_not]
  constructor
  · intro hlength
    obtain ⟨row, hrow⟩ := List.exists_mem_of_length_pos (hlength.symm ▸ Nat.one_pos)
    obtain ⟨hmem, heq⟩ := List.mem_filter.1 hrow
    exact of_decide_eq_true heq ▸ hmem
  · intro hmem
    have hnodup : db.timeline.Nodup := List.Nodup.of_map _ hvalid.timeline
    rw [← List.countP_eq_length_filter]
    exact (List.count_eq_one_of_mem hnodup hmem)

/-- What a reconciliation of the event's dependents keeps. -/
structure Reconciles (event : BrowserEvent P) (db db' : Db) : Prop where
  events : db'.events = db.events
  unavailable : db'.unavailable = db.unavailable
  touches : Touches db db' event.id.blob
  valid : db'.Valid

theorem Touches.refl (db : Db) (key : List UInt8) : Touches db db key := ⟨fun _ _ => .rfl, fun _ _ => .rfl⟩

theorem reconcileTimeline_eq {repaired : Bool} (hvalid : db.Valid)
    (h : reconcileTimeline payloads event db = .ok (repaired, db')) :
    Reconciles event db db' ∧ timelineRow payloads event ∈ db'.timeline ∧ db'.usage = db.usage := by
  unfold reconcileTimeline at h
  split at h
  · rename_i hagrees
    obtain ⟨-, rfl⟩ := Prod.mk.inj (Except.ok.inj h)
    refine ⟨⟨rfl, rfl, .refl _ _, hvalid⟩, ?_, rfl⟩
    cases hok : validateTimelineReference payloads event db with
    | ok u => exact (validateTimelineReference_eq_ok hvalid).1 hok
    | error error => simp [hok, Except.isOk, Except.toBool] at hagrees
  · simp only [appendObservation, bind_eq_ok, pure_eq_ok, refuse_eq_ok] at h
    obtain ⟨-, ⟨-, -, rfl⟩, h⟩ := h
    obtain ⟨-, rfl⟩ := Prod.mk.inj h
    refine ⟨⟨rfl, rfl, ⟨fun row hrow => ?_, fun _ _ => .rfl⟩, ⟨hvalid.events, ?_, hvalid.usage⟩⟩, by simp, rfl⟩
    · simp only [List.mem_append, List.mem_filter, List.mem_singleton, decide_not, Bool.not_eq_true', decide_eq_false_iff_not]
      constructor
      · rintro (⟨hmem, -⟩ | rfl)
        · exact hmem
        · exact absurd rfl hrow
      · exact fun hmem => .inl ⟨hmem, hrow⟩
    · exact hvalid.timeline.replace (timelineRow payloads event)

theorem reconcileUsage_eq (event : BrowserEvent P) (accounted : Nat) (hvalid : db.Valid) :
    Reconciles event db (reconcileUsage event db accounted).2 ∧ usageRow event accounted ∈ (reconcileUsage event db accounted).2.usage ∧
      (reconcileUsage event db accounted).2.timeline = db.timeline := by
  unfold reconcileUsage
  split
  · rename_i hfound
    exact ⟨⟨rfl, rfl, .refl _ _, hvalid⟩, List.mem_of_find?_eq_some hfound, rfl⟩
  · refine ⟨⟨rfl, rfl, ⟨fun _ _ => .rfl, fun row hrow => ?_⟩, ⟨hvalid.events, hvalid.timeline, ?_⟩⟩, by simp, rfl⟩
    · simp only [List.mem_append, List.mem_filter, List.mem_singleton, decide_not, Bool.not_eq_true', decide_eq_false_iff_not]
      constructor
      · rintro (⟨hmem, -⟩ | rfl)
        · exact hmem
        · exact absurd rfl hrow
      · exact fun hmem => .inl ⟨hmem, hrow⟩
    · exact hvalid.usage.replace (usageRow event accounted)

theorem recordUnavailable_eq {sessionId : SessionId} {targetId : TargetId} {time : SessionTime} {ordinal : Option Nat}
    {reason : UnavailableReason} (h : recordUnavailable db sessionId targetId time ordinal reason = .ok db') :
    ∃ unavailable, db' = { db with unavailable := unavailable } := by
  have hinsert {row : UnavailableRow} (h : (do
      refuse (sessionId.uuid.isNil ∨ targetId.uuid.isNil) (persistenceError "browser event unavailable range is invalid")
      return { db with unavailable := db.unavailable ++ [row] } : Result Db) = .ok db') :
      ∃ unavailable, db' = { db with unavailable := unavailable } := by
    simp only [bind_eq_ok, pure_eq_ok] at h
    obtain ⟨-, -, rfl⟩ := h
    exact ⟨_, rfl⟩
  unfold recordUnavailable at h
  dsimp only at h
  split at h
  · exact hinsert h
  · split at h
    · exact hinsert h
    · split at h
      · simp only [bind_eq_ok, pure_eq_ok] at h
        obtain ⟨-, -, rfl⟩ := h
        exact ⟨_, rfl⟩
      · exact hinsert h

theorem removed_valid (hvalid : db.Valid) (id : BrowserEventId) (unavailable : List UnavailableRow) :
    Db.Valid { (db.removeEventDependents id).deleteEvent id with unavailable := unavailable } :=
  ⟨hvalid.events.filter _, hvalid.timeline.filter _, hvalid.usage.filter _⟩

theorem removed_touches (db : Db) (id : BrowserEventId) (unavailable : List UnavailableRow) :
    Touches db { (db.removeEventDependents id).deleteEvent id with unavailable := unavailable } id.blob := by
  refine ⟨fun row hrow => ?_, fun row hrow => ?_⟩ <;>
    simp only [Db.deleteEvent, Db.removeEventDependents, List.mem_filter, decide_not, Bool.not_eq_true', decide_eq_false_iff_not]
  · exact and_iff_left hrow
  · exact and_iff_left hrow

/-- What recovery does with one row. -/
inductive Recovered (payloads : Payloads P) (db : Db) (raw : RawEvent) : Db → Prop
  | reconciled {db' : Db} : db'.events = db.events → db'.unavailable = db.unavailable → Touches db db' raw.eventId.blob →
      db'.Valid → Settled payloads db' raw → Recovered payloads db raw db'
  | discarded {unavailable : List UnavailableRow} :
      Recovered payloads db raw { (db.removeEventDependents raw.eventId).deleteEvent raw.eventId with unavailable := unavailable }

theorem recoverRow_eq {report report' : EventRecoveryReport} (hvalid : db.Valid)
    (h : recoverRow payloads (report, db) raw = .ok (report', db')) : Recovered payloads db raw db' := by
  simp only [recoverRow, bind_eq_ok] at h
  obtain ⟨scope, hscope, h⟩ := h
  obtain ⟨rfl, -⟩ := decodeScope_eq hscope
  split at h
  · rename_i event hevent
    simp only [bind_eq_ok, pure_eq_ok] at h
    obtain ⟨⟨repaired, next⟩, htimeline, h⟩ := h
    obtain ⟨-, rfl⟩ := Prod.mk.inj h
    obtain ⟨-, hid, -⟩ := decodeEvent_eq hevent
    obtain ⟨hnext, hrow, -⟩ := reconcileTimeline_eq hvalid htimeline
    obtain ⟨hlast, husage, hkept⟩ := reconcileUsage_eq event raw.accountedBytes hnext.valid
    refine .reconciled (hlast.events.trans hnext.events) (hlast.unavailable.trans hnext.unavailable) ?_ hlast.valid
      ⟨event, hevent, hkept.symm ▸ hrow, husage⟩
    rw [← hid]
    exact ⟨fun row hkey => (hlast.touches.timeline row hkey).trans (hnext.touches.timeline row hkey),
      fun row hkey => (hlast.touches.usage row hkey).trans (hnext.touches.usage row hkey)⟩
  · simp only [bind_eq_ok, pure_eq_ok] at h
    obtain ⟨next, hrecorded, h⟩ := h
    obtain ⟨-, rfl⟩ := Prod.mk.inj h
    obtain ⟨unavailable, rfl⟩ := recordUnavailable_eq hrecorded
    exact .discarded

namespace Recovered

variable (h : Recovered payloads db raw db')
include h

theorem valid (hvalid : db.Valid) : db'.Valid := by
  cases h with
  | reconciled _ _ _ hvalid' _ => exact hvalid'
  | discarded => exact removed_valid hvalid _ _

theorem touches : Touches db db' raw.eventId.blob := by
  cases h with
  | reconciled _ _ htouches _ _ => exact htouches
  | discarded => exact removed_touches db _ _

theorem events_sublist : db'.events.Sublist db.events := by
  cases h with
  | reconciled hevents _ _ _ _ => exact hevents ▸ .refl _
  | discarded => exact List.filter_sublist

theorem mem_events {other : RawEvent} (hother : other.eventId ≠ raw.eventId) : other ∈ db'.events ↔ other ∈ db.events := by
  cases h with
  | reconciled hevents _ _ _ _ => rw [hevents]
  | discarded => simp [Db.deleteEvent, Db.removeEventDependents, hother]

theorem settled (hvalid : db.Valid) (hraw : raw ∈ db.events) {other : RawEvent} (hother : other ∈ db'.events)
    (hid : other.eventId = raw.eventId) : Settled payloads db' other := by
  cases h with
  | reconciled hevents _ _ _ hsettled =>
    obtain rfl := hvalid.events.eq_of_key_eq (hevents ▸ hother) hraw hid
    exact hsettled
  | discarded => exact absurd hid (by simpa [Db.deleteEvent] using (List.mem_filter.1 hother).2)

end Recovered

theorem Settled.touched {key : List UInt8} (h : Settled payloads db raw) (htouches : Touches db db' key)
    (hkey : raw.eventId.blob ≠ key) : Settled payloads db' raw := by
  obtain ⟨event, hevent, htimeline, husage⟩ := h
  obtain ⟨-, hid, -⟩ := decodeEvent_eq hevent
  rw [← hid] at hkey
  exact ⟨event, hevent, (htouches.timeline _ hkey).2 htimeline, (htouches.usage _ hkey).2 husage⟩

end Krometrail.EventIndex
