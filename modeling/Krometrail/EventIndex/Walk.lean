import Krometrail.EventIndex.Reconciled

/-!
# The walk of recovery

Recovery goes through the rows in chunks, in the order of their identifiers, while it deletes rows and replaces their
dependents.  When the walk has succeeded every row that is left is settled, and no reference has lost its row on the way.
-/

namespace Krometrail.EventIndex

open Results
open Keyed (UniqueKeys)
open Sorting (sortByKey mem_sortByKey perm_sortByKey pairwise_sortByKey)

variable {P : Type} {payloads : Payloads P} {db db' start : Db} {raw : RawEvent} {after : Option BrowserEventId}

variable {row : TimelineRow} {report report' : EventRecoveryReport} {n : Nat} {last : RawEvent}

theorem mem_orphanTimeline :
    row ∈ orphanTimeline db ↔ row ∈ db.timeline ∧ ∀ raw ∈ db.events, raw.eventId.blob ≠ row.sortKey := by
  rw [orphanTimeline, List.mem_filter, decide_eq_true_eq]

theorem Recovered.orphans (h : Recovered payloads db raw db') (hraw : raw ∈ db.events) (hrow : row ∈ orphanTimeline db')
    : row ∈ orphanTimeline db := by
  obtain ⟨hmem, horphan⟩ := mem_orphanTimeline.1 hrow
  have hkey : row.sortKey ≠ raw.eventId.blob := by
    cases h with
    | reconciled hevents _ _ _ _ => exact (horphan raw (hevents.symm ▸ hraw)).symm
    | discarded => simpa [Db.deleteEvent] using (List.mem_filter.1 hmem).2
  refine mem_orphanTimeline.2 ⟨(h.touches.timeline row hkey).1 hmem, fun other hother => ?_⟩
  by_cases hid : other.eventId = raw.eventId
  · exact hid ▸ hkey.symm
  · exact horphan other ((h.mem_events hid).2 hother)

/-- What has become of the rows since the walk through `rows` began. -/
structure Walked (payloads : Payloads P) (start : Db) (rows : List RawEvent) (db : Db) : Prop where
  valid : db.Valid
  sublist : db.events.Sublist start.events
  remaining : ∀ other ∈ start.events, (∀ raw ∈ rows, raw.eventId ≠ other.eventId) → other ∈ db.events
  settled : ∀ other ∈ db.events, (∃ raw ∈ rows, raw.eventId = other.eventId) ∨ Settled payloads start other →
    Settled payloads db other
  orphans : ∀ row ∈ orphanTimeline db, row ∈ orphanTimeline start

theorem Walked.init (hvalid : start.Valid) : Walked payloads start [] start :=
  ⟨hvalid, .refl _, fun _ h _ => h, fun _ _ h => h.resolve_left (by simp), fun _ h => h⟩

theorem Walked.next {rows : List RawEvent} (h : Walked payloads start rows db) (hraw : raw ∈ start.events)
    (hnew : ∀ earlier ∈ rows, earlier.eventId ≠ raw.eventId) (hrecovered : Recovered payloads db raw db') :
    Walked payloads start (rows ++ [raw]) db' := by
  have hmem := h.remaining raw hraw hnew
  refine ⟨hrecovered.valid h.valid, hrecovered.events_sublist.trans h.sublist, fun other hother hrows => ?_,
    fun other hother hwhy => ?_, fun row hrow => h.orphans row (hrecovered.orphans hmem hrow)⟩
  · have hne : other.eventId ≠ raw.eventId := (hrows raw (by simp)).symm
    exact (hrecovered.mem_events hne).2 (h.remaining other hother fun earlier hearlier => hrows earlier (by simp [hearlier]))
  · by_cases hid : other.eventId = raw.eventId
    · exact hrecovered.settled h.valid hmem hother hid
    · have hkey : other.eventId.blob ≠ raw.eventId.blob := fun heq => hid (BrowserEventId.blob_injective heq)
      refine (h.settled other (hrecovered.events_sublist.subset hother) (hwhy.imp_left ?_)).touched hrecovered.touches hkey
      rintro ⟨earlier, hearlier, heq⟩
      rcases List.mem_append.1 hearlier with hearlier | hearlier
      · exact ⟨earlier, hearlier, heq⟩
      · obtain rfl := List.mem_singleton.1 hearlier
        exact absurd heq.symm hid

theorem walked {rows : List RawEvent} (hvalid : start.Valid) (hrows : ∀ raw ∈ rows, raw ∈ start.events)
    (hunique : UniqueKeys RawEvent.eventId rows) (h : rows.foldlM (recoverRow payloads) (report, start) = .ok (report', db)) :
    Walked payloads start rows db := by
  refine foldlM_prefix (P := fun rows state => Walked payloads start rows state.2) ?_ (.init hvalid) h
  rintro before raw rest ⟨report, db⟩ ⟨report', db'⟩ rfl hwalked hstep
  refine hwalked.next (hrows raw (by simp)) (fun earlier hearlier heq => ?_) (recoverRow_eq hwalked.valid hstep)
  rw [UniqueKeys, List.map_append, List.nodup_append] at hunique
  exact hunique.2.2 _ (List.mem_map_of_mem hearlier) _ (List.mem_map_of_mem (by simp)) heq

theorem discardOrphan_eq (h : discardOrphan (report, db) row = .ok (report', db')) :
    ∃ unavailable, db' = { db with timeline := db.timeline.filter (·.sortKey ≠ row.sortKey), unavailable := unavailable } := by
  simp only [discardOrphan, bind_eq_ok, pure_eq_ok] at h
  obtain ⟨-, -, -, -, next, hrecorded, h⟩ := h
  obtain ⟨-, rfl⟩ := Prod.mk.inj h
  obtain ⟨unavailable, rfl⟩ := recordUnavailable_eq hrecorded
  exact ⟨unavailable, rfl⟩

/-- What has become of the references since orphans began to be discarded. -/
structure Discarded (start : Db) (rows : List TimelineRow) (db : Db) : Prop where
  valid : db.Valid
  events : db.events = start.events
  usage : db.usage = start.usage
  timeline : ∀ row, row ∈ db.timeline ↔ row ∈ start.timeline ∧ ∀ orphan ∈ rows, orphan.sortKey ≠ row.sortKey

theorem discarded {rows : List TimelineRow} (hvalid : start.Valid)
    (h : rows.foldlM discardOrphan (report, start) = .ok (report', db)) : Discarded start rows db := by
  refine foldlM_prefix (P := fun rows state => Discarded start rows state.2) ?_ ⟨hvalid, rfl, rfl, by simp⟩ h
  rintro before row rest ⟨report, db⟩ ⟨report', db'⟩ - hdiscarded hstep
  obtain ⟨unavailable, rfl⟩ := discardOrphan_eq hstep
  refine ⟨⟨hdiscarded.valid.events, hdiscarded.valid.timeline.filter _, hdiscarded.valid.usage⟩, hdiscarded.events, hdiscarded.usage,
    fun other => ?_⟩
  rw [List.mem_filter, hdiscarded.timeline other, List.forall_mem_append, List.forall_mem_singleton, decide_eq_true_eq, and_assoc,
    ne_comm]

theorem Discarded.orphans (h : Discarded start ((orphanTimeline start).take n) db) (hrow : row ∈ orphanTimeline db)
    : row ∈ (orphanTimeline start).drop n := by
  obtain ⟨hmem, horphan⟩ := mem_orphanTimeline.1 hrow
  obtain ⟨hmem, hrows⟩ := (h.timeline row).1 hmem
  have hstart : row ∈ orphanTimeline start := mem_orphanTimeline.2 ⟨hmem, h.events ▸ horphan⟩
  rw [← List.take_append_drop n (orphanTimeline start)] at hstart
  exact (List.mem_append.1 hstart).resolve_left fun htake => hrows row htake rfl

theorem Discarded.length (h : Discarded start ((orphanTimeline start).take n) db) :
    (orphanTimeline db).length + ((orphanTimeline start).take n).length ≤ (orphanTimeline start).length := by
  have hnodup : (orphanTimeline db).Nodup := (List.Nodup.of_map _ h.valid.timeline).filter _
  have hle := (List.subperm_of_subset hnodup fun row hrow => h.orphans hrow).length_le
  have hlength := congrArg List.length (List.take_append_drop n (orphanTimeline start))
  rw [List.length_append] at hlength
  omega

theorem Discarded.kept (h : Discarded start ((orphanTimeline start).take n) db) (hrow : row ∈ start.timeline)
    (hevent : ∃ raw ∈ start.events, raw.eventId.blob = row.sortKey) : row ∈ db.timeline := by
  obtain ⟨raw, hraw, hkey⟩ := hevent
  refine (h.timeline row).2 ⟨hrow, fun orphan horphan heq => ?_⟩
  exact (mem_orphanTimeline.1 (List.mem_of_mem_take horphan)).2 raw hraw (hkey.trans heq.symm)

end Krometrail.EventIndex
