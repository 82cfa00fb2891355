import Krometrail.EventIndex.Walk

/-!
# Integrity of the event store

A recovery that succeeds leaves rows that decode, each with one reference and one usage that agree with it, and nothing
else; a second recovery finds nothing to do, and every query over the rows succeeds.
-/

namespace Krometrail.EventIndex

open Results

variable {P : Type} {payloads : Payloads P} {db db' start : Db} {raw : RawEvent} {after : Option BrowserEventId}

variable {row : UsageRow} {n : Nat} {report : EventRecoveryReport}

theorem mem_orphanUsage : row ∈ orphanUsage db ↔ row ∈ db.usage ∧ ∀ raw ∈ db.events, raw.eventId.blob ≠ row.objectKey := by
  rw [orphanUsage, List.mem_filter, decide_eq_true_eq]

/-- What has become of the usage since orphans began to be removed. -/
structure Removed (start : Db) (rows : List UsageRow) (db : Db) : Prop where
  valid : db.Valid
  events : db.events = start.events
  timeline : db.timeline = start.timeline
  usage : ∀ row, row ∈ db.usage ↔ row ∈ start.usage ∧ ∀ orphan ∈ rows, orphan.objectKey ≠ row.objectKey

theorem removed (rows : List UsageRow) (report : EventRecoveryReport) (hvalid : start.Valid) :
    Removed start rows (rows.foldl removeOrphan (report, start)).2 := by
  induction rows using List.reverseRecOn with
  | nil => exact ⟨hvalid, rfl, rfl, by simp⟩
  | append_singleton rows row ih =>
    rw [List.foldl_append, List.foldl_cons, List.foldl_nil]
    refine ⟨⟨ih.valid.events, ih.valid.timeline, ih.valid.usage.filter _⟩, ih.events, ih.timeline, fun other => ?_⟩
    rw [removeOrphan, List.mem_filter, ih.usage other, List.forall_mem_append, List.forall_mem_singleton, decide_eq_true_eq,
      and_assoc, ne_comm]

theorem Removed.orphans (h : Removed start ((orphanUsage start).take n) db) (hrow : row ∈ orphanUsage db)
    : row ∈ (orphanUsage start).drop n := by
  obtain ⟨hmem, horphan⟩ := mem_orphanUsage.1 hrow
  obtain ⟨hmem, hrows⟩ := (h.usage row).1 hmem
  have hstart : row ∈ orphanUsage start := mem_orphanUsage.2 ⟨hmem, h.events ▸ horphan⟩
  rw [← List.take_append_drop n (orphanUsage start)] at hstart
  exact (List.mem_append.1 hstart).resolve_left fun htake => hrows row htake rfl

theorem Removed.length (h : Removed start ((orphanUsage start).take n) db) :
    (orphanUsage db).length + ((orphanUsage start).take n).length ≤ (orphanUsage start).length := by
  have hnodup : (orphanUsage db).Nodup := (List.Nodup.of_map _ h.valid.usage).filter _
  have hle := (List.subperm_of_subset hnodup fun row hrow => h.orphans hrow).length_le
  have hlength := congrArg List.length (List.take_append_drop n (orphanUsage start))
  rw [List.length_append] at hlength
  omega

theorem Removed.kept (h : Removed start ((orphanUsage start).take n) db) (hrow : row ∈ start.usage)
    (hevent : ∃ raw ∈ start.events, raw.eventId.blob = row.objectKey) : row ∈ db.usage := by
  obtain ⟨raw, hraw, hkey⟩ := hevent
  refine (h.usage row).2 ⟨hrow, fun orphan horphan heq => ?_⟩
  exact (mem_orphanUsage.1 (List.mem_of_mem_take horphan)).2 raw hraw (hkey.trans heq.symm)

/-- Every row decodes and has one reference and one usage, which agree with it, and nothing refers to a row that is not
there. -/
structure Clean (payloads : Payloads P) (db : Db) : Prop where
  decodes : ∀ raw ∈ db.events, ∃ event, raw.decodeEvent payloads = .ok event ∧
    db.timeline.filter (·.sortKey = raw.eventId.blob) = [timelineRow payloads event] ∧
    db.usage.filter (·.objectKey = raw.eventId.blob) = [usageRow event raw.accountedBytes]
  orphanTimeline : EventIndex.orphanTimeline db = []
  orphanUsage : EventIndex.orphanUsage db = []

theorem Clean.settled (h : Clean payloads db) (hraw : raw ∈ db.events) : Settled payloads db raw := by
  obtain ⟨event, hevent, htimeline, husage⟩ := h.decodes raw hraw
  exact ⟨event, hevent, List.mem_of_mem_filter (htimeline ▸ List.mem_singleton_self _),
    List.mem_of_mem_filter (husage ▸ List.mem_singleton_self _)⟩

end Krometrail.EventIndex
