import Krometrail.EventIndex.Integrity

/-!
# Recoveries that succeed

A recovery succeeds when no row that it reads for the record of a loss is malformed and the counts of lost events have
room for as many more as there are rows to lose.
-/

namespace Krometrail.EventIndex

open Results
open Keyed (UniqueKeys)

variable {P : Type} {payloads : Payloads P} {db db' : Db} {raw : RawEvent} {event : BrowserEvent P} {after : Option BrowserEventId}

/-- The counts of unavailable events can take `n` more. -/
structure Roomy (db : Db) (n : Nat) : Prop where
  bound : n ≤ u64Max
  counts : ∀ row ∈ db.unavailable, row.eventCount + n ≤ u64Max

theorem Roomy.mono {m n : Nat} (h : Roomy db n) (hle : m ≤ n) : Roomy db m :=
  ⟨hle.trans h.bound, fun row hrow => (Nat.add_le_add_left hle _).trans (h.counts row hrow)⟩

/-- The identity that the record of a lost reference needs. -/
def TimelineRow.Recordable (row : TimelineRow) : Prop :=
  row.sortKey.length = 16 ∧ row.sortKey.all (· == 0) = false ∧ row.sessionId.uuid.isNil = false ∧ row.targetId.uuid.isNil = false

/-- No row that a recovery reads for the record of a loss is malformed, and the counts of losses have room. -/
structure Recoverable (db : Db) : Prop where
  scopes : ∀ raw ∈ db.events, ∃ scope, raw.decodeScope = .ok scope
  orphans : ∀ row ∈ orphanTimeline db, row.Recordable
  room : Roomy db (db.events.length + (orphanTimeline db).length)

end Krometrail.EventIndex
