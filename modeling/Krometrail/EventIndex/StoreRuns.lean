import Krometrail.EventIndex.Recoverable
import Krometrail.Lib.Runs

/-!
# Runs of the event store

Appends, evictions and recoveries in any order, from tables of any contents that the schema allows.
-/

namespace Krometrail.EventIndex

open Results
open Keyed (UniqueKeys)
open Runs (Run System exists_run)
open Sorting (sortByKey mem_sortByKey)

variable {P : Type} {payloads : Payloads P} {db db' : Db} {raw : RawEvent} {event : BrowserEvent P}

inductive Input (P : Type)
  | append (batch : List (BrowserEvent P)) (budget managedBefore : Nat)
  | evict (before : Option Nat)
  | recover

variable [DecidableEq P]

/-- A transaction that fails leaves the rows as they are; a recovery leaves what it had committed. -/
def exec (payloads : Payloads P) (db : Db) : Input P → Db
  | .append batch budget managedBefore =>
    match appendBatch payloads db batch budget managedBefore with
    | .ok db => db
    | .error _ => db
  | .evict before =>
    match evictEvents db before none with
    | .ok (_, db) => db
    | .error _ => db
  | .recover => (recoverBrowserEvents payloads db).2

/-- The store, from any contents that the schema allows. -/
def store (payloads : Payloads P) : System Db (Input P) Unit := .ofExec Db.Valid fun db input => some (exec payloads db input)

variable {budget inserted : Nat} {batch : List (BrowserEvent P)}

theorem evictCandidates_valid {required : Option Nat} {candidates : List RawEvent} {removed removed' : Nat} (hvalid : db.Valid)
    (h : evictCandidates required candidates removed db = .ok (removed', db')) : db'.Valid := by
  induction candidates generalizing removed db with
  | nil =>
    obtain ⟨-, rfl⟩ := Prod.mk.inj (Except.ok.inj h)
    exact hvalid
  | cons raw candidates ih =>
    unfold evictCandidates at h
    split at h
    · obtain ⟨-, rfl⟩ := Prod.mk.inj (Except.ok.inj h)
      exact hvalid
    · simp only [bind_eq_ok] at h
      obtain ⟨scope, -, next, hrecorded, removed₁, -, h⟩ := h
      obtain ⟨unavailable, rfl⟩ := recordUnavailable_eq hrecorded
      have hvalid' := removed_valid hvalid scope.eventId unavailable
      split at h
      · obtain ⟨-, rfl⟩ := Prod.mk.inj (Except.ok.inj h)
        exact hvalid'
      · exact ih hvalid' h

theorem evictEvents_valid {before required : Option Nat} {removed : Nat} (hvalid : db.Valid)
    (h : evictEvents db before required = .ok (removed, db')) : db'.Valid := evictCandidates_valid hvalid h

/-- One row has the identity or the place of the event; it decodes to the event, and its dependents agree with it. -/
def Stored (payloads : Payloads P) (db : Db) (event : BrowserEvent P) : Prop :=
  ∃ raw, conflictingRows db event = [raw] ∧ raw.decodeEvent payloads = .ok event ∧ timelineRow payloads event ∈ db.timeline ∧
    usageRow event raw.accountedBytes ∈ db.usage

/-- Payloads of one kind, which are always accepted. -/
def plain : Payloads Unit where
  encode _ := "{}"
  decode _ := some ()
  kind _ := "k"
  className _ := "c"
  compactPriority _ := 0
  gapRange _ := none
  accepts _ := true
  batchBytes _ := 0
  reference _ := "r"

def sample : BrowserEvent Unit :=
  ⟨⟨someUuid 1⟩, ⟨someUuid 2⟩, ⟨someUuid 3⟩, 1, 1, ⟨0⟩, none, ⟨0⟩, .debug, ()⟩

def sampleRow : RawEvent := rawEvent plain sample 396 1

/-- The tables with one row of these columns, and its dependents. -/
def holding (raw : RawEvent) : Db := ⟨[raw], [timelineRow plain sample], [usageRow sample 396], [], 2⟩

theorem holding_valid (raw : RawEvent) : (holding raw).Valid :=
  ⟨List.nodup_singleton _, List.nodup_singleton _, List.nodup_singleton _⟩

end Krometrail.EventIndex
