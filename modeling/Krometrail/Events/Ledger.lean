import Mathlib.Data.PNat.Basic
import Krometrail.Timeline.Ranges

/-!
# The gap ledger

Every target keeps a bounded ledger of the event ordinals that it has lost.  A gap that goes on where the last entry ends
is merged into that entry, and a full ledger merges its two oldest entries.
-/

namespace Krometrail.Events

/-- A `TargetGeneration`; `begin_target` refuses an attachment of zero. -/
structure TargetGeneration where
  connection : Nat
  attachment : ℕ+
  deriving DecidableEq

inductive BrowserEventClass
  | console | exception | network | navigation | lifecycle | target | dialog | capture | operational
  deriving DecidableEq

inductive BrowserEventGapReason
  | invalidPayload | payloadLimit | queueSaturated | fanoutLag | persistenceRejected | subscriptionClosed
  | sourceUnavailable | reconnectBoundary
  deriving DecidableEq

/-- What a `GapEntry` and a `BrowserEventCollectionGap` have in common. -/
structure CollectionGap where
  reason : BrowserEventGapReason
  affectedClass : Option BrowserEventClass
  range : SessionRange
  firstOrdinal : Nat
  lastOrdinal : Nat
  count : Nat
  ledgerMerged : Bool
  deriving DecidableEq

def CollectionGap.new (gap : CollectionGap) : Result CollectionGap := do
  refuse (gap.lastOrdinal < gap.firstOrdinal) (invalid "browser event gap first ordinal must not exceed its last ordinal")
  return gap

/-- The ordinals in the range of a gap. -/
def CollectionGap.Covers (gap : CollectionGap) (ordinal : Nat) : Prop :=
  gap.firstOrdinal ≤ ordinal ∧ ordinal ≤ gap.lastOrdinal

instance (gap : CollectionGap) (ordinal : Nat) : Decidable (gap.Covers ordinal) := by
  unfold CollectionGap.Covers
  infer_instance

structure GapEntry where
  generation : TargetGeneration
  gap : CollectionGap
  deriving DecidableEq

/-- The smallest range around two. -/
def hull (a b : SessionRange) : SessionRange :=
  ⟨(min a.fst b.fst, max a.snd b.snd), (min_le_left _ _).trans (a.fst_le_snd.trans (le_max_left _ _))⟩

def GapEntry.point (generation : TargetGeneration) (reason : BrowserEventGapReason) (cls : Option BrowserEventClass)
    (time : SessionTime) (ordinal : Nat) : GapEntry :=
  ⟨generation, reason, cls, NonemptyInterval.pure time, ordinal, ordinal, 1, false⟩

structure GapLedger where
  capacity : Nat
  entries : List GapEntry

namespace GapLedger

variable (ledger : GapLedger) (entry : GapEntry)

def pop : Option (GapEntry × GapLedger) :=
  match ledger.entries with
  | [] => none
  | first :: rest => some (first, { ledger with entries := rest })

/-- The entry that `merge_oldest` makes of two. -/
def mergeEntries (first second : GapEntry) : GapEntry where
  generation := first.generation
  gap := {
    reason := first.gap.reason
    affectedClass := if first.gap.affectedClass = second.gap.affectedClass then first.gap.affectedClass else none
    range := hull first.gap.range second.gap.range
    firstOrdinal := first.gap.firstOrdinal
    lastOrdinal := max first.gap.lastOrdinal second.gap.lastOrdinal
    count := saturatingAdd first.gap.count second.gap.count
    ledgerMerged := true }

def mergeOldest : GapLedger :=
  match ledger.entries with
  | first :: second :: rest => { ledger with entries := mergeEntries first second :: rest }
  | _ => ledger

/-- The ledger with room for one more entry, as far as merging makes room. -/
def makeRoom : GapLedger := if ledger.capacity ≤ ledger.entries.length then ledger.mergeOldest else ledger

def pushFront : GapLedger := { ledger.makeRoom with entries := entry :: ledger.makeRoom.entries }

/-- The gap goes on where the last entry ends. -/
def continues (last : GapEntry) : Bool :=
  last.generation = entry.generation ∧ last.gap.reason = entry.gap.reason ∧
    last.gap.affectedClass = entry.gap.affectedClass ∧ saturatingAdd last.gap.lastOrdinal 1 = entry.gap.firstOrdinal

/-- The last entry, with a gap that continues it. -/
def extend (last : GapEntry) : GapEntry where
  generation := last.generation
  gap := { last.gap with
    range := hull last.gap.range entry.gap.range
    lastOrdinal := entry.gap.lastOrdinal
    count := saturatingAdd last.gap.count entry.gap.count
    ledgerMerged := last.gap.ledgerMerged || entry.gap.ledgerMerged }

def pushEntry : GapLedger :=
  match ledger.entries.getLast? with
  | some last =>
    if continues entry last then { ledger with entries := ledger.entries.dropLast ++ [extend entry last] }
    else { ledger.makeRoom with entries := ledger.makeRoom.entries ++ [entry] }
  | none => { ledger.makeRoom with entries := ledger.makeRoom.entries ++ [entry] }

/-- The ledger has room, or its two oldest entries are in the order of their first ordinals. -/
def OldestInOrder : Prop :=
  ledger.entries.length < ledger.capacity ∨
    ∀ first ∈ ledger.entries[0]?, ∀ second ∈ ledger.entries[1]?, first.gap.firstOrdinal ≤ second.gap.firstOrdinal

/-- The gap continues the last entry, or can come into the ledger behind it. -/
def Admits : Prop := (∃ last ∈ ledger.entries.getLast?, continues entry last = true) ∨ ledger.OldestInOrder

instance : Decidable ledger.OldestInOrder := by unfold OldestInOrder; infer_instance

instance : Decidable (ledger.Admits entry) := by unfold Admits; infer_instance

end GapLedger

def gapsOf (entries : List GapEntry) : List CollectionGap := entries.map GapEntry.gap

/-- The gaps cover the lost ordinals, and their counts add up to the number of these. -/
structure Accounts (gaps : List CollectionGap) (lost : List Nat) : Prop where
  ordered : ∀ gap ∈ gaps, gap.firstOrdinal ≤ gap.lastOrdinal ∧ gap.lastOrdinal ≤ u64Max
  covered : ∀ ordinal ∈ lost, ∃ gap ∈ gaps, gap.Covers ordinal
  counted : (gaps.map CollectionGap.count).sum = lost.length
  positive : ∀ gap ∈ gaps, 1 ≤ gap.count

namespace Accounts

variable {gaps gaps' : List CollectionGap} {lost lost' : List Nat}

theorem nil : Accounts [] [] := ⟨nofun, nofun, rfl, nofun⟩

theorem perm (h : Accounts gaps lost) (hgaps : gaps.Perm gaps') (hlost : lost.Perm lost') : Accounts gaps' lost' where
  ordered gap hgap := h.ordered gap (hgaps.mem_iff.2 hgap)
  covered ordinal hordinal := by
    obtain ⟨gap, hgap, hcovers⟩ := h.covered ordinal (hlost.mem_iff.2 hordinal)
    exact ⟨gap, hgaps.mem_iff.1 hgap, hcovers⟩
  counted := by rw [← (hgaps.map _).sum_eq, h.counted, hlost.length_eq]
  positive gap hgap := h.positive gap (hgaps.mem_iff.2 hgap)

theorem append (h : Accounts gaps lost) (h' : Accounts gaps' lost') : Accounts (gaps ++ gaps') (lost ++ lost') where
  ordered gap hgap := (List.mem_append.1 hgap).elim (h.ordered gap) (h'.ordered gap)
  covered ordinal hordinal := by
    rcases List.mem_append.1 hordinal with hordinal | hordinal
    · obtain ⟨gap, hgap, hcovers⟩ := h.covered ordinal hordinal
      exact ⟨gap, List.mem_append_left _ hgap, hcovers⟩
    · obtain ⟨gap, hgap, hcovers⟩ := h'.covered ordinal hordinal
      exact ⟨gap, List.mem_append_right _ hgap, hcovers⟩
  counted := by rw [List.map_append, List.sum_append, h.counted, h'.counted, List.length_append]
  positive gap hgap := (List.mem_append.1 hgap).elim (h.positive gap) (h'.positive gap)

theorem merge {a b c : CollectionGap} (h : Accounts (a :: b :: gaps) lost) (hordered : c.firstOrdinal ≤ c.lastOrdinal ∧ c.lastOrdinal ≤ u64Max)
    (ha : ∀ ordinal, a.Covers ordinal → c.Covers ordinal) (hb : ∀ ordinal, b.Covers ordinal → c.Covers ordinal)
    (hcount : c.count = a.count + b.count) : Accounts (c :: gaps) lost where
  ordered gap hgap := by
    rcases List.mem_cons.1 hgap with rfl | hgap
    · exact hordered
    · exact h.ordered gap (by simp [hgap])
  covered ordinal hordinal := by
    obtain ⟨gap, hgap, hcovers⟩ := h.covered ordinal hordinal
    simp only [List.mem_cons] at hgap
    rcases hgap with rfl | rfl | hgap
    · exact ⟨c, by simp, ha ordinal hcovers⟩
    · exact ⟨c, by simp, hb ordinal hcovers⟩
    · exact ⟨gap, by simp [hgap], hcovers⟩
  counted := by
    have hcounted := h.counted
    simp only [List.map_cons, List.sum_cons] at hcounted ⊢
    omega
  positive gap hgap := by
    rcases List.mem_cons.1 hgap with rfl | hgap
    · have := h.positive a (by simp)
      omega
    · exact h.positive gap (by simp [hgap])

theorem count_add_le {a b : CollectionGap} (h : Accounts (a :: b :: gaps) lost) : a.count + b.count ≤ lost.length := by
  have hcounted := h.counted
  simp only [List.map_cons, List.sum_cons] at hcounted
  omega

variable {ledger : GapLedger} {entry : GapEntry}

theorem makeRoom (h : Accounts (gapsOf ledger.entries ++ gaps) lost) (horder : ledger.OldestInOrder)
    (hbound : lost.length ≤ u64Max) : Accounts (gapsOf ledger.makeRoom.entries ++ gaps) lost := by
  unfold GapLedger.makeRoom
  split
  case isFalse => exact h
  case isTrue hfull =>
    unfold GapLedger.mergeOldest
    split
    case h_2 => exact h
    case h_1 first second rest hentries =>
      rw [hentries] at h
      have hcount := h.count_add_le
      have hfirst := h.ordered first.gap (by simp [gapsOf])
      have hsecond := h.ordered second.gap (by simp [gapsOf])
      have hle : first.gap.firstOrdinal ≤ second.gap.firstOrdinal :=
        (horder.resolve_left hfull.not_gt) first (by simp [hentries]) second (by simp [hentries])
      refine h.merge (c := (GapLedger.mergeEntries first second).gap) ?_ ?_ ?_ ?_
      · exact ⟨hfirst.1.trans (le_max_left _ _), max_le hfirst.2 hsecond.2⟩
      · exact fun ordinal hcovers => ⟨hcovers.1, hcovers.2.trans (le_max_left _ _)⟩
      · exact fun ordinal hcovers => ⟨hle.trans hcovers.1, hcovers.2.trans (le_max_right _ _)⟩
      · exact min_eq_left (hcount.trans hbound)

theorem pushFront (h : Accounts (gapsOf ledger.entries ++ (entry.gap :: gaps)) lost) (horder : ledger.OldestInOrder)
    (hbound : lost.length ≤ u64Max) : Accounts (gapsOf (ledger.pushFront entry).entries ++ gaps) lost :=
  (h.makeRoom horder hbound).perm List.perm_middle (.refl _)

theorem pushEntry (h : Accounts (gapsOf ledger.entries ++ (entry.gap :: gaps)) lost) (hadmits : ledger.Admits entry)
    (hbound : lost.length ≤ u64Max) : Accounts (gapsOf (ledger.pushEntry entry).entries ++ gaps) lost := by
  have hback : ledger.OldestInOrder →
      Accounts (gapsOf (ledger.makeRoom.entries ++ [entry]) ++ gaps) lost := by
    intro horder
    have := h.makeRoom horder hbound
    simpa [gapsOf] using this
  unfold GapLedger.pushEntry
  split
  case h_2 hlast => exact hback (hadmits.resolve_left (by simp [hlast]))
  case h_1 last hlast =>
    split
    case isFalse hcontinues =>
      refine hback (hadmits.resolve_left ?_)
      rintro ⟨other, hother, hcontinues'⟩
      obtain rfl : last = other := Option.some.inj (hlast.symm.trans hother)
      exact hcontinues hcontinues'
    case isTrue hcontinues =>
      obtain ⟨init, hentries⟩ : ∃ init, ledger.entries = init ++ [last] := List.getLast?_eq_some_iff.1 hlast
      obtain ⟨-, -, -, hnext⟩ := of_decide_eq_true hcontinues
      rw [saturatingAdd] at hnext
      have hperm : (gapsOf ledger.entries ++ (entry.gap :: gaps)).Perm (last.gap :: entry.gap :: (gapsOf init ++ gaps)) := by
        rw [hentries]
        simp only [gapsOf, List.map_append, List.map_cons, List.map_nil, List.append_assoc, List.cons_append, List.nil_append]
        exact List.perm_middle.trans ((List.perm_middle).cons _)
      have h' := h.perm hperm (.refl _)
      have hcount := h'.count_add_le
      have hlastOrdered := h'.ordered last.gap (by simp)
      have hentryOrdered := h'.ordered entry.gap (by simp)
      have hmerged := h'.merge (c := (GapLedger.extend entry last).gap)
        ⟨show last.gap.firstOrdinal ≤ entry.gap.lastOrdinal by omega, hentryOrdered.2⟩
        (fun ordinal hcovers => ⟨hcovers.1, show ordinal ≤ entry.gap.lastOrdinal from by have := hcovers.2; omega⟩)
        (fun ordinal hcovers => ⟨show last.gap.firstOrdinal ≤ ordinal from by have := hcovers.1; omega, hcovers.2⟩)
        (min_eq_left (hcount.trans hbound))
      refine hmerged.perm ?_ (.refl _)
      rw [hentries]
      simp only [gapsOf, List.dropLast_concat, List.map_append, List.map_cons, List.map_nil, List.append_assoc,
        List.cons_append, List.nil_append]
      exact List.perm_middle.symm

end Accounts

namespace GapLedger

variable {ledger : GapLedger} {entry next : GapEntry}

theorem admits_pushEntry (hgeneration : next.generation = entry.generation) (hreason : next.gap.reason = entry.gap.reason)
    (hclass : next.gap.affectedClass = entry.gap.affectedClass)
    (hnext : saturatingAdd entry.gap.lastOrdinal 1 = next.gap.firstOrdinal) : (ledger.pushEntry entry).Admits next := by
  left
  unfold pushEntry
  split
  · split
    · rename_i last _ hcontinues
      obtain ⟨h1, h2, h3, -⟩ := of_decide_eq_true hcontinues
      refine ⟨extend entry last, by simp, ?_⟩
      simp [continues, extend, h1, h2, h3, hgeneration, hreason, hclass, hnext]
    · exact ⟨entry, by simp, by simp [continues, hgeneration, hreason, hclass, hnext]⟩
  · exact ⟨entry, by simp, by simp [continues, hgeneration, hreason, hclass, hnext]⟩

end GapLedger

end Krometrail.Events
