import Krometrail.Events.Ledger
import Krometrail.Lib.Evidence
import Krometrail.Lib.Runs

/-!
# Runs of the event gap ledger

Everything that a target pushes into its ledger, pops for the writer and puts back in front.  A push into a full ledger
merges its two oldest entries, which is all right when there are two and the older one begins first (`Admissible`).
-/

namespace Krometrail.Events

open Runs (Run System)
open Evidence (Conserved)

/-- The extent of a gap: its times and its ordinals. -/
def CollectionGap.extent (gap : CollectionGap) : SessionRange × Natᵒᵈ × Nat :=
  (gap.range, OrderDual.toDual gap.firstOrdinal, gap.lastOrdinal)

theorem CollectionGap.extent_le {gap gap' : CollectionGap} : gap.extent ≤ gap'.extent ↔
    gap.range ≤ gap'.range ∧ gap'.firstOrdinal ≤ gap.firstOrdinal ∧ gap.lastOrdinal ≤ gap'.lastOrdinal := Iff.rfl

/-- The numbers of a gap are of 64 bits, and it counts an event at least. -/
structure CollectionGap.Fits (gap : CollectionGap) : Prop where
  last : gap.lastOrdinal ≤ u64Max
  count_pos : 1 ≤ gap.count
  count : gap.count ≤ u64Max

/-- The ledger with the entries that were taken out of it and, for the record, what was pushed. -/
structure LedgerHistory where
  ledger : GapLedger
  taken : List GapEntry
  pushed : List CollectionGap

namespace LedgerHistory

/-- What the writer puts back: `requeue_gap_event` reads the entry from the event that it had become. -/
def requeued (entry : GapEntry) : GapEntry where
  generation := { entry.generation with connection := 0 }
  gap := { entry.gap with count := max entry.gap.count 1 }

inductive Op
  | push (entry : GapEntry) (fits : entry.gap.Fits)
  | pop
  | requeue (index : Nat)

def exec (self : LedgerHistory) : Op → Option LedgerHistory
  | .push entry _ => some { self with ledger := self.ledger.pushEntry entry, pushed := entry.gap :: self.pushed }
  | .pop =>
    match self.ledger.pop with
    | some (entry, ledger) => some { self with ledger, taken := entry :: self.taken }
    | none => some self
  | .requeue index =>
    match self.taken[index]? with
    | some entry => some { self with ledger := self.ledger.pushFront (requeued entry), taken := self.taken.eraseIdx index }
    | none => none

def IsInitial (self : LedgerHistory) : Prop :=
  1 ≤ self.ledger.capacity ∧ self.ledger.entries = [] ∧ self.taken = [] ∧ self.pushed = []

end LedgerHistory

open LedgerHistory

def ledgerSystem : System LedgerHistory Op Unit := .ofExec IsInitial exec

/-- There is room behind or in front of the entries: the ledger is not full, or its two oldest entries can be merged
because there are two and the older one begins first. -/
def GapLedger.Roomy (ledger : GapLedger) : Prop :=
  ledger.entries.length < ledger.capacity ∨ 2 ≤ ledger.capacity ∧ ledger.OldestInOrder

/-- A gap is pushed with its ordinals in order, and continues the last entry or finds room; what is put back finds room. -/
def Admissible (self : LedgerHistory) : Op → Prop
  | .push entry _ => entry.gap.firstOrdinal ≤ entry.gap.lastOrdinal ∧
      ((∃ last ∈ self.ledger.entries.getLast?, GapLedger.continues entry last = true) ∨ self.ledger.Roomy)
  | .pop => True
  | .requeue _ => self.ledger.Roomy

instance (ledger : GapLedger) : Decidable ledger.Roomy := by unfold GapLedger.Roomy; infer_instance

instance (self : LedgerHistory) (op : Op) : Decidable (Admissible self op) := by
  cases op <;> unfold Admissible <;> infer_instance

/-- What a ledger has not lost: it stays within its capacity, every pushed gap lies with its times and its ordinals inside
an entry that is pending or was taken, the counts add up, and every entry is a gap that `BrowserEventCollectionGap::new`
takes. -/
structure LedgerHistory.Preserved (history : LedgerHistory) : Prop where
  bounded : history.ledger.entries.length ≤ history.ledger.capacity
  evidence : Conserved CollectionGap.extent CollectionGap.count u64Max (gapsOf (history.ledger.entries ++ history.taken)) history.pushed
  convertible : ∀ entry ∈ history.ledger.entries ++ history.taken, CollectionGap.new entry.gap = .ok entry.gap

/-- The entries of a ledger, pending or taken, hold what was pushed. -/
structure Holds (entries : List GapEntry) (pushed : List CollectionGap) : Prop where
  evidence : Conserved CollectionGap.extent CollectionGap.count u64Max (gapsOf entries) pushed
  ordered : ∀ entry ∈ entries, entry.gap.firstOrdinal ≤ entry.gap.lastOrdinal ∧ entry.gap.Fits

namespace Holds

variable {entries entries' : List GapEntry} {pushed : List CollectionGap} {a b c entry : GapEntry}

theorem perm (h : Holds entries pushed) (hperm : entries.Perm entries') : Holds entries' pushed where
  evidence := h.evidence.perm (hperm.map _) (.refl _)
  ordered entry hentry := h.ordered entry (hperm.mem_iff.2 hentry)

theorem put (h : Holds entries pushed) (hordered : entry.gap.firstOrdinal ≤ entry.gap.lastOrdinal) (hfits : entry.gap.Fits) :
    Holds (entry :: entries) (entry.gap :: pushed) where
  evidence := h.evidence.put hfits.count
  ordered other hother := by
    rcases List.mem_cons.1 hother with rfl | hother
    · exact ⟨hordered, hfits⟩
    · exact h.ordered other hother

theorem merge (h : Holds (a :: b :: entries) pushed) (ha : a.gap.extent ≤ c.gap.extent) (hb : b.gap.extent ≤ c.gap.extent)
    (hcount : c.gap.count = saturatingAdd a.gap.count b.gap.count) (hlast : c.gap.lastOrdinal ≤ u64Max) :
    Holds (c :: entries) pushed where
  evidence := h.evidence.merge ha hb hcount
  ordered other hother := by
    rcases List.mem_cons.1 hother with rfl | hother
    · obtain ⟨hordered, hfits⟩ := h.ordered a (by simp)
      obtain ⟨-, hfirst, hle⟩ := CollectionGap.extent_le.1 ha
      have hpos := hfits.count_pos
      refine ⟨hfirst.trans (hordered.trans hle), hlast, ?_, ?_⟩
      · rw [hcount, saturatingAdd]
        have : 1 ≤ u64Max := by decide
        omega
      · rw [hcount]
        exact min_le_right _ _
    · exact h.ordered other (by simp [hother])

theorem convertible (h : Holds entries pushed) (hentry : entry ∈ entries) : CollectionGap.new entry.gap = .ok entry.gap := by
  unfold CollectionGap.new
  rw [refuse, if_neg (not_lt.2 (h.ordered entry hentry).1)]
  rfl

end Holds

namespace GapLedger

variable {ledger : GapLedger} {entry : GapEntry} {others : List GapEntry} {pushed : List CollectionGap}

theorem le_hull_extent {first second : GapEntry} (hle : first.gap.firstOrdinal ≤ second.gap.firstOrdinal) :
    first.gap.extent ≤ (mergeEntries first second).gap.extent ∧ second.gap.extent ≤ (mergeEntries first second).gap.extent :=
  ⟨⟨⟨min_le_left _ _, le_max_left _ _⟩, le_refl first.gap.firstOrdinal, le_max_left _ _⟩,
    ⟨⟨min_le_right _ _, le_max_right _ _⟩, hle, le_max_right _ _⟩⟩

theorem Roomy.makeRoom (others : List GapEntry) (hroomy : ledger.Roomy) (hbounded : ledger.entries.length ≤ ledger.capacity)
    (h : Holds (ledger.entries ++ others) pushed) :
    Holds (ledger.makeRoom.entries ++ others) pushed ∧ ledger.makeRoom.entries.length < ledger.capacity ∧
      ledger.makeRoom.capacity = ledger.capacity := by
  unfold GapLedger.makeRoom
  split
  case isFalse hroom => exact ⟨h, not_le.1 hroom, rfl⟩
  case isTrue hfull =>
    obtain ⟨htwo, horder⟩ := hroomy.resolve_left hfull.not_gt
    unfold GapLedger.mergeOldest
    split
    case h_2 hshort =>
      match hentries : ledger.entries with
      | [] | [_] => rw [hentries] at hfull; simp at hfull; omega
      | first :: second :: rest => exact absurd hentries (hshort first second rest)
    case h_1 first second rest hentries =>
      rw [hentries] at h hbounded
      have hle : first.gap.firstOrdinal ≤ second.gap.firstOrdinal :=
        (horder.resolve_left hfull.not_gt) first (by simp [hentries]) second (by simp [hentries])
      obtain ⟨hfirst, hsecond⟩ := le_hull_extent hle
      refine ⟨h.merge hfirst hsecond rfl ?_, ?_, rfl⟩
      · exact max_le (h.ordered first (by simp)).2.last (h.ordered second (by simp)).2.last
      · simp only [List.length_cons] at hbounded ⊢
        omega

theorem holds_extend {last : GapEntry} (h : Holds (last :: entry :: others) pushed) (hcontinues : continues entry last = true) :
    Holds (extend entry last :: others) pushed := by
  obtain ⟨-, -, -, hnext⟩ := of_decide_eq_true hcontinues
  obtain ⟨hlast, hlastFits⟩ := h.ordered last (by simp)
  obtain ⟨hentry, hentryFits⟩ := h.ordered entry (by simp)
  have hlastMax := hlastFits.last
  rw [saturatingAdd] at hnext
  refine h.merge (CollectionGap.extent_le.2 ⟨⟨min_le_left _ _, le_max_left _ _⟩, le_rfl, ?_⟩)
    (CollectionGap.extent_le.2 ⟨⟨min_le_right _ _, le_max_right _ _⟩, ?_, le_rfl⟩) rfl hentryFits.last
  · show last.gap.lastOrdinal ≤ entry.gap.lastOrdinal
    omega
  · show last.gap.firstOrdinal ≤ entry.gap.firstOrdinal
    omega

theorem holds_pushEntry (h : Holds (entry :: (ledger.entries ++ others)) pushed)
    (hbounded : ledger.entries.length ≤ ledger.capacity)
    (hadmissible : (∃ last ∈ ledger.entries.getLast?, continues entry last = true) ∨ ledger.Roomy) :
    Holds ((ledger.pushEntry entry).entries ++ others) pushed ∧
      (ledger.pushEntry entry).entries.length ≤ ledger.capacity ∧ (ledger.pushEntry entry).capacity = ledger.capacity := by
  have hback : ledger.Roomy → Holds (ledger.makeRoom.entries ++ [entry] ++ others) pushed ∧
      (ledger.makeRoom.entries ++ [entry]).length ≤ ledger.capacity ∧ ledger.makeRoom.capacity = ledger.capacity := by
    intro hroomy
    obtain ⟨hholds, hlength, hcapacity⟩ := hroomy.makeRoom (entry :: others) hbounded (h.perm List.perm_middle.symm)
    refine ⟨?_, ?_, hcapacity⟩
    · rw [List.append_assoc]
      exact hholds
    · rw [List.length_append, List.length_singleton]
      exact hlength
  unfold pushEntry
  split
  case h_2 hlast => exact hback (hadmissible.resolve_left (by simp [hlast]))
  case h_1 last hlast =>
    split
    case isFalse hcontinues =>
      refine hback (hadmissible.resolve_left ?_)
      rintro ⟨other, hother, hcontinues'⟩
      obtain rfl : last = other := Option.some.inj (hlast.symm.trans hother)
      exact hcontinues hcontinues'
    case isTrue hcontinues =>
      obtain ⟨init, hentries⟩ : ∃ init, ledger.entries = init ++ [last] := List.getLast?_eq_some_iff.1 hlast
      rw [hentries] at h hbounded
      have hperm : (entry :: (init ++ [last] ++ others)).Perm (last :: entry :: (init ++ others)) := by
        rw [List.append_assoc]
        exact ((List.perm_middle).cons entry).trans (List.Perm.swap _ _ _)
      refine ⟨?_, ?_, rfl⟩
      · rw [hentries, List.dropLast_concat, List.append_assoc]
        exact (holds_extend (h.perm hperm) hcontinues).perm List.perm_middle.symm
      · simpa [hentries] using hbounded

theorem holds_pushFront (h : Holds (entry :: (ledger.entries ++ others)) pushed)
    (hbounded : ledger.entries.length ≤ ledger.capacity) (hroomy : ledger.Roomy) :
    Holds ((ledger.pushFront entry).entries ++ others) pushed ∧
      (ledger.pushFront entry).entries.length ≤ ledger.capacity ∧ (ledger.pushFront entry).capacity = ledger.capacity := by
  obtain ⟨hholds, hlength, hcapacity⟩ := hroomy.makeRoom (entry :: others) hbounded (h.perm List.perm_middle.symm)
  exact ⟨hholds.perm List.perm_middle, hlength, hcapacity⟩

end GapLedger

/-- The ledger is bounded and holds what was pushed, with what was taken. -/
structure LedgerHistory.Sound (history : LedgerHistory) : Prop where
  bounded : history.ledger.entries.length ≤ history.ledger.capacity
  holds : Holds (history.ledger.entries ++ history.taken) history.pushed

theorem LedgerHistory.Sound.preserved {self : LedgerHistory} (h : self.Sound) : self.Preserved :=
  ⟨h.bounded, h.holds.evidence, fun _ hentry => h.holds.convertible hentry⟩

theorem Holds.requeue {entries : List GapEntry} {pushed : List CollectionGap} {entry : GapEntry}
    (h : Holds (entry :: entries) pushed) : Holds (requeued entry :: entries) pushed := by
  have hcount := (h.ordered entry (by simp)).2.count_pos
  have hgap : (requeued entry).gap = entry.gap := by
    rw [requeued, max_eq_left hcount]
  refine ⟨?_, fun other hother => ?_⟩
  · have hevidence := h.evidence
    rw [gapsOf, List.map_cons] at hevidence ⊢
    rwa [hgap]
  · rcases List.mem_cons.1 hother with rfl | hother
    · rw [hgap]
      exact h.ordered entry (by simp)
    · exact h.ordered other (by simp [hother])

theorem LedgerHistory.Sound.exec {self self' : LedgerHistory} {op : Op} (h : self.Sound) (hadmissible : Admissible self op)
    (hexec : self.exec op = some self') : self'.Sound := by
  cases op with
  | push entry fits =>
    obtain ⟨hordered, hroom⟩ := hadmissible
    cases hexec
    obtain ⟨hholds, hlength, hcapacity⟩ := GapLedger.holds_pushEntry (h.holds.put hordered fits) h.bounded hroom
    exact ⟨hlength.trans_eq hcapacity.symm, hholds⟩
  | pop =>
    rw [LedgerHistory.exec, GapLedger.pop] at hexec
    cases hentries : self.ledger.entries with
    | nil =>
      rw [hentries] at hexec
      cases hexec
      exact h
    | cons first rest =>
      rw [hentries] at hexec
      cases hexec
      have hholds := h.holds
      have hbounded := h.bounded
      rw [hentries] at hholds hbounded
      rw [List.length_cons] at hbounded
      exact ⟨show rest.length ≤ self.ledger.capacity by omega, hholds.perm List.perm_middle.symm⟩
  | requeue index =>
    rw [LedgerHistory.exec] at hexec
    cases hentry : self.taken[index]? with
    | none => rw [hentry] at hexec; cases hexec
    | some entry =>
      rw [hentry] at hexec
      cases hexec
      obtain ⟨hindex, hget⟩ := List.getElem?_eq_some_iff.1 hentry
      have hperm : (self.ledger.entries ++ self.taken).Perm (entry :: (self.ledger.entries ++ self.taken.eraseIdx index)) := by
        have htaken : self.taken.Perm (entry :: self.taken.eraseIdx index) := by
          rw [← hget]
          exact (List.getElem_cons_eraseIdx_perm hindex).symm
        exact (htaken.append_left _).trans List.perm_middle
      obtain ⟨hholds, hlength, hcapacity⟩ :=
        GapLedger.holds_pushFront (h.holds.perm hperm).requeue h.bounded hadmissible
      exact ⟨hlength.trans_eq hcapacity.symm, hholds⟩

theorem preserved_of_run {trace : List (LedgerHistory × Op × Unit)} {self : LedgerHistory}
    (h : Run ledgerSystem Admissible trace self) : self.Preserved := by
  refine (h.invariant (P := Sound) ?_ fun self op _ self' hself hg hstep => hself.exec hg hstep).preserved
  rintro self ⟨-, hentries, htaken, hpushed⟩
  refine ⟨by rw [hentries]; exact Nat.zero_le _, ?_⟩
  rw [hentries, htaken, hpushed]
  exact ⟨.nil, nofun⟩

end Krometrail.Events
