import Krometrail.Capture.GapLedger
import Krometrail.Events.LedgerRuns

/-!
# Runs of the two gap ledgers

The capture ledger answers every push by keeping the new gap or by coalescing two, also with a capacity of one, so that
it keeps its evidence in every run.  The event ledger does so where its pushes are admissible.
-/

namespace Krometrail.CaptureGaps

open Runs (Run System exists_run)
open Evidence (Conserved)
open Events (CollectionGap GapEntry LedgerHistory Admissible ledgerSystem)

/-- The frames that a gap is known to miss. -/
def frames (gap : CaptureGap) : Nat := gap.estimatedMissingFrames.getD 0

/-- The ledger with the gaps that were taken out of it and, for the record, what was pushed. -/
structure History where
  ledger : GapLedger
  taken : List CaptureGap
  pushed : List CaptureGap

inductive Op
  | push (gap : CaptureGap) (fits : frames gap ≤ u64Max)
  | closeSaturation
  | take

def History.exec (self : History) : Op → Option History
  | .push gap _ => some { self with ledger := (self.ledger.push gap).2, pushed := gap :: self.pushed }
  | .closeSaturation => some { self with ledger := self.ledger.closeSaturation }
  | .take => some { self with ledger := self.ledger.take, taken := self.ledger.pending ++ self.taken }

def History.IsInitial (self : History) : Prop :=
  self.ledger.pending = [] ∧ self.ledger.saturationOpen = false ∧ self.taken = [] ∧ self.pushed = []

def ledgerSystem : System History Op Unit := .ofExec History.IsInitial History.exec

/-- What a ledger has not lost: it stays within its capacity, the range of every pushed gap lies inside a gap that is
pending or was taken, the known counts add up, and every gap is one that `CaptureGap::new` takes. -/
structure History.Preserved (history : History) : Prop where
  bounded : history.ledger.pending.length ≤ history.ledger.capacity
  evidence : Conserved CaptureGap.range frames u64Max (history.ledger.pending ++ history.taken) history.pushed
  convertible : ∀ gap ∈ history.ledger.pending ++ history.taken,
    CaptureGap.new gap.id gap.sessionId gap.targetId gap.range gap.observedTime gap.reason gap.estimatedMissingFrames = .ok gap

theorem frames_coalesced {first second : CaptureGap} (hfirst : frames first ≤ u64Max) (hsecond : frames second ≤ u64Max) :
    frames (coalesced first second) = min (frames first + frames second) u64Max := by
  unfold frames coalesced aggregateEstimatedFrames at *
  cases hleft : first.estimatedMissingFrames <;> cases hright : second.estimatedMissingFrames <;>
    simp only [hleft, hright, Option.getD_some, Option.getD_none, saturatingAdd] at * <;> omega

theorem Pushed.conserved {pending result taken pushed : List CaptureGap} {gap : CaptureGap} (h : Pushed pending gap result)
    (hconserved : Conserved CaptureGap.range frames u64Max (pending ++ taken) pushed) (hfits : frames gap ≤ u64Max) :
    Conserved CaptureGap.range frames u64Max (result ++ taken) (gap :: pushed) := by
  have hput := hconserved.put hfits
  cases h with
  | last hresult =>
    rw [hresult, List.append_assoc]
    exact hput.perm List.perm_middle.symm (.refl _)
  | @merged first second others hpending hresult =>
    have hperm : (gap :: (pending ++ taken)).Perm (first :: second :: (others ++ taken)) := by
      have hback : (gap :: (pending ++ taken)).Perm (pending ++ [gap] ++ taken) := by
        rw [List.append_assoc]
        exact List.perm_middle.symm
      exact hback.trans (hpending.append_right taken)
    have hpair := hput.perm hperm (.refl _)
    have hfirst := hpair.weight_le first (by simp)
    have hsecond := hpair.weight_le second (by simp)
    have hmerged := hpair.merge (c := coalesced first second) (le_hull _ _).1 (le_hull _ _).2
      (frames_coalesced hfirst hsecond)
    exact hmerged.perm (hresult.symm.append_right taken) (.refl _)

theorem GapLedger.length_push (ledger : GapLedger) (gap : CaptureGap) (h : ledger.pending.length ≤ ledger.capacity) :
    (ledger.push gap).2.pending.length ≤ (ledger.push gap).2.capacity := by
  have hpos := ledger.capacity.pos
  unfold push
  dsimp only
  split
  · rename_i merged hsaturated
    obtain ⟨-, hmerged⟩ := Option.ite_none_right_eq_some.1 hsaturated
    obtain ⟨previous, hprevious, -⟩ := Option.bind_eq_some_iff.1 hmerged
    obtain ⟨earlier, hpending⟩ := List.getLast?_eq_some_iff.1 hprevious
    rw [hpending, List.dropLast_concat]
    simpa [hpending] using h
  · split
    · split
      · split
        · rename_i previous rest hpending
          simpa [hpending] using h
        · exact Nat.succ_le_of_lt hpos
      · split
        · rename_i first second rest hpending
          simpa [hpending] using h
        · exact Nat.succ_le_of_lt hpos
    · rename_i hroom
      rw [List.length_append, List.length_singleton]
      exact not_le.1 hroom

theorem preserved_of_reachable {history : History} (h : ledgerSystem.Reachable history) : history.Preserved := by
  have hsound : history.ledger.pending.length ≤ history.ledger.capacity ∧
      Conserved CaptureGap.range frames u64Max (history.ledger.pending ++ history.taken) history.pushed := by
    refine h.invariant (P := fun history : History => history.ledger.pending.length ≤ history.ledger.capacity ∧
      Conserved CaptureGap.range frames u64Max (history.ledger.pending ++ history.taken) history.pushed) ?_ ?_
    · rintro history ⟨hpending, -, htaken, hpushed⟩
      rw [hpending, htaken, hpushed]
      exact ⟨Nat.zero_le _, .nil⟩
    · rintro history op _ history' ⟨hbounded, hconserved⟩ hstep
      cases op with
      | push gap fits =>
        cases hstep
        exact ⟨history.ledger.length_push gap hbounded, (history.ledger.pushed gap).conserved hconserved fits⟩
      | closeSaturation =>
        cases hstep
        exact ⟨hbounded, hconserved⟩
      | take =>
        cases hstep
        exact ⟨Nat.zero_le _, hconserved⟩
  exact ⟨hsound.1, hsound.2, fun gap _ => dif_pos gap.endsBy⟩

/-- Neither ledger loses evidence: the capture ledger in every run, and the event ledger in every run whose pushes come
with their ordinals in order and find, in a full ledger that they do not continue, two oldest entries of which the older
one begins first. -/
theorem ledgers_keep_evidence {trace : List (LedgerHistory × LedgerHistory.Op × Unit)} {history : LedgerHistory}
    {captured : History} (h : Run Events.ledgerSystem Admissible trace history)
    (hcaptured : CaptureGaps.ledgerSystem.Reachable captured) : history.Preserved ∧ captured.Preserved :=
  ⟨Events.preserved_of_run h, preserved_of_reachable hcaptured⟩

/-- A push of the loss of one event. -/
def lostEvent (ordinal : Nat) (fits : ordinal ≤ u64Max) : Events.LedgerHistory.Op :=
  .push (Events.GapEntry.point ⟨1, ⟨1, Nat.one_pos⟩⟩ .queueSaturated none ⟨0⟩ ordinal) ⟨fits, le_rfl, show 1 ≤ u64Max by decide⟩

/-- A new ledger of a target. -/
def emptyLedger (capacity : Nat) : LedgerHistory := ⟨⟨capacity, []⟩, [], []⟩

/-- A gap of one nanosecond that misses a frame. -/
def lostFrame (nanos : UInt64) : CaptureGap :=
  ⟨⟨someUuid 3⟩, ⟨someUuid 1⟩, ⟨someUuid 2⟩, ⟨⟨⟨nanos⟩, ⟨nanos⟩⟩, UInt64.le_refl _⟩, ⟨nanos⟩, .frameRejected, some 1,
    UInt64.le_refl _⟩

theorem ledgers_keep_evidence_full : ∃ trace history captured, Run Events.ledgerSystem Admissible trace history ∧
    CaptureGaps.ledgerSystem.Reachable captured ∧ (history.pushed.length = 3 ∧ history.taken.length = 1) ∧
    captured.pushed.length = 2 ∧ history.Preserved ∧ captured.Preserved := by
  obtain ⟨trace, history, hrun, hfull⟩ := exists_run Events.LedgerHistory.IsInitial Events.LedgerHistory.exec
    (emptyLedger 2) ⟨by decide, rfl, rfl, rfl⟩ (fun history op => decide (Admissible history op))
    (fun history op h => of_decide_eq_true h)
    [lostEvent 1 (by decide), lostEvent 3 (by decide), lostEvent 5 (by decide), .pop]
    (fun history => history.pushed.length = 3 ∧ history.taken.length = 1) (by decide +kernel)
  obtain ⟨captured, hreachable, hpushed⟩ := Runs.exists_reachable History.IsInitial History.exec
    ⟨⟨1, [], false⟩, [], []⟩ ⟨rfl, rfl, rfl, rfl⟩ [.push (lostFrame 1) (by decide), .push (lostFrame 2) (by decide)]
    (fun captured => captured.pushed.length = 2) (by decide +kernel)
  exact ⟨trace, history, captured, hrun, hreachable, hfull, hpushed, ledgers_keep_evidence hrun hreachable⟩

/-- An event ledger of capacity one comes to hold two entries, and one of capacity two that is full loses an ordinal that
arrives late. -/
theorem event_ledger_loses :
    ¬(∀ history, Events.ledgerSystem.Reachable history → history.ledger.entries.length ≤ history.ledger.capacity) ∧
    ¬∀ history, Events.ledgerSystem.Reachable history → ∀ gap ∈ history.pushed,
      ∃ entry ∈ history.ledger.entries ++ history.taken, gap.extent ≤ entry.gap.extent := by
  constructor
  · intro h
    obtain ⟨history, hreachable, hlong⟩ := Runs.exists_reachable Events.LedgerHistory.IsInitial Events.LedgerHistory.exec
      (emptyLedger 1) ⟨by decide, rfl, rfl, rfl⟩ [lostEvent 1 (by decide), lostEvent 3 (by decide)]
      (fun history => history.ledger.capacity < history.ledger.entries.length) (by decide +kernel)
    exact absurd (h history hreachable) (not_le.2 hlong)
  · intro h
    obtain ⟨history, hreachable, ⟨gap, hgap, hfive⟩, hlost⟩ :=
      Runs.exists_reachable Events.LedgerHistory.IsInitial Events.LedgerHistory.exec (emptyLedger 2)
        ⟨by decide, rfl, rfl, rfl⟩ [lostEvent 10 (by decide), lostEvent 5 (by decide), lostEvent 20 (by decide)]
        (fun history => (∃ gap ∈ history.pushed, gap.firstOrdinal = 5) ∧
          ∀ entry ∈ history.ledger.entries ++ history.taken, 5 < entry.gap.firstOrdinal) (by decide +kernel)
    obtain ⟨entry, hentry, hle⟩ := h history hreachable gap hgap
    have hfirst := (CollectionGap.extent_le.1 hle).2.1
    rw [hfive] at hfirst
    exact absurd (hlost entry hentry) (not_lt.2 hfirst)

end Krometrail.CaptureGaps
