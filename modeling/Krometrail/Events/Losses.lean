import Krometrail.Events.Batches

/-!
# Lost events

Every ordinal that an event or a recorded drop has been given is persisted, waits, or is lost, and the gaps of a target
cover what is lost and count it (`Accounts`).  The books are kept as long as no gap is refused when its event is built, no
batch fails whose first and last ordinals are not its bounds, no full ledger merges entries out of order, and the writer
does not return while events wait.
-/

namespace Krometrail.Events

open Runs (Run System exists_reachable exists_run)

/-! ### Books -/

/-- The ordinals are located, or lost to gaps that account for them. -/
def Books (allocated located : List Nat) (gaps : List CollectionGap) : Prop :=
  ∃ lost, allocated.Perm (located ++ lost) ∧ Accounts gaps lost

namespace Books

variable {allocated located located' : List Nat} {gaps gaps' : List CollectionGap}

theorem perm (h : Books allocated located gaps) (hlocated : located.Perm located') (hgaps : gaps.Perm gaps') :
    Books allocated located' gaps' := by
  obtain ⟨lost, hperm, haccounts⟩ := h
  exact ⟨lost, hperm.trans (hlocated.append_right _), haccounts.perm hgaps (.refl _)⟩

theorem allocate (h : Books allocated located gaps) (ordinal : Nat) :
    Books (allocated ++ [ordinal]) (ordinal :: located) gaps := by
  obtain ⟨lost, hperm, haccounts⟩ := h
  exact ⟨lost, (List.perm_append_singleton _ _).trans (hperm.cons _), haccounts⟩

theorem lose {ordinals : List Nat} {gap : CollectionGap} (h : Books allocated (ordinals ++ located) gaps)
    (hgap : Accounts [gap] ordinals) : Books allocated located (gap :: gaps) := by
  obtain ⟨lost, hperm, haccounts⟩ := h
  refine ⟨ordinals ++ lost, hperm.trans ?_, hgap.append haccounts⟩
  rw [← List.append_assoc]
  exact List.perm_append_comm.append_right _

theorem length_lost_le {lost : List Nat} {bound : Nat} (hperm : allocated.Perm (located ++ lost))
    (hbound : allocated.length ≤ bound) : lost.length ≤ bound := by
  rw [hperm.length_eq, List.length_append] at hbound
  omega

variable {ledger : GapLedger} {entry : GapEntry} {others : List CollectionGap}

theorem pushEntry (h : Books allocated located (entry.gap :: (gapsOf ledger.entries ++ others))) (hadmits : ledger.Admits entry)
    (hbound : allocated.length ≤ u64Max) : Books allocated located (gapsOf (ledger.pushEntry entry).entries ++ others) := by
  obtain ⟨lost, hperm, haccounts⟩ := h
  have hlost := length_lost_le hperm hbound
  exact ⟨lost, hperm, (haccounts.perm List.perm_middle.symm (.refl _)).pushEntry hadmits hlost⟩

theorem pushFront (h : Books allocated located (entry.gap :: (gapsOf ledger.entries ++ others))) (horder : ledger.OldestInOrder)
    (hbound : allocated.length ≤ u64Max) : Books allocated located (gapsOf (ledger.pushFront entry).entries ++ others) := by
  obtain ⟨lost, hperm, haccounts⟩ := h
  have hlost := length_lost_le hperm hbound
  exact ⟨lost, hperm, (haccounts.perm List.perm_middle.symm (.refl _)).pushFront horder hlost⟩

theorem mem_allocated (h : Books allocated located gaps) {ordinal : Nat} (hordinal : ordinal ∈ located) : ordinal ∈ allocated := by
  obtain ⟨lost, hperm, -⟩ := h
  exact hperm.symm.subset (List.mem_append_left _ hordinal)

theorem covered (h : Books allocated located gaps) (hnodup : allocated.Nodup) :
    (∀ ordinal ∈ allocated, ordinal ∈ located ∨ ∃ gap ∈ gaps, gap.Covers ordinal) ∧
      (gaps.map CollectionGap.count).sum = (allocated.filter fun ordinal => ordinal ∉ located).length := by
  obtain ⟨lost, hperm, haccounts⟩ := h
  refine ⟨fun ordinal hordinal => ?_, ?_⟩
  · rcases List.mem_append.1 (hperm.subset hordinal) with hlocated | hlost
    · exact .inl hlocated
    · exact .inr (haccounts.covered ordinal hlost)
  · have hdisjoint := (List.nodup_append.1 (hperm.nodup_iff.1 hnodup)).2.2
    rw [haccounts.counted, (hperm.filter _).length_eq, List.filter_append,
      List.filter_eq_nil_iff.2 (by simp), List.nil_append, List.filter_eq_self.2]
    intro ordinal hlost
    simpa using fun hlocated => hdisjoint ordinal hlocated ordinal hlost rfl

end Books

theorem Accounts.point (generation : TargetGeneration) (reason : BrowserEventGapReason) (cls : Option BrowserEventClass)
    (time : SessionTime) {ordinal : Nat} (h : ordinal ≤ u64Max) :
    Accounts [(GapEntry.point generation reason cls time ordinal).gap] [ordinal] where
  ordered gap hgap := by
    rw [List.mem_singleton.1 hgap]
    exact ⟨le_rfl, h⟩
  covered other hother := ⟨_, List.mem_singleton_self _, by rw [List.mem_singleton.1 hother]; exact ⟨le_rfl, le_rfl⟩⟩
  counted := rfl
  positive gap hgap := by
    rw [List.mem_singleton.1 hgap]
    exact le_rfl

/-! ### The books of a state -/

variable {Id : Type}

def BrowserEventPayload.gap? : BrowserEventPayload → Option CollectionGap
  | collectionGap gap => some gap
  | other _ => none

/-- The queued events in the writer's hands. -/
def Writer.taken : Writer Id → List (BrowserEvent Id)
  | batch events | append events => events
  | _ => []

def Writer.gapInHands : Writer Id → List CollectionGap
  | buildGap entry => [entry.gap]
  | appendGap _ gap => [gap]
  | _ => []

namespace State

variable (inner : PipelineInner Id) (s : State Id)

/-- The queued events that have not been persisted. -/
def waiting : List (BrowserEvent Id) := s.writer.taken ++ s.carry.toList ++ s.queue

/-- The ordinals of the persisted events that are no gaps. -/
def persistedOrdinals : List Nat := (s.persisted.filter (·.payload.gap?.isNone)).map (·.ordinal)

/-- The ordinals of what is persisted, waits, or is being submitted. -/
def located : List Nat := s.persistedOrdinals ++ s.waiting.map (·.ordinal) ++ s.inFlight.map (·.ordinal)

/-- The gaps in the ledger, in the writer's hands and among the persisted events. -/
def gapRecords : List CollectionGap :=
  gapsOf s.gaps.entries ++ (s.writer.gapInHands ++ s.persisted.filterMap (·.payload.gap?))

/-- No record of a loss is lost by this step. -/
def Recording [DecidableEq Id] (inner : PipelineInner Id) (s : State Id) : Input → Prop
  | .suspendGeneration generation reason observed => s.generation = generation → s.accepting = true →
      ∀ allocation ∈ State.allocate inner { s with accepting := false } observed,
        s.gaps.Admits (.point generation reason (some .operational) allocation.2.1 allocation.1)
  | .recordObservedDrops generation reason cls observed count => 0 < count →
      ∀ allocation ∈ s.allocate inner observed, s.gaps.Admits (.point generation reason cls allocation.2.1 allocation.1)
  | .recordAllocatedDrop i => ∀ submission ∈ s.inFlight[i]?, ∀ reason ∈ submission.refused,
      s.gaps.Admits (.point submission.generation reason (some submission.cls) submission.sessionTime submission.ordinal)
  | .write now _ persisted _ => match s.writer with
    | .buildGap entry => (s.allocate inner now).isSome = true ∧ entry.gap.range.snd.nanos ≤ now.nanos
    | .appendGap _ _ => persisted = false → s.gaps.OldestInOrder
    | .append events => persisted = false ∨ newBatch events ≠ .ok events →
      ∀ first ∈ events.head?, ∀ last ∈ events.getLast?,
        (∀ event ∈ events, first.ordinal ≤ event.ordinal ∧ event.ordinal ≤ last.ordinal) ∧
          s.gaps.Admits (batchEntry first last events)
    | .sleep | .empty => s.stopping = true → s.queue = [] ∧ s.carry = none
    | _ => True
  | _ => True

instance [DecidableEq Id] : (input : Input) → Decidable (s.Recording inner input)
  | .beginGeneration .. | .submit .. | .enqueue .. | .refuse | .raiseStopping => inferInstanceAs (Decidable True)
  | .suspendGeneration .. | .recordAllocatedDrop .. | .recordObservedDrops .. => by unfold Recording; infer_instance
  | .write .. => by
    unfold Recording
    exact match s.writer with
      | .buildGap .. | .appendGap .. | .append .. | .sleep | .empty => inferInstance
      | .nextGap | .receive | .wait | .batch .. | .returned => inferInstanceAs (Decidable True)

structure Recorded : Prop where
  books : Books s.allocated s.located s.gapRecords
  nodup : s.allocated.Nodup
  bounded : ∀ ordinal ∈ s.allocated, ordinal ≤ s.lastOrdinal
  length : s.allocated.length ≤ s.lastOrdinal
  last : s.lastOrdinal ≤ u64Max
  plain : ∀ event ∈ s.waiting, event.payload.gap? = none
  gapEvent : ∀ event gap, s.writer = .appendGap event gap → event.payload.gap? = some gap
  uncarried : s.writer.pastCarry = true → s.carry = none

namespace Recorded

variable {inner : PipelineInner Id} {s s' : State Id}

theorem keep (h : s.Recorded) (hbooks : Books s.allocated s'.located s'.gapRecords) (hallocated : s'.allocated = s.allocated)
    (hlast : s'.lastOrdinal = s.lastOrdinal ∨ s'.lastOrdinal = s.lastOrdinal + 1 ∧ s.lastOrdinal + 1 ≤ u64Max)
    (hplain : ∀ event ∈ s'.waiting, event.payload.gap? = none)
    (hgapEvent : ∀ event gap, s'.writer = .appendGap event gap → event.payload.gap? = some gap)
    (huncarried : s'.writer.pastCarry = true → s'.carry = none) : s'.Recorded where
  books := hallocated ▸ hbooks
  nodup := hallocated ▸ h.nodup
  bounded ordinal hordinal := by
    have := h.bounded ordinal (hallocated ▸ hordinal)
    omega
  length := by
    have := h.length
    rw [hallocated]
    omega
  last := by
    have := h.last
    omega
  plain := hplain
  gapEvent := hgapEvent
  uncarried := huncarried

theorem move {queue : List (BrowserEvent Id)} {carry : Option (BrowserEvent Id)} {writer : Writer Id} (h : s.Recorded)
    (hwaiting : writer.taken ++ carry.toList ++ queue = s.waiting) (hgap : writer.gapInHands = s.writer.gapInHands)
    (hgapEvent : ∀ event gap, writer ≠ .appendGap event gap) (huncarried : writer.pastCarry = true → carry = none) :
    { s with queue := queue, carry := carry, writer := writer }.Recorded := by
  refine h.keep ?_ rfl (.inl rfl) ?_ (fun event gap heq => absurd heq (hgapEvent event gap)) huncarried
  · simpa only [State.located, State.waiting, State.persistedOrdinals, State.gapRecords, hwaiting, hgap] using h.books
  · simpa only [State.waiting, hwaiting] using h.plain

theorem allocate (h : s.Recorded) (hbooks : Books (s.allocated ++ [s.lastOrdinal + 1]) s'.located s'.gapRecords)
    (hallocated : s'.allocated = s.allocated ++ [s.lastOrdinal + 1]) (hlast : s'.lastOrdinal = s.lastOrdinal + 1)
    (hle : s.lastOrdinal + 1 ≤ u64Max) (hwaiting : s'.waiting = s.waiting) (hwriter : s'.writer = s.writer)
    (hcarry : s'.carry = s.carry) : s'.Recorded where
  books := hallocated ▸ hbooks
  nodup := by
    rw [hallocated, List.nodup_append]
    refine ⟨h.nodup, List.nodup_singleton _, fun ordinal hordinal other hother => ?_⟩
    have := h.bounded ordinal hordinal
    rw [List.mem_singleton.1 hother]
    omega
  bounded ordinal hordinal := by
    rw [hallocated, List.mem_append, List.mem_singleton] at hordinal
    rcases hordinal with hordinal | rfl
    · have := h.bounded ordinal hordinal
      omega
    · omega
  length := by
    have := h.length
    rw [hallocated, List.length_append, List.length_singleton]
    omega
  last := hlast ▸ hle
  plain := hwaiting ▸ h.plain
  gapEvent := hwriter ▸ h.gapEvent
  uncarried := hwriter ▸ hcarry ▸ h.uncarried

theorem length_le (h : s.Recorded) : s.allocated.length ≤ u64Max := h.length.trans h.last

variable {generation : TargetGeneration} {reason : BrowserEventGapReason} {observed : ObservedTime} {i : Nat} {persisted : Bool}

theorem recordDrop {cls : Option BrowserEventClass} (h : s.Recorded) (hadmits : ∀ allocation ∈ s.allocate inner observed,
      s.gaps.Admits (.point generation reason cls allocation.2.1 allocation.1))
    (hs : s.recordDrop inner generation reason cls observed = some s') : s'.Recorded := by
  obtain ⟨⟨ordinal, time, allocated⟩, hallocate, rfl⟩ := Option.map_eq_some_iff.1 hs
  have hroom := hadmits _ hallocate
  obtain ⟨rfl, hle, rfl⟩ := allocate_eq_some hallocate
  refine h.allocate ?_ rfl rfl hle rfl rfl rfl
  have hbooks := (h.books.allocate (s.lastOrdinal + 1)).lose (.point generation reason cls time hle)
  refine hbooks.pushEntry hroom ?_
  rw [List.length_append, List.length_singleton]
  have := h.length
  omega

theorem recordDrops {cls : Option BrowserEventClass} (count : Nat) (h : s.Recorded)
    (hadmits : 0 < count → ∀ allocation ∈ s.allocate inner observed,
      s.gaps.Admits (.point generation reason cls allocation.2.1 allocation.1)) :
    (State.recordDrops inner generation reason cls observed count s).Recorded := by
  induction count generalizing s with
  | zero => exact h
  | succ count ih =>
    unfold State.recordDrops
    split
    case h_2 => exact h
    case h_1 next hnext =>
      refine ih (h.recordDrop (hadmits (Nat.succ_pos _)) hnext) fun _ allocation hallocation => ?_
      -- The drops of one call go on where the first of them ends.
      obtain ⟨hle, time, rfl⟩ := recordDrop_eq_some hnext
      obtain ⟨ordinal, time', allocated⟩ := allocation
      obtain ⟨rfl, hle', -⟩ := allocate_eq_some hallocation
      exact GapLedger.admits_pushEntry rfl rfl rfl (min_eq_left hle')

theorem suspendGeneration (h : s.Recorded) (hadmits : s.generation = generation → s.accepting = true →
      ∀ allocation ∈ State.allocate inner { s with accepting := false } observed,
      s.gaps.Admits (.point generation reason (some .operational) allocation.2.1 allocation.1)) :
    (s.suspendGeneration inner generation reason observed).Recorded := by
  have hrefused : { s with accepting := false }.Recorded := 
    ⟨h.books, h.nodup, h.bounded, h.length, h.last, h.plain, h.gapEvent, h.uncarried⟩
  unfold State.suspendGeneration
  split
  · exact h
  · rename_i hcurrent
    simp only [not_or, not_not, Bool.not_eq_false] at hcurrent
    cases hdrop : State.recordDrop inner { s with accepting := false } generation reason (some .operational) observed with
    | none => simpa only [hdrop, Option.getD_none] using hrefused
    | some next =>
      simpa only [hdrop, Option.getD_some] using hrefused.recordDrop (hadmits hcurrent.1 hcurrent.2) hdrop

theorem submit {cls : BrowserEventClass} (h : s.Recorded) (hs : s.submit inner generation observed cls = some s')
    : s'.Recorded := by
  unfold State.submit at hs
  split at hs
  · cases hs
  · obtain ⟨⟨ordinal, time, allocated⟩, hallocate, rfl⟩ := Option.map_eq_some_iff.1 hs
    obtain ⟨rfl, hle, rfl⟩ := allocate_eq_some hallocate
    refine h.allocate ?_ rfl rfl hle rfl rfl rfl
    refine (h.books.allocate (s.lastOrdinal + 1)).perm ?_ (.refl _)
    simp only [State.located, State.waiting, State.persistedOrdinals, List.map_append, List.map_singleton, ← List.append_assoc]
    exact (List.perm_append_singleton _ _).symm

/-- What is in flight besides the submission at `i`. -/
theorem perm_eraseIdx {inFlight : List Submission} {submission : Submission} (hi : inFlight[i]? = some submission) :
    (inFlight.map (·.ordinal)).Perm (submission.ordinal :: (inFlight.eraseIdx i).map (·.ordinal)) := by
  obtain ⟨hlt, rfl⟩ := List.getElem?_eq_some_iff.1 hi
  exact ((List.getElem_cons_eraseIdx_perm hlt).map (·.ordinal)).symm

theorem refuseAt {submission : Submission} (h : s.Recorded) (hi : s.inFlight[i]? = some submission) :
    ({ s with nextId := s.nextId + 1 }.refuseAt i submission reason).Recorded := by
  obtain ⟨hlt, rfl⟩ := List.getElem?_eq_some_iff.1 hi
  have hordinals : (s.inFlight.set i { s.inFlight[i] with refused := some reason }).map (·.ordinal) = s.inFlight.map (·.ordinal) := by
    refine List.ext_getElem (by simp) fun j _ _ => ?_
    by_cases hj : i = j
    · subst hj
      simp
    · simp [hj]
  refine h.keep ?_ rfl (.inl rfl) h.plain h.gapEvent h.uncarried
  refine h.books.perm ?_ (.refl _)
  simp only [State.located, State.waiting, State.persistedOrdinals, State.refuseAt, hordinals]
  exact .refl _

/-! ### The writer -/

theorem fill {events : List (BrowserEvent Id)} (h : s.Recorded) (hwriter : s.writer = .batch events) :
    (s.fill inner events).Recorded := by
  have hcarry := h.uncarried (by rw [hwriter]; rfl)
  have happend : { s with writer := .append events }.Recorded :=
    h.move (by simp [State.waiting, hwriter, hcarry, Writer.taken]) (by simp [hwriter, Writer.gapInHands]) (by simp)
      (by simp [Writer.pastCarry])
  unfold State.fill
  split
  · exact happend
  split
  · exact happend
  · rename_i hqueue
    split
    · exact h.move (by simp [State.waiting, hwriter, hcarry, hqueue, Writer.taken]) (by simp [hwriter, Writer.gapInHands])
        (by simp) (fun _ => hcarry)
    · exact h.move (by simp [State.waiting, hwriter, hcarry, hqueue, Writer.taken]) (by simp [hwriter, Writer.gapInHands])
        (by simp) (by simp [Writer.pastCarry])

theorem returnWriter (h : s.Recorded) (hwriter : s.writer.taken = [] ∧ s.writer.gapInHands = [])
    (hidle : s.queue = [] ∧ s.carry = none) : s.returnWriter.Recorded :=
  h.move (by rw [State.waiting, hwriter.1, hidle.1, hidle.2]; rfl) (by rw [hwriter.2]; rfl) (by simp) (fun _ => rfl)

theorem buildGap {entry : GapEntry} {now : ObservedTime} {size : EventSize} (h : s.Recorded)
    (hwriter : s.writer = .buildGap entry) (hallocated : (s.allocate inner now).isSome = true)
    (hnow : entry.gap.range.snd.nanos ≤ now.nanos) : (s.buildGap inner entry now size).Recorded := by
  have hmem : entry.gap ∈ s.gapRecords := by simp [State.gapRecords, hwriter, Writer.gapInHands]
  obtain ⟨lost, -, haccounts⟩ := h.books
  have hordered := haccounts.ordered entry.gap hmem
  have hcount : max entry.gap.count 1 = entry.gap.count := max_eq_left (haccounts.positive entry.gap hmem)
  have hgap : CollectionGap.new { entry.gap with count := max entry.gap.count 1 } = .ok entry.gap := by
    rw [hcount]
    simp only [CollectionGap.new, refuse, hordered.1.not_gt, if_false]
    rfl
  obtain ⟨⟨ordinal, time, allocated⟩, hallocate⟩ := Option.isSome_iff_exists.1 hallocated
  obtain ⟨rfl, hle, rfl⟩ := allocate_eq_some hallocate
  unfold State.buildGap
  rw [hallocate, hgap]
  simp only [UInt64.not_lt.2 hnow, if_false]
  refine h.keep ?_ rfl (.inr ⟨rfl, hle⟩) ?_ ?_ (by simp [Writer.pastCarry])
  · simpa [State.located, State.waiting, State.persistedOrdinals, State.gapRecords, hwriter, Writer.taken, Writer.gapInHands]
      using h.books
  · simpa [State.waiting, hwriter, Writer.taken] using h.plain
  · simp [BrowserEventPayload.gap?]

theorem initial (generation : TargetGeneration) : (State.initial inner generation).Recorded where
  books := ⟨[], .nil, .nil⟩
  nodup := List.nodup_nil
  bounded := by simp [State.initial]
  length := le_rfl
  last := Nat.zero_le _
  plain := by simp [State.initial, State.waiting, Writer.taken]
  gapEvent := by simp [State.initial]
  uncarried _ := rfl

variable [DecidableEq Id]

theorem enqueue {built : Option EventSize} {reserved : Bool} (h : s.Recorded) (hs : s.enqueue inner i built reserved = some s')
    : s'.Recorded := by
  obtain ⟨submission, hi, hs⟩ := Option.bind_eq_some_iff.1 hs
  obtain ⟨-, hs⟩ := Option.ite_none_left_eq_some.1 hs
  cases built with
  | none =>
    cases hs
    exact h.refuseAt hi
  | some size =>
    dsimp only at hs
    split at hs
    · cases hs
      exact h.refuseAt hi
    split at hs
    · cases hs
      exact h.refuseAt hi
    split at hs
    · cases hs
      exact h.refuseAt hi
    cases hs
    refine h.keep (h.books.perm ?_ (.refl _)) rfl (.inl rfl) ?_ h.gapEvent h.uncarried
    · simp only [State.located, State.waiting, State.persistedOrdinals, List.map_append, List.map_singleton, List.append_assoc]
      refine (List.Perm.refl _).append ((List.Perm.refl _).append ((List.Perm.refl _).append ((List.Perm.refl _).append ?_)))
      exact perm_eraseIdx hi
    · intro event hevent
      simp only [State.waiting, List.mem_append, List.mem_singleton] at hevent
      rcases hevent with hevent | hevent | rfl
      · exact h.plain event (List.mem_append_left _ (List.mem_append.2 hevent))
      · exact h.plain event (by simp [State.waiting, hevent])
      · rfl

theorem recordAllocatedDrop (h : s.Recorded) (hg : s.Recording inner (.recordAllocatedDrop i))
    (hs : s.recordAllocatedDrop i = some s') : s'.Recorded := by
  obtain ⟨submission, hi, hs⟩ := Option.bind_eq_some_iff.1 hs
  obtain ⟨reason, hreason, rfl⟩ := Option.map_eq_some_iff.1 hs
  have hbooks : Books s.allocated ([submission.ordinal] ++ (s.persistedOrdinals ++ s.waiting.map (·.ordinal) ++
      (s.inFlight.eraseIdx i).map (·.ordinal))) s.gapRecords :=
    h.books.perm (((perm_eraseIdx hi).append_left _).trans List.perm_middle) (.refl _)
  have hbound : submission.ordinal ≤ u64Max := (h.bounded _ (hbooks.mem_allocated (by simp))).trans h.last
  refine h.keep ?_ rfl (.inl rfl) h.plain h.gapEvent h.uncarried
  exact (hbooks.lose (.point submission.generation reason (some submission.cls) submission.sessionTime hbound)).pushEntry
    (hg submission hi reason hreason) h.length_le

theorem appendGap {event : BrowserEvent Id} {gap : CollectionGap} (h : s.Recorded) (hwriter : s.writer = .appendGap event gap)
    (horder : persisted = false → s.gaps.OldestInOrder) : (s.appendGap event gap persisted).Recorded := by
  have hgap := h.gapEvent event gap hwriter
  have hplain := h.plain
  have hbooks := h.books
  simp only [State.located, State.waiting, State.gapRecords, State.persistedOrdinals, hwriter, Writer.taken, Writer.gapInHands]
    at hbooks hplain
  unfold State.appendGap
  rw [State.InLine.newBatch_single]
  dsimp only
  split
  · refine h.keep ?_ rfl (.inl rfl) hplain (by simp) (by simp [Writer.pastCarry])
    refine hbooks.perm ?_ ?_
    · simp [State.located, State.waiting, State.persistedOrdinals, Writer.taken, hgap]
    · simp only [State.gapRecords, Writer.gapInHands, List.nil_append, List.filterMap_append, List.filterMap_cons, hgap,
        List.filterMap_nil]
      exact (List.perm_append_comm).append_left _
  · rename_i hpersisted
    refine h.keep ?_ rfl (.inl rfl) hplain (by simp) (by simp [Writer.pastCarry])
    have hfront : Books s.allocated _ (gap :: (gapsOf s.gaps.entries ++ s.persisted.filterMap (·.payload.gap?))) :=
      hbooks.perm (.refl _) List.perm_middle
    refine Books.pushFront ?_ (horder (by simpa using hpersisted)) h.length_le
    exact hfront

theorem append {events : List (BrowserEvent Id)} (h : s.Recorded) (hwriter : s.writer = .append events)
    (hfailure : persisted = false ∨ newBatch events ≠ .ok events → ∀ first ∈ events.head?, ∀ last ∈ events.getLast?,
      (∀ event ∈ events, first.ordinal ≤ event.ordinal ∧ event.ordinal ≤ last.ordinal) ∧
        s.gaps.Admits (batchEntry first last events))
    : (s.append events persisted).Recorded := by
  have hplain := h.plain
  have hbooks := h.books
  simp only [State.located, State.waiting, State.gapRecords, State.persistedOrdinals, hwriter, Writer.taken, Writer.gapInHands]
    at hbooks hplain
  have hpersisted :
      { s with persisted := s.persisted ++ events, handed := s.handed ++ events, writer := .nextGap }.Recorded := by
    have hevents : ∀ event ∈ events, event.payload.gap? = none := fun event hevent => hplain event (by simp [hevent])
    have hfilter : events.filter (·.payload.gap?.isNone) = events := by
      rw [List.filter_eq_self]
      exact fun event hevent => by simp [hevents event hevent]
    have hgaps : events.filterMap (·.payload.gap?) = [] := List.filterMap_eq_nil_iff.2 hevents
    refine h.keep ?_ rfl (.inl rfl) ?_ (by simp) (by simp [Writer.pastCarry])
    · simpa [State.located, State.waiting, State.gapRecords, State.persistedOrdinals, Writer.taken, Writer.gapInHands, hfilter,
        hgaps] using hbooks
    · exact fun event hevent => hplain event (by
        simp only [State.waiting, Writer.taken, List.nil_append, List.mem_append] at hevent ⊢
        tauto)
  have hfailed : ∀ handed, (persisted = false ∨ newBatch events ≠ .ok events) →
      { s.recordBatchFailure events with handed := handed, writer := .nextGap }.Recorded := by
    intro handed hfails
    have hrest : ∀ event ∈ s.carry.toList ++ s.queue, event.payload.gap? = none :=
      fun event hevent => hplain event (by simp only [List.mem_append] at hevent ⊢; tauto)
    have hbooks' : Books s.allocated (events.map (·.ordinal) ++ (s.persistedOrdinals ++
        (s.carry.toList ++ s.queue).map (·.ordinal) ++ s.inFlight.map (·.ordinal)))
        (gapsOf s.gaps.entries ++ s.persisted.filterMap (·.payload.gap?)) := by
      refine hbooks.perm ?_ (.refl _)
      simp only [State.persistedOrdinals, List.map_append, List.append_assoc]
      rw [← List.append_assoc, ← List.append_assoc (events.map (·.ordinal))]
      exact List.perm_append_comm.append_right _
    unfold State.recordBatchFailure
    split
    · rename_i first last hfirst hlast
      obtain ⟨hbetween, hadmits⟩ := hfailure hfails first hfirst last hlast
      have hlastMem : last ∈ events := List.mem_of_getLast? hlast
      have hgap : Accounts [(batchEntry first last events).gap] (events.map (·.ordinal)) := by
        refine ⟨?_, ?_, ?_, ?_⟩
        · intro gap hgap
          rw [List.mem_singleton.1 hgap]
          have hlocated : last.ordinal ∈ s.allocated :=
            hbooks'.mem_allocated (List.mem_append_left _ (List.mem_map_of_mem hlastMem))
          exact ⟨(hbetween last hlastMem).1, (h.bounded _ hlocated).trans h.last⟩
        · intro ordinal hordinal
          obtain ⟨event, hevent, rfl⟩ := List.mem_map.1 hordinal
          exact ⟨_, List.mem_singleton_self _, hbetween event hevent⟩
        · simp [batchEntry]
        · intro gap hgap
          rw [List.mem_singleton.1 hgap]
          exact List.length_pos_of_mem hlastMem
      refine h.keep ?_ rfl (.inl rfl) (by simpa [State.waiting, Writer.taken, State.pushEntry] using hrest) (by simp)
        (by simp [Writer.pastCarry])
      exact (hbooks'.lose hgap).pushEntry hadmits h.length_le
    · rename_i hnone
      obtain rfl : events = [] := by
        cases events with
        | nil => rfl
        | cons event events => exact (hnone event _ rfl (List.getLast?_eq_some_getLast (by simp))).elim
      refine h.keep ?_ rfl (.inl rfl) (by simpa [State.waiting, Writer.taken] using hrest) (by simp) (by simp [Writer.pastCarry])
      exact hbooks'.perm (.refl _) (.refl _)
  unfold State.append
  split
  · split
    · exact hpersisted
    · rename_i hrefused
      exact hfailed _ (.inl (by simpa using hrefused))
  · rename_i error herror
    exact hfailed _ (.inr (by simp [herror]))

theorem write {now : ObservedTime} {size : EventSize} {notified : Bool} (h : s.Recorded)
    (hg : s.Recording inner (.write now size persisted notified)) (hs : s.write inner now size persisted notified = some s') :
    s'.Recorded := by
  have hidle : ∀ {writer : Writer Id}, s.writer.taken = [] → s.writer.gapInHands = [] → writer.taken = [] →
      writer.gapInHands = [] → (writer.pastCarry = true → s.carry = none) → { s with writer := writer }.Recorded := by
    intro writer htaken hgap htaken' hgap' huncarried
    refine h.move (by rw [State.waiting, htaken, htaken']) (hgap'.trans hgap.symm) ?_ huncarried
    rintro event gap rfl
    cases hgap'
  have htake : ∀ {event : BrowserEvent Id} {rest : List (BrowserEvent Id)}, s.queue = event :: rest → s.carry = none →
      s.writer.taken = [] → s.writer.gapInHands = [] → { s with queue := rest, writer := .batch [event] }.Recorded := by
    intro event rest hqueue hcarry htaken hgap
    exact h.move (by rw [State.waiting, htaken, hcarry, hqueue]; rfl) hgap.symm (by simp) (fun _ => hcarry)
  unfold State.write at hs
  split at hs
  case h_1 hwriter =>
    split at hs
    · rename_i entry gaps hpop
      cases hs
      unfold GapLedger.pop at hpop
      split at hpop
      · cases hpop
      · rename_i first rest hentries
        cases hpop
        refine h.keep (h.books.perm ?_ ?_) rfl (.inl rfl) (by simpa [State.waiting, hwriter, Writer.taken] using h.plain) (by simp)
          (by simp [Writer.pastCarry])
        · simp [State.located, State.waiting, State.persistedOrdinals, hwriter, Writer.taken]
        · simp only [State.gapRecords, hwriter, hentries, Writer.gapInHands, gapsOf, List.map_cons, List.nil_append]
          exact List.perm_middle.symm
    · cases hs
      exact hidle (by rw [hwriter]; rfl) (by rw [hwriter]; rfl) rfl rfl (by simp [Writer.pastCarry])
  case h_2 entry hwriter =>
    cases hs
    simp only [Recording, hwriter] at hg
    exact h.buildGap hwriter hg.1 hg.2
  case h_3 event gap hwriter =>
    cases hs
    simp only [Recording, hwriter] at hg
    exact h.appendGap hwriter hg
  case h_4 hwriter =>
    cases hs
    simp only [Recording, hwriter] at hg
    split
    · rename_i hstopping
      exact h.returnWriter (by rw [hwriter]; exact ⟨rfl, rfl⟩) (hg hstopping)
    · exact hidle (by rw [hwriter]; rfl) (by rw [hwriter]; rfl) rfl rfl (by simp [Writer.pastCarry])
  case h_5 hwriter =>
    split at hs
    · rename_i event hcarry
      cases hs
      exact h.move (by simp [State.waiting, hwriter, hcarry, Writer.taken]) (by simp [hwriter, Writer.gapInHands]) (by simp)
        (fun _ => rfl)
    · rename_i hcarry hqueue
      cases hs
      exact htake hqueue hcarry (by rw [hwriter]; rfl) (by rw [hwriter]; rfl)
    · rename_i hcarry _
      cases hs
      exact hidle (by rw [hwriter]; rfl) (by rw [hwriter]; rfl) rfl rfl (fun _ => hcarry)
  case h_6 hwriter =>
    cases hs
    simp only [Recording, hwriter] at hg
    split
    · rename_i hstopping
      exact h.returnWriter (by rw [hwriter]; exact ⟨rfl, rfl⟩) (hg hstopping)
    · exact hidle (by rw [hwriter]; rfl) (by rw [hwriter]; rfl) rfl rfl (fun _ => h.uncarried (by rw [hwriter]; rfl))
  case h_7 hwriter =>
    split at hs
    · cases hs
      exact hidle (by rw [hwriter]; rfl) (by rw [hwriter]; rfl) rfl rfl (by simp [Writer.pastCarry])
    · split at hs
      · rename_i event rest hqueue
        cases hs
        exact htake hqueue (h.uncarried (by rw [hwriter]; rfl)) (by rw [hwriter]; rfl) (by rw [hwriter]; rfl)
      · cases hs
  case h_8 events hwriter =>
    cases hs
    exact h.fill hwriter
  case h_9 events hwriter =>
    cases hs
    simp only [Recording, hwriter] at hg
    exact h.append hwriter hg
  case h_10 => cases hs

theorem exec {input : Input} (h : s.Recorded) (hg : s.Recording inner input) (hs : s.exec inner input = some s') :
    s'.Recorded := by
  have hsame : ∀ {generation : TargetGeneration} {accepting stopping : Bool},
      { s with generation := generation, accepting := accepting, stopping := stopping }.Recorded :=
    ⟨h.books, h.nodup, h.bounded, h.length, h.last, h.plain, h.gapEvent, h.uncarried⟩
  cases input with
  | beginGeneration generation =>
    obtain ⟨-, hs⟩ := Option.ite_none_left_eq_some.1 hs
    cases hs
    exact hsame
  | suspendGeneration generation reason observed =>
    cases hs
    exact h.suspendGeneration hg
  | submit generation observed cls => exact h.submit hs
  | enqueue i built reserved => exact h.enqueue hs
  | recordAllocatedDrop i => exact h.recordAllocatedDrop hg hs
  | recordObservedDrops generation reason cls observed count =>
    obtain ⟨-, hs⟩ := Option.ite_none_left_eq_some.1 hs
    cases hs
    exact h.recordDrops count hg
  | refuse | raiseStopping =>
    cases hs
    exact hsame
  | write now size persisted notified => exact h.write hg hs

end Recorded

end State

/-- As long as every step keeps its records, each ordinal is persisted, waits or is covered by a gap, and the counts of the
gaps add up to the number of the ordinals that are lost. -/
theorem losses_recorded [DecidableEq Id] {inner : PipelineInner Id} {trace : List (State Id × Input × Unit)} {s : State Id}
    (h : Run (pipeline inner) (State.Recording inner) trace s) :
    (∀ ordinal ∈ s.allocated, ordinal ∈ s.located ∨ ∃ gap ∈ s.gapRecords, gap.Covers ordinal) ∧
      (s.gapRecords.map CollectionGap.count).sum = (s.allocated.filter fun ordinal => ordinal ∉ s.located).length := by
  have hrecorded : s.Recorded := by
    refine h.invariant (P := State.Recorded) ?_ fun s input _ s' hs hg hstep => hs.exec hg hstep
    rintro s ⟨generation, rfl⟩
    exact .initial generation
  exact hrecorded.books.covered hrecorded.nodup

/-- Two submissions overtake each other, their batch is refused, and so is the gap that stands for them. -/
theorem losses_unrecorded : ∃ s, (pipeline someInner).Reachable s ∧
    ∃ ordinal ∈ s.allocated, ordinal ∉ s.located ∧ ∀ gap ∈ s.gapRecords, ¬ gap.Covers ordinal :=
  exists_reachable (State.IsInitial someInner) (State.exec someInner) (.initial someInner someGeneration) ⟨_, rfl⟩
    ([submitting, submitting, sending 1, sending 0] ++ List.replicate 7 writing)
    (fun s => ∃ ordinal ∈ s.allocated, ordinal ∉ s.located ∧ ∀ gap ∈ s.gapRecords, ¬ gap.Covers ordinal) (by decide)

/-- The writer takes a step, and the sink refuses what it is given. -/
def failing : Input := .write ⟨9⟩ someSize false false

/-- A batch that the sink refuses. -/
theorem losses_recorded_refused : ∃ trace s, Run (pipeline someInner) (State.Recording someInner) trace s ∧
    s.located = [] ∧ (∀ ordinal ∈ s.allocated, ∃ gap ∈ s.gapRecords, gap.Covers ordinal) ∧
    (s.gapRecords.map CollectionGap.count).sum = s.allocated.length := by
  obtain ⟨trace, s, hrun, hlocated⟩ := exists_run (State.IsInitial someInner) (State.exec someInner)
    (.initial someInner someGeneration) ⟨_, rfl⟩ (fun s i => decide (s.Recording someInner i)) (fun s i h => of_decide_eq_true h)
    ([submitting, submitting, sending 0, sending 0] ++ List.replicate 7 failing)
    (fun s => s.located = []) (by decide)
  obtain ⟨hcovered, hcount⟩ := losses_recorded hrun
  exact ⟨trace, s, hrun, hlocated, fun ordinal hordinal => (hcovered ordinal hordinal).resolve_left (by simp [hlocated]),
    by simpa [hlocated] using hcount⟩

end Krometrail.Events
