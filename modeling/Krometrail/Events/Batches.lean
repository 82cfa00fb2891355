import Krometrail.Events.Pipeline
import Krometrail.Lib.Results

/-!
# Batches of events

The line of a target: what the sink has been given, what the writer holds, what waits in the queue, and the ordinals of
the submissions on their way to it.  As long as submissions reach the queue in the order of their ordinals and a gap event
is built only when nothing waits, the line is in order, and every batch passes its validation.
-/

namespace Krometrail.Events

open Runs (Run System exists_reachable exists_run)

variable {Id : Type}

section

variable [DecidableEq Id]

theorem checkEvents_eq_ok {ids : List Id} {previous : Option Nat} {byteCount : Nat} {events : List (BrowserEvent Id)}
    (hids : (ids ++ events.map (·.id)).Nodup) (hordinals : (previous.toList ++ events.map (·.ordinal)).Pairwise (· < ·))
    (hbytes : byteCount + (events.map (·.size.bytes)).sum ≤ maxBrowserEventBatchBytes) :
    checkEvents ids previous byteCount events = .ok () := by
  induction events generalizing ids previous byteCount with
  | nil => rfl
  | cons event events ih =>
    simp only [List.map_cons, List.sum_cons] at hids hordinals hbytes
    have hfresh : event.id ∉ ids := by
      intro hmem
      exact (List.nodup_append.1 hids).2.2 _ hmem _ (by simp) rfl
    have hlater : ¬ ∃ ordinal ∈ previous, event.ordinal ≤ ordinal := by
      rintro ⟨ordinal, hordinal, hle⟩
      have := (List.pairwise_append.1 hordinals).2.2 ordinal (by simpa using hordinal) event.ordinal (by simp)
      omega
    have hrest := @ih (event.id :: ids) (some event.ordinal) (byteCount + event.size.bytes)
      (hids.perm (by simp)) (List.pairwise_append.1 hordinals).2.1 (by omega)
    have hroom : ¬ maxBrowserEventBatchBytes < byteCount + event.size.bytes := by omega
    simp only [checkEvents, refuse, hfresh, hlater, hroom, if_false]
    exact hrest

theorem newBatch_eq_ok {events : List (BrowserEvent Id)} (hne : events ≠ []) (hrows : events.length ≤ maxBrowserEventBatchRows)
    (hids : (events.map (·.id)).Nodup) (hordinals : (events.map (·.ordinal)).Pairwise (· < ·))
    (hbytes : (events.map (·.size.bytes)).sum ≤ maxBrowserEventBatchBytes) : newBatch events = .ok events := by
  have hcheck : checkEvents [] none 0 events = .ok () := checkEvents_eq_ok hids hordinals (by omega)
  simp only [newBatch, refuse, hne, hrows.not_gt, if_false, hcheck]
  rfl

end

/-- Events and the ordinals behind them, in order, with identifiers from the source. -/
structure Lined (ids : Nat → Id) (events : List (BrowserEvent Id)) (pending : List Nat) (lastOrdinal nextId : Nat) : Prop where
  sorted : (events.map (·.ordinal) ++ pending).Pairwise (· < ·)
  bounded : ∀ ordinal ∈ events.map (·.ordinal) ++ pending, ordinal ≤ lastOrdinal
  nodup : (events.map (·.id)).Nodup
  used : ∀ event ∈ events, ∃ k < nextId, event.id = ids k

namespace Lined

variable {ids : Nat → Id} {events events' : List (BrowserEvent Id)} {pending pending' : List Nat}
  {lastOrdinal lastOrdinal' nextId nextId' : Nat}

theorem nil : Lined ids [] [] 0 0 := ⟨.nil, nofun, .nil, nofun⟩

theorem sublist (h : Lined ids events pending lastOrdinal nextId) (hevents : events'.Sublist events)
    (hpending : pending'.Sublist pending) (hlast : lastOrdinal ≤ lastOrdinal') (hnext : nextId ≤ nextId') :
    Lined ids events' pending' lastOrdinal' nextId' := by
  have hline := (hevents.map (·.ordinal)).append hpending
  refine ⟨h.sorted.sublist hline, fun ordinal hordinal => (h.bounded ordinal (hline.subset hordinal)).trans hlast,
    h.nodup.sublist (hevents.map _), fun event hevent => ?_⟩
  obtain ⟨k, hk, hid⟩ := h.used event (hevents.subset hevent)
  exact ⟨k, hk.trans_le hnext, hid⟩

theorem submit (h : Lined ids events pending lastOrdinal nextId) :
    Lined ids events (pending ++ [lastOrdinal + 1]) (lastOrdinal + 1) nextId := by
  refine ⟨?_, ?_, h.nodup, h.used⟩
  · rw [← List.append_assoc, List.pairwise_append]
    refine ⟨h.sorted, List.pairwise_singleton _ _, fun ordinal hordinal other hother => ?_⟩
    have := h.bounded ordinal hordinal
    rw [List.mem_singleton.1 hother]
    omega
  · intro ordinal hordinal
    rw [← List.append_assoc, List.mem_append, List.mem_singleton] at hordinal
    rcases hordinal with hordinal | rfl
    · exact (h.bounded ordinal hordinal).trans (Nat.le_succ _)
    · exact le_rfl

theorem send {event : BrowserEvent Id} (h : Lined ids events (event.ordinal :: pending) lastOrdinal nextId)
    (hids : Function.Injective ids) (hid : event.id = ids nextId) :
    Lined ids (events ++ [event]) pending lastOrdinal (nextId + 1) := by
  refine ⟨by simpa using h.sorted, by simpa using h.bounded, ?_, ?_⟩
  · rw [List.map_append, List.map_singleton, List.nodup_append]
    refine ⟨h.nodup, List.nodup_singleton _, ?_⟩
    rintro id hmem other hother rfl
    obtain ⟨earlier, hearlier, rfl⟩ := List.mem_map.1 hmem
    obtain ⟨k, hk, hk'⟩ := h.used earlier hearlier
    rw [List.mem_singleton.1 hother, hid] at hk'
    exact hk.ne (hids hk'.symm)
  · intro other hother
    rcases List.mem_append.1 hother with hother | hother
    · obtain ⟨k, hk, hk'⟩ := h.used other hother
      exact ⟨k, hk.trans (Nat.lt_succ_self _), hk'⟩
    · exact ⟨nextId, Nat.lt_succ_self _, by rw [List.mem_singleton.1 hother, hid]⟩

theorem gap {event : BrowserEvent Id} (h : Lined ids events [] lastOrdinal nextId) (hids : Function.Injective ids)
    (hordinal : event.ordinal = lastOrdinal + 1) (hid : event.id = ids nextId) :
    Lined ids (events ++ [event]) [] (lastOrdinal + 1) (nextId + 1) := by
  have hpending := h.submit
  rw [List.nil_append, ← hordinal] at hpending
  rw [← hordinal]
  exact hpending.send hids hid

end Lined

/-! ### The line of a state -/

/-- The events in the writer's hands. -/
def Writer.hands : Writer Id → List (BrowserEvent Id)
  | appendGap event _ => [event]
  | batch events | append events => events
  | _ => []

/-- The writer has taken the event that was carried over, if there was one. -/
def Writer.pastCarry : Writer Id → Bool
  | batch _ | empty | wait => true
  | _ => false

/-- The ordinals of the submissions that have not been refused. -/
def pendingOrdinals (inFlight : List Submission) : List Nat := (inFlight.filter (·.refused = none)).map (·.ordinal)

namespace State

variable (inner : PipelineInner Id) (s : State Id)

/-- The events of the target, in the order in which the sink is going to be given them. -/
def events : List (BrowserEvent Id) := s.handed ++ s.writer.hands ++ s.carry.toList ++ s.queue

/-- The submission's event is sent. -/
def Sends (built : Option EventSize) (reserved : Bool) : Prop :=
  built ≠ none ∧ reserved = true ∧ s.writer ≠ .returned ∧ s.queue.length < inner.config.perTargetQueueCapacity

/-- Submissions are sent in the order of their ordinals, and a gap event is built when no event waits. -/
def InOrder : Input → Prop
  | .enqueue i built reserved => s.Sends inner built reserved → ∀ submission ∈ s.inFlight[i]?, ∀ other ∈ s.inFlight,
      other.refused = none → submission.ordinal ≤ other.ordinal
  | .write _ _ _ _ => match s.writer with
    | .buildGap _ => s.queue = [] ∧ s.carry = none ∧ ∀ submission ∈ s.inFlight, submission.refused ≠ none
    | _ => True
  | _ => True

instance [DecidableEq Id] (input : Input) : Decidable (s.InOrder inner input) := by
  unfold InOrder Sends
  split
  · infer_instance
  · split <;> infer_instance
  · infer_instance

/-- A batch in the writer's hands is neither empty nor too large. -/
structure Filled (events : List (BrowserEvent Id)) : Prop where
  ne_nil : events ≠ []
  rows : events.length ≤ inner.config.storeBatchRows
  bytes : (events.map (·.size.bytes)).sum ≤ inner.config.storeBatchBytes ∨ ∃ event, events = [event]

structure InLine : Prop where
  lined : Lined inner.ids s.events (pendingOrdinals s.inFlight) s.lastOrdinal s.nextId
  filled : ∀ events, s.writer = .batch events ∨ s.writer = .append events → Filled inner events
  uncarried : s.writer.pastCarry = true → s.carry = none

end State

namespace State.InLine

variable {inner : PipelineInner Id} {s s' : State Id}

theorem keep (h : s.InLine inner) (hevents : s'.events.Sublist s.events)
    (hpending : (pendingOrdinals s'.inFlight).Sublist (pendingOrdinals s.inFlight)) (hlast : s.lastOrdinal ≤ s'.lastOrdinal)
    (hnext : s.nextId ≤ s'.nextId)
    (hfilled : ∀ events, s'.writer = .batch events ∨ s'.writer = .append events → Filled inner events)
    (huncarried : s'.writer.pastCarry = true → s'.carry = none) : s'.InLine inner :=
  ⟨h.lined.sublist hevents hpending hlast hnext, hfilled, huncarried⟩

variable {i : Nat} {submission : Submission}

theorem pendingOrdinals_refuse {inFlight : List Submission} {reason : BrowserEventGapReason}
    (hi : inFlight[i]? = some submission) :
    (pendingOrdinals (inFlight.set i { submission with refused := some reason })).Sublist (pendingOrdinals inFlight) := by
  obtain ⟨hlt, hget⟩ := List.getElem?_eq_some_iff.1 hi
  have hsplit : inFlight = inFlight.take i ++ submission :: inFlight.drop (i + 1) := by
    rw [← hget, List.getElem_cons_drop, List.take_append_drop]
  rw [List.set_eq_take_append_cons_drop, if_pos hlt]
  conv_rhs => rw [hsplit]
  simp only [pendingOrdinals, List.filter_append, List.map_append]
  refine (List.Sublist.refl _).append (List.Sublist.map _ ?_)
  rw [List.filter_cons_of_neg (by simp)]
  exact List.Sublist.filter _ (List.sublist_cons_self _ _)

theorem pendingOrdinals_eraseIdx {inFlight : List Submission} (hi : inFlight[i]? = some submission)
    (hopen : submission.refused = none) (hturn : ∀ other ∈ inFlight, other.refused = none → submission.ordinal ≤ other.ordinal)
    (hsorted : (pendingOrdinals inFlight).Pairwise (· < ·)) :
    pendingOrdinals inFlight = submission.ordinal :: pendingOrdinals (inFlight.eraseIdx i) := by
  obtain ⟨hlt, hget⟩ := List.getElem?_eq_some_iff.1 hi
  have hsplit : inFlight = inFlight.take i ++ submission :: inFlight.drop (i + 1) := by
    rw [← hget, List.getElem_cons_drop, List.take_append_drop]
  have hbefore : (inFlight.take i).filter (·.refused = none) = [] := by
    rw [List.filter_eq_nil_iff]
    intro other hother hnone
    rw [hsplit] at hsorted
    simp only [pendingOrdinals, List.filter_append, List.map_append] at hsorted
    rw [List.filter_cons_of_pos (by simpa using hopen)] at hsorted
    have hlt := (List.pairwise_append.1 hsorted).2.2 other.ordinal
      (List.mem_map_of_mem (List.mem_filter.2 ⟨hother, hnone⟩)) submission.ordinal (by simp)
    have hle := hturn other (List.mem_of_mem_take hother) (by simpa using hnone)
    omega
  rw [List.eraseIdx_eq_take_drop_succ]
  conv_lhs => rw [hsplit]
  simp only [pendingOrdinals, List.filter_append, hbefore, List.nil_append]
  rw [List.filter_cons_of_pos (by simpa using hopen), List.map_cons]

theorem refuseAt {reason : BrowserEventGapReason} (h : s.InLine inner) (hi : s.inFlight[i]? = some submission) :
    ({ s with nextId := s.nextId + 1 }.refuseAt i submission reason).InLine inner :=
  h.keep (.refl _) (pendingOrdinals_refuse hi) le_rfl (Nat.le_succ _) h.filled h.uncarried

variable [DecidableEq Id]

theorem newBatch_append {events : List (BrowserEvent Id)} (h : s.InLine inner) (hwriter : s.writer = .append events) :
    newBatch events = .ok events := by
  have hfilled := h.filled events (.inr hwriter)
  have hsub : events.Sublist s.events := by
    simp only [State.events, hwriter, Writer.hands, List.append_assoc]
    exact (List.sublist_append_left _ _).trans (List.sublist_append_right _ _)
  have hlined := h.lined.sublist hsub (List.nil_sublist _) le_rfl le_rfl
  refine newBatch_eq_ok hfilled.ne_nil (hfilled.rows.trans inner.config.storeBatchRows_le) hlined.nodup
    (by simpa using hlined.sorted) ?_
  rcases hfilled.bytes with hbytes | ⟨event, rfl⟩
  · exact hbytes.trans inner.config.storeBatchBytes_le
  · have := event.size.bytes_le
    simp only [List.map_singleton, List.sum_singleton]
    exact this.trans (by decide)

theorem newBatch_single (event : BrowserEvent Id) : newBatch [event] = .ok [event] := by
  refine newBatch_eq_ok (by simp) (by simp [maxBrowserEventBatchRows]) (by simp) (by simp) ?_
  simpa using event.size.bytes_le.trans (by decide)

end State.InLine

namespace State

variable {inner : PipelineInner Id} {s s' : State Id}

theorem allocate_eq_some {observed : ObservedTime} {ordinal : Nat} {time : SessionTime}
    (h : s.allocate inner observed = some (ordinal, time, s')) : ordinal = s.lastOrdinal + 1 ∧ ordinal ≤ u64Max ∧
      s' = { s with lastOrdinal := s.lastOrdinal + 1, lastSessionTime := time } := by
  unfold allocate at h
  split at h
  · obtain ⟨normalized, -, heq⟩ := Option.map_eq_some_iff.1 h
    simp only [Prod.mk.injEq] at heq
    obtain ⟨rfl, rfl, rfl⟩ := heq
    exact ⟨rfl, ‹_›, rfl⟩
  · cases h

theorem recordDrop_eq_some {generation : TargetGeneration} {reason : BrowserEventGapReason} {cls : Option BrowserEventClass}
    {observed : ObservedTime} (h : s.recordDrop inner generation reason cls observed = some s') :
    s.lastOrdinal + 1 ≤ u64Max ∧ ∃ time, s' = { s with
      lastOrdinal := s.lastOrdinal + 1
      lastSessionTime := time
      gaps := s.gaps.pushEntry (.point generation reason cls time (s.lastOrdinal + 1))
      allocated := s.allocated ++ [s.lastOrdinal + 1] } := by
  obtain ⟨⟨ordinal, time, allocated⟩, hallocate, rfl⟩ := Option.map_eq_some_iff.1 h
  obtain ⟨rfl, hle, rfl⟩ := allocate_eq_some hallocate
  exact ⟨hle, time, rfl⟩

namespace InLine

variable {generation : TargetGeneration} {reason : BrowserEventGapReason} {observed : ObservedTime} {persisted : Bool}

theorem recordDrop {cls : Option BrowserEventClass} (h : s.InLine inner)
    (hs : s.recordDrop inner generation reason cls observed = some s') : s'.InLine inner := by
  obtain ⟨-, time, rfl⟩ := recordDrop_eq_some hs
  exact h.keep (.refl _) (.refl _) (Nat.le_succ _) le_rfl h.filled h.uncarried

theorem recordDrops {cls : Option BrowserEventClass} (count : Nat) (h : s.InLine inner) :
    (State.recordDrops inner generation reason cls observed count s).InLine inner := by
  induction count generalizing s with
  | zero => exact h
  | succ count ih =>
    unfold State.recordDrops
    split
    · rename_i next hnext
      exact ih (h.recordDrop hnext)
    · exact h

theorem suspendGeneration (h : s.InLine inner) : (s.suspendGeneration inner generation reason observed).InLine inner := by
  have hrefused : { s with accepting := false }.InLine inner := ⟨h.lined, h.filled, h.uncarried⟩
  unfold State.suspendGeneration
  split
  · exact h
  · cases hdrop : State.recordDrop inner { s with accepting := false } generation reason (some .operational) observed with
    | none => simpa only [hdrop, Option.getD_none] using hrefused
    | some next => simpa only [hdrop, Option.getD_some] using hrefused.recordDrop hdrop

theorem submit {cls : BrowserEventClass} (h : s.InLine inner) (hs : s.submit inner generation observed cls = some s')
    : s'.InLine inner := by
  unfold State.submit at hs
  split at hs
  · cases hs
  · obtain ⟨⟨ordinal, time, allocated⟩, hallocate, rfl⟩ := Option.map_eq_some_iff.1 hs
    obtain ⟨rfl, -, rfl⟩ := allocate_eq_some hallocate
    refine ⟨?_, h.filled, h.uncarried⟩
    have hline := h.lined.submit
    simpa [pendingOrdinals, State.events] using hline

/-! ### The writer -/

theorem recordBatchFailure (h : s.InLine inner) (events : List (BrowserEvent Id)) :
    (s.recordBatchFailure events).InLine inner := by
  unfold State.recordBatchFailure
  split
  · exact ⟨h.lined, h.filled, h.uncarried⟩
  · exact h

theorem buildGap {entry : GapEntry} {now : ObservedTime} {size : EventSize} (h : s.InLine inner)
    (hids : Function.Injective inner.ids) (hwriter : s.writer = .buildGap entry)
    (hidle : s.queue = [] ∧ s.carry = none ∧ ∀ submission ∈ s.inFlight, submission.refused ≠ none) :
    (s.buildGap inner entry now size).InLine inner := by
  have hevents : s.events = s.handed := by simp [State.events, hwriter, Writer.hands, hidle.1, hidle.2.1]
  have hpending : pendingOrdinals s.inFlight = [] := by
    rw [pendingOrdinals, List.map_eq_nil_iff, List.filter_eq_nil_iff]
    intro submission hsubmission
    simpa using hidle.2.2 submission hsubmission
  have hlined := h.lined
  rw [hevents, hpending] at hlined
  have hskip : ∀ {lastOrdinal nextId : Nat} {time : SessionTime}, s.lastOrdinal ≤ lastOrdinal → s.nextId ≤ nextId →
      { s with lastOrdinal := lastOrdinal, lastSessionTime := time, nextId := nextId, writer := .receive }.InLine inner := by
    intro lastOrdinal nextId time hlast hnext
    exact h.keep (by simp [State.events, hwriter, Writer.hands]) (.refl _) hlast hnext (by simp) (by simp [Writer.pastCarry])
  unfold State.buildGap
  split
  · exact hskip le_rfl le_rfl
  · rename_i ordinal time allocated hallocate
    obtain ⟨rfl, -, rfl⟩ := allocate_eq_some hallocate
    split
    · exact hskip (Nat.le_succ _) le_rfl
    · rename_i gap hgap
      dsimp only
      split
      · exact hskip (Nat.le_succ _) (Nat.le_succ _)
      · refine ⟨?_, by simp, by simp [Writer.pastCarry]⟩
        have hsent : Lined inner.ids (_ ++ [⟨inner.ids s.nextId, entry.generation.attachment, s.lastOrdinal + 1, gap.range.snd,
          .collectionGap gap, size⟩]) [] _ _ := hlined.gap hids rfl rfl
        simpa [State.events, Writer.hands, hidle.1, hidle.2.1, hpending] using hsent

theorem fill {events : List (BrowserEvent Id)} (h : s.InLine inner) (hwriter : s.writer = .batch events) :
    (s.fill inner events).InLine inner := by
  have hfilled := h.filled events (.inl hwriter)
  have hcarry := h.uncarried (by rw [hwriter]; rfl)
  unfold State.fill
  split
  · exact h.keep (by simp [State.events, hwriter, Writer.hands]) (.refl _) le_rfl le_rfl (by simpa using hfilled) (by simp [Writer.pastCarry])
  split
  · exact h.keep (by simp [State.events, hwriter, Writer.hands]) (.refl _) le_rfl le_rfl (by simpa using hfilled) (by simp [Writer.pastCarry])
  · rename_i hrows _ next rest hqueue
    split
    · rename_i hroom
      refine h.keep (by simp [State.events, hwriter, Writer.hands, hcarry, hqueue]) (.refl _) le_rfl le_rfl ?_ (fun _ => hcarry)
      have hnext : Filled inner (events ++ [next]) :=
        ⟨by simp, by simpa using Nat.lt_of_not_le hrows, .inl (by simpa using hroom)⟩
      simpa using hnext
    · exact h.keep (by simp [State.events, hwriter, Writer.hands, hcarry, hqueue]) (.refl _) le_rfl le_rfl
        (by simpa using hfilled) (by simp [Writer.pastCarry])

theorem filled_single (event : BrowserEvent Id) : Filled inner [event] :=
  ⟨by simp, inner.config.storeBatchRows_pos, .inr ⟨event, rfl⟩⟩

theorem returnWriter (h : s.InLine inner) : s.returnWriter.InLine inner :=
  h.keep (by simp [State.events, State.returnWriter, Writer.hands]) (.refl _) le_rfl le_rfl
    (by simp [State.returnWriter]) (fun _ => rfl)

variable [DecidableEq Id]

theorem enqueue {i : Nat} {built : Option EventSize} {reserved : Bool} (h : s.InLine inner)
    (hids : Function.Injective inner.ids) (hg : s.InOrder inner (.enqueue i built reserved))
    (hs : s.enqueue inner i built reserved = some s') : s'.InLine inner := by
  obtain ⟨submission, hi, hs⟩ := Option.bind_eq_some_iff.1 hs
  obtain ⟨hopen, hs⟩ := Option.ite_none_left_eq_some.1 hs
  rw [not_not] at hopen
  cases built with
  | none =>
    cases hs
    exact h.refuseAt hi
  | some size =>
    dsimp only at hs
    split at hs
    · cases hs
      exact h.refuseAt hi
    split at hs
    · cases hs
      exact h.refuseAt hi
    split at hs
    · cases hs
      exact h.refuseAt hi
    rename_i hreserved hwriter hroom
    cases hs
    have hturn := hg ⟨by simp, by simpa using hreserved, hwriter, by omega⟩ submission hi
    have hpending := pendingOrdinals_eraseIdx hi hopen hturn
      ((List.pairwise_append.1 h.lined.sorted).2.1)
    have hlined := h.lined
    rw [hpending] at hlined
    have hsent : Lined inner.ids (_ ++ [s.eventOf inner submission size]) _ _ _ := hlined.send hids rfl
    refine ⟨?_, h.filled, h.uncarried⟩
    simpa [State.events] using hsent

theorem append {events : List (BrowserEvent Id)} (h : s.InLine inner) (hwriter : s.writer = .append events) :
    (s.append events persisted).InLine inner := by
  unfold State.append
  rw [h.newBatch_append hwriter]
  dsimp only
  split
  · exact h.keep (by simp [State.events, hwriter, Writer.hands]) (.refl _) le_rfl le_rfl (by simp) (by simp [Writer.pastCarry])
  · have hfailed := h.recordBatchFailure events
    unfold State.recordBatchFailure at hfailed ⊢
    split
    all_goals exact h.keep (by simp [State.events, hwriter, Writer.hands, State.pushEntry]) (.refl _) le_rfl le_rfl (by simp) (by simp [Writer.pastCarry])

theorem appendGap {event : BrowserEvent Id} {gap : CollectionGap} (h : s.InLine inner)
    (hwriter : s.writer = .appendGap event gap) : (s.appendGap event gap persisted).InLine inner := by
  unfold State.appendGap
  rw [newBatch_single]
  dsimp only
  split
  all_goals exact h.keep (by simp [State.events, hwriter, Writer.hands]) (.refl _) le_rfl le_rfl (by simp) (by simp [Writer.pastCarry])

theorem write {now : ObservedTime} {size : EventSize} {notified : Bool} (h : s.InLine inner)
    (hids : Function.Injective inner.ids) (hg : s.InOrder inner (.write now size persisted notified))
    (hs : s.write inner now size persisted notified = some s') : s'.InLine inner := by
  have htake : ∀ {event : BrowserEvent Id} {rest : List (BrowserEvent Id)}, s.queue = event :: rest → s.carry = none →
      { s with queue := rest, writer := .batch [event] }.InLine inner := by
    intro event rest hqueue hcarry
    exact h.keep (by simp [State.events, Writer.hands, hqueue, hcarry]) (.refl _) le_rfl le_rfl
      (by simpa using filled_single event) (fun _ => hcarry)
  unfold State.write at hs
  split at hs
  case h_1 hwriter =>
    split at hs
    all_goals
      cases hs
      exact h.keep (by simp [State.events, hwriter, Writer.hands]) (.refl _) le_rfl le_rfl (by simp) (by simp [Writer.pastCarry])
  case h_2 entry hwriter =>
    cases hs
    simp only [InOrder, hwriter] at hg
    exact h.buildGap hids hwriter hg
  case h_3 event gap hwriter =>
    cases hs
    exact h.appendGap hwriter
  case h_4 hwriter =>
    cases hs
    split
    · exact h.returnWriter
    · exact h.keep (by simp [State.events, hwriter, Writer.hands]) (.refl _) le_rfl le_rfl (by simp) (by simp [Writer.pastCarry])
  case h_6 hwriter =>
    cases hs
    split
    · exact h.returnWriter
    · exact h.keep (by simp [State.events, hwriter, Writer.hands]) (.refl _) le_rfl le_rfl (by simp)
        (fun _ => h.uncarried (by rw [hwriter]; rfl))
  case h_5 hwriter =>
    split at hs
    · rename_i event hcarry
      cases hs
      exact h.keep (by simp [State.events, hwriter, Writer.hands, hcarry]) (.refl _) le_rfl le_rfl
        (by simpa using filled_single event) (fun _ => rfl)
    · rename_i hcarry hqueue
      cases hs
      exact htake hqueue hcarry
    · rename_i hcarry _
      cases hs
      exact h.keep (by simp [State.events, hwriter, Writer.hands]) (.refl _) le_rfl le_rfl (by simp) (fun _ => hcarry)
  case h_7 hwriter =>
    split at hs
    · cases hs
      exact h.keep (by simp [State.events, hwriter, Writer.hands]) (.refl _) le_rfl le_rfl (by simp) (by simp [Writer.pastCarry])
    · split at hs
      · rename_i event rest hqueue
        cases hs
        exact htake hqueue (h.uncarried (by rw [hwriter]; rfl))
      · cases hs
  case h_8 events hwriter =>
    cases hs
    exact h.fill hwriter
  case h_9 events hwriter =>
    cases hs
    exact h.append hwriter
  case h_10 => cases hs

theorem exec {input : Input} (h : s.InLine inner) (hids : Function.Injective inner.ids) (hg : s.InOrder inner input)
    (hs : s.exec inner input = some s') : s'.InLine inner := by
  cases input with
  | beginGeneration generation =>
    obtain ⟨-, hs⟩ := Option.ite_none_left_eq_some.1 hs
    cases hs
    exact ⟨h.lined, h.filled, h.uncarried⟩
  | suspendGeneration generation reason observed =>
    cases hs
    exact h.suspendGeneration
  | submit generation observed cls => exact h.submit hs
  | enqueue i built reserved => exact h.enqueue hids hg hs
  | recordAllocatedDrop i =>
    obtain ⟨submission, -, hs⟩ := Option.bind_eq_some_iff.1 hs
    obtain ⟨reason, -, rfl⟩ := Option.map_eq_some_iff.1 hs
    exact h.keep (.refl _) ((List.eraseIdx_sublist _ _).filter _ |>.map _) le_rfl le_rfl h.filled h.uncarried
  | recordObservedDrops generation reason cls observed count =>
    obtain ⟨-, hs⟩ := Option.ite_none_left_eq_some.1 hs
    cases hs
    exact h.recordDrops count
  | refuse | raiseStopping =>
    cases hs
    exact ⟨h.lined, h.filled, h.uncarried⟩
  | write now size persisted notified => exact h.write hids hg hs

end InLine

end State

/-- In every run in order, the batches of the writer pass their validation, and the sink is given the events in order. -/
theorem batches_in_order [DecidableEq Id] {inner : PipelineInner Id} {trace : List (State Id × Input × Unit)} {s : State Id}
    (hids : Function.Injective inner.ids) (h : Run (pipeline inner) (State.InOrder inner) trace s) :
    (∀ events, s.writer = .append events → newBatch events = .ok events) ∧
      (∀ event gap, s.writer = .appendGap event gap → newBatch [event] = .ok [event]) ∧
      (s.handed.map (·.ordinal)).Pairwise (· < ·) := by
  have hline : s.InLine inner := by
    refine h.invariant (P := State.InLine inner) ?_ fun s input _ s' hs hg hstep => hs.exec hids hg hstep
    rintro s ⟨generation, rfl⟩
    exact ⟨.nil, by simp [State.initial], by simp [State.initial]⟩
  refine ⟨fun events => hline.newBatch_append, fun event gap _ => State.InLine.newBatch_single event, ?_⟩
  have hsub : s.handed.Sublist s.events := by
    simp only [State.events, List.append_assoc]
    exact List.sublist_append_left _ _
  simpa using (hline.lined.sublist hsub (List.nil_sublist _) le_rfl le_rfl).sorted

/-- A pipeline with the default bounds of a `BrowserEventConfig` and numbered events. -/
def someInner : PipelineInner Nat where
  config := ⟨256, 128, 256 * 1024, 64, by decide, by decide, by decide⟩
  sessionOrigin := ⟨0⟩
  ids := id

def someGeneration : TargetGeneration := ⟨1, ⟨1, Nat.one_pos⟩⟩

def someSize : EventSize := ⟨200, by decide⟩

/-- The submission at `i` is built and sent. -/
def sending (i : Nat) : Input := .enqueue i (some someSize) true

def submitting : Input := .submit someGeneration ⟨5⟩ .console

/-- The writer takes a step, and the sink accepts what it is given. -/
def writing : Input := .write ⟨9⟩ ⟨200, by decide⟩ true false

/-- Two submissions that overtake each other: their batch is refused, or the sink is given them in the wrong order. -/
theorem submissions_overtake :
    (∃ s, (pipeline someInner).Reachable s ∧ ∃ events, s.writer = .append events ∧ newBatch events ≠ .ok events) ∧
      ∃ s, (pipeline someInner).Reachable s ∧ ¬ (s.handed.map (·.ordinal)).Pairwise (· < ·) := by
  constructor
  · obtain ⟨s, hs, events, hevents, hrefused⟩ := exists_reachable (State.IsInitial someInner) (State.exec someInner)
      (.initial someInner someGeneration) ⟨_, rfl⟩
      [submitting, submitting, sending 1, sending 0, writing, writing, writing, writing]
      (fun s => ∃ events ∈ (match s.writer with | .append events => some events | _ => none), newBatch events ≠ .ok events)
      (by decide)
    refine ⟨s, hs, events, ?_, hrefused⟩
    revert hevents
    cases s.writer <;> simp
  · exact exists_reachable (State.IsInitial someInner) (State.exec someInner) (.initial someInner someGeneration) ⟨_, rfl⟩
      [submitting, submitting, sending 1, writing, writing, writing, writing, sending 0, writing, writing, writing, writing]
      (fun s => ¬ (s.handed.map (·.ordinal)).Pairwise (· < ·)) (by decide)

/-- Two submissions in order. -/
theorem batches_in_order_two : ∃ trace s, Run (pipeline someInner) (State.InOrder someInner) trace s ∧
    s.handed.length = 2 ∧ (s.handed.map (·.ordinal)).Pairwise (· < ·) := by
  obtain ⟨trace, s, hrun, hlength⟩ := exists_run (State.IsInitial someInner) (State.exec someInner)
    (.initial someInner someGeneration) ⟨_, rfl⟩ (fun s i => decide (s.InOrder someInner i)) (fun s i h => of_decide_eq_true h)
    [submitting, submitting, sending 0, sending 0, writing, writing, writing, writing, writing]
    (fun s => s.handed.length = 2) (by decide)
  exact ⟨trace, s, hrun, hlength, (batches_in_order Function.injective_id hrun).2.2⟩

end Krometrail.Events
