import Krometrail.Core.Session
import Krometrail.Lib.Runs

/-!
# Event subscriptions

A subscription to the events of a browser session: a bounded channel beside the range of the revisions that it lost, the
last delivered revision and the terminal event.  A publication is one step; what a subscriber's `next` does is four, the lag
check, the receive, the bookkeeping of the revision, and the taking of the terminal event.
-/

namespace Krometrail

structure RevisionedEvent where
  revision : Nat
  event : BrowserSessionEvent
  deriving DecidableEq

/-- The session has ended. -/
def RevisionedEvent.Terminal (item : RevisionedEvent) : Prop := item.event = .sessionStateChanged .ended

instance (item : RevisionedEvent) : Decidable item.Terminal := inferInstanceAs (Decidable (_ = _))

structure SubscriberLag where
  missedFromRevision : Nat
  missedToRevision : Nat
  currentRevision : Nat
  deriving DecidableEq

def SubscriberLag.Covers (lag : SubscriberLag) (item : RevisionedEvent) : Prop :=
  lag.missedFromRevision ≤ item.revision ∧ item.revision ≤ lag.missedToRevision

instance (lag : SubscriberLag) (item : RevisionedEvent) : Decidable (lag.Covers item) := inferInstanceAs (Decidable (_ ∧ _))

/-- Where a subscriber is inside `next`. -/
inductive NextPhase
  | idle
  | checked
  | received (item : RevisionedEvent)
  | closed
  deriving DecidableEq

/-- The registry as one of its subscribers sees it; `registered` says that the registry still has the sender. -/
structure Subscription where
  capacity : Nat
  nextRevision : Nat
  ended : Bool
  registered : Bool
  queue : List RevisionedEvent
  lag : Option SubscriberLag
  lastDeliveredRevision : Nat
  terminal : Option RevisionedEvent
  phase : NextPhase

namespace Subscription

/-- `subscribe`, to a registry with a capacity. -/
def subscribe (capacity nextRevision : Nat) (ended : Bool) : Subscription :=
  { capacity := max capacity 1, nextRevision, ended, registered := !ended, queue := [], lag := none,
    lastDeliveredRevision := nextRevision, terminal := none, phase := .idle }

/-- The lag behind a publication that found the channel full. -/
def missed (s : Subscription) (revision : Nat) : SubscriberLag :=
  match s.lag with
  | some existing => { existing with missedToRevision := revision, currentRevision := revision }
  | none => { missedFromRevision := saturatingAdd s.lastDeliveredRevision 1, missedToRevision := revision,
              currentRevision := revision }

def item (s : Subscription) (event : BrowserSessionEvent) : RevisionedEvent := ⟨saturatingAdd s.nextRevision 1, event⟩

def publish (s : Subscription) (event : BrowserSessionEvent) : Subscription :=
  if s.ended then s
  else if (s.item event).Terminal then
    { s with nextRevision := (s.item event).revision, ended := true, registered := false,
             terminal := if s.registered then some (s.item event) else s.terminal }
  else if ¬ s.registered then { s with nextRevision := (s.item event).revision }
  else if s.queue.length < s.capacity then
    { s with nextRevision := (s.item event).revision, queue := s.queue ++ [s.item event],
             lastDeliveredRevision := (s.item event).revision }
  else
    { s with nextRevision := (s.item event).revision, lag := some (s.missed (s.item event).revision) }

inductive Action
  | publish (event : BrowserSessionEvent)
  | checkLag
  | receive
  | record
  | takeTerminal

/-- What `next` returns. -/
inductive NextAnswer
  | event (item : RevisionedEvent)
  | lagged (lag : SubscriberLag)
  | nothing

def checkLag (s : Subscription) : Option (Option NextAnswer × Subscription) :=
  match s.phase, s.lag with
  | .idle, some lag => some (some (.lagged lag), { s with lag := none })
  | .idle, none => some (none, { s with phase := .checked })
  | _, _ => none

/-- `recv`, which waits for an event or for the end of the channel. -/
def receive (s : Subscription) : Option (Option NextAnswer × Subscription) :=
  match s.phase, s.queue with
  | .checked, item :: queue => some (none, { s with queue, phase := .received item })
  | .checked, [] => if s.registered then none else some (none, { s with phase := .closed })
  | _, _ => none

def record (s : Subscription) : Option (Option NextAnswer × Subscription) :=
  match s.phase with
  | .received item => some (some (.event item), { s with lastDeliveredRevision := item.revision, phase := .idle })
  | _ => none

def takeTerminal (s : Subscription) : Option (Option NextAnswer × Subscription) :=
  match s.phase, s.terminal with
  | .closed, some item => some (none, { s with terminal := none, phase := .received item })
  | .closed, none => some (some .nothing, { s with phase := .idle })
  | _, _ => none

def exec (s : Subscription) : Action → Option (Option NextAnswer × Subscription)
  | .publish event => some (none, s.publish event)
  | .checkLag => s.checkLag
  | .receive => s.receive
  | .record => s.record
  | .takeTerminal => s.takeTerminal

end Subscription

def subscriptionSystem : Runs.System Subscription Subscription.Action (Option Subscription.NextAnswer) where
  init s := ∃ capacity nextRevision ended, s = .subscribe capacity nextRevision ended ∧ nextRevision ≤ u64Max
  step s action answer s' := s.exec action = some (answer, s')

abbrev SubscriptionTrace : Type := List (Subscription × Subscription.Action × Option Subscription.NextAnswer)

end Krometrail

/-!
## What a subscriber receives

The line of a subscriber is what it has received, what it holds, what waits in its channel and the terminal event.  Every
step keeps the line in the order of the revisions and covers each published event (`Accounted`); a publication that finds
the channel full keeps the lag apart from the line if the newest waiting event is behind it (`Subscription.Clear`).
-/

namespace Krometrail

open Runs

variable {trace : SubscriptionTrace} {s s' : Subscription} {action : Subscription.Action}
  {answer : Option Subscription.NextAnswer}

def Subscription.NextAnswer.delivers : Subscription.NextAnswer → Option RevisionedEvent
  | event item => some item
  | _ => none

def Subscription.NextAnswer.reports : Subscription.NextAnswer → Option SubscriberLag
  | lagged lag => some lag
  | _ => none

/-- The events delivered in a trace. -/
def delivered (trace : SubscriptionTrace) : List RevisionedEvent :=
  (trace.filterMap (·.2.2)).filterMap (·.delivers)

/-- The lag ranges reported in a trace. -/
def reported (trace : SubscriptionTrace) : List SubscriberLag := (trace.filterMap (·.2.2)).filterMap (·.reports)

/-- The event that a step publishes. -/
def publishedBy (entry : Subscription × Subscription.Action × Option Subscription.NextAnswer) : Option RevisionedEvent :=
  match entry.2.1 with
  | .publish event => if entry.1.ended then none else some (entry.1.item event)
  | _ => none

/-- The events published in a trace. -/
def published (trace : SubscriptionTrace) : List RevisionedEvent := trace.filterMap publishedBy

namespace Subscription

/-- The event that the subscriber has received and not yet returned. -/
def hand (s : Subscription) : List RevisionedEvent :=
  match s.phase with
  | .received item => [item]
  | _ => []

/-- What is on its way to the subscriber, in the order of its arrival. -/
def waiting (s : Subscription) : List RevisionedEvent := s.hand ++ s.queue ++ s.terminal.toList

/-- The newest event of the channel lies behind the lag that a full channel makes. -/
def Clear (s : Subscription) : Prop :=
  ∀ newest ∈ s.queue.getLast?, ¬ (s.missed (s.nextRevision + 1)).missedFromRevision ≤ newest.revision

instance (s : Subscription) : Decidable s.Clear := inferInstanceAs (Decidable (∀ _ ∈ _, _))

/-- A publication has a revision of its own, and one that finds the channel full finds the subscription clear. -/
def Guarded (s : Subscription) : Action → Prop
  | .publish event => s.nextRevision < u64Max ∧
      (s.registered = true → s.capacity ≤ s.queue.length → ¬ (s.item event).Terminal → s.Clear)
  | _ => True

instance (s : Subscription) (action : Action) : Decidable (s.Guarded action) :=
  match action with
  | .publish _ => inferInstanceAs (Decidable (_ ∧ _))
  | .checkLag | .receive | .record | .takeTerminal => isTrue trivial

end Subscription

/-- What a subscriber is promised of a run. -/
structure Delivered (trace : SubscriptionTrace) (s : Subscription) : Prop where
  increasing : (delivered trace).Pairwise fun a b => a.revision < b.revision
  covered : ∀ item ∈ published trace, item ∈ delivered trace ∨ item ∈ s.waiting ∨
    ¬ item.Terminal ∧ ∃ lag ∈ reported trace ++ s.lag.toList, lag.Covers item
  disjoint : ∀ item ∈ delivered trace, ∀ lag ∈ reported trace, ¬ lag.Covers item
  terminalLast : ∀ item ∈ delivered trace, item.Terminal → (delivered trace).getLast? = some item
  closed : (∃ entry ∈ trace, entry.2.2 = some .nothing) → s.waiting = [] ∧ s.lag = none

section
variable {entry : Subscription × Subscription.Action × Option Subscription.NextAnswer}

theorem delivered_append : delivered (trace ++ [entry]) = delivered trace ++ (entry.2.2.bind (·.delivers)).toList := by
  unfold delivered
  rw [List.filterMap_append, List.filterMap_append]
  cases h : entry.2.2 with
  | none => simp [h]
  | some answer => cases hd : answer.delivers <;> simp [h, hd]

theorem reported_append : reported (trace ++ [entry]) = reported trace ++ (entry.2.2.bind (·.reports)).toList := by
  unfold reported
  rw [List.filterMap_append, List.filterMap_append]
  cases h : entry.2.2 with
  | none => simp [h]
  | some answer => cases hd : answer.reports <;> simp [h, hd]

theorem published_append : published (trace ++ [entry]) = published trace ++ (publishedBy entry).toList := by
  unfold published
  rw [List.filterMap_append]
  cases h : publishedBy entry <;> simp [h]

end

/-- The events that a subscriber has received or will receive, in order. -/
def line (trace : SubscriptionTrace) (s : Subscription) : List RevisionedEvent := delivered trace ++ s.waiting

/-- What every step keeps. -/
structure Accounted (trace : SubscriptionTrace) (s : Subscription) : Prop where
  capacity_pos : 0 < s.capacity
  increasing : (line trace s).Pairwise fun a b => a.revision < b.revision
  bounded : ∀ item ∈ line trace s, item.revision ≤ s.nextRevision
  ending : ∀ item ∈ line trace s, item.Terminal → item.revision = s.nextRevision ∧ s.ended = true
  covered : ∀ item ∈ published trace, item ∈ line trace s ∨
    ¬ item.Terminal ∧ ∃ lag ∈ reported trace ++ s.lag.toList, lag.Covers item
  lagBounded : ∀ lag ∈ reported trace ++ s.lag.toList, lag.missedToRevision ≤ s.nextRevision
  disjoint : ∀ lag ∈ reported trace ++ s.lag.toList, ∀ item ∈ line trace s, ¬ lag.Covers item
  pending : ∀ lag ∈ s.lag, lag.missedFromRevision ≤ lag.missedToRevision
  last : s.lastDeliveredRevision ≤ s.nextRevision
  registered : s.registered = !s.ended
  terminal : s.ended = false → s.terminal = none
  checked : s.phase = .checked → s.queue = [] → s.lag = none
  closedPhase : s.phase = .closed → s.queue = [] ∧ s.lag = none ∧ s.ended = true
  closed : (∃ entry ∈ trace, entry.2.2 = some .nothing) → s.waiting = [] ∧ s.lag = none ∧ s.ended = true

theorem Accounted.delivered (h : Accounted trace s) : Delivered trace s where
  increasing := (List.pairwise_append.1 h.increasing).1
  covered item hitem := by
    rcases h.covered item hitem with hline | hlag
    · rcases List.mem_append.1 hline with hdelivered | hwaiting
      · exact .inl hdelivered
      · exact .inr (.inl hwaiting)
    · exact .inr (.inr hlag)
  disjoint item hitem lag hlag := h.disjoint lag (List.mem_append_left _ hlag) item (List.mem_append_left _ hitem)
  terminalLast item hitem hterminal := by
    obtain ⟨hrevision, -⟩ := h.ending item (List.mem_append_left _ hitem) hterminal
    obtain ⟨before, after, hsplit⟩ := List.append_of_mem hitem
    have hincreasing := (List.pairwise_append.1 h.increasing).1
    rw [hsplit] at hincreasing ⊢
    cases after with
    | nil => simp
    | cons next rest =>
      -- an event behind the terminal one would have a revision that was never given
      have hbehind := List.rel_of_pairwise_cons (List.pairwise_append.1 hincreasing).2.1 (List.mem_cons_self (a := next))
      have hbound := h.bounded next (List.mem_append_left _ (by rw [hsplit]; simp))
      omega
  closed hnothing := by
    obtain ⟨hwaiting, hlag, -⟩ := h.closed hnothing
    exact ⟨hwaiting, hlag⟩

theorem revision_item {event : BrowserSessionEvent} (h : s.nextRevision < u64Max) :
    (s.item event).revision = s.nextRevision + 1 := by
  show saturatingAdd s.nextRevision 1 = _
  unfold saturatingAdd
  omega

theorem missed_bounds (hlast : s.lastDeliveredRevision ≤ s.nextRevision)
    (hpending : ∀ lag ∈ s.lag, lag.missedFromRevision ≤ lag.missedToRevision)
    (hbounded : ∀ lag ∈ s.lag, lag.missedToRevision ≤ s.nextRevision) :
    (s.missed (s.nextRevision + 1)).missedToRevision = s.nextRevision + 1 ∧
      (s.missed (s.nextRevision + 1)).missedFromRevision ≤ s.nextRevision + 1 ∧
      ∀ lag ∈ s.lag, ∀ item, lag.Covers item → (s.missed (s.nextRevision + 1)).Covers item := by
  unfold Subscription.missed
  cases hlag : s.lag with
  | none =>
    refine ⟨rfl, ?_, by simp⟩
    show saturatingAdd s.lastDeliveredRevision 1 ≤ _
    unfold saturatingAdd
    omega
  | some existing =>
    have hle := hpending existing hlag
    have hto := hbounded existing hlag
    refine ⟨rfl, by show existing.missedFromRevision ≤ _; omega, fun lag hmem item hcovers => ?_⟩
    obtain rfl : existing = lag := Option.some.inj hmem
    exact ⟨hcovers.1, hcovers.2.trans (by show existing.missedToRevision ≤ s.nextRevision + 1; omega)⟩

theorem Accounted.le_newest (h : Accounted trace s) (hended : s.ended = false) {newest : RevisionedEvent}
    (hnewest : s.queue.getLast? = some newest) : ∀ item ∈ line trace s, item.revision ≤ newest.revision := by
  intro item hitem
  obtain ⟨older, holder⟩ := List.getLast?_eq_some_iff.1 hnewest
  have hsplit : line trace s = (Krometrail.delivered trace ++ s.hand ++ older) ++ [newest] := by
    unfold line Subscription.waiting
    rw [h.terminal hended, holder]
    simp
  have hincreasing := h.increasing
  rw [hsplit, List.pairwise_append] at hincreasing
  rw [hsplit] at hitem
  rcases List.mem_append.1 hitem with hbefore | hlast
  · exact (hincreasing.2.2 item hbefore newest (by simp)).le
  · rw [List.mem_singleton.1 hlast]

theorem Accounted.extend (h : Accounted trace s) (event : BrowserSessionEvent) (hnext : s.nextRevision < u64Max)
    (hended : s.ended = false) :
    (line trace s ++ [s.item event]).Pairwise (fun a b => a.revision < b.revision) ∧
      (∀ item ∈ line trace s ++ [s.item event], item.revision ≤ s.nextRevision + 1) ∧
      (∀ item ∈ line trace s, ¬ item.Terminal) ∧
      (∀ lag ∈ reported trace ++ s.lag.toList, ∀ item ∈ line trace s ++ [s.item event], ¬ lag.Covers item) ∧
      (∀ item ∈ published trace ++ [s.item event], item ∈ line trace s ++ [s.item event] ∨
        ¬ item.Terminal ∧ ∃ lag ∈ reported trace ++ s.lag.toList, lag.Covers item) ∧
      ∀ lag ∈ reported trace ++ s.lag.toList, lag.missedToRevision ≤ s.nextRevision + 1 := by
  have hrevision : (s.item event).revision = s.nextRevision + 1 := revision_item hnext
  refine ⟨List.pairwise_append.2 ⟨h.increasing, by simp, ?_⟩, ?_, ?_, ?_, ?_, ?_⟩
  · intro a ha b hb
    have hbound := h.bounded a ha
    rw [List.mem_singleton.1 hb]
    omega
  · intro item hitem
    rcases List.mem_append.1 hitem with hline | hnew
    · have hbound := h.bounded item hline
      omega
    · rw [List.mem_singleton.1 hnew, hrevision]
  · intro item hitem hterminal
    have hsome := (h.ending item hitem hterminal).2
    rw [hended] at hsome
    cases hsome
  · intro lag hlag item hitem
    rcases List.mem_append.1 hitem with hline | hnew
    · exact h.disjoint lag hlag item hline
    · have hbound := h.lagBounded lag hlag
      rintro ⟨-, hto⟩
      rw [List.mem_singleton.1 hnew] at hto
      omega
  · intro item hitem
    rcases List.mem_append.1 hitem with hbefore | hnew
    · exact (h.covered item hbefore).imp_left (List.mem_append_left _)
    · exact .inl (List.mem_append_right _ hnew)
  · exact fun lag hlag => (h.lagBounded lag hlag).trans (Nat.le_succ _)

theorem accounted_publish (h : Accounted trace s) {event : BrowserSessionEvent} (hguard : s.Guarded (.publish event)) :
    Accounted (trace ++ [(s, .publish event, none)]) (s.publish event) := by
  obtain ⟨hnext, hclear⟩ := hguard
  have hrevision : (s.item event).revision = s.nextRevision + 1 := revision_item hnext
  have hd : delivered (trace ++ [(s, .publish event, none)]) = delivered trace := by simp [delivered_append]
  have hr : reported (trace ++ [(s, .publish event, none)]) = reported trace := by simp [reported_append]
  have hc : (∃ entry ∈ trace ++ [(s, Subscription.Action.publish event, none)], entry.2.2 = some .nothing) ↔
      ∃ entry ∈ trace, entry.2.2 = some .nothing := by
    simp [or_and_right, exists_or]
  cases hended : s.ended with
  | true =>
    have hp : published (trace ++ [(s, .publish event, none)]) = published trace := by
      simp [published_append, publishedBy, hended]
    have hsame : s.publish event = s := by
      unfold Subscription.publish
      rw [if_pos hended]
    have hl : line (trace ++ [(s, .publish event, none)]) s = line trace s := by
      unfold line
      rw [hd]
    rw [hsame]
    exact { capacity_pos := h.capacity_pos, increasing := hl ▸ h.increasing, bounded := hl ▸ h.bounded,
            ending := hl ▸ h.ending, covered := by rw [hp, hl, hr]; exact h.covered,
            lagBounded := by rw [hr]; exact h.lagBounded, disjoint := by rw [hr, hl]; exact h.disjoint,
            pending := h.pending, last := h.last, registered := h.registered, terminal := h.terminal, checked := h.checked,
            closedPhase := h.closedPhase, closed := fun hnothing => h.closed (hc.1 hnothing) }
  | false =>
    have hp : published (trace ++ [(s, .publish event, none)]) = published trace ++ [s.item event] := by
      simp [published_append, publishedBy, hended]
    have hregistered : s.registered = true := by rw [h.registered, hended]; rfl
    have hterminal := h.terminal hended
    have hopen : s.phase ≠ .closed := fun hphase => by
      have hsome := (h.closedPhase hphase).2.2
      rw [hended] at hsome
      cases hsome
    have hnever : ¬ ∃ entry ∈ trace, entry.2.2 = some .nothing := fun hnothing => by
      have hsome := (h.closed hnothing).2.2
      rw [hended] at hsome
      cases hsome
    obtain ⟨hincreasing, hbounded, hnone, hapart, hcovered, hlags⟩ := h.extend event hnext hended
    rw [← hrevision] at hbounded hlags
    unfold Subscription.publish
    rw [if_neg (by simp [hended])]
    split
    · -- the terminal event, beside the channel
      rename_i hend
      have hl : line (trace ++ [(s, .publish event, none)])
          { s with nextRevision := (s.item event).revision, ended := true, registered := false,
                   terminal := some (s.item event) } = line trace s ++ [s.item event] := by
        simp [line, Subscription.waiting, Subscription.hand, hd, hterminal]
      refine { capacity_pos := h.capacity_pos, increasing := hl ▸ hincreasing, bounded := hl ▸ hbounded, ending := ?_,
               covered := by rw [hp, hl, hr]; exact hcovered, lagBounded := by rw [hr]; exact hlags,
               disjoint := by rw [hr, hl]; exact hapart, pending := h.pending, last := ?_,
               registered := rfl, terminal := nofun, checked := h.checked,
               closedPhase := fun hphase => absurd hphase hopen, closed := fun hnothing => absurd (hc.1 hnothing) hnever }
      · rw [hl]
        intro item hitem hitemEnd
        rcases List.mem_append.1 hitem with hline | hnew
        · exact absurd hitemEnd (hnone item hline)
        · rw [List.mem_singleton.1 hnew]
          exact ⟨rfl, rfl⟩
      · show s.lastDeliveredRevision ≤ (s.item event).revision
        have hlast := h.last
        omega
    · rename_i hend
      split
      · -- the channel has room
        have hl : line (trace ++ [(s, .publish event, none)])
            { s with nextRevision := (s.item event).revision, queue := s.queue ++ [s.item event],
                     lastDeliveredRevision := (s.item event).revision } = line trace s ++ [s.item event] := by
          simp [line, Subscription.waiting, Subscription.hand, hd, hterminal]
        refine { capacity_pos := h.capacity_pos, increasing := hl ▸ hincreasing, bounded := hl ▸ hbounded, ending := ?_,
                 covered := by rw [hp, hl, hr]; exact hcovered, lagBounded := by rw [hr]; exact hlags,
                 disjoint := by rw [hr, hl]; exact hapart, pending := h.pending, last := le_rfl,
                 registered := h.registered, terminal := fun _ => hterminal, checked := fun _ hempty => by simp at hempty,
                 closedPhase := fun hphase => absurd hphase hopen, closed := fun hnothing => absurd (hc.1 hnothing) hnever }
        · rw [hl]
          intro item hitem hitemEnd
          rcases List.mem_append.1 hitem with hline | hnew
          · exact absurd hitemEnd (hnone item hline)
          · rw [List.mem_singleton.1 hnew] at hitemEnd
            exact absurd hitemEnd hend
      · -- the channel is full: the lag takes the event in
        rename_i hfull
        have hclear' := hclear hregistered (not_lt.1 hfull) hend
        have hl : line (trace ++ [(s, .publish event, none)])
            { s with nextRevision := (s.item event).revision, lag := some (s.missed (s.item event).revision) } =
              line trace s := by
          simp [line, Subscription.waiting, Subscription.hand, hd]
        have hpendingBound : ∀ lag ∈ s.lag, lag.missedToRevision ≤ s.nextRevision := fun lag hlag =>
          h.lagBounded lag (List.mem_append_right _ (Option.mem_toList.2 hlag))
        obtain ⟨hto, hfrom, hwider⟩ := missed_bounds h.last h.pending hpendingBound
        have hne : s.queue ≠ [] := fun hempty => by
          rw [hempty] at hfull
          exact hfull h.capacity_pos
        have hlagApart : ∀ item ∈ line trace s, ¬ (s.missed (s.nextRevision + 1)).Covers item := by
          intro item hitem hcovers
          have hnewest := List.getLast?_eq_some_getLast hne
          have hle := h.le_newest hended hnewest item hitem
          exact hclear' _ hnewest (hcovers.1.trans hle)
        refine { capacity_pos := h.capacity_pos, increasing := hl ▸ h.increasing, bounded := ?_, ending := ?_, covered := ?_,
                 lagBounded := ?_, disjoint := ?_, pending := ?_, last := ?_, registered := h.registered,
                 terminal := fun _ => hterminal, checked := fun _ hempty => absurd hempty hne,
                 closedPhase := fun hphase => absurd hphase hopen, closed := fun hnothing => absurd (hc.1 hnothing) hnever }
        · rw [hl]
          intro item hitem
          have hbound := h.bounded item hitem
          show _ ≤ (s.item event).revision
          omega
        · rw [hl]
          exact fun item hitem hitemEnd => absurd hitemEnd (hnone item hitem)
        · rw [hp, hl, hr]
          intro item hitem
          rcases List.mem_append.1 hitem with hbefore | hnew
          · refine (h.covered item hbefore).imp_right fun ⟨hitemEnd, lag, hlag, hcovers⟩ => ⟨hitemEnd, ?_⟩
            rcases List.mem_append.1 hlag with hreported | hpending
            · exact ⟨lag, List.mem_append_left _ hreported, hcovers⟩
            · refine ⟨_, List.mem_append_right _ (Option.mem_toList.2 rfl), ?_⟩
              rw [hrevision]
              exact hwider lag (Option.mem_toList.1 hpending) item hcovers
          · rw [List.mem_singleton.1 hnew]
            refine .inr ⟨hend, _, List.mem_append_right _ (Option.mem_toList.2 rfl), ?_⟩
            unfold SubscriberLag.Covers
            rw [hrevision]
            exact ⟨hfrom, hto.ge⟩
        · rw [hr]
          intro lag hlag
          show _ ≤ (s.item event).revision
          rcases List.mem_append.1 hlag with hreported | hpending
          · have hbound := h.lagBounded lag (List.mem_append_left _ hreported)
            omega
          · obtain rfl := Option.some.inj (Option.mem_toList.1 hpending)
            rw [hrevision, hto]
        · rw [hr, hl]
          intro lag hlag
          rcases List.mem_append.1 hlag with hreported | hpending
          · exact h.disjoint lag (List.mem_append_left _ hreported)
          · obtain rfl := Option.some.inj (Option.mem_toList.1 hpending)
            rw [hrevision]
            exact hlagApart
        · intro lag hlag
          cases hlag
          rw [hrevision, hto]
          exact hfrom
        · show s.lastDeliveredRevision ≤ (s.item event).revision
          have hlast := h.last
          omega

theorem Accounted.move (h : Accounted trace s) (hp : publishedBy (s, action, answer) = none)
    (hl : line (trace ++ [(s, action, answer)]) s' = line trace s)
    (hr : reported (trace ++ [(s, action, answer)]) ++ s'.lag.toList = reported trace ++ s.lag.toList)
    (hcounts : s'.capacity = s.capacity ∧ s'.nextRevision = s.nextRevision ∧ s'.ended = s.ended ∧
      s'.registered = s.registered)
    (hlag : s'.lag = s.lag ∨ s'.lag = none) (hlast : s'.lastDeliveredRevision ≤ s.nextRevision)
    (hterminal : s'.terminal = s.terminal ∨ s'.terminal = none)
    (hchecked : s'.phase = .checked → s'.queue = [] → s'.lag = none)
    (hclosedPhase : s'.phase = .closed → s'.queue = [] ∧ s'.lag = none ∧ s.ended = true)
    (hclosed : (∃ entry ∈ trace, entry.2.2 = some .nothing) ∨ answer = some .nothing →
      s'.waiting = [] ∧ s'.lag = none ∧ s.ended = true) :
    Accounted (trace ++ [(s, action, answer)]) s' := by
  obtain ⟨hcapacity, hnext, hended, hregistered⟩ := hcounts
  exact {
    capacity_pos := by rw [hcapacity]; exact h.capacity_pos
    increasing := hl ▸ h.increasing
    bounded := by rw [hl, hnext]; exact h.bounded
    ending := by rw [hl, hnext, hended]; exact h.ending
    covered := by rw [published_append, hp, Option.toList_none, List.append_nil, hl, hr]; exact h.covered
    lagBounded := by rw [hr, hnext]; exact h.lagBounded
    disjoint := by rw [hr, hl]; exact h.disjoint
    pending := by
      rcases hlag with heq | heq <;> rw [heq]
      · exact h.pending
      · exact nofun
    last := by rw [hnext]; exact hlast
    registered := by rw [hregistered, hended]; exact h.registered
    terminal := fun hopen => by
      rcases hterminal with heq | heq <;> rw [heq]
      exact h.terminal (hended ▸ hopen)
    checked := hchecked
    closedPhase := by rw [hended]; exact hclosedPhase
    closed := fun ⟨entry, hentry, hnothing⟩ => by
      rw [hended]
      rcases List.mem_append.1 hentry with hbefore | hnew
      · exact hclosed (.inl ⟨entry, hbefore, hnothing⟩)
      · rw [List.mem_singleton.1 hnew] at hnothing
        exact hclosed (.inr hnothing) }

theorem accounted_checkLag (h : Accounted trace s) (hexec : s.checkLag = some (answer, s')) :
    Accounted (trace ++ [(s, .checkLag, answer)]) s' := by
  unfold Subscription.checkLag at hexec
  split at hexec
  · rename_i lag hphase hlag
    cases hexec
    refine h.move rfl ?_ ?_ ⟨rfl, rfl, rfl, rfl⟩ (.inr rfl) h.last (.inl rfl) (fun _ _ => rfl) ?_ ?_
    · simp [line, delivered_append, Subscription.NextAnswer.delivers, Subscription.waiting, Subscription.hand]
    · simp [reported_append, Subscription.NextAnswer.reports, hlag]
    · intro hclosed
      cases hphase.symm.trans hclosed
    · rintro (hnothing | hnothing)
      · have hnone := (h.closed hnothing).2.1
        rw [hlag] at hnone
        cases hnone
      · cases hnothing
  · rename_i hphase hlag
    cases hexec
    have hwaiting : ({ s with phase := .checked } : Subscription).waiting = s.waiting := by
      simp [Subscription.waiting, Subscription.hand, hphase]
    refine h.move rfl ?_ ?_ ⟨rfl, rfl, rfl, rfl⟩ (.inl rfl) h.last (.inl rfl) (fun _ _ => hlag) nofun ?_
    · simp [line, delivered_append, hwaiting]
    · simp [reported_append]
    · rintro (hnothing | hnothing)
      · rw [hwaiting]
        exact h.closed hnothing
      · cases hnothing
  · cases hexec

theorem accounted_receive (h : Accounted trace s) (hexec : s.receive = some (answer, s')) :
    Accounted (trace ++ [(s, .receive, answer)]) s' := by
  unfold Subscription.receive at hexec
  split at hexec
  · rename_i item queue hphase hqueue
    cases hexec
    have hwaiting : ({ s with queue, phase := .received item } : Subscription).waiting = s.waiting := by
      simp [Subscription.waiting, Subscription.hand, hphase, hqueue]
    refine h.move rfl ?_ ?_ ⟨rfl, rfl, rfl, rfl⟩ (.inl rfl) h.last (.inl rfl) nofun nofun ?_
    · simp [line, delivered_append, hwaiting]
    · simp [reported_append]
    · rintro (hnothing | hnothing)
      · rw [hwaiting]
        exact h.closed hnothing
      · cases hnothing
  · rename_i hphase hqueue
    split at hexec
    · cases hexec
    · rename_i hregistered
      cases hexec
      have hended : s.ended = true := by
        have hopen := h.registered
        cases hends : s.ended with
        | true => rfl
        | false =>
          rw [hends] at hopen
          exact absurd hopen hregistered
      have hlag := h.checked hphase hqueue
      have hwaiting : ({ s with phase := .closed } : Subscription).waiting = s.waiting := by
        simp [Subscription.waiting, Subscription.hand, hphase]
      refine h.move rfl ?_ ?_ ⟨rfl, rfl, rfl, rfl⟩ (.inl rfl) h.last (.inl rfl) nofun (fun _ => ⟨hqueue, hlag, hended⟩) ?_
      · simp [line, delivered_append, hwaiting]
      · simp [reported_append]
      · rintro (hnothing | hnothing)
        · rw [hwaiting]
          exact h.closed hnothing
        · cases hnothing
  · cases hexec

theorem accounted_record (h : Accounted trace s) (hexec : s.record = some (answer, s')) :
    Accounted (trace ++ [(s, .record, answer)]) s' := by
  unfold Subscription.record at hexec
  split at hexec
  · rename_i item hphase
    cases hexec
    have hitem : item ∈ s.waiting := by simp [Subscription.waiting, Subscription.hand, hphase]
    refine h.move rfl ?_ ?_ ⟨rfl, rfl, rfl, rfl⟩ (.inl rfl) (h.bounded item (List.mem_append_right _ hitem)) (.inl rfl) nofun
      nofun ?_
    · simp [line, delivered_append, Subscription.NextAnswer.delivers, Subscription.waiting, Subscription.hand, hphase]
    · simp [reported_append, Subscription.NextAnswer.reports]
    · rintro (hnothing | hnothing)
      · rw [(h.closed hnothing).1] at hitem
        cases hitem
      · cases hnothing
  · cases hexec

theorem accounted_takeTerminal (h : Accounted trace s) (hexec : s.takeTerminal = some (answer, s')) :
    Accounted (trace ++ [(s, .takeTerminal, answer)]) s' := by
  unfold Subscription.takeTerminal at hexec
  split at hexec
  · rename_i item hphase hterminal
    cases hexec
    obtain ⟨hqueue, -, -⟩ := h.closedPhase hphase
    have hwaiting : ({ s with terminal := none, phase := .received item } : Subscription).waiting = s.waiting := by
      simp [Subscription.waiting, Subscription.hand, hphase, hqueue, hterminal]
    refine h.move rfl ?_ ?_ ⟨rfl, rfl, rfl, rfl⟩ (.inl rfl) h.last (.inr rfl) nofun nofun ?_
    · simp [line, delivered_append, hwaiting]
    · simp [reported_append]
    · rintro (hnothing | hnothing)
      · rw [hwaiting]
        exact h.closed hnothing
      · cases hnothing
  · rename_i hphase hterminal
    cases hexec
    obtain ⟨hqueue, hlag, hended⟩ := h.closedPhase hphase
    refine h.move rfl ?_ ?_ ⟨rfl, rfl, rfl, rfl⟩ (.inl rfl) h.last (.inl rfl) nofun nofun fun _ => ⟨?_, hlag, hended⟩
    · simp [line, delivered_append, Subscription.NextAnswer.delivers, Subscription.waiting, Subscription.hand, hphase]
    · simp [reported_append, Subscription.NextAnswer.reports]
    · simp [Subscription.waiting, Subscription.hand, hqueue, hterminal]
  · cases hexec

theorem accounted_step (h : Accounted trace s) (hguard : s.Guarded action) (hexec : s.exec action = some (answer, s')) :
    Accounted (trace ++ [(s, action, answer)]) s' := by
  cases action with
  | publish event =>
    cases hexec
    exact accounted_publish h hguard
  | checkLag => exact accounted_checkLag h hexec
  | receive => exact accounted_receive h hexec
  | record => exact accounted_record h hexec
  | takeTerminal => exact accounted_takeTerminal h hexec

theorem accounted_subscribe (capacity nextRevision : Nat) (ended : Bool) :
    Accounted [] (.subscribe capacity nextRevision ended) := by
  have hline : line [] (.subscribe capacity nextRevision ended) = [] := rfl
  have hlags : reported [] ++ (Subscription.subscribe capacity nextRevision ended).lag.toList = [] := rfl
  exact {
    capacity_pos := by
      show 0 < max capacity 1
      omega
    increasing := by simp [hline]
    bounded := by simp [hline]
    ending := by simp [hline]
    covered := by simp [published]
    lagBounded := by simp [hlags]
    disjoint := by simp [hlags]
    pending := by simp [Subscription.subscribe]
    last := le_rfl
    registered := rfl
    terminal := fun _ => rfl
    checked := by simp [Subscription.subscribe]
    closedPhase := by simp [Subscription.subscribe]
    closed := by simp }

/-- **A subscriber is told what it loses.**  In every run in which a publication that finds the channel full finds the
newest waiting event behind the lag that it makes, what is delivered is in order, what is not is in a reported range or on
its way, no delivered event is in a reported range, and the terminal event comes last. -/
theorem subscription_delivers (h : Run subscriptionSystem Subscription.Guarded trace s) : Delivered trace s := by
  have haccounted : Accounted trace s := by
    refine h.traceInvariant ?_ fun _ _ _ _ _ hkept hguard hexec => accounted_step hkept hguard hexec
    rintro _ ⟨capacity, nextRevision, ended, rfl, -⟩
    exact accounted_subscribe capacity nextRevision ended
  exact haccounted.delivered

theorem exists_subscriptionRun (G : Subscription → Subscription.Action → Prop)
    (guard : Subscription → Subscription.Action → Bool) (hguard : ∀ s action, guard s action = true → G s action)
    (actions : List Subscription.Action) (test : SubscriptionTrace → Subscription → Bool)
    (h : (replay Subscription.exec guard actions [] (.subscribe 1 0 false)).any
      (fun result => test result.1 result.2) = true) :
    ∃ trace s, Run subscriptionSystem G trace s ∧ test trace s = true := by
  have hinit : subscriptionSystem.init (.subscribe 1 0 false) := ⟨1, 0, false, rfl, Nat.zero_le _⟩
  exact exists_run_of_replay (fun _ _ _ _ hexec => hexec) hguard hinit h

def readyEvent : BrowserSessionEvent := .sessionStateChanged .ready

def endedEvent : BrowserSessionEvent := .sessionStateChanged .ended

/-- The second of two events is lost, the lag is reported, the first is delivered, and then the end. -/
theorem subscription_delivers_lagged : ∃ trace s, Run subscriptionSystem Subscription.Guarded trace s ∧
    ((delivered trace = [⟨1, readyEvent⟩, ⟨3, endedEvent⟩] ∧ reported trace = [⟨2, 2, 2⟩]) ∧ Delivered trace s) := by
  obtain ⟨trace, s, hrun, htest⟩ := exists_subscriptionRun Subscription.Guarded (fun s action => decide (s.Guarded action))
    (fun _ _ => of_decide_eq_true)
    [.publish readyEvent, .publish readyEvent, .publish endedEvent, .checkLag, .checkLag, .receive, .record, .checkLag,
      .receive, .takeTerminal, .record]
    (fun trace _ => decide (delivered trace = [⟨1, readyEvent⟩, ⟨3, endedEvent⟩] ∧ reported trace = [⟨2, 2, 2⟩]))
    (by decide)
  exact ⟨trace, s, hrun, of_decide_eq_true htest, subscription_delivers hrun⟩

/-- Two events are published between the lag check and the receive: the lag of the second is still pending when the third
is sent, grows over it with the fourth, and the third is delivered all the same. -/
theorem delivered_inside_lag : ∃ trace s, Run subscriptionSystem (fun _ _ => True) trace s ∧
    ∃ item ∈ delivered trace, ∃ lag ∈ reported trace, lag.Covers item := by
  obtain ⟨trace, s, hrun, htest⟩ := exists_subscriptionRun (fun _ _ => True) (fun _ _ => true) (fun _ _ _ => trivial)
    [.checkLag, .publish readyEvent, .publish readyEvent, .receive, .record, .publish readyEvent, .publish readyEvent,
      .checkLag, .checkLag, .receive, .record]
    (fun trace _ => decide (∃ item ∈ delivered trace, ∃ lag ∈ reported trace, lag.Covers item)) (by decide)
  exact ⟨trace, s, hrun, of_decide_eq_true htest⟩

end Krometrail
