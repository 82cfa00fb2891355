import Krometrail.Capture.Pipeline
import Krometrail.Lib.Cells

/-!
# The admission of capture streams

A start of a capture stream takes one of the slots that the coordinator has, keeps it over several awaits, and hands it to the
registry of streams at the end.  The slots are the reservations and the registered streams in the states that count.  In every
run in which a suspended stream is only stopped while a slot is free, the slots do not exceed the limit (`slots_kept`).
-/

namespace Krometrail.Admission

open Runs (Run System)

/-! ### Streams and starts -/

structure StreamKey where
  targetId : TargetId
  attachmentGeneration : Nat
  deriving DecidableEq

/-- The states that admission counts. -/
def counts : CaptureStreamState → Bool
  | .starting | .capturing | .pausedBudget | .hidden | .draining => true
  | .suspended | .stopped | .failed => false

/-- A stream runtime: is the flag `accepting` set, and do the tasks of the readers and of the worker run? -/
structure StreamRuntime where
  state : CaptureStreamState
  accepting : Bool
  readers : Bool
  worker : Bool

namespace StreamRuntime

variable (r : StreamRuntime)

/-- `StreamRuntime::new` and `set_tasks`. -/
def spawned : StreamRuntime := ⟨.starting, true, true, true⟩

def transition (t : Transition) : StreamRuntime := { r with state := (nextState r.state t).getD r.state }

/-- `close_acceptance` and `abort_readers`. -/
def close : StreamRuntime := { r with accepting := false, readers := false }

/-- The drop of `StartupTasks`. -/
def abandon : StreamRuntime := { r.close with worker := false }

end StreamRuntime

/-- The awaits of a start that was admitted; `registering` is the part after the last one. -/
inductive Phase
  | fencing
  | subscribing (left : Nat)
  | sending
  | registering
  | ended (ok : Bool)
  deriving DecidableEq

/-- A call of `start_target` that was admitted, with the runtime that it has made.  `released` counts how often its reservation
was given up. -/
structure Start where
  key : StreamKey
  phase : Phase
  released : Nat
  runtime : Option StreamRuntime

def Start.inFlight (start : Start) : Bool :=
  match start.phase with
  | .ended _ => false
  | _ => true

/-- The coordinator: `streams` maps keys to the starts whose runtimes they have, and `stops` are the stops under way. -/
structure State where
  pending : Finset StreamKey
  streams : Finset (StreamKey × Nat)
  starts : List Start
  stops : List (StreamKey × Nat)

def State.initial : State := ⟨∅, ∅, [], []⟩

/-- What happens: a start is made, or goes on, past an await that succeeds, or that fails or in which it is dropped; a reader or
the worker of a runtime moves its state; a stream in the registry is suspended, or stopped, in two parts; a start that has
ended retires the older streams of its target. -/
inductive Input
  | start (key : StreamKey)
  | go (i : Nat) (ok : Bool)
  | react (i : Nat) (t : Transition)
  | suspend (key : StreamKey) (i : Nat)
  | stop (key : StreamKey) (i : Nat)
  | finishStop (key : StreamKey) (i : Nat) (complete : Bool)
  | retain (i : Nat)

namespace State

variable (s : State)

def runtime (i : Nat) : Option StreamRuntime := s.starts[i]?.bind Start.runtime

/-- Does the runtime of the start at `i` count? -/
def counted (i : Nat) : Bool := (s.runtime i).any fun r => counts r.state

def active : Nat := (s.streams.filter fun entry => s.counted entry.2).card

def setStart (i : Nat) (start : Start) : State := { s with starts := s.starts.set i start }

def modifyRuntime (i : Nat) (f : StreamRuntime → StreamRuntime) : State :=
  (s.starts[i]?).elim s fun start => s.setStart i { start with runtime := start.runtime.map f }

/-- The part of `start_target` under the two locks; a start that is refused returns. -/
def admission (limit : Nat) (key : StreamKey) : State :=
  if key.attachmentGeneration = 0 ∨ key ∈ s.streams.image Prod.fst ∨ key ∈ s.pending ∨ s.active + s.pending.card ≥ limit then
    s
  else { s with pending := insert key s.pending, starts := s.starts ++ [⟨key, .fencing, 0, none⟩] }

/-- The guards `StartupTasks` and `StreamAdmission` are dropped. -/
def fail (i : Nat) (start : Start) : State :=
  { s with pending := s.pending.erase start.key }.setStart i
    { start with
      phase := .ended false
      released := start.released + 1
      runtime := start.runtime.map StreamRuntime.abandon }

/-- The slot is handed from the reservation to the registry. -/
def register (i : Nat) (start : Start) : State :=
  { s with
    pending := s.pending.erase start.key
    streams := insert (start.key, i) (s.streams.filter (·.1 ≠ start.key)) }.setStart i
    { start with phase := .ended true, released := start.released + 1 }

/-- A start goes on: behind the fence of the ordinals there are five subscriptions. -/
def goOn (i : Nat) (start : Start) (ok : Bool) : Option State :=
  match start.phase with
  | .fencing => some (if ok then s.setStart i { start with phase := .subscribing 5 } else s.fail i start)
  | .subscribing (left + 1) => some (if ok then s.setStart i { start with phase := .subscribing left } else s.fail i start)
  | .subscribing 0 => some (s.setStart i { start with phase := .sending, runtime := some .spawned })
  | .sending =>
    some (if ok then s.setStart i { start with phase := .registering, runtime := start.runtime.map (·.transition .startedVisible) }
      else s.fail i start)
  | .registering => some (s.register i start)
  | .ended _ => none

/-- The transitions of the readers and of the worker. -/
def reacts : Transition → Bool
  | .hide | .show | .actualFrame | .pauseBudget | .resumeBudgetVisible | .resumeBudgetHidden | .failure => true
  | _ => false

/-- The older streams of the target go, unless they are capturing or paused. -/
def retains (start : Start) (entry : StreamKey × Nat) : Bool :=
  entry.1.targetId ≠ start.key.targetId || entry.1.attachmentGeneration ≥ start.key.attachmentGeneration ||
    (s.runtime entry.2).any fun r => r.state = .capturing || r.state = .pausedBudget

def exec (limit : Nat) (s : State) : Input → Option State
  | .start key => some (s.admission limit key)
  | .go i ok => s.starts[i]?.bind fun start => s.goOn i start ok
  | .react i t => if reacts t then some (s.modifyRuntime i (·.transition t)) else none
  | .suspend key i =>
    if (key, i) ∈ s.streams then some (s.modifyRuntime i fun r => r.close.transition .suspend) else none
  | .stop key i =>
    if (key, i) ∈ s.streams ∧ (s.runtime i).all (·.state ≠ .stopped) then
      some { s.modifyRuntime i fun r => r.close.transition .stop with stops := (key, i) :: s.stops }
    else none
  | .finishStop key i complete =>
    if (key, i) ∈ s.stops then
      let s' := s.modifyRuntime i fun r => { r.transition (if complete then .drained else .deadline) with worker := false }
      some { s' with streams := s.streams.erase (key, i), stops := s.stops.erase (key, i) }
    else none
  | .retain i => s.starts[i]?.bind fun start =>
    if start.phase = .ended true then some { s with streams := s.streams.filter fun entry => s.retains start entry } else none

end State

def coordinator (limit : Nat) : System State Input Unit := .ofExec (· = .initial) (State.exec limit)

/-- A stream that is suspended has no slot, and its stop takes one: there must be one. -/
def HasSlot (limit : Nat) (s : State) : Input → Prop
  | .stop _ i => (s.runtime i).any (·.state = .suspended) = true → s.active + s.pending.card < limit
  | _ => True

/-- The start at `i` is under way, or its stream is registered. -/
def State.Occupies (s : State) (i : Nat) (start : Start) : Prop :=
  s.starts[i]? = some start ∧ (start.inFlight = true ∨ (start.key, i) ∈ s.streams)

def StreamRuntime.Closed (r : StreamRuntime) : Prop := r.accepting = false ∧ r.readers = false ∧ r.worker = false

/-- The parts of a start that are left. -/
def Phase.left : Phase → Nat
  | .fencing => 9
  | .subscribing n => n + 3
  | .sending => 2
  | .registering => 1
  | .ended _ => 0

/-- The slots are within the limit, no two starts share a key, and starts that have ended have given up their reservations,
once, and left nothing behind unless they returned `Ok`.  A start that is under way comes to its end. -/
structure State.SlotsKept (limit : Nat) (s : State) : Prop where
  bounded : s.active + s.pending.card ≤ limit
  apart : ∀ i j a b, s.Occupies i a → s.Occupies j b → a.key = b.key → i = j
  held : ∀ key, key ∈ s.pending ↔ ∃ start ∈ s.starts, start.key = key ∧ start.inFlight = true
  once : ∀ start ∈ s.starts, start.released = if start.inFlight then 0 else 1
  clean : ∀ i start, s.starts[i]? = some start → start.phase = .ended false →
    (∀ key, (key, i) ∉ s.streams) ∧ ∀ r ∈ start.runtime, r.Closed
  goesOn : ∀ i start ok, s.starts[i]? = some start → start.inFlight = true →
    ∃ s' b, s.exec limit (.go i ok) = some s' ∧ s'.starts[i]? = some b ∧ b.phase.left < start.phase.left

/-! ### The invariant -/

/-- What a start says of itself. -/
structure Start.Sound (start : Start) : Prop where
  released : start.released = if start.inFlight then 0 else 1
  closed : start.phase = .ended false → ∀ r ∈ start.runtime, r.Closed

/-- The reservations are those of the starts under way, and the streams are those of starts that returned `Ok`. -/
structure State.Kept (limit : Nat) (s : State) : Prop where
  bounded : s.active + s.pending.card ≤ limit
  sound : ∀ (i : Nat) (start : Start), s.starts[i]? = some start → start.Sound
  held : ∀ key, key ∈ s.pending ↔ ∃ (i : Nat) (start : Start), s.starts[i]? = some start ∧ start.key = key ∧ start.inFlight = true
  unique : ∀ (i j : Nat) (a b : Start), s.starts[i]? = some a → s.starts[j]? = some b → a.inFlight = true → b.inFlight = true →
    a.key = b.key → i = j
  keyed : ∀ entry ∈ s.streams, ∀ other ∈ s.streams, entry.1 = other.1 → entry = other
  disjoint : ∀ entry ∈ s.streams, entry.1 ∉ s.pending
  registered : ∀ entry ∈ s.streams, ∃ start, s.starts[entry.2]? = some start ∧ start.key = entry.1 ∧ start.phase = .ended true

variable {limit : Nat} {s s' : State} {i j : Nat} {start a b : Start} {key : StreamKey} {t : Transition} {ok : Bool}
  {f : StreamRuntime → StreamRuntime} {pending : Finset StreamKey} {streams : Finset (StreamKey × Nat)} {starts : List Start}
  {stops : List (StreamKey × Nat)}

/-- Another start than the one at `i` has the reservation. -/
def State.HeldBeside (s : State) (i : Nat) (key : StreamKey) : Prop :=
  ∃ (j : Nat) (c : Start), j ≠ i ∧ s.starts[j]? = some c ∧ c.key = key ∧ c.inFlight = true

theorem State.Kept.held_iff (h : s.Kept limit) (hi : s.starts[i]? = some a) :
    key ∈ s.pending ↔ a.key = key ∧ a.inFlight = true ∨ s.HeldBeside i key := by
  rw [h.held]
  constructor
  · rintro ⟨j, c, hj, hc⟩
    by_cases hij : j = i
    · cases hij
      cases hi.symm.trans hj
      exact .inl hc
    · exact .inr ⟨j, c, hij, hj, hc⟩
  · rintro (ha | ⟨j, c, -, hj, hc⟩)
    · exact ⟨i, a, hi, ha⟩
    · exact ⟨j, c, hj, hc⟩

/-- The start at `i` becomes `b`, and with it what the coordinator has of it. -/
theorem State.Kept.put (h : s.Kept limit)
    (hstarts : ∀ (j : Nat) (c : Start), starts[j]? = some c ↔ j = i ∧ c = b ∨ j ≠ i ∧ s.starts[j]? = some c) (hsound : b.Sound)
    (hold : ∀ a, s.starts[i]? = some a → b.key = a.key ∧ (a.phase = .ended true → b.phase = .ended true))
    (hfresh : b.inFlight = true → ¬ s.HeldBeside i b.key)
    (hpending : ∀ key, key ∈ pending ↔ b.key = key ∧ b.inFlight = true ∨ s.HeldBeside i key)
    (hstreams : ∀ entry ∈ streams, entry ∈ s.streams ∨ entry = (b.key, i) ∧ b.phase = .ended true ∧ b.key ∈ s.pending)
    (hdisjoint : ∀ entry ∈ streams, entry.1 ∉ pending)
    (hbounded : (State.mk pending streams starts stops).active + pending.card ≤ limit) :
    State.Kept limit ⟨pending, streams, starts, stops⟩ where
  bounded := hbounded
  sound j c hc := by
    obtain ⟨-, rfl⟩ | ⟨-, hc⟩ := (hstarts j c).1 hc
    · exact hsound
    · exact h.sound j c hc
  held key := by
    rw [hpending]
    constructor
    · rintro (hb | ⟨j, c, hne, hj, hc⟩)
      · exact ⟨i, b, (hstarts i b).2 (.inl ⟨rfl, rfl⟩), hb⟩
      · exact ⟨j, c, (hstarts j c).2 (.inr ⟨hne, hj⟩), hc⟩
    · rintro ⟨j, c, hj, hc⟩
      obtain ⟨rfl, rfl⟩ | ⟨hne, hj⟩ := (hstarts j c).1 hj
      · exact .inl hc
      · exact .inr ⟨j, c, hne, hj, hc⟩
  unique j k c d hj hk hc hd hkey := by
    obtain ⟨rfl, rfl⟩ | ⟨hne, hj⟩ := (hstarts j c).1 hj <;> obtain ⟨rfl, rfl⟩ | ⟨hne', hk⟩ := (hstarts k d).1 hk
    · rfl
    · exact absurd ⟨k, d, hne', hk, hkey.symm, hd⟩ (hfresh hc)
    · exact absurd ⟨j, c, hne, hj, hkey, hc⟩ (hfresh hd)
    · exact h.unique j k c d hj hk hc hd hkey
  keyed entry hentry other hother hkey := by
    obtain hentry | ⟨rfl, -, hmem⟩ := hstreams entry hentry <;> obtain hother | ⟨rfl, -, hmem'⟩ := hstreams other hother
    · exact h.keyed entry hentry other hother hkey
    · exact absurd (hkey ▸ hmem') (h.disjoint entry hentry)
    · exact absurd (hkey ▸ hmem) (h.disjoint other hother)
    · rfl
  disjoint := hdisjoint
  registered entry hentry := by
    obtain hentry | ⟨rfl, hended, -⟩ := hstreams entry hentry
    · obtain ⟨c, hc, hkey, hended⟩ := h.registered entry hentry
      by_cases hi : entry.2 = i
      · obtain ⟨hsame, hthen⟩ := hold c (hi ▸ hc)
        exact ⟨b, (hstarts _ b).2 (.inl ⟨hi, rfl⟩), hsame.trans hkey, hthen hended⟩
      · exact ⟨c, (hstarts _ c).2 (.inr ⟨hi, hc⟩), hkey, hended⟩
    · exact ⟨b, (hstarts i b).2 (.inl ⟨rfl, rfl⟩), rfl, hended⟩

theorem starts_set (hi : s.starts[i]? = some a) (j : Nat) (c : Start) :
    (s.starts.set i b)[j]? = some c ↔ j = i ∧ c = b ∨ j ≠ i ∧ s.starts[j]? = some c := by
  refine ⟨Cells.cases_of_set, ?_⟩
  rintro (⟨rfl, rfl⟩ | ⟨hne, hj⟩)
  · exact Cells.getElem?_set_same hi
  · rwa [Cells.getElem?_set_other hne]

theorem State.Kept.moves (h : s.Kept limit) (hi : s.starts[i]? = some a) (hkey : b.key = a.key) (hflight : b.inFlight = a.inFlight)
    (hended : a.phase = .ended true → b.phase = .ended true) (hsound : a.Sound → b.Sound) (hstreams : streams ⊆ s.streams)
    (hbounded : (State.mk s.pending streams (s.starts.set i b) stops).active + s.pending.card ≤ limit) :
    State.Kept limit ⟨s.pending, streams, s.starts.set i b, stops⟩ := by
  refine h.put (starts_set hi) (hsound (h.sound i a hi)) (fun c hc => ?_) (fun hin ⟨j, c, hne, hj, hc⟩ => ?_) (fun key => ?_)
    (fun entry hentry => .inl (hstreams hentry)) (fun entry hentry => h.disjoint entry (hstreams hentry)) hbounded
  · cases hi.symm.trans hc
    exact ⟨hkey, hended⟩
  · exact hne (h.unique j i c a hj hi hc.2 (hflight.symm.trans hin) (hc.1.trans hkey))
  · rw [h.held_iff hi, hkey, hflight]

theorem State.Kept.ne_of_inFlight (h : s.Kept limit) (hi : s.starts[i]? = some a) (hin : a.inFlight = true) :
    ∀ entry ∈ s.streams, entry.2 ≠ i := by
  rintro entry hentry rfl
  obtain ⟨c, hc, -, hended⟩ := h.registered entry hentry
  cases hi.symm.trans hc
  rw [Start.inFlight, hended] at hin
  cases hin

theorem counted_set (hne : j ≠ i) : (s.setStart i b).counted j = s.counted j := by
  simp [State.counted, State.runtime, State.setStart, List.getElem?_set_ne hne.symm]

theorem State.Kept.active_set (h : s.Kept limit) (hi : s.starts[i]? = some a) (hin : a.inFlight = true) (b : Start) :
    (s.setStart i b).active ≤ s.active := by
  refine Finset.card_le_card fun entry hentry => ?_
  obtain ⟨hmem, hcounted⟩ := Finset.mem_filter.1 hentry
  exact Finset.mem_filter.2 ⟨hmem, (counted_set (h.ne_of_inFlight hi hin entry hmem)).symm.trans hcounted⟩

theorem State.Kept.goesOn (h : s.Kept limit) (hi : s.starts[i]? = some start) (hin : start.inFlight = true) {phase : Phase}
    {runtime : Option StreamRuntime} (hphase : ({ start with phase, runtime } : Start).inFlight = true) :
    (s.setStart i { start with phase, runtime }).Kept limit := by
  refine h.moves hi rfl (hphase.trans hin.symm) (fun hended => ?_) (fun hsound => ⟨?_, fun hended => ?_⟩)
    (Finset.Subset.refl _) ((Nat.add_le_add_right (h.active_set hi hin _) _).trans h.bounded)
  · rw [Start.inFlight, hended] at hin
    cases hin
  · exact (hphase.trans hin.symm) ▸ hsound.released
  · rw [Start.inFlight, hended] at hphase
    cases hphase

/-- A start under way gives up its reservation, and the registry gets its stream, if it returns `Ok`. -/
theorem State.Kept.ends (h : s.Kept limit) (hi : s.starts[i]? = some start) (hin : start.inFlight = true)
    {runtime : Option StreamRuntime} (hclosed : ok = false → ∀ r ∈ runtime, r.Closed)
    (hstreams : streams = s.streams ∨ streams = insert (start.key, i) s.streams ∧ ok = true) :
    ({ s with pending := s.pending.erase start.key, streams }.setStart i
      { start with phase := .ended ok, released := start.released + 1, runtime }).Kept limit := by
  have hsound := h.sound i start hi
  have hmem : start.key ∈ s.pending := (h.held _).2 ⟨i, start, hi, rfl, hin⟩
  have hentries : ∀ entry ∈ streams, entry ∈ s.streams ∨ entry = (start.key, i) ∧ ok = true := by
    intro entry hentry
    obtain rfl | ⟨rfl, hok⟩ := hstreams
    · exact .inl hentry
    · exact (Finset.mem_insert.1 hentry).symm.imp_right fun heq => ⟨heq, hok⟩
  refine h.put (starts_set hi) ⟨?_, fun hended => hclosed (Phase.ended.inj hended)⟩ (fun c hc => ?_)
    (fun h => nomatch h) (fun key => ?_) (fun entry hentry => ?_) (fun entry hentry => ?_) ?_
  · have hreleased := hsound.released
    rw [hin] at hreleased
    simp [Start.inFlight, hreleased]
  · cases hi.symm.trans hc
    refine ⟨rfl, fun hended => ?_⟩
    rw [Start.inFlight, hended] at hin
    cases hin
  · rw [Finset.mem_erase, h.held_iff hi]
    constructor
    · rintro ⟨hne, ⟨hkey, -⟩ | hbeside⟩
      · exact absurd hkey.symm hne
      · exact .inr hbeside
    · rintro (⟨-, hflight⟩ | ⟨j, c, hne, hj, hc⟩)
      · cases hflight
      · exact ⟨fun heq => hne (h.unique j i c start hj hi hc.2 hin (hc.1.trans heq)), .inr ⟨j, c, hne, hj, hc⟩⟩
  · exact (hentries entry hentry).imp_right fun ⟨heq, hok⟩ => ⟨heq, congrArg _ hok, hmem⟩
  · obtain hentry | ⟨rfl, -⟩ := hentries entry hentry
    · exact fun hpending => h.disjoint entry hentry (Finset.mem_of_mem_erase hpending)
    · exact Finset.notMem_erase _ _
  · have hactive := h.active_set hi hin { start with phase := .ended ok, released := start.released + 1, runtime }
    have hcard := Finset.card_erase_add_one hmem
    have hbounded := h.bounded
    refine le_trans (Nat.add_le_add_right (m := s.active + 1) ?_ (s.pending.erase start.key).card) (by omega)
    obtain rfl | ⟨rfl, -⟩ := hstreams
    · exact hactive.trans (Nat.le_succ _)
    · rw [State.active, Finset.filter_insert]
      split
      · exact (Finset.card_insert_le _ _).trans (Nat.succ_le_succ hactive)
      · exact hactive.trans (Nat.le_succ _)

theorem State.Kept.fail (h : s.Kept limit) (hi : s.starts[i]? = some start) (hin : start.inFlight = true) :
    (s.fail i start).Kept limit := by
  refine h.ends hi hin (fun _ r hr => ?_) (.inl rfl)
  obtain ⟨old, -, rfl⟩ := Option.map_eq_some_iff.1 hr
  exact ⟨rfl, rfl, rfl⟩

theorem State.Kept.register (h : s.Kept limit) (hi : s.starts[i]? = some start) (hin : start.inFlight = true) :
    (s.register i start).Kept limit := by
  have hmem : start.key ∈ s.pending := (h.held _).2 ⟨i, start, hi, rfl, hin⟩
  refine h.ends hi hin (fun hok => nomatch hok) (.inr ⟨congrArg _ (Finset.filter_true_of_mem fun entry hentry heq => ?_), rfl⟩)
  exact h.disjoint entry hentry (heq ▸ hmem)

theorem inFlight_of_goOn (hgo : s.goOn i start ok = some s') : start.inFlight = true := by
  unfold Start.inFlight
  split
  · rename_i hphase
    rw [State.goOn, hphase] at hgo
    cases hgo
  · rfl

theorem State.Kept.goOn (h : s.Kept limit) (hi : s.starts[i]? = some start) (hgo : s.goOn i start ok = some s') : s'.Kept limit := by
  have hin := inFlight_of_goOn hgo
  unfold State.goOn at hgo
  split at hgo
  case h_3 =>
    cases hgo
    exact h.goesOn hi hin rfl
  case h_5 =>
    cases hgo
    exact h.register hi hin
  case h_6 => cases hgo
  all_goals
    cases ok
    · cases hgo
      exact h.fail hi hin
    · cases hgo
      exact h.goesOn hi hin rfl

theorem State.Kept.admission (h : s.Kept limit) (key : StreamKey) : (s.admission limit key).Kept limit := by
  unfold State.admission
  split
  · exact h
  · rename_i hguard
    simp only [not_or, ge_iff_le, not_le, Finset.mem_image, not_exists, not_and] at hguard
    obtain ⟨-, hnone, hnot, hslot⟩ := hguard
    have hbeside : ∀ key, s.HeldBeside s.starts.length key ↔ key ∈ s.pending := by
      intro key
      rw [h.held]
      constructor
      · exact fun ⟨j, c, _, hc⟩ => ⟨j, c, hc⟩
      · exact fun ⟨j, c, hj, hc⟩ => ⟨j, c, (List.getElem?_eq_some_iff.1 hj).1.ne, hj, hc⟩
    refine h.put (i := s.starts.length) (b := ⟨key, .fencing, 0, none⟩) (fun j c => ⟨fun hj => ?_, ?_⟩) ⟨rfl, nofun⟩
      (fun c hc => ?_) (fun _ hheld => hnot ((hbeside _).1 hheld)) (fun other => ?_) (fun entry hentry => .inl hentry)
      (fun entry hentry hp => ?_) ?_
    · obtain hj | hnew := Cells.cases_of_push hj
      · exact .inr ⟨(List.getElem?_eq_some_iff.1 hj).1.ne, hj⟩
      · exact .inl hnew
    · rintro (⟨rfl, rfl⟩ | ⟨-, hj⟩)
      · exact List.getElem?_concat_length
      · exact Cells.getElem?_push hj
    · exact absurd (List.getElem?_eq_some_iff.1 hc).1 (Nat.lt_irrefl _)
    · rw [Finset.mem_insert, hbeside]
      simp [Start.inFlight, eq_comm]
    · obtain hkey | hp := Finset.mem_insert.1 hp
      · exact hnone entry hentry hkey
      · exact h.disjoint entry hentry hp
    · rw [Finset.card_insert_of_notMem hnot]
      refine (Nat.add_le_add_right (Finset.card_le_card fun entry hentry => ?_) _).trans hslot
      obtain ⟨hmem, hcounted⟩ := Finset.mem_filter.1 hentry
      obtain ⟨c, hc, -⟩ := h.registered entry hmem
      refine Finset.mem_filter.2 ⟨hmem, ?_⟩
      rw [State.counted, State.runtime, Cells.getElem?_push hc] at hcounted
      rwa [State.counted, State.runtime, hc]

theorem counts_of_counts {state : CaptureStreamState} (hresume : t ≠ .resume) (hstop : t = .stop → state ≠ .suspended)
    (h : counts ((nextState state t).getD state) = true) : counts state = true := by
  cases state <;> cases t <;> simp_all [nextState, counts]

theorem State.Kept.shrinks (h : s.Kept limit) (hstreams : streams ⊆ s.streams) : State.Kept limit { s with streams, stops } where
  bounded := (Nat.add_le_add_right (Finset.card_le_card (Finset.filter_subset_filter _ hstreams)) _).trans h.bounded
  sound := h.sound
  held := h.held
  unique := h.unique
  keyed entry hentry other hother := h.keyed entry (hstreams hentry) other (hstreams hother)
  disjoint entry hentry := h.disjoint entry (hstreams hentry)
  registered entry hentry := h.registered entry (hstreams hentry)

theorem State.Kept.modifyRuntime (h : s.Kept limit) (hclosed : ∀ r : StreamRuntime, r.Closed → (f r).Closed)
    (hslot : (∀ r ∈ s.runtime i, counts (f r).state = true → counts r.state = true) ∨ s.active + s.pending.card < limit)
    (hstreams : streams ⊆ s.streams) : State.Kept limit { s.modifyRuntime i f with streams, stops } := by
  unfold State.modifyRuntime
  cases hi : s.starts[i]? with
  | none => exact h.shrinks hstreams
  | some start =>
    refine h.moves hi rfl rfl id (fun hsound => ⟨hsound.released, fun hended r hr => ?_⟩) hstreams ?_
    · obtain ⟨old, hold, rfl⟩ := Option.map_eq_some_iff.1 hr
      exact hclosed old (hsound.closed hended old hold)
    · have hothers : ∀ entry ∈ streams, entry.2 ≠ i → (s.setStart i { start with runtime := start.runtime.map f }).counted entry.2 = true →
          entry ∈ s.streams.filter fun entry => s.counted entry.2 := fun entry hentry hne hcounted =>
        Finset.mem_filter.2 ⟨hstreams hentry, (counted_set hne).symm.trans hcounted⟩
      obtain hquiet | hfree := hslot
      · refine (Nat.add_le_add_right (Finset.card_le_card fun entry hentry => ?_) _).trans h.bounded
        obtain ⟨hmem, hcounted⟩ := Finset.mem_filter.1 hentry
        by_cases hne : entry.2 = i
        · refine Finset.mem_filter.2 ⟨hstreams hmem, ?_⟩
          rw [State.counted, State.runtime, hne, Cells.getElem?_set_same hi] at hcounted
          obtain ⟨r, hr, hcounts⟩ := (Option.any_eq_true _ _).1 hcounted
          obtain ⟨old, hold, rfl⟩ := Option.map_eq_some_iff.1 hr
          have hruntime : s.runtime i = some old := by rw [State.runtime, hi]; exact hold
          exact (Option.any_eq_true _ _).2 ⟨old, hne ▸ hruntime, hquiet old hruntime hcounts⟩
        · exact hothers entry hmem hne hcounted
      · refine le_trans (Nat.add_le_add_right (m := s.active + 1) ?_ _) (by omega)
        refine (Finset.card_le_card fun entry hentry => ?_).trans (Finset.card_insert_le (start.key, i) _)
        obtain ⟨hmem, hcounted⟩ := Finset.mem_filter.1 hentry
        by_cases hne : entry.2 = i
        · obtain ⟨c, hc, hkey, -⟩ := h.registered entry (hstreams hmem)
          cases hi.symm.trans (hne ▸ hc)
          exact Finset.mem_insert.2 (.inl (Prod.ext hkey.symm hne))
        · exact Finset.mem_insert_of_mem (hothers entry hmem hne hcounted)

theorem streams_modify (s : State) (i : Nat) (f : StreamRuntime → StreamRuntime) : (s.modifyRuntime i f).streams ⊆ s.streams := by
  unfold State.modifyRuntime
  cases s.starts[i]? <;> exact Finset.Subset.refl _

/-! ### Runs -/

theorem State.Kept.exec (h : s.Kept limit) {input : Input} (hslot : HasSlot limit s input) (hexec : s.exec limit input = some s') :
    s'.Kept limit := by
  cases input with
  | start key =>
    cases hexec
    exact h.admission key
  | go i ok =>
    obtain ⟨start, hi, hgo⟩ := Option.bind_eq_some_iff.1 hexec
    exact h.goOn hi hgo
  | react i t =>
    obtain ⟨ht, hexec⟩ := Option.ite_none_right_eq_some.1 hexec
    cases hexec
    refine h.modifyRuntime ?_ (.inl fun r _ => ?_) (streams_modify ..)
    · exact fun r hr => hr
    · refine counts_of_counts ?_ ?_
      · rintro rfl
        cases ht
      · rintro rfl
        cases ht
  | suspend key i =>
    obtain ⟨-, hexec⟩ := Option.ite_none_right_eq_some.1 hexec
    cases hexec
    refine h.modifyRuntime ?_ (.inl fun r _ => ?_) (streams_modify ..)
    · exact fun r hr => ⟨rfl, rfl, hr.2.2⟩
    · exact counts_of_counts nofun nofun
  | stop key i =>
    obtain ⟨-, hexec⟩ := Option.ite_none_right_eq_some.1 hexec
    cases hexec
    refine h.modifyRuntime ?_ ?_ (streams_modify ..)
    · exact fun r hr => ⟨rfl, rfl, hr.2.2⟩
    · by_cases hsuspended : (s.runtime i).any (·.state = .suspended) = true
      · exact .inr (hslot hsuspended)
      · refine .inl fun r hr => counts_of_counts nofun fun _ hstate => hsuspended ?_
        exact (Option.any_eq_true _ _).2 ⟨r, hr, decide_eq_true hstate⟩
  | finishStop key i complete =>
    obtain ⟨-, hexec⟩ := Option.ite_none_right_eq_some.1 hexec
    cases hexec
    refine h.modifyRuntime ?_ (.inl fun r _ => ?_) (Finset.erase_subset _ _)
    · exact fun r hr => ⟨hr.1, hr.2.1, rfl⟩
    · cases complete
      · exact counts_of_counts nofun nofun
      · exact counts_of_counts nofun nofun
  | retain i =>
    obtain ⟨start, -, hexec⟩ := Option.bind_eq_some_iff.1 hexec
    obtain ⟨-, hexec⟩ := Option.ite_none_right_eq_some.1 hexec
    cases hexec
    exact h.shrinks (Finset.filter_subset _ _)

theorem goOn_left (hi : s.starts[i]? = some start) (hin : start.inFlight = true) (ok : Bool) :
    ∃ s' b, s.goOn i start ok = some s' ∧ s'.starts[i]? = some b ∧ b.phase.left < start.phase.left := by
  have hset : ∀ b, (s.setStart i b).starts[i]? = some b := fun b => Cells.getElem?_set_same hi
  have hfail : (s.fail i start).starts[i]? = _ := hset _
  unfold State.goOn
  cases hphase : start.phase with
  | fencing =>
    cases ok
    · exact ⟨_, _, rfl, hfail, Nat.succ_pos _⟩
    · exact ⟨_, _, rfl, hset _, Nat.lt_succ_self _⟩
  | subscribing n =>
    cases n with
    | zero => exact ⟨_, _, rfl, hset _, Nat.lt_succ_self _⟩
    | succ n =>
      cases ok
      · exact ⟨_, _, rfl, hfail, Nat.succ_pos _⟩
      · exact ⟨_, _, rfl, hset _, Nat.lt_succ_self _⟩
  | sending =>
    cases ok
    · exact ⟨_, _, rfl, hfail, Nat.succ_pos _⟩
    · exact ⟨_, _, rfl, hset _, Nat.lt_succ_self _⟩
  | registering => exact ⟨_, _, rfl, hset _, Nat.succ_pos _⟩
  | ended =>
    rw [Start.inFlight, hphase] at hin
    cases hin

theorem State.Kept.slotsKept (h : s.Kept limit) : s.SlotsKept limit where
  bounded := h.bounded
  apart i j a b := by
    have hmixed : ∀ {a b : Start} {i j : Nat}, s.starts[i]? = some a → a.inFlight = true → (b.key, j) ∈ s.streams → a.key ≠ b.key :=
      fun hi hin hmem heq => h.disjoint _ hmem (heq ▸ (h.held _).2 ⟨_, _, hi, rfl, hin⟩)
    rintro ⟨hi, hin | hmem⟩ ⟨hj, hin' | hmem'⟩ hkey
    · exact h.unique i j a b hi hj hin hin' hkey
    · exact absurd hkey (hmixed hi hin hmem')
    · exact absurd hkey.symm (hmixed hj hin' hmem)
    · exact congrArg Prod.snd (h.keyed _ hmem _ hmem' hkey)
  held key := by
    rw [h.held]
    constructor
    · exact fun ⟨_, start, hi, hstart⟩ => ⟨start, List.mem_of_getElem? hi, hstart⟩
    · rintro ⟨start, hmem, hstart⟩
      obtain ⟨i, hi⟩ := List.mem_iff_getElem?.1 hmem
      exact ⟨i, start, hi, hstart⟩
  once start hmem := by
    obtain ⟨i, hi⟩ := List.mem_iff_getElem?.1 hmem
    exact (h.sound i start hi).released
  clean i start hi hended := by
    refine ⟨fun key hmem => ?_, (h.sound i start hi).closed hended⟩
    obtain ⟨other, hother, -, hok⟩ := h.registered _ hmem
    cases hi.symm.trans hother
    cases hended.symm.trans hok
  goesOn i start ok hi hin := by
    obtain ⟨s', b, hgo, hb, hleft⟩ := goOn_left hi hin ok
    exact ⟨s', b, Option.bind_eq_some_iff.2 ⟨start, hi, hgo⟩, hb, hleft⟩

theorem kept_initial : State.initial.Kept limit := by
  have hnone : ∀ (i : Nat) (start : Start), State.initial.starts[i]? ≠ some start := fun i start hi =>
    nomatch List.getElem?_nil.symm.trans hi
  refine ⟨Nat.zero_le _, fun i start hi => absurd hi (hnone i start), fun key => ⟨fun hmem => ?_, fun ⟨i, start, hi, _⟩ => ?_⟩,
    fun i j a b hi => absurd hi (hnone i a), fun entry hmem => ?_, fun entry hmem => ?_, fun entry hmem => ?_⟩
  · exact absurd hmem (Finset.notMem_empty _)
  · exact absurd hi (hnone i start)
  all_goals exact absurd hmem (Finset.notMem_empty _)

theorem slots_kept {trace : List (State × Input × Unit)} (h : Run (coordinator limit) (HasSlot limit) trace s) :
    s.SlotsKept limit := by
  refine (h.invariant (P := State.Kept limit) ?_ fun _ _ _ _ hs hslot hexec => hs.exec hslot hexec).slotsKept
  rintro s rfl
  exact kept_initial

instance (limit : Nat) (s : State) : (input : Input) → Decidable (HasSlot limit s input)
  | .stop _ _ => inferInstanceAs (Decidable (_ → _))
  | .start _ | .go .. | .react .. | .suspend .. | .finishStop .. | .retain _ => .isTrue trivial

/-- The stream at `key` is started by the start at `i`. -/
def startUp (key : StreamKey) (i : Nat) : List Input := .start key :: List.replicate 9 (.go i true)

/-- A stream is suspended, stopped and started again at its next attachment. -/
theorem slots_kept_two : ∃ trace s, Run (coordinator 2) (HasSlot 2) trace s ∧ s.active = 2 ∧ s.SlotsKept 2 := by
  obtain ⟨trace, s, hrun, hactive⟩ := Runs.exists_run (· = .initial) (State.exec 2) .initial rfl
    (fun s input => decide (HasSlot 2 s input)) (fun _ _ => of_decide_eq_true)
    (startUp ⟨⟨someUuid 7⟩, 1⟩ 0 ++ [.suspend ⟨⟨someUuid 7⟩, 1⟩ 0, .stop ⟨⟨someUuid 7⟩, 1⟩ 0] ++ startUp ⟨⟨someUuid 7⟩, 2⟩ 1)
    (fun s => s.active = 2) (by decide +kernel)
  exact ⟨trace, s, hrun, hactive, slots_kept hrun⟩

/-- A stream that was suspended is stopped while another one has the only slot. -/
theorem not_slots_kept : ¬ ∀ limit s, (coordinator limit).Reachable s → s.SlotsKept limit := by
  intro hkept
  obtain ⟨s, hreachable, hactive⟩ := Runs.exists_reachable (· = .initial) (State.exec 1) .initial rfl
    (startUp ⟨⟨someUuid 7⟩, 1⟩ 0 ++ [.suspend ⟨⟨someUuid 7⟩, 1⟩ 0] ++ startUp ⟨⟨someUuid 7⟩, 2⟩ 1 ++ [.stop ⟨⟨someUuid 7⟩, 1⟩ 0])
    (fun s => s.active = 2) (by decide +kernel)
  have hbounded := (hkept 1 s hreachable).bounded
  omega

end Krometrail.Admission
