import Krometrail.Lib.Cells
import Krometrail.Lib.Runs

/-!
# Single-flight generation

Requests for the same artifacts share one flight.  The registry holds a flight only weakly, so a flight lives as long as
some waiter or its leader task holds a handle of it; the last waiter that leaves cancels the work.  A step is what one
party does under one lock, or between two of its locks, so any interleaving of the parties is a run.
-/

namespace Krometrail

/-- What `run_flight` returns: `Err(cancelled_error())`, which only its own `WorkCancellation` produces, or anything
else. -/
inductive FlightResult (V : Type*)
  | finished (value : V)
  | cancelled
  deriving DecidableEq

inductive WaitOutcome (V : Type*)
  | received (result : FlightResult V)
  | cancelledError
  | deadlineError
  | dropped
  deriving DecidableEq

/-- Where a waiter stands in `join`, in the loop of `wait`, and in `drop`. -/
inductive WaiterPhase (V : Type*)
  -- The handle is upgraded or created, the waiter is not counted yet.
  | joining
  | joined
  -- `notified` is enabled, the result is not read yet.
  | enabled (notified : Bool)
  -- No result was there; the waiter is in `select!`.
  | selecting (notified : Bool)
  | returned (outcome : WaitOutcome V)
  -- The count is lowered, the handle is still held.
  | left (outcome : WaitOutcome V)
  | released (outcome : WaitOutcome V)
  deriving DecidableEq

namespace WaiterPhase

variable {V : Type*}

def holds : WaiterPhase V → Bool
  | released _ => false
  | _ => true

def counted : WaiterPhase V → Bool
  | joined | enabled _ | selecting _ | returned _ => true
  | joining | left _ | released _ => false

/-- The waiter may still read the result of its flight. -/
def present : WaiterPhase V → Bool
  | joining | joined | enabled _ | selecting _ => true
  | returned _ | left _ | released _ => false

/-- The waiter has joined and has no outcome yet. -/
def waiting : WaiterPhase V → Bool
  | joined | enabled _ | selecting _ => true
  | joining | returned _ | left _ | released _ => false

def isJoining : WaiterPhase V → Bool
  | joining => true
  | _ => false

def outcome : WaiterPhase V → Option (WaitOutcome V)
  | returned outcome | left outcome | released outcome => some outcome
  | joining | joined | enabled _ | selecting _ => none

/-- `notify_waiters` reaches every waiter whose `notified` is enabled. -/
def notify : WaiterPhase V → WaiterPhase V
  | enabled _ => enabled true
  | selecting _ => selecting true
  | phase => phase

@[simp] theorem holds_notify (phase : WaiterPhase V) : phase.notify.holds = phase.holds := by cases phase <;> rfl
@[simp] theorem counted_notify (phase : WaiterPhase V) : phase.notify.counted = phase.counted := by cases phase <;> rfl
@[simp] theorem present_notify (phase : WaiterPhase V) : phase.notify.present = phase.present := by cases phase <;> rfl
@[simp] theorem outcome_notify (phase : WaiterPhase V) : phase.notify.outcome = phase.outcome := by cases phase <;> rfl

@[simp] theorem notify_eq_joining {phase : WaiterPhase V} : phase.notify = joining ↔ phase = joining := by
  cases phase <;> simp [notify]

theorem counted_of_present {phase : WaiterPhase V} (h : phase.present = true) (hjoining : phase ≠ joining) :
    phase.counted = true := by
  cases phase <;> simp_all [counted, present]

end WaiterPhase

/-- A `FlightWaiter`; `departedBefore` is history: the waiters that had left the flight when this one was counted. -/
structure FlightWaiter (V : Type*) where
  flight : Nat
  isLeader : Bool
  phase : WaiterPhase V
  departedBefore : List Nat

/-- The leader task: spawned by the leader's request, then `run_flight`, then `complete` (which stores the result and
after that notifies the waiters), and last it drops its handle. -/
inductive LeaderTask
  | notSpawned
  | running
  | stored
  | notified
  | released
  deriving DecidableEq

def LeaderTask.holds : LeaderTask → Bool
  | running | stored | notified => true
  | notSpawned | released => false

/-- `departed` and `cancelCause` are history: the waiters that left, and those that had left when the cancellation was
sent. -/
structure Flight (K V : Type*) where
  key : K
  result : Option (FlightResult V)
  waiters : Nat
  cancelled : Bool
  leader : LeaderTask
  departed : List Nat
  cancelCause : Option (List Nat)

def Flight.new {K V : Type*} (key : K) : Flight K V :=
  { key, result := none, waiters := 0, cancelled := false, leader := .notSpawned, departed := [], cancelCause := none }

/-- Only a cancelled run ends with the cancellation. -/
def Flight.mayReturn {K V : Type*} (flight : Flight K V) : FlightResult V → Bool
  | .finished _ => true
  | .cancelled => flight.cancelled

/-- The flight after a waiter is subtracted: a count that falls to zero cancels the work. -/
def Flight.lowered {K V : Type*} (flight : Flight K V) (i : Nat) : Flight K V :=
  let departed := flight.departed ++ [i]
  let waiters := flight.waiters - 1
  if waiters = 0 then
    { flight with waiters, departed, cancelled := true, cancelCause := flight.cancelCause.or (some departed) }
  else { flight with waiters, departed }

/-- Flights and waiters are numbered as they appear; `joining` is the waiter that holds the lock of the registry. -/
structure SingleFlight (K V : Type*) where
  flights : List (Flight K V)
  registry : K → Option Nat
  waiters : List (FlightWaiter V)
  joining : Option Nat

namespace SingleFlight

variable {K V : Type*}

def new : SingleFlight K V := { flights := [], registry := fun _ => none, waiters := [], joining := none }

/-- `strong_count() > 0`. -/
def isAlive (s : SingleFlight K V) (f : Nat) : Bool :=
  s.waiters.any (fun w => w.flight == f && w.phase.holds) || (s.flights[f]?).any (·.leader.holds)

def setWaiter (s : SingleFlight K V) (i : Nat) (w : FlightWaiter V) : SingleFlight K V :=
  { s with waiters := s.waiters.set i w }

def setFlight (s : SingleFlight K V) (f : Nat) (flight : Flight K V) : SingleFlight K V :=
  { s with flights := s.flights.set f flight }

@[simp] theorem waiters_setFlight (s : SingleFlight K V) (f : Nat) (flight : Flight K V) :
    (s.setFlight f flight).waiters = s.waiters := rfl
@[simp] theorem flights_setFlight (s : SingleFlight K V) (f : Nat) (flight : Flight K V) :
    (s.setFlight f flight).flights = s.flights.set f flight := rfl
@[simp] theorem registry_setFlight (s : SingleFlight K V) (f : Nat) (flight : Flight K V) :
    (s.setFlight f flight).registry = s.registry := rfl
@[simp] theorem joining_setFlight (s : SingleFlight K V) (f : Nat) (flight : Flight K V) :
    (s.setFlight f flight).joining = s.joining := rfl
@[simp] theorem waiters_setWaiter (s : SingleFlight K V) (i : Nat) (w : FlightWaiter V) :
    (s.setWaiter i w).waiters = s.waiters.set i w := rfl
@[simp] theorem flights_setWaiter (s : SingleFlight K V) (i : Nat) (w : FlightWaiter V) :
    (s.setWaiter i w).flights = s.flights := rfl
@[simp] theorem registry_setWaiter (s : SingleFlight K V) (i : Nat) (w : FlightWaiter V) :
    (s.setWaiter i w).registry = s.registry := rfl
/-- The waiter with its flight. -/
def at? (s : SingleFlight K V) (i : Nat) : Option (FlightWaiter V × Flight K V) :=
  (s.waiters[i]?).bind fun w => (s.flights[w.flight]?).map fun flight => (w, flight)

theorem at?_eq_some {s : SingleFlight K V} {i : Nat} {w : FlightWaiter V} {flight : Flight K V} :
    s.at? i = some (w, flight) ↔ s.waiters[i]? = some w ∧ s.flights[w.flight]? = some flight := by
  constructor
  · intro h
    obtain ⟨w', hw, h⟩ := Option.bind_eq_some_iff.1 h
    obtain ⟨flight', hflight, h⟩ := Option.map_eq_some_iff.1 h
    cases h
    exact ⟨hw, hflight⟩
  · rintro ⟨hw, hflight⟩
    simp [at?, hw, hflight]

/-- `join` up to the handle: under the lock of the registry dead entries are removed, then the live flight of the key is
upgraded, or a new one is registered and its waiter leads it. -/
def lookUp [DecidableEq K] (s : SingleFlight K V) (key : K) : Option (SingleFlight K V) :=
  let live := fun k => (s.registry k).filter s.isAlive
  let i := s.waiters.length
  if s.joining.isSome then none
  else match live key with
    | some f => some { s with
        registry := live
        waiters := s.waiters ++ [{ flight := f, isLeader := false, phase := .joining, departedBefore := [] }]
        joining := some i }
    | none => some {
        flights := s.flights ++ [.new key]
        registry := Function.update live key (some s.flights.length)
        waiters := s.waiters ++
          [{ flight := s.flights.length, isLeader := true, phase := .joining, departedBefore := [] }]
        joining := some i }

/-- The rest of `join`: the waiter is counted and the registry unlocked. -/
def enter (s : SingleFlight K V) (i : Nat) : Option (SingleFlight K V) :=
  (s.at? i).bind fun (w, flight) =>
    match w.phase with
    | .joining =>
      if s.joining = some i then
        some { (s.setFlight w.flight { flight with waiters := flight.waiters + 1 }).setWaiter i
          { w with phase := .joined, departedBefore := flight.departed } with joining := none }
      else none
    | _ => none

inductive WaiterMove
  | enable
  | read
  | cancel
  | elapse
  | abandon
  | release

/-- One step of `wait`, or the drop of the handle.  A leader spawns the leader task before it waits; the caller may drop
the future at an await point. -/
def waiterPhase (w : FlightWaiter V) (flight : Flight K V) : WaiterMove → Option (WaiterPhase V)
  | .enable =>
    match w.phase with
    | .joined => if w.isLeader && flight.leader = .notSpawned then none else some (.enabled false)
    | .selecting true => some (.enabled false)
    | _ => none
  | .read =>
    match w.phase with
    | .enabled notified =>
      match flight.result with
      | some result => some (.returned (.received result))
      | none => some (.selecting notified)
    | _ => none
  | .cancel =>
    match w.phase with
    | .selecting _ => some (.returned .cancelledError)
    | _ => none
  | .elapse =>
    match w.phase with
    | .selecting _ => some (.returned .deadlineError)
    | _ => none
  | .abandon =>
    match w.phase with
    | .enabled _ | .selecting _ => some (.returned .dropped)
    | _ => none
  | .release =>
    match w.phase with
    | .left outcome => some (.released outcome)
    | _ => none

def move (s : SingleFlight K V) (i : Nat) (m : WaiterMove) : Option (SingleFlight K V) :=
  (s.at? i).bind fun (w, flight) =>
    (waiterPhase w flight m).map fun phase => s.setWaiter i { w with phase }

/-- `drop`, up to the handle. -/
def leave (s : SingleFlight K V) (i : Nat) : Option (SingleFlight K V) :=
  (s.at? i).bind fun (w, flight) =>
    match w.phase with
    | .returned outcome =>
      some ((s.setFlight w.flight (flight.lowered i)).setWaiter i { w with phase := .left outcome })
    | _ => none

/-- The leader's request spawns the task right after `join`. -/
def spawn (s : SingleFlight K V) (i : Nat) : Option (SingleFlight K V) :=
  (s.at? i).bind fun (w, flight) =>
    match w.phase with
    | .joined =>
      if w.isLeader && flight.leader = .notSpawned then
        some (s.setFlight w.flight { flight with leader := .running })
      else none
    | _ => none

/-- `run_flight` ends and `complete` stores its result. -/
def store (s : SingleFlight K V) (f : Nat) (result : FlightResult V) : Option (SingleFlight K V) :=
  (s.flights[f]?).bind fun flight =>
    if flight.leader = .running && flight.mayReturn result then
      some (s.setFlight f { flight with result := some result, leader := .stored })
    else none

/-- `notify_waiters`. -/
def notify (s : SingleFlight K V) (f : Nat) : Option (SingleFlight K V) :=
  (s.flights[f]?).bind fun flight =>
    if flight.leader = .stored then
      some { s.setFlight f { flight with leader := .notified } with
        waiters := s.waiters.map fun w => if w.flight = f then { w with phase := w.phase.notify } else w }
    else none

/-- The task drops its handle: at its end, or before it when `run_flight` panics. -/
def releaseTask (s : SingleFlight K V) (f : Nat) : Option (SingleFlight K V) :=
  (s.flights[f]?).bind fun flight =>
    if flight.leader = .notified || flight.leader = .running then
      some (s.setFlight f { flight with leader := .released })
    else none

inductive Action (K V : Type*)
  | lookUp (key : K)
  | enter (i : Nat)
  | spawn (i : Nat)
  | move (i : Nat) (m : WaiterMove)
  | leave (i : Nat)
  | store (f : Nat) (result : FlightResult V)
  | notify (f : Nat)
  | releaseTask (f : Nat)

variable [DecidableEq K]

def exec (s : SingleFlight K V) : Action K V → Option (SingleFlight K V)
  | .lookUp key => s.lookUp key
  | .enter i => s.enter i
  | .spawn i => s.spawn i
  | .move i m => s.move i m
  | .leave i => s.leave i
  | .store f result => s.store f result
  | .notify f => s.notify f
  | .releaseTask f => s.releaseTask f

/-- Any interleaving of the requests and the leader tasks. -/
def system (K V : Type*) [DecidableEq K] : Runs.System (SingleFlight K V) (Action K V) Unit where
  init s := s = new
  step s action _ s' := s.exec action = some s'

variable {s s' : SingleFlight K V} {i f : Nat}

theorem lookUp_cases {key : K} (h : s.lookUp key = some s') : s.joining = none ∧
    ((∃ f, (s.registry key).filter s.isAlive = some f ∧ s' = { s with
        registry := fun k => (s.registry k).filter s.isAlive
        waiters := s.waiters ++ [{ flight := f, isLeader := false, phase := .joining, departedBefore := [] }]
        joining := some s.waiters.length }) ∨
      (s.registry key).filter s.isAlive = none ∧ s' = {
        flights := s.flights ++ [.new key]
        registry := Function.update (fun k => (s.registry k).filter s.isAlive) key (some s.flights.length)
        waiters := s.waiters ++
          [{ flight := s.flights.length, isLeader := true, phase := .joining, departedBefore := [] }]
        joining := some s.waiters.length }) := by
  unfold lookUp at h
  dsimp only at h
  split at h
  case isTrue => cases h
  rename_i hfree
  refine ⟨by simpa using hfree, ?_⟩
  cases hlive : (s.registry key).filter s.isAlive with
  | none =>
    rw [hlive] at h
    exact .inr ⟨rfl, (Option.some.inj h).symm⟩
  | some f =>
    rw [hlive] at h
    exact .inl ⟨f, rfl, (Option.some.inj h).symm⟩

omit [DecidableEq K]

theorem enter_cases (h : s.enter i = some s') : ∃ w flight, s.waiters[i]? = some w ∧
    s.flights[w.flight]? = some flight ∧ w.phase = .joining ∧ s.joining = some i ∧
    s' = { (s.setFlight w.flight { flight with waiters := flight.waiters + 1 }).setWaiter i
      { w with phase := .joined, departedBefore := flight.departed } with joining := none } := by
  obtain ⟨⟨w, flight⟩, hat, h⟩ := Option.bind_eq_some_iff.1 h
  obtain ⟨hw, hf⟩ := at?_eq_some.1 hat
  dsimp only at h
  split at h
  case h_2 => cases h
  rename_i hphase
  split at h
  case isFalse => cases h
  rename_i hjoining
  exact ⟨w, flight, hw, hf, hphase, hjoining, (Option.some.inj h).symm⟩

theorem spawn_cases (h : s.spawn i = some s') : ∃ w flight, s.waiters[i]? = some w ∧
    s.flights[w.flight]? = some flight ∧ w.phase = .joined ∧ flight.leader = .notSpawned ∧
    s' = s.setFlight w.flight { flight with leader := .running } := by
  obtain ⟨⟨w, flight⟩, hat, h⟩ := Option.bind_eq_some_iff.1 h
  obtain ⟨hw, hf⟩ := at?_eq_some.1 hat
  dsimp only at h
  split at h
  case h_2 => cases h
  rename_i hphase
  simp only [Bool.and_eq_true, decide_eq_true_eq] at h
  split at h
  case isFalse => cases h
  rename_i hspawn
  exact ⟨w, flight, hw, hf, hphase, hspawn.2, (Option.some.inj h).symm⟩

theorem move_cases {m : WaiterMove} (h : s.move i m = some s') : ∃ w flight phase, s.waiters[i]? = some w ∧
    s.flights[w.flight]? = some flight ∧ waiterPhase w flight m = some phase ∧ s' = s.setWaiter i { w with phase } := by
  obtain ⟨⟨w, flight⟩, hat, h⟩ := Option.bind_eq_some_iff.1 h
  obtain ⟨hw, hf⟩ := at?_eq_some.1 hat
  obtain ⟨phase, hphase, rfl⟩ := Option.map_eq_some_iff.1 h
  exact ⟨w, flight, phase, hw, hf, hphase, rfl⟩

theorem leave_cases (h : s.leave i = some s') : ∃ w flight outcome, s.waiters[i]? = some w ∧
    s.flights[w.flight]? = some flight ∧ w.phase = .returned outcome ∧
    s' = (s.setFlight w.flight (flight.lowered i)).setWaiter i { w with phase := .left outcome } := by
  obtain ⟨⟨w, flight⟩, hat, h⟩ := Option.bind_eq_some_iff.1 h
  obtain ⟨hw, hf⟩ := at?_eq_some.1 hat
  dsimp only at h
  split at h
  case h_2 => cases h
  rename_i outcome hphase
  exact ⟨w, flight, outcome, hw, hf, hphase, (Option.some.inj h).symm⟩

theorem store_cases {result : FlightResult V} (h : s.store f result = some s') : ∃ flight, s.flights[f]? = some flight ∧
    flight.leader = .running ∧ flight.mayReturn result = true ∧
    s' = s.setFlight f { flight with result := some result, leader := .stored } := by
  obtain ⟨flight, hf, h⟩ := Option.bind_eq_some_iff.1 h
  simp only [Bool.and_eq_true, decide_eq_true_eq] at h
  split at h
  case isFalse => cases h
  rename_i hrunning
  exact ⟨flight, hf, hrunning.1, hrunning.2, (Option.some.inj h).symm⟩

theorem notify_cases (h : s.notify f = some s') : ∃ flight, s.flights[f]? = some flight ∧ flight.leader = .stored ∧
    s' = { s.setFlight f { flight with leader := .notified } with
      waiters := s.waiters.map fun w => if w.flight = f then { w with phase := w.phase.notify } else w } := by
  obtain ⟨flight, hf, h⟩ := Option.bind_eq_some_iff.1 h
  dsimp only at h
  split at h
  case isFalse => cases h
  rename_i hstored
  exact ⟨flight, hf, hstored, (Option.some.inj h).symm⟩

theorem releaseTask_cases (h : s.releaseTask f = some s') : ∃ flight, s.flights[f]? = some flight ∧
    (flight.leader = .notified ∨ flight.leader = .running) ∧
    s' = s.setFlight f { flight with leader := .released } := by
  obtain ⟨flight, hf, h⟩ := Option.bind_eq_some_iff.1 h
  simp only [Bool.or_eq_true, decide_eq_true_eq] at h
  split at h
  case isFalse => cases h
  rename_i hleader
  exact ⟨flight, hf, hleader, (Option.some.inj h).symm⟩

theorem lowered_frame (flight : Flight K V) (i : Nat) : (flight.lowered i).key = flight.key ∧
    (flight.lowered i).leader = flight.leader ∧ (flight.lowered i).result = flight.result ∧
    (flight.lowered i).waiters = flight.waiters - 1 := by
  unfold Flight.lowered
  dsimp only
  split <;> exact ⟨rfl, rfl, rfl, rfl⟩

end SingleFlight

end Krometrail
