import Krometrail.Lib.Notify
import Krometrail.Lib.Runs
import Krometrail.Events.Ledger

/-!
# Stopping the event writer

`TargetIngress::close` refuses further events, raises a flag and broadcasts to whoever waits.  The writer looks at the
flag before it creates the futures that it waits on, and its broadcasts leave no permit behind.  Of the queue and the
ledger only the number of entries matters here.
-/

namespace Krometrail.Events.StopSignal

open Runs (Run System exists_reachable exists_run)

/-- What a call of `close` does next. -/
inductive CloseStep
  | refuse | raise | notifyStop | notifyWake
  deriving DecidableEq

/-- What `writer_loop` does next. -/
inductive WriterStep
  | nextGap | persistGap | retry | receive | batch | append | check | createWake | createStop | wait | returned
  deriving DecidableEq

structure State where
  generation : TargetGeneration
  accepting : Bool
  stopping : Bool
  wakeWriter : Notify
  stopWriter : Notify
  queue : Nat
  carry : Bool
  gaps : Nat
  writer : WriterStep
  /-- The calls of `close` that have not returned. -/
  closers : List CloseStep
  /-- A call of `close` has returned since the last generation began. -/
  closed : Bool

/-- What the writer's surroundings decide of a step: whether the sink accepts, whether a batch takes another event and
whether that is too large for it, whether a new gap is merged into an entry of the ledger, and which branch a wait takes. -/
structure WriterInput where
  persisted : Bool
  more : Bool
  carried : Bool
  merged : Bool
  branch : Fin 3

inductive Input
  | beginGeneration (generation : TargetGeneration)
  | suspend (recorded merged : Bool)
  | close
  | advance (i : Nat)
  | enqueue
  | recordDrop (merged : Bool)
  | write (input : WriterInput)

def initial (generation : TargetGeneration) : State where
  generation := generation
  accepting := true
  stopping := false
  wakeWriter := .new
  stopWriter := .new
  queue := 0
  carry := false
  gaps := 0
  writer := .nextGap
  closers := []
  closed := false

namespace State

variable (s : State)

def isStale (generation : TargetGeneration) : Bool :=
  generation.connection < s.generation.connection ||
    (generation.connection == s.generation.connection &&
      (generation.attachment < s.generation.attachment ||
        (generation.attachment == s.generation.attachment && s.accepting)))

def beginGeneration (generation : TargetGeneration) : Option State :=
  if s.isStale generation then none
  else some { s with generation := generation, accepting := true, stopping := false, closed := false }

/-- A gap comes to the ledger, and the writer is notified. -/
def recordDrop (merged : Bool) : State :=
  { s with gaps := if merged ∧ 0 < s.gaps then s.gaps else s.gaps + 1, wakeWriter := s.wakeWriter.notifyOne }

/-- `suspend_generation`. -/
def suspend (recorded merged : Bool) : State :=
  if s.accepting then
    let refused := { s with accepting := false }
    if recorded then refused.recordDrop merged else refused
  else s

/-- The next step of the call of `close` at `i`. -/
def advance (i : Nat) : Option State :=
  s.closers[i]?.map fun
    | .refuse => { s with accepting := false, closers := s.closers.set i .raise }
    | .raise => { s with stopping := true, closers := s.closers.set i .notifyStop }
    | .notifyStop => { s with stopWriter := s.stopWriter.notifyWaiters, closers := s.closers.set i .notifyWake }
    | .notifyWake => { s with wakeWriter := s.wakeWriter.notifyWaiters, closers := s.closers.eraseIdx i, closed := true }

/-- A branch of the `select!`. -/
def select (branch : Fin 3) : Option State :=
  match branch with
  | 0 =>
    if 0 < s.queue then
      some { s with
        queue := s.queue - 1
        wakeWriter := s.wakeWriter.cancel
        stopWriter := s.stopWriter.cancel
        writer := .batch }
    else none
  | 1 =>
    if s.wakeWriter.pending then
      some { s with wakeWriter := s.wakeWriter.consume, stopWriter := s.stopWriter.cancel, writer := .nextGap }
    else none
  | 2 =>
    if s.stopWriter.pending then
      some { s with wakeWriter := s.wakeWriter.cancel, stopWriter := s.stopWriter.consume, writer := .nextGap }
    else none

/-- A step of `writer_loop`. -/
def write (input : WriterInput) : Option State :=
  match s.writer with
  | .nextGap => some (if 0 < s.gaps then { s with gaps := s.gaps - 1, writer := .persistGap } else { s with writer := .receive })
  | .persistGap =>
    some (if input.persisted then { s with writer := .nextGap } else { s with gaps := s.gaps + 1, writer := .retry })
  | .retry => some { s with writer := if s.stopping then .returned else .nextGap }
  | .receive =>
    some (if s.carry then { s with carry := false, writer := .batch }
      else if 0 < s.queue then { s with queue := s.queue - 1, writer := .batch }
      else { s with writer := .check })
  | .batch =>
    some (if input.more ∧ 0 < s.queue then
        if input.carried then { s with queue := s.queue - 1, carry := true, writer := .append }
        else { s with queue := s.queue - 1 }
      else { s with writer := .append })
  | .append => some { if input.persisted then s else s.recordDrop input.merged with writer := .nextGap }
  | .check => some { s with writer := if s.stopping then .returned else .createWake }
  | .createWake => some { s with wakeWriter := s.wakeWriter.notified, writer := .createStop }
  | .createStop => some { s with stopWriter := s.stopWriter.notified, writer := .wait }
  | .wait => s.select input.branch
  | .returned => none

def exec : Input → Option State
  | .beginGeneration generation => s.beginGeneration generation
  | .suspend recorded merged => some (s.suspend recorded merged)
  | .close => some { s with closers := s.closers ++ [.refuse] }
  | .advance i => s.advance i
  | .enqueue => if s.writer = .returned then none else some { s with queue := s.queue + 1 }
  | .recordDrop merged => some (s.recordDrop merged)
  | .write input => s.write input

/-- The writer waits for a stop request that has been made, and nothing is going to wake it. -/
def Stuck : Prop :=
  s.closed = true ∧ s.queue = 0 ∧ s.gaps = 0 ∧ s.writer = .wait ∧ s.wakeWriter.pending = false ∧ s.stopWriter.pending = false

/-- Events are accepted that no writer is going to persist. -/
def Orphaned : Prop := s.accepting = true ∧ s.writer = .returned

instance : Decidable s.Stuck := by unfold Stuck; infer_instance

instance : Decidable s.Orphaned := by unfold Orphaned; infer_instance

/-- No broadcast falls between the writer's look at the flag and the future it waits on, and no generation begins before
every call of `close` has returned, nor after the writer has. -/
def Undisturbed : Input → Prop
  | .advance i => s.closers[i]? = some .notifyWake → s.writer ≠ .createWake
  | .beginGeneration _ => s.closers = [] ∧ s.writer ≠ .returned
  | _ => True

instance (input : Input) : Decidable (s.Undisturbed input) := by
  unfold Undisturbed
  split <;> infer_instance

end State

/-- What `begin_target` makes of a new target. -/
def State.IsInitial (s : State) : Prop := ∃ generation, s = initial generation

/-- One target's ingress and its writer. -/
def system : System State Input Unit := .ofExec State.IsInitial State.exec

/-- A call of `close` that has raised the flag, or is about to, has refused further events, and the flag stays raised
until a generation begins; after a broadcast the writer either looks at the flag again or is going to be woken. -/
structure Settled (s : State) : Prop where
  refused : (∃ step ∈ s.closers, step ≠ .refuse) ∨ s.stopping = true ∨ s.closed = true → s.accepting = false
  raised : (∃ step ∈ s.closers, step = .notifyStop ∨ step = .notifyWake) ∨ s.closed = true ∨ s.writer = .returned →
    s.stopping = true
  notCreating : s.closed = true → s.writer ≠ .createWake
  woken : s.closed = true → s.writer = .createStop ∨ s.writer = .wait → s.wakeWriter.pending = true
  exists_future : s.writer = .createStop ∨ s.writer = .wait → s.wakeWriter.waiter ≠ .absent

namespace Settled

variable {s s' : State}

theorem initial (generation : TargetGeneration) : Settled (initial generation) := by
  constructor <;> simp [StopSignal.initial]

theorem not_stuck (h : Settled s) : ¬ s.Stuck := by
  rintro ⟨hclosed, -, -, hwait, hpending, -⟩
  rw [h.woken hclosed (.inr hwait)] at hpending
  cases hpending

theorem not_orphaned (h : Settled s) : ¬ s.Orphaned := by
  rintro ⟨haccepting, hreturned⟩
  rw [h.refused (.inr (.inl (h.raised (.inr (.inr hreturned)))))] at haccepting
  cases haccepting

theorem recordDrop (h : Settled s) (merged : Bool) : Settled (s.recordDrop merged) where
  refused := h.refused
  raised := h.raised
  notCreating := h.notCreating
  woken _ _ := Notify.pending_notifyOne _
  exists_future hwriter := by simpa [State.recordDrop] using h.exists_future hwriter

theorem suspend (h : Settled s) (recorded merged : Bool) : Settled (s.suspend recorded merged) := by
  unfold State.suspend
  have hrefused : Settled { s with accepting := false } :=
    ⟨fun _ => rfl, h.raised, h.notCreating, h.woken, h.exists_future⟩
  split
  · split
    · exact hrefused.recordDrop merged
    · exact hrefused
  · exact h

theorem beginGeneration {generation : TargetGeneration} (h : Settled s) (hclosers : s.closers = [])
    (hwriter : s.writer ≠ .returned) (hs : s.beginGeneration generation = some s') : Settled s' := by
  unfold State.beginGeneration at hs
  split at hs
  · cases hs
  · cases hs
    exact ⟨by simp [hclosers], by simp [hclosers, hwriter], nofun, nofun, h.exists_future⟩

/-- The calls of `close` after one of them has taken a step. -/
theorem mem_set {l : List CloseStep} {i : Nat} {step other : CloseStep} (h : other ∈ l.set i step) :
    other = step ∨ other ∈ l := (List.mem_or_eq_of_mem_set h).symm

theorem advance {i : Nat} (h : Settled s) (hg : s.closers[i]? = some .notifyWake → s.writer ≠ .createWake)
    (hs : s.advance i = some s') : Settled s' := by
  unfold State.advance at hs
  obtain ⟨step, hstep, rfl⟩ := Option.map_eq_some_iff.1 hs
  have hmem : step ∈ s.closers := List.mem_of_getElem? hstep
  cases step with
  | refuse =>
    refine ⟨fun _ => rfl, ?_, h.notCreating, h.woken, h.exists_future⟩
    rintro (⟨other, hother, heq⟩ | hrest)
    · rcases mem_set hother with rfl | hother
      · simp at heq
      · exact h.raised (.inl ⟨other, hother, heq⟩)
    · exact h.raised (.inr hrest)
  | raise =>
    have haccepting : s.accepting = false := h.refused (.inl ⟨_, hmem, by simp⟩)
    exact ⟨fun _ => haccepting, fun _ => rfl, h.notCreating, h.woken, h.exists_future⟩
  | notifyStop =>
    have hstopping : s.stopping = true := h.raised (.inl ⟨_, hmem, by simp⟩)
    have haccepting : s.accepting = false := h.refused (.inr (.inl hstopping))
    exact ⟨fun _ => haccepting, fun _ => hstopping, h.notCreating, h.woken, h.exists_future⟩
  | notifyWake =>
    have hstopping : s.stopping = true := h.raised (.inl ⟨_, hmem, by simp⟩)
    have haccepting : s.accepting = false := h.refused (.inr (.inl hstopping))
    refine ⟨fun _ => haccepting, fun _ => hstopping, fun _ => hg hstep, ?_, ?_⟩
    · intro _ hwriter
      exact Notify.pending_notifyWaiters (h.exists_future hwriter)
    · intro hwriter
      simpa using h.exists_future hwriter

theorem select {branch : Fin 3} (h : Settled s) (hs : s.select branch = some s') : Settled s' := by
  have hraised : (∃ step ∈ s.closers, step = .notifyStop ∨ step = .notifyWake) ∨ s.closed = true → s.stopping = true :=
    fun hor => h.raised (hor.elim .inl fun hclosed => .inr (.inl hclosed))
  unfold State.select at hs
  split at hs
  all_goals
    split at hs
    · cases hs
      exact ⟨h.refused, by simpa using hraised, by simp, by simp, by simp⟩
    · cases hs

theorem write {input : WriterInput} (h : Settled s) (hs : s.write input = some s') : Settled s' := by
  have hraised : (∃ step ∈ s.closers, step = .notifyStop ∨ step = .notifyWake) ∨ s.closed = true → s.stopping = true :=
    fun hor => h.raised (hor.elim .inl fun hclosed => .inr (.inl hclosed))
  unfold State.write at hs
  split at hs
  case h_10 => exact h.select hs
  case h_11 => cases hs
  case h_6 =>
    cases hs
    split
    · exact ⟨h.refused, by simpa using hraised, by simp, by simp, by simp⟩
    · exact ⟨h.refused, by simpa [State.recordDrop] using hraised, by simp, by simp, by simp⟩
  case h_3 | h_7 =>
    cases hs
    cases hstopping : s.stopping with
    | true => exact ⟨by simpa [hstopping] using h.refused, by simp, by simp, by simp, by simp⟩
    | false =>
      have hclosed : s.closed = false := by
        by_contra hclosed
        simp [hraised (.inr (by simpa using hclosed))] at hstopping
      exact ⟨by simpa [hstopping] using h.refused, by simpa [hstopping] using hraised, by simp [hclosed], by simp, by simp⟩
  case h_8 hcreate =>
    cases hs
    have hclosed : ¬ s.closed = true := fun hclosed => h.notCreating hclosed hcreate
    exact ⟨h.refused, by simpa using hraised, by simp, fun hc => absurd hc hclosed, by simp [Notify.notified]⟩
  case h_9 hcreate =>
    cases hs
    exact ⟨h.refused, by simpa using hraised, by simp, fun hc _ => h.woken hc (.inl hcreate),
      fun _ => h.exists_future (.inl hcreate)⟩
  all_goals
    cases hs
    repeat' split
    all_goals exact ⟨h.refused, by first | exact h.raised | simpa using hraised, by simp_all, by simp_all, by simp_all⟩

theorem exec {input : Input} (h : Settled s) (hg : s.Undisturbed input) (hs : s.exec input = some s') : Settled s' := by
  cases input with
  | beginGeneration generation => exact h.beginGeneration hg.1 hg.2 hs
  | suspend recorded merged =>
    cases hs
    exact h.suspend recorded merged
  | close =>
    cases hs
    refine ⟨?_, ?_, h.notCreating, h.woken, h.exists_future⟩
    · simpa [or_and_right, exists_or] using h.refused
    · simpa [or_and_right, exists_or] using h.raised
  | advance i => exact h.advance hg hs
  | enqueue =>
    obtain ⟨-, hs⟩ := Option.ite_none_left_eq_some.1 hs
    cases hs
    exact ⟨h.refused, h.raised, h.notCreating, h.woken, h.exists_future⟩
  | recordDrop merged =>
    cases hs
    exact h.recordDrop merged
  | write input => exact h.write hs

end Settled

/-- As long as nothing disturbs them, no stop request is missed and no generation is left without a writer. -/
theorem close_reaches_writer {trace : List (State × Input × Unit)} {s : State}
    (h : Run system State.Undisturbed trace s) : ¬ s.Stuck ∧ ¬ s.Orphaned := by
  have hsettled : Settled s := by
    refine h.invariant (P := Settled) ?_ fun s input _ s' hs hg hstep => hs.exec hg hstep
    rintro s ⟨generation, rfl⟩
    exact .initial generation
  exact ⟨hsettled.not_stuck, hsettled.not_orphaned⟩

/-- The writer takes a step in which nothing is persisted. -/
def idle : Input := .write ⟨false, false, false, false, 0⟩

/-- A whole call of `close`. -/
def closing : List Input := [.close, .advance 0, .advance 0, .advance 0, .advance 0]

/-- A stop request is lost between the writer's look at the flag and its wait, and after one that is not a generation
begins without a writer. -/
theorem stop_request_missed :
    (∃ s, system.Reachable s ∧ s.Stuck) ∧ ∃ s, system.Reachable s ∧ s.Orphaned :=
  ⟨exists_reachable State.IsInitial State.exec (initial ⟨1, 1⟩) ⟨_, rfl⟩ ([idle, idle, idle] ++ closing ++ [idle, idle]) State.Stuck (by decide),
    exists_reachable State.IsInitial State.exec (initial ⟨1, 1⟩) ⟨_, rfl⟩ (closing ++ [idle, idle, idle, .beginGeneration ⟨1, 2⟩]) State.Orphaned (by decide)⟩

/-- A stop request to a writer that waits, and one before a generation begins. -/
theorem close_reaches_writer_waiting : ∃ trace s, Run system State.Undisturbed trace s ∧
    s.closed = true ∧ s.writer = .wait ∧ ¬ s.Stuck ∧ ¬ s.Orphaned := by
  obtain ⟨trace, s, hrun, hclosed, hwait⟩ := exists_run State.IsInitial State.exec (initial ⟨1, 1⟩) ⟨_, rfl⟩
    (fun s i => decide (s.Undisturbed i)) (fun s i h => of_decide_eq_true h)
    (closing ++ [.beginGeneration ⟨1, 2⟩, idle, idle, idle, idle, idle] ++ closing)
    (fun s => s.closed = true ∧ s.writer = .wait) (by decide)
  exact ⟨trace, s, hrun, hclosed, hwait, close_reaches_writer hrun⟩

end Krometrail.Events.StopSignal
