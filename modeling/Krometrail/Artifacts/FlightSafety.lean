import Krometrail.Artifacts.FlightRuns

/-!
# One leader, no lost completion, no foreign cancellation

A flight is abandoned once its work is cancelled before it finished.  Its handle may live on in the leader task, and then
a request that joins it gets a cancellation that it has no part in; runs that join no abandoned flight have no such
request.
-/

namespace Krometrail

open Runs (Run)

variable {K V : Type*}

/-- The work was cancelled, and not after it had finished. -/
def Flight.abandoned (flight : Flight K V) : Bool :=
  flight.cancelled && !(match flight.result with | some (.finished _) => true | _ => false)

namespace SingleFlight

/-- Two leaders of live flights with the same key are one. -/
def OneLeader (s : SingleFlight K V) : Prop :=
  ∀ (i j : Nat) (w w' : FlightWaiter V) (flight flight' : Flight K V), s.waiters[i]? = some w →
    s.waiters[j]? = some w' → w.isLeader = true → w'.isLeader = true → s.flights[w.flight]? = some flight →
    s.flights[w'.flight]? = some flight' → flight.key = flight'.key → s.isAlive w.flight = true →
    s.isAlive w'.flight = true → i = j

/-- The waiter's own steps, one after the other. -/
def drive (s : SingleFlight K V) (i : Nat) (moves : List WaiterMove) : Option (SingleFlight K V) :=
  moves.foldlM (fun s m => s.move i m) s

/-- Whoever waits on a flight that has completed takes the completion with at most two steps of its own `wait`, and
whoever received a completion received that of its flight. -/
def Delivers (s : SingleFlight K V) : Prop :=
  ∀ (i : Nat) (w : FlightWaiter V) (flight : Flight K V) (r : FlightResult V), s.waiters[i]? = some w →
    s.flights[w.flight]? = some flight →
    (w.phase.outcome = some (.received r) → flight.result = some r) ∧
    (w.phase.waiting = true → flight.leader = .notified ∨ flight.leader = .released → flight.result = some r →
      ∃ s' moves, moves ∈ [[.read], [.enable, .read]] ∧ s.drive i moves = some s' ∧
        s'.waiters[i]? = some { w with phase := .returned (.received r) })

/-- Nobody receives a cancellation whose cause are waiters that had all left before it joined. -/
def NoForeignCancellation (s : SingleFlight K V) : Prop :=
  ∀ (i : Nat) (w : FlightWaiter V) (flight : Flight K V) (cause : List Nat), s.waiters[i]? = some w →
    s.flights[w.flight]? = some flight → w.phase.outcome = some (.received .cancelled) →
    flight.cancelCause = some cause → ¬∀ d ∈ cause, d ∈ w.departedBefore

def Protocol (s : SingleFlight K V) : Prop := s.OneLeader ∧ s.Delivers ∧ s.NoForeignCancellation

/-- No request finds an abandoned flight, and none that has found a flight is still uncounted when the last counted
waiter leaves its unfinished work. -/
def joinsNoAbandoned (s : SingleFlight K V) : Action K V → Bool
  | .lookUp key => ((s.registry key).filter s.isAlive).all fun f => (s.flights[f]?).all fun flight => !flight.abandoned
  | .leave i => (s.at? i).all fun (w, flight) => !(flight.lowered i).abandoned ||
      s.waiters.all fun x => !(x.flight == w.flight && x.phase.isJoining)
  | _ => true

/-- Nobody is left on an abandoned flight to read its result. -/
structure Undisturbed (s : SingleFlight K V) : Prop where
  deserted : ∀ (f : Nat) (flight : Flight K V), s.flights[f]? = some flight → flight.abandoned = true →
    ∀ (i : Nat) (w : FlightWaiter V), s.waiters[i]? = some w → w.flight = f → w.phase.present = false
  cause : ∀ (f : Nat) (flight : Flight K V), s.flights[f]? = some flight → flight.result = some .cancelled →
    flight.cancelled = true
  uncancelled : ∀ (i : Nat) (w : FlightWaiter V), s.waiters[i]? = some w →
    w.phase.outcome ≠ some (.received .cancelled)

variable {s s' : SingleFlight K V} {i f : Nat} {w : FlightWaiter V} {flight : Flight K V}

theorem abandoned_of_cancelled (hresult : flight.result = some .cancelled) (hcancelled : flight.cancelled = true) :
    flight.abandoned = true := by
  simp [Flight.abandoned, hresult, hcancelled]

theorem Consistent.oneLeader (h : s.Consistent) : s.OneLeader := by
  intro i j w w' flight flight' hw hw' hl hl' hf hf' hkey hlive hlive'
  have hreg := h.registered _ _ hf hlive
  have hreg' := h.registered _ _ hf' hlive'
  rw [hkey] at hreg
  exact h.leaders i j w w' hw hw' hl hl' (Option.some.inj (hreg.symm.trans hreg'))

theorem move_eq {m : WaiterMove} {phase : WaiterPhase V} (hw : s.waiters[i]? = some w)
    (hf : s.flights[w.flight]? = some flight) (hphase : waiterPhase w flight m = some phase) :
    s.move i m = some (s.setWaiter i { w with phase }) := by
  simp [SingleFlight.move, at?_eq_some.2 ⟨hw, hf⟩, hphase]

theorem move_read {r : FlightResult V} {notified : Bool} (hw : s.waiters[i]? = some w)
    (hf : s.flights[w.flight]? = some flight) (hphase : w.phase = .enabled notified) (hr : flight.result = some r) :
    s.move i .read = some (s.setWaiter i { w with phase := .returned (.received r) }) :=
  move_eq hw hf (by simp [waiterPhase, hphase, hr])

theorem drive_enable_read {r : FlightResult V} (hw : s.waiters[i]? = some w) (hf : s.flights[w.flight]? = some flight)
    (hphase : waiterPhase w flight .enable = some (.enabled false)) (hr : flight.result = some r) :
    ∃ s', s.drive i [.enable, .read] = some s' ∧
      s'.waiters[i]? = some { w with phase := .returned (.received r) } := by
  have henabled : (s.setWaiter i { w with phase := .enabled false }).waiters[i]? =
      some { w with phase := .enabled false } := Cells.getElem?_set_same hw
  have hread := move_read henabled hf rfl hr
  refine ⟨(s.setWaiter i { w with phase := .enabled false }).setWaiter i { w with phase := .returned (.received r) },
    ?_, Cells.getElem?_set_same henabled⟩
  simp only [drive, List.foldlM_cons, List.foldlM_nil, move_eq hw hf hphase, Option.bind_eq_bind, Option.bind_some,
    hread, Option.pure_def]

theorem Consistent.delivers (h : s.Consistent) : s.Delivers := by
  intro i w flight r hw hf
  refine ⟨h.received i w flight r hw hf, fun hwaiting hleader hr => ?_⟩
  have hspawned : flight.leader ≠ .notSpawned := by
    rintro heq
    simp [heq] at hleader
  cases hphase : w.phase with
  | joined =>
    obtain ⟨s', hdrive, hread⟩ := drive_enable_read hw hf (by simp [waiterPhase, hphase, hspawned]) hr
    exact ⟨s', _, by simp, hdrive, hread⟩
  | enabled notified =>
    have hread := move_read hw hf hphase hr
    exact ⟨s.setWaiter i { w with phase := .returned (.received r) }, [.read], by simp, by simp [drive, hread],
      Cells.getElem?_set_same hw⟩
  | selecting notified =>
    cases notified with
    | true =>
      obtain ⟨s', hdrive, hread⟩ := drive_enable_read hw hf (by simp [waiterPhase, hphase]) hr
      exact ⟨s', _, by simp, hdrive, hread⟩
    | false =>
      -- A waiter that is not notified selects only until `complete` has notified.
      rcases h.woken i w flight hw hf hphase with hnone | hstored
      · cases hr.symm.trans hnone
      · simp [hstored] at hleader
  | joining => simp [hphase, WaiterPhase.waiting] at hwaiting
  | returned outcome => simp [hphase, WaiterPhase.waiting] at hwaiting
  | left outcome => simp [hphase, WaiterPhase.waiting] at hwaiting
  | released outcome => simp [hphase, WaiterPhase.waiting] at hwaiting

theorem Undisturbed.noForeignCancellation (h : s.Undisturbed) : s.NoForeignCancellation :=
  fun i w _ _ hw _ hcancelled => absurd hcancelled (h.uncancelled i w hw)

theorem Undisturbed.new : (new : SingleFlight K V).Undisturbed := by
  constructor <;> simp [SingleFlight.new]

theorem Undisturbed.setWaiter (h : s.Undisturbed) (hw : s.waiters[i]? = some w) (w' : FlightWaiter V)
    (hflight : w'.flight = w.flight) (hpresent : w'.phase.present = true → w.phase.present = true)
    (houtcome : w'.phase.outcome = some (.received .cancelled) → w.phase.outcome = some (.received .cancelled)) :
    (s.setWaiter i w').Undisturbed where
  deserted g flight hg habandoned j x hx hxg := by
    rcases Cells.cases_of_set hx with ⟨-, rfl⟩ | ⟨-, hx⟩
    · have := h.deserted g flight hg habandoned i w hw (hflight ▸ hxg)
      cases hp : x.phase.present with
      | false => rfl
      | true => cases this.symm.trans (hpresent hp)
    · exact h.deserted g flight hg habandoned j x hx hxg
  cause := h.cause
  uncancelled j x hx := by
    rcases Cells.cases_of_set hx with ⟨-, rfl⟩ | ⟨-, hx⟩
    · exact fun hcancelled => h.uncancelled i w hw (houtcome hcancelled)
    · exact h.uncancelled j x hx

theorem Undisturbed.setFlight (h : s.Undisturbed) (hf : s.flights[f]? = some flight) (flight' : Flight K V)
    (hcause : flight'.result = some .cancelled → flight'.cancelled = true)
    (hdeserted : flight'.abandoned = true → flight.abandoned = true ∨
      ∀ (i : Nat) (w : FlightWaiter V), s.waiters[i]? = some w → w.flight = f → w.phase.present = false) :
    (s.setFlight f flight').Undisturbed where
  deserted g flight₁ hg habandoned j x hx hxg := by
    rcases Cells.cases_of_set hg with ⟨rfl, rfl⟩ | ⟨-, hg⟩
    · rcases hdeserted habandoned with hold | hnone
      · exact h.deserted g flight hf hold j x hx hxg
      · exact hnone j x hx hxg
    · exact h.deserted g flight₁ hg habandoned j x hx hxg
  cause g flight₁ hg hresult := by
    rcases Cells.cases_of_set hg with ⟨rfl, rfl⟩ | ⟨-, hg⟩
    · exact hcause hresult
    · exact h.cause g flight₁ hg hresult
  uncancelled := h.uncancelled

theorem Undisturbed.push (h : s.Undisturbed) {joining : Option Nat}
    (hw : ∀ flight, s.flights[w.flight]? = some flight → flight.abandoned = false) (hphase : w.phase = .joining) :
    ({ s with waiters := s.waiters ++ [w], joining } : SingleFlight K V).Undisturbed where
  deserted g flight hg habandoned j x hx hxg := by
    rcases Cells.cases_of_push hx with hx | ⟨-, rfl⟩
    · exact h.deserted g flight hg habandoned j x hx hxg
    · cases habandoned.symm.trans (hw flight (hxg ▸ hg))
  cause := h.cause
  uncancelled j x hx := by
    rcases Cells.cases_of_push hx with hx | ⟨-, rfl⟩
    · exact h.uncancelled j x hx
    · rw [hphase]
      exact nofun

theorem Undisturbed.lookUp [DecidableEq K] {key : K} (h : s.Undisturbed)
    (hg : s.joinsNoAbandoned (.lookUp key) = true) (hs : s.lookUp key = some s') : s'.Undisturbed := by
  obtain ⟨-, ⟨f, hlive, rfl⟩ | ⟨-, rfl⟩⟩ := lookUp_cases hs
  · have hretained : ({ s with registry := fun k => (s.registry k).filter s.isAlive } : SingleFlight K V).Undisturbed :=
      ⟨h.deserted, h.cause, h.uncancelled⟩
    refine hretained.push (fun flight hf => ?_) rfl
    have hall : (s.flights[f]?).all (fun flight => !flight.abandoned) = true := by
      simpa [joinsNoAbandoned, hlive] using hg
    have hf : s.flights[f]? = some flight := hf
    simpa [hf] using hall
  · -- The new flight is not cancelled, and the old ones keep their waiters.
    have hfounded : ({ s with
        flights := s.flights ++ [.new key]
        registry := Function.update (fun k => (s.registry k).filter s.isAlive) key (some s.flights.length) } :
        SingleFlight K V).Undisturbed := by
      refine ⟨fun g flight hg habandoned j x hx hxg => ?_, fun g flight hg hresult => ?_, h.uncancelled⟩
      · rcases Cells.cases_of_push hg with hg | ⟨-, rfl⟩
        · exact h.deserted g flight hg habandoned j x hx hxg
        · cases habandoned
      · rcases Cells.cases_of_push hg with hg | ⟨-, rfl⟩
        · exact h.cause g flight hg hresult
        · cases hresult
    refine hfounded.push (fun flight hf => ?_) rfl
    obtain rfl : Flight.new key = flight := Option.some.inj ((List.getElem?_concat_length).symm.trans hf)
    rfl

theorem waiters_of_abandoned_lowered (h : (flight.lowered i).abandoned = true) :
    flight.abandoned = true ∨ (flight.lowered i).waiters = 0 := by
  unfold Flight.lowered at h ⊢
  dsimp only at h ⊢
  split
  · rename_i hzero
    exact .inr hzero
  · rename_i hzero
    rw [if_neg hzero] at h
    exact .inl h

theorem Undisturbed.leave [DecidableEq K] (hc : s.Consistent) (hcount : s.Counted) (h : s.Undisturbed)
    (hg : s.joinsNoAbandoned (.leave i) = true) (hs : s.leave i = some s') : s'.Undisturbed := by
  have hcount' : s'.Counted := hcount.step hc (show s.exec (.leave i) = some s' from hs)
  obtain ⟨w, flight, outcome, hw, hf, hphase, rfl⟩ := leave_cases hs
  obtain ⟨-, -, hresult, -⟩ := lowered_frame flight i
  have hguard : (!(flight.lowered i).abandoned || s.waiters.all fun x =>
      !(x.flight == w.flight && x.phase.isJoining)) = true := by
    simpa [joinsNoAbandoned, at?_eq_some.2 ⟨hw, hf⟩] using hg
  have hflight := h.setFlight hf (flight.lowered i) ?_ ?_
  · refine hflight.setWaiter hw { w with phase := .left outcome } rfl nofun fun hcancelled => ?_
    rw [hphase]
    exact hcancelled
  · intro hcancelled
    have := h.cause _ _ hf (hresult ▸ hcancelled)
    unfold Flight.lowered
    dsimp only
    split <;> simp [this]
  · intro habandoned
    refine (waiters_of_abandoned_lowered habandoned).imp_right fun hzero j x hx hxf => ?_
    by_contra hpresent
    have hpresent : x.phase.present = true := by simpa using hpresent
    have hji : j ≠ i := by
      rintro rfl
      obtain rfl := Option.some.inj (hw.symm.trans hx)
      simp [hphase, WaiterPhase.present] at hpresent
    have hjoining : x.phase ≠ .joining := by
      intro hjoining
      rw [habandoned, Bool.not_true, Bool.false_or] at hguard
      have := List.all_eq_true.1 hguard x (List.mem_of_getElem? hx)
      simp [hxf, hjoining, WaiterPhase.isJoining] at this
    have hnew := hcount' w.flight (flight.lowered i) (Cells.getElem?_set_same hf)
    have hnone := Cells.not_of_countP_eq_zero (hnew.symm.trans hzero) ((Cells.getElem?_set_other hji).trans hx)
    simp [hxf, WaiterPhase.counted_of_present hpresent hjoining] at hnone

theorem Undisturbed.step [DecidableEq K] {action : Action K V} (hc : s.Consistent) (hcount : s.Counted)
    (h : s.Undisturbed) (hg : s.joinsNoAbandoned action = true) (hs : s.exec action = some s') : s'.Undisturbed := by
  cases action with
  | lookUp key => exact h.lookUp hg hs
  | leave i => exact h.leave hc hcount hg hs
  | enter i =>
    obtain ⟨w, flight, hw, hf, hphase, -, rfl⟩ := enter_cases hs
    have hflight := h.setFlight hf { flight with waiters := flight.waiters + 1 }
      (h.cause w.flight flight hf) .inl
    have := hflight.setWaiter hw { w with phase := .joined, departedBefore := flight.departed } rfl
      (fun _ => by rw [hphase]; rfl) nofun
    exact ⟨this.deserted, this.cause, this.uncancelled⟩
  | spawn i =>
    obtain ⟨w, flight, -, hf, -, -, rfl⟩ := spawn_cases hs
    exact h.setFlight hf _ (h.cause w.flight flight hf) .inl
  | move i m =>
    obtain ⟨w, flight, phase, hw, hf, hphase, rfl⟩ := move_cases hs
    have hfollows := follows_of_waiterPhase hphase
    refine h.setWaiter hw { w with phase } rfl hfollows.present fun hcancelled => ?_
    -- A cancelled result would have been read on an abandoned flight, where nobody is present.
    refine (hfollows.received _ hcancelled).resolve_right fun ⟨hpresent, hresult⟩ => ?_
    have habandoned := abandoned_of_cancelled hresult (h.cause _ _ hf hresult)
    cases hpresent.symm.trans (h.deserted _ _ hf habandoned i w hw rfl)
  | store f result =>
    obtain ⟨flight, hf, hrunning, hreturn, rfl⟩ := store_cases hs
    refine h.setFlight hf _ (fun hresult => ?_) fun habandoned => ?_
    · cases hresult
      exact hreturn
    · cases result with
      | finished value => simp [Flight.abandoned] at habandoned
      | cancelled =>
        have hnone := hc.pending f flight hf (.inr hrunning)
        refine .inl ?_
        simpa [Flight.abandoned, hnone] using habandoned
  | notify f =>
    obtain ⟨flight, hf, -, rfl⟩ := notify_cases hs
    have hflight := h.setFlight hf { flight with leader := .notified } (h.cause f flight hf) .inl
    have hmapped : ∀ {j : Nat} {x : FlightWaiter V}, (s.waiters.map fun w =>
        if w.flight = f then { w with phase := w.phase.notify } else w)[j]? = some x → ∃ w, s.waiters[j]? = some w ∧
          x.flight = w.flight ∧ x.phase.present = w.phase.present ∧ x.phase.outcome = w.phase.outcome := by
      intro j x hx
      obtain ⟨w, hw, rfl⟩ := by simpa using hx
      refine ⟨w, hw, ?_⟩
      split <;> simp
    refine ⟨fun g flight' hg habandoned j x hx hxg => ?_, hflight.cause, fun j x hx => ?_⟩
    · obtain ⟨w, hw, hwf, hpresent, -⟩ := hmapped hx
      exact hpresent.trans (hflight.deserted g flight' hg habandoned j w hw (hwf ▸ hxg))
    · obtain ⟨w, hw, -, -, houtcome⟩ := hmapped hx
      exact houtcome ▸ h.uncancelled j w hw
  | releaseTask f =>
    obtain ⟨flight, hf, -, rfl⟩ := releaseTask_cases hs
    exact h.setFlight hf _ (h.cause f flight hf) .inl

variable [DecidableEq K] {trace : List (SingleFlight K V × Action K V × Unit)}

/-- In every run in which no request joins an abandoned flight, each live key has one leader, whoever waits gets the
completion, and nobody gets a cancellation of others. -/
theorem flight_protocol (h : Run (system K V) (fun s action => s.joinsNoAbandoned action = true) trace s) :
    s.Protocol := by
  have hinv : s.Consistent ∧ s.Counted ∧ s.Undisturbed := by
    refine h.invariant (P := fun s => s.Consistent ∧ s.Counted ∧ s.Undisturbed) ?_ ?_
    · rintro s rfl
      exact ⟨.new, .new, .new⟩
    · rintro s action o s' ⟨hc, hcount, hu⟩ hg hs
      exact ⟨hc.step hs, hcount.step hc hs, hu.step hc hcount hg hs⟩
  exact ⟨hinv.1.oneLeader, hinv.1.delivers, hinv.2.2.noForeignCancellation⟩

omit [DecidableEq K] in
theorem not_noForeignCancellation {cause : List Nat} (hat : s.at? i = some (w, flight))
    (hcancelled : w.phase.outcome = some (.received .cancelled)) (hcause : flight.cancelCause = some cause)
    (hbefore : ∀ d ∈ cause, d ∈ w.departedBefore) : ¬s.NoForeignCancellation := by
  intro h
  obtain ⟨hw, hf⟩ := at?_eq_some.1 hat
  exact h i w flight cause hw hf hcancelled hcause hbefore

/-- An execution of the steps, for runs on fixed requests. -/
def execute (s : SingleFlight Nat Nat) (action : Action Nat Nat) : Option (Unit × SingleFlight Nat Nat) :=
  (s.exec action).map ((), ·)

theorem exists_flightRun (guard : SingleFlight Nat Nat → Action Nat Nat → Bool) (actions : List (Action Nat Nat))
    (test : SingleFlight Nat Nat → Bool)
    (h : (Runs.replay execute guard actions [] new).any (fun result => test result.2) = true) :
    ∃ trace s, Run (system Nat Nat) (fun s action => guard s action = true) trace s ∧ test s = true := by
  have hexec : ∀ s action o s', execute s action = some (o, s') → (system Nat Nat).step s action o s' := by
    intro s action o s' h
    obtain ⟨next, hnext, h⟩ := Option.map_eq_some_iff.1 h
    cases h
    exact hnext
  obtain ⟨result, hresult, htest⟩ := (Option.any_eq_true _ _).1 h
  exact ⟨result.1, result.2, .of_replay hexec (fun _ _ h => h) (.start rfl) hresult, htest⟩

/-- Two requests share a flight; one gives up and the other receives the artifacts. -/
theorem flight_protocol_shared : ∃ trace s,
    Run (system Nat Nat) (fun s action => s.joinsNoAbandoned action = true) trace s ∧
      (s.waiters.map (·.phase) = [.returned (.received (.finished 5)), .released .deadlineError] ∧ s.Protocol) := by
  obtain ⟨trace, s, hrun, htest⟩ := exists_flightRun joinsNoAbandoned
    [.lookUp 1, .enter 0, .spawn 0, .move 0 .enable, .move 0 .read, .lookUp 1, .enter 1, .move 1 .enable,
      .move 1 .read, .move 1 .elapse, .leave 1, .move 1 .release, .store 0 (.finished 5), .notify 0,
      .move 0 .enable, .move 0 .read, .releaseTask 0]
    (fun s => decide (s.waiters.map (·.phase) = [.returned (.received (.finished 5)), .released .deadlineError]))
    (by decide)
  exact ⟨trace, s, hrun, of_decide_eq_true htest, flight_protocol hrun⟩

/-- The only waiter of a flight gives up, and the work is cancelled; a request that joins before the leader task is
done receives the cancellation. -/
theorem abandoned_flight_cancels_joiner :
    ¬∀ trace s, Run (system Nat Nat) (fun _ _ => True) trace s → s.Protocol := by
  intro hall
  obtain ⟨trace, s, hrun, htest⟩ := exists_flightRun (fun _ _ => true)
    [.lookUp 1, .enter 0, .spawn 0, .move 0 .enable, .move 0 .read, .move 0 .elapse, .leave 0, .lookUp 1, .enter 1,
      .move 1 .enable, .move 1 .read, .store 0 .cancelled, .notify 0, .move 1 .enable, .move 1 .read]
    (fun s => (s.at? 1).any fun (w, flight) => decide (w.phase.outcome = some (.received .cancelled)) &&
      (flight.cancelCause.any fun cause => decide (∀ d ∈ cause, d ∈ w.departedBefore)))
    (by decide)
  obtain ⟨⟨w, flight⟩, hat, htest⟩ := (Option.any_eq_true _ _).1 htest
  obtain ⟨hcancelled, hcause⟩ := (Bool.and_eq_true _ _).mp htest
  obtain ⟨cause, hcause, hbefore⟩ := (Option.any_eq_true _ _).1 hcause
  exact not_noForeignCancellation hat (of_decide_eq_true hcancelled) hcause (of_decide_eq_true hbefore)
    (hall trace s (hrun.mono fun _ _ _ => trivial)).2.2

end SingleFlight

end Krometrail
