import Krometrail.Artifacts.SingleFlight

/-!
# What holds of every interleaving of a flight's parties

One live flight per key, the count of its waiters, and no lost notification hold in every run.  A cancellation that only
waiters of the past caused reaches nobody as long as no waiter joins a flight that its waiters abandoned.
-/

namespace Krometrail

open Runs (Run)

variable {K V : Type*}

namespace WaiterPhase

/-- What a step of `wait` can do to the phase. -/
structure Follows (w : FlightWaiter V) (flight : Flight K V) (phase : WaiterPhase V) : Prop where
  holds : phase.holds = true → w.phase.holds = true
  counted : phase.counted = w.phase.counted
  ne_joining : phase ≠ joining
  present : phase.present = true → w.phase.present = true
  selecting : phase = selecting false → flight.result = none
  received : ∀ r, phase.outcome = some (.received r) →
    w.phase.outcome = some (.received r) ∨ w.phase.present = true ∧ flight.result = some r

end WaiterPhase

namespace SingleFlight

theorem follows_of_waiterPhase {w : FlightWaiter V} {flight : Flight K V} {m : WaiterMove} {phase : WaiterPhase V}
    (h : waiterPhase w flight m = some phase) : phase.Follows w flight := by
  unfold waiterPhase at h
  split at h <;> split at h
  all_goals try split at h
  all_goals simp only [reduceCtorEq, Option.some.injEq] at h
  all_goals
    subst h
    constructor <;> simp_all [WaiterPhase.holds, WaiterPhase.counted, WaiterPhase.present, WaiterPhase.outcome]

theorem isAlive_iff {s : SingleFlight K V} {f : Nat} :
    s.isAlive f = true ↔ (∃ (i : Nat) (w : FlightWaiter V), s.waiters[i]? = some w ∧ w.flight = f ∧ w.phase.holds = true) ∨
      ∃ flight : Flight K V, s.flights[f]? = some flight ∧ flight.leader.holds = true := by
  simp [isAlive, List.any_eq_true, List.mem_iff_getElem?, Option.any_eq_true]
  grind

/-- The registry names every live flight, a flight has one leader, the lock holder is the only waiter that joins, and a
waiter that selects unnotified has a result still to be announced. -/
structure Consistent (s : SingleFlight K V) : Prop where
  hasFlight : ∀ (i : Nat) (w : FlightWaiter V), s.waiters[i]? = some w → w.flight < s.flights.length
  registered : ∀ (f : Nat) (flight : Flight K V), s.flights[f]? = some flight → s.isAlive f = true → s.registry flight.key = some f
  leaders : ∀ (i j : Nat) (w w' : FlightWaiter V), s.waiters[i]? = some w → s.waiters[j]? = some w' →
    w.isLeader = true → w'.isLeader = true → w.flight = w'.flight → i = j
  joining : ∀ (i : Nat) (w : FlightWaiter V), s.waiters[i]? = some w → w.phase = .joining → s.joining = some i
  pending : ∀ (f : Nat) (flight : Flight K V), s.flights[f]? = some flight →
    flight.leader = .notSpawned ∨ flight.leader = .running → flight.result = none
  woken : ∀ (i : Nat) (w : FlightWaiter V) (flight : Flight K V), s.waiters[i]? = some w →
    s.flights[w.flight]? = some flight → w.phase = .selecting false → flight.result = none ∨ flight.leader = .stored
  received : ∀ (i : Nat) (w : FlightWaiter V) (flight : Flight K V) (r : FlightResult V), s.waiters[i]? = some w →
    s.flights[w.flight]? = some flight → w.phase.outcome = some (.received r) → flight.result = some r

variable {s s' : SingleFlight K V} {i f : Nat} {w : FlightWaiter V} {flight : Flight K V} {phase : WaiterPhase V}

theorem isAlive_of_setWaiter (hw : s.waiters[i]? = some w) (hholds : phase.holds = true → w.phase.holds = true)
    {w' : FlightWaiter V} (hflight : w'.flight = w.flight) (hphase : w'.phase = phase)
    (h : (s.setWaiter i w').isAlive f = true) : s.isAlive f = true := by
  rw [isAlive_iff] at h ⊢
  rcases h with ⟨j, x, hx, hf, hh⟩ | h
  · rcases Cells.cases_of_set hx with ⟨rfl, rfl⟩ | ⟨-, hx⟩
    · exact .inl ⟨j, w, hw, hflight ▸ hf, hholds (hphase ▸ hh)⟩
    · exact .inl ⟨j, x, hx, hf, hh⟩
  · exact .inr h

theorem Consistent.setWaiter (h : s.Consistent) (hw : s.waiters[i]? = some w) (w' : FlightWaiter V)
    (hflight : w'.flight = w.flight) (hleader : w'.isLeader = w.isLeader)
    (hholds : w'.phase.holds = true → w.phase.holds = true) (hjoining : w'.phase ≠ .joining)
    (hwoken : ∀ flight, s.flights[w.flight]? = some flight → w'.phase = .selecting false →
      flight.result = none ∨ flight.leader = .stored)
    (hreceived : ∀ flight r, s.flights[w.flight]? = some flight → w'.phase.outcome = some (.received r) →
      flight.result = some r) : (s.setWaiter i w').Consistent where
  hasFlight j x hx := by
    rcases Cells.cases_of_set hx with ⟨-, rfl⟩ | ⟨-, hx⟩
    · exact hflight ▸ h.hasFlight i w hw
    · exact h.hasFlight j x hx
  registered f flight hf halive := h.registered f flight hf (isAlive_of_setWaiter hw hholds hflight rfl halive)
  leaders j k x y hx hy hxl hyl hxy := by
    rcases Cells.cases_of_set hx with ⟨hj, rfl⟩ | ⟨-, hx'⟩ <;> rcases Cells.cases_of_set hy with ⟨hk, rfl⟩ | ⟨-, hy'⟩
    · rw [hj, hk]
    · exact hj ▸ h.leaders i k w y hw hy' (hleader ▸ hxl) hyl (hflight ▸ hxy)
    · exact hk ▸ h.leaders j i x w hx' hw hxl (hleader ▸ hyl) (hflight ▸ hxy)
    · exact h.leaders j k x y hx' hy' hxl hyl hxy
  joining j x hx hphase := by
    rcases Cells.cases_of_set hx with ⟨-, rfl⟩ | ⟨-, hx⟩
    · exact absurd hphase hjoining
    · exact h.joining j x hx hphase
  pending := h.pending
  woken j x flight hx hf hphase := by
    rcases Cells.cases_of_set hx with ⟨-, rfl⟩ | ⟨-, hx⟩
    · exact hwoken flight (hflight ▸ hf) hphase
    · exact h.woken j x flight hx hf hphase
  received j x flight r hx hf hphase := by
    rcases Cells.cases_of_set hx with ⟨-, rfl⟩ | ⟨-, hx⟩
    · exact hreceived flight r (hflight ▸ hf) hphase
    · exact h.received j x flight r hx hf hphase

theorem Consistent.setFlight (h : s.Consistent) (hf : s.flights[f]? = some flight) (flight' : Flight K V)
    (hkey : flight'.key = flight.key) (hholds : flight'.leader.holds = true → s.isAlive f = true)
    (hpending : flight'.leader = .notSpawned ∨ flight'.leader = .running → flight'.result = none)
    (hwoken : flight.result = none ∨ flight.leader = .stored → flight'.result = none ∨ flight'.leader = .stored)
    (hresult : ∀ r, flight.result = some r → flight'.result = some r) : (s.setFlight f flight').Consistent where
  hasFlight j x hx := by simpa using h.hasFlight j x hx
  registered g flight₁ hg halive := by
    have hold : s.isAlive g = true := by
      rcases isAlive_iff.1 halive with hwaiter | ⟨flight₂, hg₂, hh⟩
      · exact isAlive_iff.2 (.inl hwaiter)
      · rcases Cells.cases_of_set hg₂ with ⟨rfl, rfl⟩ | ⟨-, hg₂⟩
        · exact hholds hh
        · exact isAlive_iff.2 (.inr ⟨flight₂, hg₂, hh⟩)
    rcases Cells.cases_of_set hg with ⟨rfl, rfl⟩ | ⟨-, hg⟩
    · exact hkey ▸ h.registered g flight hf hold
    · exact h.registered g flight₁ hg hold
  leaders := h.leaders
  joining := h.joining
  pending g flight₁ hg hleader := by
    rcases Cells.cases_of_set hg with ⟨-, rfl⟩ | ⟨-, hg⟩
    · exact hpending hleader
    · exact h.pending g flight₁ hg hleader
  woken j x flight₁ hx hg hphase := by
    rcases Cells.cases_of_set hg with ⟨hxf, rfl⟩ | ⟨-, hg⟩
    · exact hwoken (h.woken j x flight hx (hxf ▸ hf) hphase)
    · exact h.woken j x flight₁ hx hg hphase
  received j x flight₁ r hx hg hphase := by
    rcases Cells.cases_of_set hg with ⟨hxf, rfl⟩ | ⟨-, hg⟩
    · exact hresult r (h.received j x flight r hx (hxf ▸ hf) hphase)
    · exact h.received j x flight₁ r hx hg hphase

theorem Consistent.unlock (h : s.Consistent) (hnone : ∀ (j : Nat) (x : FlightWaiter V), s.waiters[j]? = some x →
    x.phase ≠ .joining) : ({ s with joining := none } : SingleFlight K V).Consistent where
  hasFlight := h.hasFlight
  registered := h.registered
  leaders := h.leaders
  joining j x hx hphase := absurd hphase (hnone j x hx)
  pending := h.pending
  woken := h.woken
  received := h.received

theorem isAlive_of_waiter (hw : s.waiters[i]? = some w) (hholds : w.phase.holds = true) : s.isAlive w.flight = true :=
  isAlive_iff.2 (.inl ⟨i, w, hw, rfl, hholds⟩)

theorem isAlive_of_leader (hf : s.flights[f]? = some flight) (hholds : flight.leader.holds = true) :
    s.isAlive f = true :=
  isAlive_iff.2 (.inr ⟨flight, hf, hholds⟩)

/-! ### Consistency of the steps -/

theorem Consistent.new : (new : SingleFlight K V).Consistent := by
  constructor <;> simp [SingleFlight.new]

theorem Consistent.push (h : s.Consistent) (hfree : s.joining = none) (hw : w.flight < s.flights.length)
    (halive : s.isAlive w.flight = true) (hphase : w.phase = .joining) (hleader : w.isLeader = false) :
    ({ s with waiters := s.waiters ++ [w], joining := some s.waiters.length } : SingleFlight K V).Consistent where
  hasFlight j x hx := by
    rcases Cells.cases_of_push hx with hx | ⟨-, rfl⟩
    · exact h.hasFlight j x hx
    · exact hw
  registered g flight hg hlive := by
    refine h.registered g flight hg ?_
    rcases isAlive_iff.1 hlive with ⟨j, x, hx, hxg, hholds⟩ | hlive
    · rcases Cells.cases_of_push hx with hx | ⟨-, rfl⟩
      · exact isAlive_iff.2 (.inl ⟨j, x, hx, hxg, hholds⟩)
      · exact hxg ▸ halive
    · exact isAlive_iff.2 (.inr hlive)
  leaders j k x y hx hy hxl hyl hxy := by
    have hne : ∀ x : FlightWaiter V, x.isLeader = true → x ≠ w := by
      intro x hxl hxw
      rw [hxw, hleader] at hxl
      cases hxl
    have hx := (Cells.cases_of_push hx).resolve_right fun hx => hne x hxl hx.2
    have hy := (Cells.cases_of_push hy).resolve_right fun hy => hne y hyl hy.2
    exact h.leaders j k x y hx hy hxl hyl hxy
  joining j x hx hxp := by
    rcases Cells.cases_of_push hx with hx | ⟨rfl, -⟩
    · cases hfree.symm.trans (h.joining j x hx hxp)
    · rfl
  pending := h.pending
  woken j x flight hx hg hxp := by
    rcases Cells.cases_of_push hx with hx | ⟨-, rfl⟩
    · exact h.woken j x flight hx hg hxp
    · cases hphase.symm.trans hxp
  received j x flight r hx hg hxp := by
    rcases Cells.cases_of_push hx with hx | ⟨-, rfl⟩
    · exact h.received j x flight r hx hg hxp
    · rw [hphase] at hxp
      cases hxp

theorem Consistent.found [DecidableEq K] (h : s.Consistent) (hfree : s.joining = none) {key : K}
    (hkey : s.registry key = none) (hphase : w.phase = .joining) (hw : w.flight = s.flights.length) :
    ({ flights := s.flights ++ [.new key], registry := Function.update s.registry key (some s.flights.length)
       waiters := s.waiters ++ [w], joining := some s.waiters.length } : SingleFlight K V).Consistent where
  hasFlight j x hx := by
    rw [List.length_append]
    rcases Cells.cases_of_push hx with hx | ⟨-, rfl⟩
    · exact Nat.lt_add_right 1 (h.hasFlight j x hx)
    · exact hw ▸ Nat.lt_succ_self _
  registered g flight hg hlive := by
    rcases Cells.cases_of_push hg with hg | ⟨rfl, rfl⟩
    · have hlt := (List.getElem?_eq_some_iff.1 hg).1
      have hlive' : s.isAlive g = true := by
        rcases isAlive_iff.1 hlive with ⟨j, x, hx, hxg, hholds⟩ | ⟨flight', hg', hholds⟩
        · rcases Cells.cases_of_push hx with hx | ⟨-, rfl⟩
          · exact isAlive_iff.2 (.inl ⟨j, x, hx, hxg, hholds⟩)
          · omega
        · obtain rfl := Option.some.inj (hg'.symm.trans (Cells.getElem?_push hg))
          exact isAlive_of_leader hg hholds
      have hregistered := h.registered g flight hg hlive'
      have hne : flight.key ≠ key := by
        rintro rfl
        cases hkey.symm.trans hregistered
      exact (Function.update_of_ne hne _ _).trans hregistered
    · exact Function.update_self _ _ _
  leaders j k x y hx hy hxl hyl hxy := by
    have hlt : ∀ {j : Nat} {x : FlightWaiter V}, s.waiters[j]? = some x → x.flight ≠ w.flight := fun hx heq =>
      absurd (h.hasFlight _ _ hx) (by omega)
    rcases Cells.cases_of_push hx with hx | ⟨hj, rfl⟩ <;> rcases Cells.cases_of_push hy with hy | ⟨hk, hyw⟩
    · exact h.leaders j k x y hx hy hxl hyl hxy
    · exact absurd (hyw ▸ hxy) (hlt hx)
    · exact absurd hxy.symm (hlt hy)
    · rw [hj, hk]
  joining j x hx hxp := by
    rcases Cells.cases_of_push hx with hx | ⟨rfl, -⟩
    · cases hfree.symm.trans (h.joining j x hx hxp)
    · rfl
  pending g flight hg hleader := by
    rcases Cells.cases_of_push hg with hg | ⟨-, rfl⟩
    · exact h.pending g flight hg hleader
    · rfl
  woken j x flight hx hg hxp := by
    rcases Cells.cases_of_push hx with hx | ⟨-, rfl⟩
    · rcases Cells.cases_of_push hg with hg | ⟨-, rfl⟩
      · exact h.woken j x flight hx hg hxp
      · exact .inl rfl
    · cases hphase.symm.trans hxp
  received j x flight r hx hg hxp := by
    rcases Cells.cases_of_push hx with hx | ⟨-, rfl⟩
    · rcases Cells.cases_of_push hg with hg | ⟨hlast, -⟩
      · exact h.received j x flight r hx hg hxp
      · exact absurd (h.hasFlight j x hx) (by omega)
    · rw [hphase] at hxp
      cases hxp

theorem Consistent.retain (h : s.Consistent) :
    ({ s with registry := fun k => (s.registry k).filter s.isAlive } : SingleFlight K V).Consistent where
  hasFlight := h.hasFlight
  registered f flight hf halive := by
    have hlive : s.isAlive f = true := halive
    simp [h.registered f flight hf hlive, hlive]
  leaders := h.leaders
  joining := h.joining
  pending := h.pending
  woken := h.woken
  received := h.received

theorem Consistent.lookUp [DecidableEq K] {key : K} (h : s.Consistent) (hs : s.lookUp key = some s') :
    s'.Consistent := by
  obtain ⟨hfree, ⟨f, hlive, rfl⟩ | ⟨hlive, rfl⟩⟩ := lookUp_cases hs
  · have halive := (Option.filter_eq_some_iff.1 hlive).2
    refine h.retain.push hfree ?_ halive rfl rfl
    rcases isAlive_iff.1 halive with ⟨j, x, hx, rfl, -⟩ | ⟨flight, hf, -⟩
    · exact h.hasFlight j x hx
    · exact (List.getElem?_eq_some_iff.1 hf).1
  · exact h.retain.found hfree hlive rfl rfl

theorem Consistent.enter (h : s.Consistent) (hs : s.enter i = some s') : s'.Consistent := by
  obtain ⟨w, flight, hw, hf, hphase, hjoining, rfl⟩ := enter_cases hs
  have hflight := h.setFlight hf { flight with waiters := flight.waiters + 1 } rfl (fun hh => isAlive_of_leader hf hh)
    (h.pending w.flight flight hf) id fun _ => id
  refine Consistent.unlock (hflight.setWaiter hw { w with phase := .joined, departedBefore := flight.departed }
    rfl rfl (fun _ => by rw [hphase]; rfl) nofun (fun _ _ => nofun) fun _ _ _ => nofun) ?_
  intro j x hx hxp
  rcases Cells.cases_of_set hx with ⟨-, rfl⟩ | ⟨hji, hx⟩
  · cases hxp
  · exact hji (Option.some.inj ((h.joining j x hx hxp).symm.trans hjoining))

theorem Consistent.move {m : WaiterMove} (h : s.Consistent) (hs : s.move i m = some s') : s'.Consistent := by
  obtain ⟨w, flight, phase, hw, hf, hphase, rfl⟩ := move_cases hs
  have hfollows := follows_of_waiterPhase hphase
  refine h.setWaiter hw { w with phase } rfl rfl hfollows.holds hfollows.ne_joining (fun flight' hf' hselecting => ?_)
    fun flight' r hf' hr => ?_
  · obtain rfl := Option.some.inj (hf.symm.trans hf')
    exact .inl (hfollows.selecting hselecting)
  · obtain rfl := Option.some.inj (hf.symm.trans hf')
    exact (hfollows.received r hr).elim (h.received i w flight r hw hf) And.right

theorem Consistent.leave (h : s.Consistent) (hs : s.leave i = some s') : s'.Consistent := by
  obtain ⟨w, flight, outcome, hw, hf, hphase, rfl⟩ := leave_cases hs
  obtain ⟨hkey, hleader, hresult, -⟩ := lowered_frame flight i
  have hflight := h.setFlight hf (flight.lowered i) hkey (fun hh => isAlive_of_leader hf (hleader ▸ hh))
    (by rw [hleader, hresult]; exact h.pending _ _ hf) (by rw [hleader, hresult]; exact id) (by rw [hresult]; exact fun _ => id)
  refine hflight.setWaiter hw { w with phase := .left outcome } rfl rfl (fun _ => by rw [hphase]; rfl) nofun
    (fun _ _ => nofun) fun flight' r hf' hr => ?_
  have heq : flight.lowered i = flight' := Option.some.inj ((Cells.getElem?_set_same hf).symm.trans hf')
  rw [← heq, hresult]
  exact h.received i w flight r hw hf (by rw [hphase]; exact hr)

theorem Consistent.spawn (h : s.Consistent) (hs : s.spawn i = some s') : s'.Consistent := by
  obtain ⟨w, flight, hw, hf, hphase, hspawn, rfl⟩ := spawn_cases hs
  have hresult := h.pending _ _ hf (.inl hspawn)
  exact h.setFlight hf { flight with leader := .running } rfl (fun _ => isAlive_of_waiter hw (by rw [hphase]; rfl))
    (fun _ => hresult) (fun _ => .inl hresult) fun _ => id

theorem Consistent.store {result : FlightResult V} (h : s.Consistent) (hs : s.store f result = some s') :
    s'.Consistent := by
  obtain ⟨flight, hf, hrunning, -, rfl⟩ := store_cases hs
  have hresult := h.pending _ _ hf (.inr hrunning)
  exact h.setFlight hf { flight with result := some result, leader := .stored } rfl
    (fun _ => isAlive_of_leader hf (by rw [hrunning]; rfl)) (by simp) (fun _ => .inr rfl) (by simp [hresult])

theorem Consistent.releaseTask (h : s.Consistent) (hs : s.releaseTask f = some s') : s'.Consistent := by
  obtain ⟨flight, hf, hleader, rfl⟩ := releaseTask_cases hs
  refine h.setFlight hf { flight with leader := .released } rfl nofun (by simp) (fun hwoken => .inl ?_) fun _ => id
  rcases hwoken with hnone | hstored
  · exact hnone
  · simp [hstored] at hleader

/-- After `notify_waiters` nobody selects unnotified on the flight. -/
theorem Consistent.notify (h : s.Consistent) (hs : s.notify f = some s') : s'.Consistent := by
  obtain ⟨flight, hf, hstored, rfl⟩ := notify_cases hs
  have hmapped : ∀ {j : Nat} {x : FlightWaiter V}, (s.waiters.map fun w =>
      if w.flight = f then { w with phase := w.phase.notify } else w)[j]? = some x → ∃ w, s.waiters[j]? = some w ∧
        x.flight = w.flight ∧ x.isLeader = w.isLeader ∧ x.phase = if w.flight = f then w.phase.notify else w.phase := by
    intro j x hx
    obtain ⟨w, hw, rfl⟩ := by simpa using hx
    refine ⟨w, hw, ?_⟩
    split <;> exact ⟨rfl, rfl, rfl⟩
  have hother : ∀ {g : Nat} {flight' : Flight K V}, (s.flights.set f { flight with leader := .notified })[g]? =
      some flight' → ∃ old, s.flights[g]? = some old ∧ flight'.key = old.key ∧ flight'.result = old.result := by
    intro g flight' hg
    rcases Cells.cases_of_set hg with ⟨rfl, rfl⟩ | ⟨-, hg⟩
    · exact ⟨flight, hf, rfl, rfl⟩
    · exact ⟨flight', hg, rfl, rfl⟩
  constructor
  case hasFlight =>
    intro j x hx
    obtain ⟨w, hw, hflight, -⟩ := hmapped hx
    simpa [hflight] using h.hasFlight j w hw
  case registered =>
    intro g flight' hg hlive
    obtain ⟨old, hold, hkey, -⟩ := hother hg
    refine hkey ▸ h.registered g old hold (isAlive_iff.2 ?_)
    rcases isAlive_iff.1 hlive with ⟨j, x, hx, hxg, hholds⟩ | ⟨flight₁, hg₁, hholds⟩
    · obtain ⟨w, hw, hflight, -, hphase⟩ := hmapped hx
      refine .inl ⟨j, w, hw, hflight ▸ hxg, ?_⟩
      rw [hphase] at hholds
      split at hholds <;> simpa using hholds
    · rcases Cells.cases_of_set hg₁ with ⟨rfl, rfl⟩ | ⟨-, hg₁⟩
      · exact .inr ⟨flight, hf, by rw [hstored]; rfl⟩
      · exact .inr ⟨flight₁, hg₁, hholds⟩
  case leaders =>
    intro j k x y hx hy hxl hyl hxy
    obtain ⟨w, hw, hwf, hwl, -⟩ := hmapped hx
    obtain ⟨v, hv, hvf, hvl, -⟩ := hmapped hy
    exact h.leaders j k w v hw hv (hwl ▸ hxl) (hvl ▸ hyl) (by rw [← hwf, ← hvf, hxy])
  case joining =>
    intro j x hx hxp
    obtain ⟨w, hw, -, -, hphase⟩ := hmapped hx
    refine h.joining j w hw ?_
    rw [hphase] at hxp
    split at hxp <;> simpa using hxp
  case pending =>
    intro g flight' hg hleader
    rcases Cells.cases_of_set hg with ⟨-, rfl⟩ | ⟨-, hg⟩
    · simp at hleader
    · exact h.pending g flight' hg hleader
  case woken =>
    intro j x flight' hx hg hxp
    obtain ⟨w, hw, hflight, -, hphase⟩ := hmapped hx
    rw [hphase] at hxp
    split at hxp
    · cases hp : w.phase <;> simp [hp, WaiterPhase.notify] at hxp
    · rename_i hne
      rcases Cells.cases_of_set hg with ⟨hxf, -⟩ | ⟨-, hg⟩
      · exact absurd (hflight ▸ hxf) hne
      · exact h.woken j w flight' hw (hflight ▸ hg) hxp
  case received =>
    intro j x flight' r hx hg hxp
    obtain ⟨w, hw, hflight, -, hphase⟩ := hmapped hx
    obtain ⟨old, hold, -, hresult⟩ := hother hg
    rw [hresult]
    refine h.received j w old r hw (hflight ▸ hold) ?_
    rw [hphase] at hxp
    split at hxp <;> simpa using hxp

theorem Consistent.step [DecidableEq K] {action : Action K V} (h : s.Consistent) (hs : s.exec action = some s') :
    s'.Consistent := by
  cases action with
  | lookUp key => exact h.lookUp hs
  | enter i => exact h.enter hs
  | spawn i => exact h.spawn hs
  | move i m => exact h.move hs
  | leave i => exact h.leave hs
  | store f result => exact h.store hs
  | notify f => exact h.notify hs
  | releaseTask f => exact h.releaseTask hs

/-- The waiters that the flight counts. -/
def countOf (s : SingleFlight K V) (f : Nat) : Nat :=
  s.waiters.countP fun w => w.flight == f && w.phase.counted

theorem countOf_setWaiter (hw : s.waiters[i]? = some w) (w' : FlightWaiter V) (hflight : w'.flight = w.flight) (f : Nat) :
    (s.setWaiter i w').countOf f + (w.flight == f && w.phase.counted).toNat =
      s.countOf f + (w.flight == f && w'.phase.counted).toNat := by
  have := Cells.countP_set hw (b := w') (p := fun w => w.flight == f && w.phase.counted)
  rwa [hflight] at this

/-- The count of every flight is the number of its counted waiters. -/
def Counted (s : SingleFlight K V) : Prop :=
  ∀ (f : Nat) (flight : Flight K V), s.flights[f]? = some flight → flight.waiters = s.countOf f

theorem Counted.new : (new : SingleFlight K V).Counted := by
  intro f flight hf
  simp [SingleFlight.new] at hf

theorem Counted.update (h : s.Counted) (hw : s.waiters[i]? = some w) (hf : s.flights[w.flight]? = some flight)
    {w' : FlightWaiter V} {flight' : Flight K V} (hflight : w'.flight = w.flight)
    (hcount : flight'.waiters + w.phase.counted.toNat = flight.waiters + w'.phase.counted.toNat) :
    ((s.setFlight w.flight flight').setWaiter i w').Counted := by
  intro g flight₁ hg
  have hset := countOf_setWaiter (s := s.setFlight w.flight flight') hw w' hflight g
  change _ = s.countOf g + _ at hset
  rcases Cells.cases_of_set hg with ⟨rfl, rfl⟩ | ⟨hne, hg⟩
  · have := h w.flight flight hf
    simp only [beq_self_eq_true, Bool.true_and] at hset
    omega
  · have := h g flight₁ hg
    have hne : (w.flight == g) = false := by simpa using Ne.symm hne
    simp only [hne, Bool.false_and, Bool.toNat_false] at hset
    omega

theorem Counted.setFlight (h : s.Counted) (hf : s.flights[f]? = some flight) {flight' : Flight K V}
    (hwaiters : flight'.waiters = flight.waiters) : (s.setFlight f flight').Counted := by
  intro g flight₁ hg
  rcases Cells.cases_of_set hg with ⟨rfl, rfl⟩ | ⟨-, hg⟩
  · exact hwaiters.trans (h g flight hf)
  · exact h g flight₁ hg

theorem countOf_eq_zero (h : s.Consistent) (hlt : s.flights.length ≤ f) : s.countOf f = 0 := by
  refine List.countP_eq_zero.2 fun x hx => ?_
  obtain ⟨j, hj⟩ := List.mem_iff_getElem?.1 hx
  have hne : (x.flight == f) = false := by simpa using fun heq => absurd (h.hasFlight j x hj) (by omega)
  simp [hne]

theorem Counted.step [DecidableEq K] {action : Action K V} (hc : s.Consistent) (h : s.Counted)
    (hs : s.exec action = some s') : s'.Counted := by
  cases action with
  | lookUp key =>
    have huncounted : ∀ (x : FlightWaiter V) g, x.phase = .joining →
        (s.waiters ++ [x]).countP (fun w => w.flight == g && w.phase.counted) = s.countOf g := by
      intro x g hx
      simp [hx, WaiterPhase.counted, countOf]
    obtain ⟨-, ⟨f, -, rfl⟩ | ⟨-, rfl⟩⟩ := lookUp_cases hs
    · intro g flight hg
      exact (h g flight hg).trans (huncounted _ g rfl).symm
    · intro g flight hg
      refine Eq.trans ?_ (huncounted _ g rfl).symm
      rcases Cells.cases_of_push hg with hg | ⟨rfl, rfl⟩
      · exact h g flight hg
      · exact (countOf_eq_zero hc le_rfl).symm
  | enter i =>
    obtain ⟨w, flight, hw, hf, hphase, -, rfl⟩ := enter_cases hs
    have hcount : flight.waiters + 1 + w.phase.counted.toNat = flight.waiters + 1 := by rw [hphase]; rfl
    exact h.update hw hf rfl hcount
  | spawn i =>
    obtain ⟨w, flight, -, hf, -, -, rfl⟩ := spawn_cases hs
    exact h.setFlight hf rfl
  | move i m =>
    obtain ⟨w, flight, phase, hw, hf, hphase, rfl⟩ := move_cases hs
    have hcounted := (follows_of_waiterPhase hphase).counted
    intro g flight' hg
    have hset := countOf_setWaiter hw { w with phase } rfl g
    rw [hcounted] at hset
    have := h g flight' hg
    omega
  | leave i =>
    obtain ⟨w, flight, outcome, hw, hf, hphase, rfl⟩ := leave_cases hs
    have hpos : 0 < flight.waiters := by
      rw [h _ _ hf]
      exact List.countP_pos_iff.2 ⟨w, List.mem_of_getElem? hw, by simp [hphase, WaiterPhase.counted]⟩
    refine h.update hw hf rfl ?_
    rw [(lowered_frame flight i).2.2.2, hphase]
    simp only [WaiterPhase.counted, Bool.toNat_true, Bool.toNat_false]
    omega
  | store f result =>
    obtain ⟨flight, hf, -, -, rfl⟩ := store_cases hs
    exact h.setFlight hf rfl
  | notify f =>
    obtain ⟨flight, hf, -, rfl⟩ := notify_cases hs
    have hflight : (s.setFlight f { flight with leader := .notified }).Counted := h.setFlight hf rfl
    intro g flight' hg
    rw [hflight g flight' hg]
    simp only [countOf, waiters_setFlight, List.countP_map]
    refine List.countP_congr fun x _ => ?_
    simp only [Function.comp]
    split <;> simp
  | releaseTask f =>
    obtain ⟨flight, hf, -, rfl⟩ := releaseTask_cases hs
    exact h.setFlight hf rfl

end SingleFlight

end Krometrail
