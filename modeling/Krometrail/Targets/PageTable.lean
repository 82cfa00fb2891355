import Krometrail.Targets.Advances
import Krometrail.Targets.Capacity

/-!
# The target table over whole runs

The tables of a reachable state are bounded and list their entries once, and the tracked pages are numbered apart, by
their place in a log of the pages created so far (`TablesKept`).  A reduction never turns a counter back, and numbers the
pages it creates in the order its input lists them (`CountsOn`); one that fails with the limit on page targets has
changed nothing (`LimitRaised`).
-/

namespace Krometrail

open Listings (Lists Numbers Renumbers)

/-- What holds of the tables of every reachable state. -/
structure SupervisorState.TablesKept (state : SupervisorState) : Prop where
  targets : state.targetsByKey.size ≤ maxKnownPageTargets
  pending : state.pendingAttachedSessions.size ≤ maxPendingAttachedSessions
  listed : Lists state.pendingAttachedOrder state.pendingAttachedSessions
  apart : ∀ key key' n, state.sequenceAt key = some n → state.sequenceAt key' = some n → key = key'
  earlier : ∀ key n, state.sequenceAt key = some n → n < state.nextPageSequence

/-- What an input makes of the counters, and of the numbers of the pages: those it creates take the next ones, in the
order in which it lists them. -/
structure CountsOn (input : SupervisorInput) (state state' : SupervisorState) : Prop where
  revision : state.revision ≤ state'.revision
  generation : state.connectionGeneration ≤ state'.connectionGeneration
  sequence : state.nextPageSequence ≤ state'.nextPageSequence
  created : ∃ created : List String, created.Sublist input.payload.kept ∧
    state'.nextPageSequence = state.nextPageSequence + created.length ∧
    Renumbers state.nextPageSequence created state.sequenceAt state'.sequenceAt

/-- The invariant of the runs: the log of the pages created so far numbers those that are tracked. -/
structure SupervisorState.Logged (state : SupervisorState) (log : List String) : Prop where
  sequence : state.nextPageSequence = 2 + log.length
  numbers : Numbers 2 log state.sequenceAt
  room : state.targetsByKey.size ≤ maxKnownPageTargets
  pending : state.PendingListed
  revision : state.revision ≤ u64Max

namespace SupervisorState.Logged

variable {state : SupervisorState} {log : List String}

theorem new (compatibility : BrowserCompatibility) : (SupervisorState.new compatibility).Logged [] where
  sequence := rfl
  numbers key n h := by simp [sequenceAt, SupervisorState.new] at h
  room := by simp [SupervisorState.new]
  pending := ⟨Listings.lists_empty, by simp [SupervisorState.new]⟩
  revision := by simp [SupervisorState.new]

theorem reduce {order : VisitOrder} {input : SupervisorInput} {r : Reduction} (h : state.Logged log)
    (hreduce : Krometrail.reduce order state input = .ok r) : ∃ created, r.state.Logged (log ++ created) := by
  obtain ⟨created, -, hadvances⟩ := reduce_advances hreduce
  have hnumbers := hadvances.numbers
  have hsequence := hadvances.sequence
  dsimp only at hnumbers hsequence
  rw [h.sequence] at hnumbers hsequence
  refine ⟨created, ?_, h.numbers.extend hnumbers, hadvances.room h.room, hadvances.pending h.pending,
    (hadvances.revision h.revision).2⟩
  rw [hsequence, List.length_append, Nat.add_assoc]

theorem tablesKept (h : state.Logged log) : state.TablesKept where
  targets := h.room
  pending := h.pending.room
  listed := h.pending.lists
  apart _ _ _ hkey hkey' := h.numbers.injective hkey hkey'
  earlier _ _ hkey := h.sequence ▸ h.numbers.lt hkey

theorem countsOn {order : VisitOrder} {input : SupervisorInput} {r : Reduction} (h : state.Logged log)
    (hreduce : Krometrail.reduce order state input = .ok r) : CountsOn input state r.state := by
  obtain ⟨created, hsub, hadvances⟩ := reduce_advances hreduce
  exact ⟨(hadvances.revision h.revision).1, hadvances.generation, hadvances.sequence ▸ Nat.le_add_right _ _,
    created, hsub, hadvances.sequence, hadvances.numbers⟩

end SupervisorState.Logged

theorem logged_of_reachable {state : SupervisorState} (h : supervision.Reachable state) : ∃ log, state.Logged log := by
  refine h.invariant (P := fun state => ∃ log, state.Logged log) ?_ ?_
  · rintro _ ⟨compatibility, rfl⟩
    exact ⟨[], .new compatibility⟩
  · rintro state input effects state' ⟨log, hlogged⟩ ⟨order, hreduce⟩
    obtain ⟨created, hlogged'⟩ := hlogged.reduce hreduce
    exact ⟨log ++ created, hlogged'⟩

theorem limitRaised_of_reduce {order : VisitOrder} {state : SupervisorState} {input : SupervisorInput}
    {error : KrometrailError} (h : reduce order state input = .error error) (hlimit : ExceedsLimit error) :
    ∃ payload left, input.accepted state = some payload ∧ LimitRaised order { state, effects := [] } payload left := by
  rw [reduce_eq] at h
  cases haccepted : input.accepted state with
  | none =>
    rw [haccepted] at h
    cases h
  | some payload =>
    rw [haccepted] at h
    rcases Failures.bind_eq_error.1 h with h | ⟨observed, -, h⟩
    · obtain ⟨left, hraised⟩ := limitRaised_of_observe h hlimit
      exact ⟨payload, left, rfl, hraised⟩
    · cases h

/-- The tables of every reachable state are kept, the counters only grow, and the limit is raised before any change. -/
theorem target_tables_kept {state : SupervisorState} (h : supervision.Reachable state) :
    state.TablesKept ∧ ∀ order input,
      (∀ r, reduce order state input = .ok r → CountsOn input state r.state) ∧
      (∀ error, reduce order state input = .error error → ExceedsLimit error → ∃ payload left,
        input.accepted state = some payload ∧ LimitRaised order { state, effects := [] } payload left) ∧
      ∀ payload left, LimitRaised order { state, effects := [] } payload left → left = { state, effects := [] } := by
  obtain ⟨log, hlogged⟩ := logged_of_reachable h
  exact ⟨hlogged.tablesKept, fun order input => ⟨fun r hreduce => hlogged.countsOn hreduce,
    fun error herror hlimit => limitRaised_of_reduce herror hlimit, fun payload left hraised => hraised.unchanged⟩⟩

/-- Two pages of a first snapshot. -/
theorem target_tables_kept_two : ∃ state, supervision.Reachable state ∧
    (state.sequenceAt "a" = some 2 ∧ state.sequenceAt "b" = some 3) ∧ state.TablesKept ∧ ∀ order input,
      (∀ r, reduce order state input = .ok r → CountsOn input state r.state) ∧
      (∀ error, reduce order state input = .error error → ExceedsLimit error → ∃ payload left,
        input.accepted state = some payload ∧ LimitRaised order { state, effects := [] } payload left) ∧
      ∀ payload left, LimitRaised order { state, effects := [] } payload left → left = { state, effects := [] } := by
  obtain ⟨trace, state, hrun, htest⟩ := exists_unguardedRun [.initialTargets [pageA, pageB]]
    (fun _ state => state.sequenceAt "a" == some 2 && state.sequenceAt "b" == some 3) (by decide +kernel)
  simp only [Bool.and_eq_true, beq_iff_eq] at htest
  exact ⟨state, hrun.reachable, htest, target_tables_kept hrun.reachable⟩

end Krometrail
