import Krometrail.Capture.GapFlow

/-!
# Delivery of capture gaps

What is kept of the ledger, of the worker's hands and of the sink when nothing hinders the delivery.
-/

namespace Krometrail.CaptureGaps

open Runs (Run System exists_reachable exists_run)

/-- What is kept of the gaps, with those in the worker's hands and whether it has looked at the ledger for the last time. -/
structure Gaps.Kept (g : Gaps) (hands : List CaptureGap) (finishing : Bool) : Prop where
  covered : ∀ range ∈ g.declared, Covered (g.ledger.pending ++ (hands ++ g.stored)) range
  nodup : (g.ledger.pending.map CaptureGap.id ++ (hands.map CaptureGap.id ++ g.handed)).Nodup
  drawn : ∀ id ∈ g.ledger.pending.map CaptureGap.id ++ (hands.map CaptureGap.id ++ g.handed), id ∈ g.drawn
  handed : g.handed = g.stored.map CaptureGap.id
  emptied : finishing = true → g.ledger.pending = []
  refusals : g.refusals = []

theorem covered_append {gaps gaps' : List CaptureGap} {range : SessionRange} :
    Covered (gaps ++ gaps') range ↔ Covered gaps range ∨ Covered gaps' range := by
  simp [Covered, or_and_right, exists_or]

namespace Gaps.Kept

variable {g g' : Gaps} {hands : List CaptureGap} {finishing : Bool}

theorem relax (h : g.Kept hands finishing) : g.Kept hands false :=
  ⟨h.covered, h.nodup, h.drawn, h.handed, nofun, h.refusals⟩

theorem closeSaturation (h : g.Kept hands finishing) : Gaps.Kept { g with ledger := g.ledger.closeSaturation } hands finishing :=
  ⟨h.covered, h.nodup, h.drawn, h.handed, h.emptied, h.refusals⟩

theorem take (h : g.Kept [] finishing) (finishing' : Bool) : g.take.Kept g.ledger.pending finishing' :=
  ⟨h.covered, h.nodup, h.drawn, h.handed, fun _ => rfl, h.refusals⟩

theorem isNew {gap : CaptureGap} (h : g.Kept (gap :: hands) finishing) : g.isNew gap = true := by
  have hnodup := (List.nodup_append.1 h.nodup).2.1
  rw [List.map_cons, List.cons_append, List.nodup_cons, List.mem_append, not_or, h.handed] at hnodup
  exact decide_eq_true hnodup.1.2

theorem store {gap : CaptureGap} (h : g.Kept (gap :: hands) finishing) : (g.store gap).Kept hands finishing := by
  have hperm : (gap.id :: (hands.map CaptureGap.id ++ g.handed)).Perm (hands.map CaptureGap.id ++ (g.handed ++ [gap.id])) := by
    rw [← List.append_assoc]
    exact (List.perm_append_singleton _ _).symm
  have hids := hperm.append_left (g.ledger.pending.map CaptureGap.id)
  refine ⟨fun range hrange => (h.covered range hrange).mono fun other => ?_, hids.nodup_iff.1 h.nodup,
    fun id hid => h.drawn id (hids.symm.subset hid), ?_, h.emptied, h.refusals⟩
  · simp only [Gaps.store, List.mem_append, List.mem_cons]
    tauto
  · simp [Gaps.store, h.handed]

theorem declare {target : Target} {reason : CaptureGapReason} {time : SessionTime} {estimated : Option Nat} {draw : Draw}
    {answer : Option CaptureGap} (h : g.Kept hands finishing) (hs : g.declare target reason time estimated draw = some (answer, g'))
    (hturn : finishing = false ∨ ¬ time.nanos ≤ draw.now.nanos) : g'.Kept hands finishing := by
  obtain ⟨hfresh, hs⟩ := Option.ite_none_left_eq_some.1 hs
  unfold CaptureGap.new at hs
  split at hs
  · rename_i hnew
    split at hnew
    · cases hnew
    · obtain ⟨-, rfl⟩ := Prod.mk.inj (Option.some.inj hs)
      exact ⟨h.covered, h.nodup, fun id hid => List.mem_cons_of_mem _ (h.drawn id hid), h.handed, h.emptied, h.refusals⟩
  · rename_i gap hnew
    split at hnew
    case isFalse => cases hnew
    rename_i hle
    obtain ⟨-, rfl⟩ := Prod.mk.inj (Option.some.inj hs)
    have hgap : gap.id = draw.id := by
      cases hnew
      rfl
    have hpushed := g.ledger.pushed gap
    have hids : List.Subperm ((g.ledger.push gap).2.pending.map CaptureGap.id ++ (hands.map CaptureGap.id ++ g.handed))
        (gap.id :: (g.ledger.pending.map CaptureGap.id ++ (hands.map CaptureGap.id ++ g.handed))) := by
      refine ((List.subperm_append_right _).2 hpushed.ids).trans (List.Perm.subperm ?_)
      have hcomm : (g.ledger.pending.map CaptureGap.id ++ [gap.id]).Perm ([gap.id] ++ g.ledger.pending.map CaptureGap.id) :=
        List.perm_append_comm
      exact hcomm.append_right _
    refine ⟨fun range hrange => ?_, ?_, fun id hid => ?_, h.handed, fun hfinishing => ?_, h.refusals⟩
    · have hcovered : Covered (g.ledger.pending ++ [gap]) range ∨ Covered (hands ++ g.stored) range := by
        rcases List.mem_append.1 hrange with hrange | hrange
        · exact (covered_append.1 (h.covered range hrange)).imp_left fun h => covered_append.2 (.inl h)
        · obtain rfl := List.mem_singleton.1 hrange
          exact .inl ⟨gap, by simp, le_rfl⟩
      exact covered_append.2 (hcovered.imp_left hpushed.covered)
    · obtain ⟨l, hperm, hsub⟩ := hids
      refine hperm.nodup_iff.1 (hsub.nodup (List.nodup_cons.2 ⟨fun hmem => hfresh ?_, h.nodup⟩))
      exact hgap ▸ h.drawn _ hmem
    · rcases List.mem_cons.1 (hids.subset hid) with rfl | hid
      · exact hgap ▸ List.mem_cons_self
      · exact List.mem_cons_of_mem _ (h.drawn id hid)
    · exact absurd hle (hturn.resolve_left (by simp [hfinishing]))

end Gaps.Kept

structure State.Kept (s : State) : Prop where
  gaps : s.gaps.Kept s.worker.hands s.worker.finishing
  decoded : ∀ time, s.worker ≠ .rejected time
  rejects : ∀ gap, s.worker ≠ .rejecting gap

namespace State.Kept

variable {s s' : State}

theorem initial (target : Target) (queueCapacity : Nat) (ledgerCapacity : ℕ+) : (start target queueCapacity ledgerCapacity).Kept :=
  ⟨⟨by simp [start], by simp [start, Worker.hands], by simp [start, Worker.hands], rfl, nofun, rfl⟩,
    nofun, nofun⟩

theorem readerEvent {event : FrameEvent} (h : s.Kept) (hs : s.readerEvent event = some s') : s'.Kept := by
  cases event with
  | cancelled =>
    obtain ⟨-, hs⟩ := Option.ite_none_right_eq_some.1 hs
    cases hs
    exact ⟨h.gaps, h.decoded, h.rejects⟩
  | closed | unacknowledged | stale | exhausted | rejected =>
    cases hs
    exact ⟨h.gaps, h.decoded, h.rejects⟩
  | frame time =>
    cases hs
    unfold handoff
    split
    · split <;> exact ⟨h.gaps, h.decoded, h.rejects⟩
    · exact ⟨h.gaps, h.decoded, h.rejects⟩

theorem declare {reason : CaptureGapReason} {time : SessionTime} {estimated : Option Nat} {draw : Draw}
    {declared : Option CaptureGap × State} (h : s.Kept) (hturn : s.InTime time draw)
    (hs : s.declare reason time estimated draw = some declared) :
    declared.2.gaps.Kept s.worker.hands s.worker.finishing ∧ declared.2.worker = s.worker := by
  obtain ⟨⟨answer, gaps⟩, hgaps, rfl⟩ := Option.map_eq_some_iff.1 hs
  exact ⟨h.gaps.declare hgaps hturn, rfl⟩

theorem declared {reason : CaptureGapReason} {time : SessionTime} {estimated : Option Nat} {draw : Draw}
    {declared : Option CaptureGap × State} (h : s.Kept) (hturn : s.InTime time draw)
    (hs : s.declare reason time estimated draw = some declared) : declared.2.Kept := by
  obtain ⟨hgaps, hworker⟩ := h.declare hturn hs
  exact ⟨hworker ▸ hgaps, hworker ▸ h.decoded, hworker ▸ h.rejects⟩

theorem readerStep {event : FrameEvent} {draw : Draw} (h : s.Kept) (hg : s.Unhindered (.reader event draw))
    (hs : s.readerStep event draw = some s') : s'.Kept := by
  unfold State.readerStep at hs
  unfold Unhindered at hg
  cases hreader : s.reader with
  | checking =>
    rw [hreader] at hs
    cases hs
    exact ⟨h.gaps, h.decoded, h.rejects⟩
  | waiting =>
    rw [hreader] at hs
    exact h.readerEvent hs
  | dropping reason time fails =>
    rw [hreader] at hs hg
    obtain ⟨declared, hdeclared, rfl⟩ := Option.map_eq_some_iff.1 hs
    have hkept := h.declared hg hdeclared
    split <;> exact ⟨hkept.gaps, hkept.decoded, hkept.rejects⟩
  | sent =>
    rw [hreader] at hs
    cases hs
    exact ⟨h.gaps.closeSaturation, h.decoded, h.rejects⟩
  | exited =>
    rw [hreader] at hs
    cases hs

theorem visibilityStep {event : VisibilityEvent} {draw : Draw} (h : s.Kept) (hg : s.Unhindered (.visibility event draw))
    (hs : s.visibilityStep event draw = some s') : s'.Kept := by
  unfold State.visibilityStep at hs
  unfold Unhindered at hg
  cases hvisibility : s.visibility with
  | checking =>
    rw [hvisibility] at hs
    cases hs
    exact ⟨h.gaps, h.decoded, h.rejects⟩
  | waiting =>
    rw [hvisibility] at hs
    cases event with
    | cancelled =>
      obtain ⟨-, hs⟩ := Option.ite_none_right_eq_some.1 hs
      cases hs
      exact ⟨h.gaps, h.decoded, h.rejects⟩
    | closed | unreadable | unchanged | hidden =>
      cases hs
      exact ⟨h.gaps, h.decoded, h.rejects⟩
  | hidden time =>
    rw [hvisibility] at hs hg
    obtain ⟨declared, hdeclared, rfl⟩ := Option.map_eq_some_iff.1 hs
    have hkept := h.declared hg hdeclared
    exact ⟨hkept.gaps, hkept.decoded, hkept.rejects⟩
  | exited =>
    rw [hvisibility] at hs
    cases hs

theorem goes_on {s' : State} {hands : List CaptureGap} {finishing : Bool} (h : s'.gaps.Kept hands finishing)
    (hhands : hands = s'.worker.hands) (hfinishing : s'.worker.finishing = false) (hdecoded : ∀ time, s'.worker ≠ .rejected time)
    (hrejects : ∀ gap, s'.worker ≠ .rejecting gap) : s'.Kept :=
  ⟨hfinishing ▸ hhands ▸ h.relax, hdecoded, hrejects⟩

theorem workerStep {input : WorkerInput} (h : s.Kept) (hg : s.Unhindered (.worker input)) (hs : s.workerStep input = some s') :
    s'.Kept := by
  have hgaps := h.gaps
  unfold State.workerStep at hs
  unfold Unhindered at hg
  cases hworker : s.worker with
  | receiving =>
    rw [hworker] at hs hgaps
    dsimp only at hs
    split at hs
    · cases hs
      exact goes_on hgaps rfl rfl nofun nofun
    · obtain ⟨-, hs⟩ := Option.ite_none_left_eq_some.1 hs
      cases hs
      exact goes_on hgaps rfl rfl nofun nofun
  | taking next =>
    rw [hworker] at hs hgaps
    cases hs
    exact ⟨hgaps.take _, nofun, nofun⟩
  | persisting taken next =>
    rw [hworker] at hs hgaps hg
    cases hs
    cases taken with
    | nil =>
      cases next with
      | frame time =>
        rw [persistStep, if_pos (show input.decoded = true from hg)]
        exact goes_on hgaps rfl rfl nofun nofun
      | resume => exact goes_on hgaps rfl rfl nofun nofun
      | finish => exact ⟨hgaps, nofun, nofun⟩
    | cons gap rest =>
      have haccepted : (input.accepted && s.gaps.isNew gap) = true :=
        Bool.and_eq_true_iff.2 ⟨hg, Gaps.Kept.isNew hgaps⟩
      unfold persistStep
      dsimp only
      rw [if_pos haccepted]
      exact ⟨by cases next <;> exact Gaps.Kept.store hgaps, nofun, nofun⟩
  | appending time =>
    rw [hworker] at hs hgaps
    dsimp only at hs
    split at hs <;> obtain rfl := Option.some.inj hs <;>
      exact goes_on hgaps rfl rfl nofun nofun
  | paused time | failed time =>
    have hturn : s.InTime time input.draw := .inl (by rw [hworker]; rfl)
    rw [hworker] at hs
    obtain ⟨declared, hdeclared, rfl⟩ := Option.map_eq_some_iff.1 hs
    have hdeclared := (h.declare hturn hdeclared).1
    rw [hworker] at hdeclared
    exact goes_on hdeclared rfl rfl nofun nofun
  | rejected time => exact absurd hworker (h.decoded time)
  | rejecting gap => exact absurd hworker (h.rejects gap)
  | awaitingBudget =>
    rw [hworker] at hs hgaps
    cases hs
    exact goes_on hgaps rfl rfl nofun nofun
  | exited =>
    rw [hworker] at hs
    cases hs

theorem callStep {i : Nat} {call : Call} {input : CallInput} (h : s.Kept) (hcall : s.calls[i]? = some call)
    (hg : s.Unhindered (.advance i input)) (hs : s.callStep i call input = some s') : s'.Kept := by
  unfold Unhindered at hg
  dsimp only at hg
  rw [hcall] at hg
  cases call with
  | suspending time | stopping =>
    cases hs
    exact ⟨h.gaps, h.decoded, h.rejects⟩
  | disconnecting time =>
    obtain ⟨declared, hdeclared, rfl⟩ := Option.map_eq_some_iff.1 hs
    have hkept := h.declared hg hdeclared
    exact ⟨hkept.gaps, hkept.decoded, hkept.rejects⟩
  | commanding =>
    unfold State.callStep at hs
    dsimp only at hs
    split at hs <;> obtain rfl := Option.some.inj hs <;> exact ⟨h.gaps, h.decoded, h.rejects⟩
  | joining succeeded =>
    unfold State.callStep at hs
    dsimp only at hs
    split at hs
    · cases hs
      exact ⟨h.gaps, h.decoded, h.rejects⟩
    · obtain ⟨-, hs⟩ := Option.ite_none_left_eq_some.1 hs
      cases hs
      exact ⟨h.gaps, h.decoded, h.rejects⟩
  | settling complete =>
    cases complete with
    | true =>
      cases hs
      exact ⟨h.gaps, h.decoded, h.rejects⟩
    | false =>
      obtain ⟨declared, hdeclared, rfl⟩ := Option.map_eq_some_iff.1 hs
      have hkept := h.declared hg hdeclared
      exact ⟨hkept.gaps, hkept.decoded, hkept.rejects⟩
  | suspended | stopped => cases hs

theorem exec {input : Input} (h : s.Kept) (hg : s.Unhindered input) (hs : s.exec input = some s') : s'.Kept := by
  cases input with
  | reader event draw => exact h.readerStep hg hs
  | visibility event draw => exact h.visibilityStep hg hs
  | worker input => exact h.workerStep hg hs
  | dropWorker =>
    obtain ⟨-, hs⟩ := Option.ite_none_right_eq_some.1 hs
    cases hs
    obtain ⟨hhands, hpending⟩ := hg
    have hgaps := hhands ▸ h.gaps
    refine ⟨⟨hgaps.covered, hgaps.nodup, hgaps.drawn, hgaps.handed, fun _ => hpending, hgaps.refusals⟩, ?_, ?_⟩
    · exact nofun
    · exact nofun
  | suspend time | stop =>
    cases hs
    exact ⟨h.gaps, h.decoded, h.rejects⟩
  | advance i input =>
    obtain ⟨call, hcall, hs⟩ := Option.bind_eq_some_iff.1 hs
    exact h.callStep hcall hg hs

theorem delivered (h : s.Kept) : s.Delivered := by
  have hnodup := (List.nodup_append.1 (List.nodup_append.1 h.gaps.nodup).2.1).2.1
  refine ⟨hnodup, by simp [h.gaps.refusals], fun _ hexited range hrange => ?_⟩
  have hworker : s.worker = .exited := by
    unfold receiverOpen at hexited
    split at hexited
    · assumption
    · cases hexited
  have hcovered := h.gaps.covered range hrange
  rw [h.gaps.emptied (by rw [hworker]; rfl), hworker] at hcovered
  exact hcovered

end State.Kept

/-- As long as nothing hinders it, every gap is handed to the sink once and none is lost. -/
theorem gaps_delivered {trace : List (State × Input × Unit)} {s : State} (h : Run system State.Unhindered trace s) :
    s.Delivered := by
  have hkept : s.Kept := by
    refine h.invariant (P := State.Kept) ?_ fun s input _ s' hs hg hstep => hs.exec hg hstep
    rintro s ⟨target, queueCapacity, ledgerCapacity, rfl⟩
    exact .initial target queueCapacity ledgerCapacity
  exact hkept.delivered

def draw (byte : UInt8) : Draw := ⟨⟨someUuid byte⟩, ⟨5⟩⟩

/-- The surroundings do all that is asked of them, and give out this identifier. -/
def granted (byte : UInt8) : Input := .worker ⟨true, true, true, .stored, draw byte⟩

/-- The sink refuses the gap, and the decoder the frame. -/
def denied (byte : UInt8) : Input := .worker ⟨false, false, false, .error, draw byte⟩

/-- A call gets what it asks for. -/
def call (byte : UInt8) : Input := .advance 0 ⟨true, false, 0, draw byte⟩

/-- A frame comes into the queue. -/
def frame : List Input := [.reader .closed (draw 0), .reader (.frame ⟨1⟩) (draw 0), .reader .closed (draw 0)]

/-- The target is hidden. -/
def hide : List Input := [.visibility .unchanged (draw 0), .visibility (.hidden ⟨2⟩) (draw 0), .visibility .unchanged (draw 1)]

def started : State := start ⟨⟨someUuid 1⟩, ⟨someUuid 2⟩⟩ 4 4

theorem started_isInitial : started.IsInitial := ⟨_, _, _, rfl⟩

/-- The gap of a frame that cannot be decoded is handed to the sink twice, one that the sink refuses is lost, and so is one
that is declared when the worker has gone. -/
theorem gaps_lost :
    (∃ s, system.Reachable s ∧ ¬ s.gaps.handed.Nodup) ∧
      (∃ s, system.Reachable s ∧ ∃ refusal ∈ s.gaps.refusals, ∃ gap ∈ refusal.1, gap ∉ refusal.2) ∧
      ∃ s, system.Reachable s ∧ s.Ended ∧ s.receiverOpen = false ∧ ∃ range ∈ s.gaps.declared, ¬ Covered s.gaps.stored range := by
  refine ⟨?_, ?_, ?_⟩
  · exact exists_reachable State.IsInitial State.exec started started_isInitial
      (frame ++ [granted 0, granted 0, denied 0, granted 1, granted 0, granted 0, granted 0]) (fun s => ¬ s.gaps.handed.Nodup) (by decide)
  · obtain ⟨s, hs, refusal, hrefusal, hne, hempty⟩ := exists_reachable State.IsInitial State.exec started started_isInitial
      (hide ++ [.suspend ⟨3⟩, call 2, granted 0, granted 0, denied 0])
      (fun s => ∃ refusal ∈ s.gaps.refusals, refusal.1.length = 1 ∧ refusal.2.length = 0) (by decide)
    obtain ⟨gap, hgap⟩ := List.exists_mem_of_length_pos (hne.symm ▸ Nat.one_pos)
    exact ⟨s, hs, refusal, hrefusal, gap, hgap, by simp [List.length_eq_zero_iff.1 hempty]⟩
  · obtain ⟨s, hs, hended, hexited, hdeclared, hstored⟩ := exists_reachable State.IsInitial State.exec started started_isInitial
      [.suspend ⟨3⟩, call 2, granted 0, granted 0, granted 0, call 2]
      (fun s => s.calls = [.suspended] ∧ s.receiverOpen = false ∧ s.gaps.declared.length = 1 ∧ s.gaps.stored.length = 0) (by decide)
    obtain ⟨range, hrange⟩ := List.exists_mem_of_length_pos (hdeclared.symm ▸ Nat.one_pos)
    refine ⟨s, hs, ⟨.suspended, by simp [hended], .inl rfl⟩, hexited, range, hrange, ?_⟩
    rintro ⟨gap, hgap, -⟩
    simp [List.length_eq_zero_iff.1 hstored] at hgap

/-- The sink and the decoder refuse nothing, and the parties do nothing after the worker's last look at the ledger. -/
def undisturbed (s : State) (input : Input) : Bool :=
  match input with
  | .worker input => input.accepted && input.decoded
  | .dropWorker => false
  | _ => !s.worker.finishing

theorem unhindered_of_undisturbed (s : State) (input : Input) (h : undisturbed s input = true) : s.Unhindered input := by
  have hturn (hfinishing : (!s.worker.finishing) = true) (time : SessionTime) (draw : Draw) : s.InTime time draw :=
    .inl (by simpa using hfinishing)
  unfold State.Unhindered
  cases input with
  | reader event draw | visibility event draw =>
    dsimp only
    split
    · exact hturn h _ _
    · trivial
  | advance i input =>
    dsimp only
    split
    · exact hturn h _ _
    · exact hturn h _ _
    · trivial
  | worker input =>
    obtain ⟨haccepted, hdecoded⟩ := Bool.and_eq_true_iff.1 h
    dsimp only
    split
    · exact haccepted
    · exact hdecoded
    · trivial
  | dropWorker => cases h
  | suspend time | stop => trivial

/-- The target is hidden, a frame is stored, and the stream is suspended. -/
theorem gaps_delivered_suspended : ∃ trace s, Run system State.Unhindered trace s ∧
    s.Ended ∧ s.receiverOpen = false ∧ s.gaps.stored.length = 2 ∧ s.Delivered := by
  obtain ⟨trace, s, hrun, hended, hexited, hstored⟩ := exists_run State.IsInitial State.exec started started_isInitial
    undisturbed unhindered_of_undisturbed
    (hide ++ frame ++ [granted 0, granted 0, granted 0, granted 0, granted 0, .suspend ⟨3⟩, call 2, call 2] ++
      [granted 0, granted 0, granted 0, granted 0])
    (fun s => s.calls = [.suspended] ∧ s.receiverOpen = false ∧ s.gaps.stored.length = 2) (by decide)
  exact ⟨trace, s, hrun, ⟨.suspended, by simp [hended], .inl rfl⟩, hexited, hstored, gaps_delivered hrun⟩

end Krometrail.CaptureGaps
