import Krometrail.Control.BatchOrder

/-!
# Runs of a batch

What the executed steps of a batch leave in its log, from one step to a whole run, and the batch with its skipped steps and
its observation.
-/

namespace Krometrail.Control

open Results Halting

namespace Ran

variable {b : BatchContext} {s s' : Execution × Bool} {items : List (BrowserOperationRequest × Nat)}
  {outputs : List BatchStepResult} {halted : Option Halt}

theorem readings_lt {item : BrowserOperationRequest × Nat} {step : BatchStepResult} (h : Ran b s item s' step halted) :
    s.1.readings < s'.1.readings := by
  obtain ⟨m, n, hm, hmn, hn, -⟩ := h.times
  omega

theorem performed_readings (h : Performed (Ran b) s items s' outputs halted) : s.1.readings ≤ s'.1.readings :=
  h.keeps (P := fun t => s.1.readings ≤ t.1.readings) (fun hran hle => hle.trans hran.readings_lt.le) le_rfl

theorem performed_times (h : Performed (Ran b) s items s' outputs halted) :
    ∀ step ∈ outputs, ∃ m n, s.1.readings ≤ m ∧ n < s'.1.readings ∧ step.startedAt = some (b.surroundings.clock m) ∧
      step.completedAt = some (b.surroundings.clock n) := by
  induction h with
  | nil => exact fun _ h => absurd h List.not_mem_nil
  | halt h =>
    intro step hstep
    obtain rfl := List.mem_singleton.1 hstep
    obtain ⟨m, n, hm, -, hn, hstart, hstop⟩ := h.times
    exact ⟨m, n, hm, hn, hstart, hstop⟩
  | cons h hrest ih =>
    refine List.forall_mem_cons.2 ⟨?_, fun step hstep => ?_⟩
    · obtain ⟨m, n, hm, -, hn, hstart, hstop⟩ := h.times
      exact ⟨m, n, hm, hn.trans_le (performed_readings hrest), hstart, hstop⟩
    · obtain ⟨m, n, hm, hn, hstart, hstop⟩ := ih step hstep
      exact ⟨m, n, h.readings_lt.le.trans hm, hn, hstart, hstop⟩

theorem performed_seen (h : Performed (Ran b) s items s' outputs halted) :
    s'.2 = (s.2 || outputs.any (·.status = .failed)) := by
  induction h with
  | nil => rw [List.any_nil, Bool.or_false]
  | halt h => rw [h.failed, List.any_cons, List.any_nil, Bool.or_false]
  | cons h _ ih => rw [ih, h.failed, List.any_cons, Bool.or_assoc]

theorem performed_halted (h : Performed (Ran b) s items s' outputs halted) (hhalted : halted ≠ none) :
    ∃ step ∈ outputs, step.status = .failed := by
  induction h with
  | nil => exact absurd rfl hhalted
  | halt h => exact ⟨_, List.mem_singleton_self _, h.halts hhalted⟩
  | cons _ _ ih =>
    obtain ⟨step, hstep, hfailed⟩ := ih hhalted
    exact ⟨step, List.mem_cons_of_mem _ hstep, hfailed⟩

end Ran

/-- The dispatch neither ends a batch nor, where a failure stops it, fails. -/
def Dispatched.Calm (policy : BatchFailurePolicy) (d : Dispatched) : Prop :=
  ¬ d.Ends ∧ (policy = .stopOnFailure → d.fails = false)

variable {policy : BatchFailurePolicy} {entries log : List Dispatched}

theorem calm_of_haltOf (h : haltOf policy entries = none) (hsound : ∀ e ∈ entries, e.Sound) : ∀ e ∈ entries, e.Calm policy := by
  unfold haltOf Halt.ofLoop at h
  split at h
  · cases h
  · rename_i hnone
    intro e he
    refine ⟨fun hends => (Dispatched.ends_iff (hsound e he)).1 hends (List.findSome?_eq_none_iff.1 hnone e he), ?_⟩
    rintro rfl
    have hquiet : (decide (BatchFailurePolicy.stopOnFailure = .stopOnFailure) && entries.any Dispatched.fails) = false := by
      by_contra hnot
      rw [if_pos (Bool.eq_true_of_not_eq_false hnot)] at h
      cases h
    exact Bool.eq_false_of_not_eq_true (List.any_eq_false.1 (by simpa using hquiet) e he)

theorem stopReason_of_haltOf {halt : Halt} (h : haltOf policy entries = some halt) :
    stopReason policy false entries = some halt.skipReason := by
  unfold haltOf Halt.ofLoop at h
  unfold stopReason
  cases hfind : entries.findSome? Dispatched.termination with
  | some termination =>
    rw [hfind] at h
    cases h
    rfl
  | none =>
    rw [hfind] at h
    simp only [Bool.false_eq_true, if_false]
    split_ifs at h with hstop
    cases h
    rw [Bool.and_eq_true, decide_eq_true_iff] at hstop
    rw [if_pos hstop]
    rfl

theorem stopReason_append {unresolved : Bool} (hcalm : ∀ e ∈ entries, e.Calm policy) (hsound : ∀ e ∈ entries, e.Sound) :
    stopReason policy unresolved (entries ++ log) = stopReason policy unresolved log := by
  have hnone : entries.findSome? Dispatched.termination = none :=
    List.findSome?_eq_none_iff.2 fun e he => not_not.1 fun hne => (hcalm e he).1 ((Dispatched.ends_iff (hsound e he)).2 hne)
  have hquiet : policy = .stopOnFailure ∧ (entries ++ log).any Dispatched.fails ↔
      policy = .stopOnFailure ∧ log.any Dispatched.fails := by
    refine and_congr_right fun hpolicy => ?_
    have hany : entries.any Dispatched.fails = false :=
      List.any_eq_false.2 fun e he => by rw [(hcalm e he).2 hpolicy]; exact Bool.false_ne_true
    rw [List.any_append, hany, Bool.false_or]
  unfold stopReason
  rw [List.findSome?_append, hnone, Option.none_or]
  simp only [hquiet]

theorem noChildAfterEnd_step {d : Dispatched} {tail : List Dispatched} (htail : ∀ e ∈ tail, e.purpose = .screenshot) :
    NoChildAfterEnd policy (d :: tail) := by
  have hlater : ∀ e ∈ tail, ¬ e.purpose = .child := fun e he h => nomatch (htail e he).symm.trans h
  refine List.pairwise_cons.2 ⟨fun e he h => absurd h (hlater e he), List.pairwise_of_forall_mem_list ?_⟩
  exact fun _ _ e he h => absurd h (hlater e he)

theorem children_step {d : Dispatched} {tail : List Dispatched} (hpurpose : d.purpose = .child)
    (htail : ∀ e ∈ tail, e.purpose = .screenshot) : children (d :: tail) = [d] := by
  have hnone : children tail = [] := by
    refine List.filter_eq_nil_iff.2 fun e he => ?_
    simp [htail e he]
  rw [children, List.filter_cons_of_pos (by simp [hpurpose])]
  exact congrArg _ hnone

/-- The dispatches of a run: the children in the order of their steps, none after the end of the run, and the reason for
which it has halted. -/
structure RunLog (policy : BatchFailurePolicy) (items : List (BrowserOperationRequest × Nat)) (outputs : List BatchStepResult)
    (halted : Option Halt) (log : List Dispatched) (count : Nat) : Prop where
  le : count ≤ items.length
  ge : items.length ≤ count + 1
  requests : (children log).map (·.request) = (items.take count).map (·.1)
  results : (children log).map Dispatched.result = (outputs.take count).map (·.result)
  order : NoChildAfterEnd policy log
  calm : halted = none → ∀ e ∈ log, e.Calm policy
  reason : ∀ halt, halted = some halt → stopReason policy (count < items.length) log = some halt.skipReason

theorem performed_log {b : BatchContext} {s s' : Execution × Bool} {items : List (BrowserOperationRequest × Nat)}
    {outputs : List BatchStepResult} {halted : Option Halt} (h : Performed (Ran b) s items s' outputs halted) :
    ∃ log count, s'.1.log = s.1.log ++ log ∧ RunLog b.options.failurePolicy items outputs halted log count := by
  induction h with
  | nil s =>
    refine ⟨[], 0, (List.append_nil _).symm, le_rfl, Nat.zero_le _, rfl, rfl, .nil, ?_, ?_⟩
    · exact fun _ e he => absurd he List.not_mem_nil
    · exact nofun
  | halt h =>
    obtain ⟨entries, hlog, hentries⟩ := h.log
    generalize hr : (some _ : Option Halt) = halted at hentries
    cases hentries with
    | unresolved hresult =>
      refine ⟨[], 0, hlog, Nat.zero_le _, le_rfl, rfl, rfl, .nil, ?_, ?_⟩
      · exact fun _ e he => absurd he List.not_mem_nil
      · rintro halt hhalt
        cases hhalt
        rfl
    | dispatched hpurpose hrequest hresult htail hsound =>
      refine ⟨_, 1, hlog, le_rfl, Nat.le_succ _, ?_, ?_, noChildAfterEnd_step htail, ?_, ?_⟩
      · rw [children_step hpurpose htail]
        exact congrArg (· :: []) hrequest
      · rw [children_step hpurpose htail]
        exact congrArg (· :: []) hresult.symm
      · exact fun hnone => nomatch hr.trans hnone
      · intro halt hhalt
        exact stopReason_of_haltOf hhalt
  | @cons s s₁ s' item step items outputs halted h hrest ih =>
    obtain ⟨log, count, hlog, hrun⟩ := ih
    obtain ⟨entries, hfirst, hentries⟩ := h.log
    generalize hr : (none : Option Halt) = halted' at hentries
    cases hentries with
    | unresolved => cases hr
    | @dispatched d tail _ hpurpose hrequest hresult htail hsound =>
      have hcalm := calm_of_haltOf hr.symm hsound
      have hchildren : children (d :: tail ++ log) = d :: children log := by
        rw [children, List.filter_append]
        exact congrArg (· ++ _) (children_step hpurpose htail)
      refine ⟨d :: tail ++ log, count + 1, ?_, Nat.succ_le_succ hrun.le, Nat.succ_le_succ hrun.ge, ?_, ?_, ?_, ?_, ?_⟩
      · rw [hlog, hfirst, List.append_assoc]
      · rw [hchildren, List.map_cons, hrequest, hrun.requests]
        rfl
      · rw [hchildren, List.map_cons, ← hresult, hrun.results]
        rfl
      · exact List.pairwise_append.2 ⟨noChildAfterEnd_step htail, hrun.order, fun e he _ _ _ => hcalm e he⟩
      · intro hnone e he
        exact (List.mem_append.1 he).elim (hcalm e) (hrun.calm hnone e)
      · intro halt hhalt
        rw [stopReason_append hcalm hsound, List.length_cons]
        simp only [Nat.add_lt_add_iff_right]
        exact hrun.reason halt hhalt

theorem batchOutcome_eq_completed {termination : Option BatchTermination} {stopped seen : Bool}
    {observation : ObservationPart LiveObservation} :
    batchOutcome termination stopped seen observation = .completed ↔
      termination = none ∧ stopped = false ∧ seen = false ∧ CompleteObservation observation := by
  rw [completeObservation_iff]
  unfold batchOutcome
  cases termination with
  | some termination => cases termination <;> simp [BatchTermination.outcome]
  | none =>
    cases stopped <;> cases seen <;> cases finalObservationDegraded observation <;> simp

namespace BatchContext

variable {b : BatchContext}

theorem takeObservation_eq (s : Execution) : ∃ observation termination,
    b.takeObservation s = .ok (observation, termination, (b.dispatchBounded .observation b.observationRequest s).2) ∧
      (CompleteObservation observation → termination = none) := by
  have hresult : ∀ result, (b.dispatchBounded .observation b.observationRequest s).1.outcome = .completed (.ok result) →
      result.BelongsTo b.targetId .observeLive := fun result =>
    dispatchBounded_result .observation result (.inr rfl) id_of_resolveSelection
  have hunavailable : ∀ (error : KrometrailError) (termination : Option BatchTermination),
      CompleteObservation (.unavailable error) → termination = none := fun _ _ h => False.elim h
  unfold takeObservation
  dsimp only
  revert hresult
  generalize (b.dispatchBounded .observation b.observationRequest s).1.outcome = outcome
  intro hresult
  rcases outcome with (error | result) | error | _
  · exact ⟨_, _, rfl, hunavailable _ _⟩
  · obtain ⟨hkind, -⟩ := hresult result rfl
    cases result with
    | observeLive value => exact ⟨_, _, rfl, fun _ => rfl⟩
    | _ => cases hkind
  · exact ⟨_, _, rfl, hunavailable _ _⟩
  · exact ⟨_, _, rfl, hunavailable _ _⟩

/-- What the end of a batch makes of it: the log gets no dispatch for a step, and a termination of the loop stays. -/
theorem finalObservation_eq (s : LoopState) : ∃ observation termination execution tail,
    b.finalObservation s = .ok (observation, termination, execution) ∧ execution.log = s.execution.log ++ tail ∧
      s.execution.readings ≤ execution.readings ∧ (∀ e ∈ tail, e.purpose = .observation) ∧
      (termination = none → s.termination = none) ∧ (CompleteObservation observation → s.termination = none → termination = none) := by
  have hnothing : ∀ e ∈ ([] : List Dispatched), e.purpose = .observation := fun _ h => absurd h List.not_mem_nil
  unfold finalObservation
  cases s.termination with
  | some reason => exact ⟨_, _, _, [], rfl, (List.append_nil _).symm, le_rfl, hnothing, id, fun _ h => h⟩
  | none =>
    dsimp only
    split
    · exact ⟨_, _, _, [], rfl, (List.append_nil _).symm, le_rfl, hnothing, fun _ => rfl, fun h _ => False.elim h⟩
    · obtain ⟨observation, termination, htaken, hcomplete⟩ := takeObservation_eq (b := b) s.execution
      refine ⟨observation, termination, (b.dispatchBounded .observation b.observationRequest s.execution).2,
        [(b.dispatchBounded .observation b.observationRequest s.execution).1], htaken, rfl, b.dispatchBounded_readings _ _ _, ?_,
        fun _ => rfl, fun h _ => hcomplete h⟩
      intro e he
      obtain rfl := List.mem_singleton.1 he
      rfl

end BatchContext

theorem observations_append (policy : BatchFailurePolicy) (log : List Dispatched) {tail : List Dispatched} (htail : ∀ e ∈ tail, e.purpose = .observation) :
    children (log ++ tail) = children log ∧
      (∀ unresolved, stopReason policy unresolved (log ++ tail) = stopReason policy unresolved log) ∧
      (NoChildAfterEnd policy log → NoChildAfterEnd policy (log ++ tail)) := by
  have hlater : ∀ e ∈ tail, ¬ e.purpose = .child := fun e he h => nomatch (htail e he).symm.trans h
  have hchildren : children tail = [] := List.filter_eq_nil_iff.2 fun e he => by simp [htail e he]
  have hnone : tail.findSome? Dispatched.termination = none :=
    List.findSome?_eq_none_iff.2 fun e he => by simp [Dispatched.termination, htail e he]
  have hquiet : tail.any Dispatched.fails = false :=
    List.any_eq_false.2 fun e he => by simp [Dispatched.fails, htail e he]
  refine ⟨?_, fun unresolved => ?_, fun h => ?_⟩
  · rw [children, List.filter_append]
    exact (congrArg _ hchildren).trans (List.append_nil _)
  · unfold stopReason
    rw [List.findSome?_append, hnone, Option.or_none, List.any_append, hquiet, Bool.or_false]
  · refine List.pairwise_append.2 ⟨h, List.pairwise_of_forall_mem_list ?_, fun _ _ e he h => absurd h (hlater e he)⟩
    exact fun _ _ e he h => absurd h (hlater e he)

/-! ### A batch -/

theorem loop_eq {b : BatchContext} (hclock : Monotone b.surroundings.clock) (request : BatchRequest) (execution : Execution) :
    ∃ done rest outputs s' halted loop, request.steps.zipIdx = done ++ rest ∧
      Performed (Ran b) (execution, false) done s' outputs halted ∧
      request.steps.zipIdx.foldlM b.loopTurn ⟨execution, [], none, false, false⟩ = .ok loop ∧
      (loop.execution, loop.failureSeen) = s' ∧ Halt.ofLoop loop.termination loop.stoppedOnFailure = halted ∧
      (rest = [] ∧ loop.steps = outputs ∨
        ∃ halt, halted = some halt ∧ loop.steps = outputs ++ rest.map (b.skippedEntry halt)) := by
  have hitem : ∀ item ∈ request.steps.zipIdx, item.2 < 2 ^ 32 ∧ item.1.kind.batchable = true := by
    intro item hitem
    have hlt := List.snd_lt_of_mem_zipIdx hitem
    have hcount := request.steps_le
    unfold maxBatchSteps at hcount
    exact ⟨by omega, request.admitted _ (List.fst_mem_of_mem_zipIdx hitem)⟩
  have hperform : ∀ s, ∀ item ∈ request.steps.zipIdx, True →
      ∃ s' step halted, b.perform s item = .ok (s', step, halted) ∧ Ran b s item s' step halted ∧ True := by
    intro s item hmem _
    obtain ⟨s', step, halted, hrun, hran⟩ := BatchContext.perform_ran (s := s) hclock (hitem item hmem).1 (hitem item hmem).2
    exact ⟨s', step, halted, hrun, hran, trivial⟩
  have hskip : ∀ halt : Halt, ∀ item ∈ request.steps.zipIdx,
      b.skippedStep item.2 item.1.kind halt.skipReason = .ok (b.skippedEntry halt item) :=
    fun halt item hmem => BatchContext.skippedStep_eq halt (hitem item hmem).1
  obtain ⟨done, rest, s', outputs, halted, hsplit, hperformed, tail, hpass, htail⟩ :=
    pass_eq (s := (execution, false)) hperform hskip [] trivial
  rw [List.nil_append] at hpass
  have hview := foldlM_view b.loopTurn_progress request.steps.zipIdx ⟨execution, [], none, false, false⟩
  have hpass' := hview.trans hpass
  cases hloop : request.steps.zipIdx.foldlM b.loopTurn ⟨execution, [], none, false, false⟩ with
  | error e =>
    rw [hloop] at hpass'
    cases hpass'
  | ok loop =>
    rw [hloop] at hpass'
    have heq : loop.progress = ⟨s', halted, outputs ++ tail⟩ := Except.ok.inj hpass'
    refine ⟨done, rest, outputs, s', halted, loop, hsplit, hperformed, rfl, congrArg Progress.inner heq,
      congrArg Progress.halted heq, ?_⟩
    have hsteps : loop.steps = outputs ++ tail := congrArg Progress.outputs heq
    rcases htail with ⟨hrest, rfl⟩ | ⟨halt, hhalt, rfl⟩
    · exact .inl ⟨hrest, hsteps.trans (List.append_nil _)⟩
    · exact .inr ⟨halt, hhalt, hsteps⟩

namespace Ran

variable {b : BatchContext} {s s' : Execution × Bool} {items : List (BrowserOperationRequest × Nat)}
  {outputs : List BatchStepResult} {halted : Option Halt}

theorem performed_places (h : Performed (Ran b) s items s' outputs halted) :
    List.Forall₂ (fun item step => step.index = item.2 ∧ step.operation = item.1.kind ∧ step.targetId = b.targetId ∧
      step.status ≠ .skipped) items outputs :=
  h.forall₂ (P := fun _ => True) (fun _ _ => trivial)
    (fun hran _ => ⟨hran.place.1, hran.place.2.1, hran.place.2.2, hran.status⟩) trivial

theorem performed_status (h : Performed (Ran b) s items s' outputs halted) : ∀ step ∈ outputs, step.status ≠ .skipped := by
  have hplaces := performed_places h
  clear h
  induction hplaces with
  | nil => exact fun _ h => absurd h List.not_mem_nil
  | cons h _ ih => exact List.forall_mem_cons.2 ⟨h.2.2.2, ih⟩

end Ran

/-- The place of an entry: its index, its operation and its page. -/
def BatchStepResult.place (step : BatchStepResult) : Nat × BrowserOperationKind × TargetId :=
  (step.index, step.operation, step.targetId)

/-- The places that the entries of a batch take. -/
def places (targetId : TargetId) (items : List (BrowserOperationRequest × Nat)) : List (Nat × BrowserOperationKind × TargetId) :=
  items.map fun item => (item.2, item.1.kind, targetId)

theorem map_place_eq {b : BatchContext} {items : List (BrowserOperationRequest × Nat)} {outputs : List BatchStepResult}
    (h : List.Forall₂ (fun item step => step.index = item.2 ∧ step.operation = item.1.kind ∧ step.targetId = b.targetId ∧
      step.status ≠ .skipped) items outputs) :
    outputs.map BatchStepResult.place = places b.targetId items := by
  induction h with
  | nil => rfl
  | cons h _ ih =>
    obtain ⟨hindex, hoperation, htarget, -⟩ := h
    rw [List.map_cons, ih, BatchStepResult.place, hindex, hoperation, htarget]
    rfl

theorem index_of_places {steps : List BatchStepResult} {children : List BrowserOperationRequest} {targetId : TargetId}
    (h : steps.map BatchStepResult.place = places targetId children.zipIdx) :
    (∀ item ∈ steps.zipIdx, item.1.index = item.2) ∧ ∀ step ∈ steps, step.targetId = targetId := by
  refine ⟨fun item hitem => ?_, fun step hstep => ?_⟩
  · have hplace := congrArg (·[item.2]?) h
    simp only [places, List.getElem?_map, List.mem_zipIdx_iff_getElem?.1 hitem, List.getElem?_zipIdx, Option.map_some,
      Option.map_map, Nat.zero_add] at hplace
    obtain ⟨child, -, heq⟩ := Option.map_eq_some_iff.1 hplace.symm
    exact (congrArg Prod.fst heq).symm
  · have hplace := h ▸ List.mem_map_of_mem (f := BatchStepResult.place) hstep
    obtain ⟨item, -, heq⟩ := List.mem_map.1 hplace
    exact (congrArg (·.2.2) heq).symm

/-- What the loop of a batch leaves behind, with the dispatches in its log: an entry in each place, the executed steps first
and each dispatched child with its own result, then the skipped steps with the reason for which the run stopped. -/
structure LoopRun (b : BatchContext) (request : BatchRequest) (execution : Execution) (loop : LoopState)
    (log : List Dispatched) : Prop where
  log_eq : loop.execution.log = execution.log ++ log
  places : loop.steps.map BatchStepResult.place = places b.targetId request.steps.zipIdx
  started : ∀ step ∈ loop.steps, ∀ value ∈ step.startedAt, ∃ m, execution.readings ≤ m ∧ value = b.surroundings.clock m
  completed : ∀ step ∈ loop.steps, ∀ value ∈ step.completedAt,
    ∃ n, n < loop.execution.readings ∧ value = b.surroundings.clock n
  steps : ∃ executed dispatched, dispatched ≤ executed ∧ executed ≤ dispatched + 1 ∧ executed ≤ request.steps.length ∧
    (children log).map (·.request) = request.steps.take dispatched ∧
    (children log).map Dispatched.result = (loop.steps.take dispatched).map (·.result) ∧
    (∀ step ∈ loop.steps.take executed, step.status ≠ .skipped) ∧
    (executed < request.steps.length → ∃ reason,
      stopReason b.options.failurePolicy (dispatched < executed) log = some reason ∧
      ∀ step ∈ loop.steps.drop executed, step.status = .skipped ∧ step.skipReason = some reason)
  order : NoChildAfterEnd b.options.failurePolicy log
  succeeded : (∀ step ∈ loop.steps, step.status = .succeeded) ↔
    loop.termination = none ∧ loop.stoppedOnFailure = false ∧ loop.failureSeen = false

theorem Halt.ofLoop_eq_none {termination : Option BatchTermination} {stopped : Bool} :
    Halt.ofLoop termination stopped = none ↔ termination = none ∧ stopped = false := by
  cases termination <;> cases stopped <;> simp [Halt.ofLoop]

theorem loop_run {b : BatchContext} (hclock : Monotone b.surroundings.clock) (request : BatchRequest) (execution : Execution) :
    ∃ loop log, request.steps.zipIdx.foldlM b.loopTurn ⟨execution, [], none, false, false⟩ = .ok loop ∧
      LoopRun b request execution loop log := by
  obtain ⟨done, rest, outputs, s', halted, loop, hsplit, hperformed, hloop, rfl, hhalted, hsteps⟩ :=
    loop_eq hclock request execution
  obtain ⟨log, count, hlog, hrun⟩ := performed_log hperformed
  obtain ⟨skips, hskips, hshape⟩ : ∃ skips, loop.steps = outputs ++ skips ∧
      (rest = [] ∧ skips = [] ∨ ∃ halt, halted = some halt ∧ skips = rest.map (b.skippedEntry halt)) := by
    rcases hsteps with ⟨hrest, hsteps⟩ | ⟨halt, hhalt, hsteps⟩
    · exact ⟨[], hsteps.trans (List.append_nil _).symm, .inl ⟨hrest, rfl⟩⟩
    · exact ⟨_, hsteps, .inr ⟨halt, hhalt, rfl⟩⟩
  have hskipped : ∀ step ∈ skips, ∃ halt item, halted = some halt ∧ step = b.skippedEntry halt item := by
    intro step hstep
    rcases hshape with ⟨-, rfl⟩ | ⟨halt, hhalt, rfl⟩
    · exact absurd hstep List.not_mem_nil
    · obtain ⟨item, -, rfl⟩ := List.mem_map.1 hstep
      exact ⟨halt, item, hhalt, rfl⟩
  have hlength : outputs.length = done.length := hperformed.length_eq
  have hcount : done.length + rest.length = request.steps.length := by
    rw [← List.length_append, ← hsplit, List.length_zipIdx]
  have htimes := Ran.performed_times hperformed
  refine ⟨loop, log, hloop, hlog, ?_, ?_, ?_, ⟨done.length, count, hrun.le, hrun.ge, by omega, ?_, ?_, ?_, ?_⟩, hrun.order, ?_⟩
  · have hrest : skips.map BatchStepResult.place = places b.targetId rest := by
      rcases hshape with ⟨rfl, rfl⟩ | ⟨halt, -, rfl⟩
      · rfl
      · rw [List.map_map]
        rfl
    rw [hskips, hsplit, List.map_append, map_place_eq (Ran.performed_places hperformed), hrest]
    exact List.map_append.symm
  · intro step hstep value hvalue
    rcases List.mem_append.1 (hskips ▸ hstep) with hstep | hstep
    · obtain ⟨m, n, hm, -, hstart, -⟩ := htimes step hstep
      exact ⟨m, hm, Option.some.inj (hvalue.symm.trans hstart)⟩
    · obtain ⟨halt, item, -, rfl⟩ := hskipped step hstep
      exact absurd hvalue (Option.not_mem_none _)
  · intro step hstep value hvalue
    rcases List.mem_append.1 (hskips ▸ hstep) with hstep | hstep
    · obtain ⟨m, n, -, hn, -, hstop⟩ := htimes step hstep
      exact ⟨n, hn, Option.some.inj (hvalue.symm.trans hstop)⟩
    · obtain ⟨halt, item, -, rfl⟩ := hskipped step hstep
      exact absurd hvalue (Option.not_mem_none _)
  · have htake : request.steps.take count = (done.take count).map (·.1) := by
      have hfst := congrArg (List.map Prod.fst) hsplit
      rw [List.zipIdx_map_fst] at hfst
      rw [hfst, List.map_append, List.take_append_of_le_length (by rw [List.length_map]; exact hrun.le), List.map_take]
    rw [hrun.requests, htake]
  · rw [hskips, List.take_append_of_le_length (hlength ▸ hrun.le)]
    exact hrun.results
  · rw [hskips, ← hlength, List.take_left]
    exact Ran.performed_status hperformed
  · intro hlt
    rw [hskips, ← hlength, List.drop_left]
    rcases hshape with ⟨rfl, -⟩ | ⟨halt, hhalt, rfl⟩
    · simp at hcount
      omega
    · refine ⟨halt.skipReason, hlength ▸ hrun.reason halt hhalt, ?_⟩
      intro step hstep
      obtain ⟨item, -, rfl⟩ := List.mem_map.1 hstep
      exact ⟨rfl, rfl⟩
  · have hseen : loop.failureSeen = outputs.any (·.status = .failed) :=
      (Ran.performed_seen hperformed).trans (Bool.false_or _)
    rw [← and_assoc, ← Halt.ofLoop_eq_none, hhalted, hseen]
    constructor
    · intro hall
      have hnone : ∀ step ∈ outputs, step.status ≠ .failed := fun step hstep hfailed =>
        nomatch (hall step (hskips ▸ List.mem_append_left _ hstep)).symm.trans hfailed
      refine ⟨by_contra fun hhalted => ?_, List.any_eq_false.2 fun step hstep => by simpa using hnone step hstep⟩
      obtain ⟨step, hstep, hfailed⟩ := Ran.performed_halted hperformed hhalted
      exact hnone step hstep hfailed
    · rintro ⟨rfl, hany⟩ step hstep
      rcases List.mem_append.1 (hskips ▸ hstep) with hstep | hstep
      · have hfailed : step.status ≠ .failed := by simpa using List.any_eq_false.1 hany step hstep
        cases hstatus : step.status with
        | succeeded => rfl
        | failed => exact absurd hstatus hfailed
        | skipped => exact absurd hstatus (Ran.performed_status hperformed step hstep)
      · obtain ⟨halt, item, hhalt, -⟩ := hskipped step hstep
        cases hhalt

/-- A batch whose page is bound returns its result: an entry for each step in its place; the steps executed first, each
dispatched child with its own result in its entry, and then the skipped ones, with the reason for which the run stopped; no
child dispatched after the end of the run; completed just when every step succeeded and the observation is complete. -/
theorem executeBatch_in_order (surroundings : Surroundings) (hclock : Monotone surroundings.clock)
    (parentDeadline : Option Nat) (state : SupervisorState) (request : BatchRequest) :
    (∃ error, bindTarget state request.target = .error error ∧
      executeBatch surroundings parentDeadline state request = .error error) ∨
    ∃ bound result log, bindTarget state request.target = .ok bound ∧
      executeBatch surroundings parentDeadline state request = .ok (result, log) ∧
      result.steps.map BatchStepResult.place = places bound.targetId request.steps.zipIdx ∧
      (∃ executed dispatched, dispatched ≤ executed ∧ executed ≤ dispatched + 1 ∧ executed ≤ request.steps.length ∧
        (children log).map (·.request) = request.steps.take dispatched ∧
        (children log).map Dispatched.result = (result.steps.take dispatched).map (·.result) ∧
        (∀ step ∈ result.steps.take executed, step.status ≠ .skipped) ∧
        (executed < request.steps.length → ∃ reason,
          stopReason request.options.failurePolicy (dispatched < executed) log = some reason ∧
          ∀ step ∈ result.steps.drop executed, step.status = .skipped ∧ step.skipReason = some reason)) ∧
      NoChildAfterEnd request.options.failurePolicy log ∧
      (result.outcome = .completed ↔
        (∀ step ∈ result.steps, step.status = .succeeded) ∧ CompleteObservation result.finalObservation) := by
  cases hbound : bindTarget state request.target with
  | error error => exact .inl ⟨error, rfl, by simp only [executeBatch, hbound]; rfl⟩
  | ok bound =>
    let b : BatchContext := ⟨surroundings, request.options, bound.targetId, state.connectionGeneration,
      parentDeadline.elim (surroundings.began + request.timeout) (min · (surroundings.began + request.timeout))⟩
    obtain ⟨loop, log, hloop, hrun⟩ := loop_run (b := b) hclock request ⟨1, [], state⟩
    obtain ⟨observation, termination, execution, tail, hfinal, hfinallog, hreadings, htail, hterminated, hcomplete⟩ :=
      BatchContext.finalObservation_eq (b := b) loop
    obtain ⟨hchildren, hreason, horder⟩ := observations_append request.options.failurePolicy log htail
    have hlog : execution.log = log ++ tail := by
      rw [hfinallog, hrun.log_eq]
      rfl
    have hplaces : loop.steps.map BatchStepResult.place = places bound.targetId request.steps.zipIdx := hrun.places
    obtain ⟨hindex, htarget⟩ := index_of_places hplaces
    have hlength : loop.steps.length = request.steps.length := by
      have h := congrArg List.length hplaces
      rwa [List.length_map, places, List.length_map, List.length_zipIdx] at h
    have hnil : loop.steps ≠ [] := fun h => request.steps_ne_nil (List.length_eq_zero_iff.1 (hlength ▸ h ▸ rfl))
    have hstarted : ∀ step ∈ loop.steps, ∀ value ∈ step.startedAt, surroundings.clock 0 ≤ value := by
      intro step hstep value hvalue
      obtain ⟨m, -, rfl⟩ := hrun.started step hstep value hvalue
      exact hclock (Nat.zero_le m)
    have hcompleted : ∀ step ∈ loop.steps, ∀ value ∈ step.completedAt, value ≤ surroundings.clock execution.readings := by
      intro step hstep value hvalue
      obtain ⟨n, hn, rfl⟩ := hrun.completed step hstep value hvalue
      exact hclock (hn.le.trans hreadings)
    refine .inr ⟨bound, ⟨surroundings.batchId, bound.targetId, surroundings.clock 0, surroundings.clock execution.readings,
      batchOutcome termination loop.stoppedOnFailure loop.failureSeen observation, loop.steps, observation⟩, log ++ tail, rfl,
      ?_, hplaces, ?_, horder hrun.order, ?_⟩
    · simp only [executeBatch, hbound, ok_bind, BatchContext.sessionTime]
      simp only [b] at hloop hfinal
      rw [hloop, ok_bind, hfinal, ok_bind]
      simp only [batchResult_new (hclock (Nat.zero_le execution.readings)) hnil (hlength.trans_le request.steps_le) hindex
        htarget hstarted hcompleted, hlog]
      rfl
    · rw [hchildren]
      simp only [hreason]
      exact hrun.steps
    · rw [batchOutcome_eq_completed, hrun.succeeded]
      constructor
      · rintro ⟨htermination, hstopped, hseen, hobservation⟩
        exact ⟨⟨hterminated htermination, hstopped, hseen⟩, hobservation⟩
      · rintro ⟨⟨htermination, hstopped, hseen⟩, hobservation⟩
        exact ⟨hcomplete hobservation htermination, hstopped, hseen, hobservation⟩

def openPageId : TargetId := ⟨someUuid 7⟩

theorem isBlank_page : isBlank "page" = false := by decide

def openPage : SupervisorTargetState where
  target :=
    { target := ⟨openPageId, "page", "about:blank", "", isBlank_page, by decide⟩
      lifecycle := .attached
      visibility := .visible
      attachmentGeneration := 1 }
  transportSession := some ⟨"session", by decide⟩
  priorToSuspension := none
  captureBinding := .inactive
  viewportOverride := none
  pageSequence := ⟨1, by decide⟩
  openerTargetKey := none
  openerTargetId := none
  lastVisibilityObservedAt := none

def openBrowser : SupervisorState :=
  { SupervisorState.new ⟨⟨"Chrome", "128", "revision", "1.3", "Chrome/128", "12"⟩, []⟩ with
    sessionState := .ready
    targetsByKey := (∅ : TargetTable).insert "page" openPage
    selectedTargetKey := some "page" }

theorem bindTarget_openBrowser : bindTarget openBrowser .selected = .ok ⟨openPageId, 1⟩ := by
  have hselected : openBrowser.selectedTargetKey.bind (openBrowser.targetsByKey[·]?) = some openPage :=
    Std.ExtTreeMap.getElem?_insert_self
  have htarget : selectedTarget openBrowser = some openPage := by
    rw [selectedTarget, hselected]
    rfl
  simp only [bindTarget, resolveSelection, htarget]
  rfl

/-- Every dispatch meets a page that answers at once. -/
def answering : Surroundings :=
  let id : Uuid := ⟨List.replicate 16 9, rfl⟩
  let live : LiveObservation := ⟨⟨⟨id⟩, openPageId, 1, ⟨5⟩, ⟨5⟩⟩, .available ⟨"about:blank", ""⟩,
    .unavailable waitTimeoutError, .available ⟨[]⟩⟩
  { batchId := ⟨id⟩
    clock := fun _ => ⟨5⟩
    began := 0
    meeting := fun _ => ⟨⟨false, false, 0⟩, 0,
      ⟨none, ⟨id⟩, ⟨id⟩, ⟨5⟩, ⟨5⟩, ⟨5⟩, .succeeded .navigated, .available live, live, ⟨[]⟩, .satisfied ⟨5⟩, .ok .batch⟩,
      2, openBrowser, 0⟩
    stepsDone := 0 }

def clickThenWait : BatchRequest where
  target := .selected
  steps := [⟨.click, .selected, []⟩, ⟨.wait, .selected, []⟩]
  timeout := 1000000
  options := ⟨.stopOnFailure, true⟩
  steps_ne_nil := by decide
  steps_le := by decide
  admitted := by decide

theorem executeBatch_in_order_answering : ∃ result log,
    executeBatch answering none openBrowser clickThenWait = .ok (result, log) ∧
      result.steps.map BatchStepResult.place = [(0, .click, openPageId), (1, .wait, openPageId)] ∧
      NoChildAfterEnd .stopOnFailure log := by
  rcases executeBatch_in_order answering monotone_const none openBrowser clickThenWait with
    ⟨error, herror, -⟩ | ⟨bound, result, log, hbound, hresult, hplaces, -, horder, -⟩
  · cases bindTarget_openBrowser.symm.trans herror
  · obtain rfl := Except.ok.inj (bindTarget_openBrowser.symm.trans hbound)
    exact ⟨result, log, hresult, hplaces, horder⟩

end Krometrail.Control
