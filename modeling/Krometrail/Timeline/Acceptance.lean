import Krometrail.Timeline.Resolution

/-!
# Range resolution is sound

A resolved range lies in the requested one and meets no evicted range, its warnings say whether it is partial, it has all
the frames of the requested range, and its constructor accepts it.
-/

namespace Krometrail

variable {seed : RangeSeed} {frames : List CapturedFrame} {hframes : frames ≠ []} {availability : FrameAvailability}
  {options : RangeResolutionOptions} {sessionNow : Option SessionTime} {resolved requested candidate retained : SessionRange}
  {warnings : List RetentionWarning} {answers : PortAnswers} {evictedRanges intersecting : List SessionRange}

/-! ### Retention -/

theorem mem_evictedInside {range : SessionRange} :
    range ∈ evictedInside evictedRanges requested ↔
      ∃ evicted ∈ evictedRanges, ∃ h : rangesIntersect evicted requested, intersection evicted requested h = range := by
  unfold evictedInside
  rw [List.mem_filterMap]
  refine exists_congr fun evicted => and_congr_right fun _ => ?_
  split
  · rename_i h
    simp [h]
  · rename_i h
    simp [h]

theorem exists_mem_evictedInside {time : SessionTime} :
    (∃ range ∈ evictedInside evictedRanges requested, time ∈ range) ↔
      time ∈ requested ∧ ∃ evicted ∈ evictedRanges, time ∈ evicted := by
  constructor
  · rintro ⟨range, hrange, htime⟩
    obtain ⟨evicted, hevicted, h, rfl⟩ := mem_evictedInside.1 hrange
    obtain ⟨hin, hreq⟩ := mem_intersection.1 htime
    exact ⟨hreq, evicted, hevicted, hin⟩
  · rintro ⟨hreq, evicted, hevicted, hin⟩
    have h := rangesIntersect_iff.2 ⟨time, hin, hreq⟩
    exact ⟨intersection evicted requested h, mem_evictedInside.2 ⟨evicted, hevicted, h, rfl⟩, mem_intersection.2 ⟨hin, hreq⟩⟩

theorem clampToRetained_eq_ok {error : KrometrailError}
    (h : clampToRetained candidate retained options error = .ok resolved) :
    (resolved = candidate ∧ retained.fst ≤ candidate.fst ∧ candidate.snd ≤ retained.snd) ∨
      options.retention = .allowPartial ∧ ∃ hboth, resolved = intersection candidate retained hboth := by
  unfold clampToRetained at h
  split at h
  · rw [okOr_eq_ok] at h
    unfold clampPartialRange at h
    split at h
    · rename_i hclipped
      exact .inr ⟨hclipped.1, hclipped.2, (Option.some.inj h).symm⟩
    · cases h
  · rename_i hinside
    push Not at hinside
    exact .inl ⟨(Except.ok.inj h).symm, hinside⟩

theorem classifyRetention_eq_ok
    (h : classifyRetention seed frames hframes availability options sessionNow = .ok (resolved, warnings)) :
    ∃ retained candidate, availability.retainedBounds = some retained ∧
      (options.retention = .requireComplete → evictedInside availability.evictedRanges seed.requestedRange = []) ∧
      (∀ range ∈ evictedInside availability.evictedRanges seed.requestedRange,
        seed.requestedRange.fst ∈ range ∨ seed.requestedRange.snd ∈ range) ∧
      candidate.fst = (if ∃ range ∈ evictedInside availability.evictedRanges seed.requestedRange,
        seed.requestedRange.fst ∈ range then (frames.head hframes).sessionTime else seed.requestedRange.fst) ∧
      candidate.snd = (if ∃ range ∈ evictedInside availability.evictedRanges seed.requestedRange,
        seed.requestedRange.snd ∈ range then (frames.getLast hframes).sessionTime else seed.requestedRange.snd) ∧
      (resolved = candidate ∧ retained.fst ≤ candidate.fst ∧ candidate.snd ≤ retained.snd ∨
        options.retention = .allowPartial ∧ ∃ hboth, resolved = intersection candidate retained hboth) ∧
      (∀ range ∈ evictedInside availability.evictedRanges seed.requestedRange, ¬ rangesIntersect range resolved) ∧
      warnings = retentionWarnings seed.requestedRange candidate resolved
        (evictedInside availability.evictedRanges seed.requestedRange) sessionNow := by
  simp only [classifyRetention, Results.bind_eq_ok, okOr_eq_ok, refuse_eq_ok, Results.pure_eq_ok,
    Results.mapError_eq_ok, Prod.mk.injEq] at h
  obtain ⟨retained, hretained, -, hcomplete, -, hedges, candidate, hcandidate, range, hclamp, -, hdisjoint, rfl, rfl⟩ := h
  obtain ⟨hfst, hsnd⟩ := SessionRange.new_eq_ok hcandidate
  push Not at hdisjoint
  refine ⟨retained, candidate, hretained, fun hpolicy => ?_, fun range hrange => ?_, hfst, hsnd, clampToRetained_eq_ok hclamp,
    hdisjoint, rfl⟩
  · by_contra hne
    exact hcomplete ⟨hne, hpolicy⟩
  · by_contra hneither
    push Not at hneither
    exact hedges ⟨range, hrange, hneither⟩

theorem retentionWarnings_eq_nil :
    retentionWarnings requested candidate resolved intersecting sessionNow = [] ↔
      ¬ requested.fst < resolved.fst ∧ ¬ resolved.snd < requested.snd ∧ intersecting = [] ∧ resolved = candidate := by
  unfold retentionWarnings
  simp only [List.append_eq_nil_iff]
  by_cases hfirst : requested.fst < resolved.fst <;> by_cases hlast : resolved.snd < requested.snd <;>
    by_cases hnone : intersecting = [] <;> by_cases hsame : resolved = candidate <;> simp [hfirst, hlast, hnone, hsame]

def SessionTimesOrdered (frames : List CapturedFrame) : Prop := frames.Pairwise fun a b => a.sessionTime ≤ b.sessionTime

theorem SessionTimesOrdered.head_le (h : SessionTimesOrdered frames) {frame : CapturedFrame} (hframe : frame ∈ frames) :
    (frames.head hframes).sessionTime ≤ frame.sessionTime := by
  cases frames with
  | nil => exact absurd rfl hframes
  | cons first rest =>
    rcases List.mem_cons.1 hframe with rfl | hrest
    · exact le_rfl
    · exact List.rel_of_pairwise_cons h hrest

theorem SessionTimesOrdered.le_getLast (h : SessionTimesOrdered frames) {frame : CapturedFrame} (hframe : frame ∈ frames) :
    frame.sessionTime ≤ (frames.getLast hframes).sessionTime := by
  obtain ⟨front, hfront⟩ : ∃ front, frames = front ++ [frames.getLast hframes] :=
    ⟨frames.dropLast, (List.dropLast_append_getLast hframes).symm⟩
  rw [hfront] at hframe
  rcases List.mem_append.1 hframe with hin | hin
  · unfold SessionTimesOrdered at h
    rw [hfront, List.pairwise_append] at h
    exact h.2.2 frame hin _ (by simp)
  · rw [List.mem_singleton.1 hin]

/-- What the frame checks establish. -/
structure FramesChecked (seed : RangeSeed) (frames : List CapturedFrame) (evictedRanges : List SessionRange) : Prop where
  scope : ∀ frame ∈ frames, frame.sessionId = seed.sessionId ∧ frame.targetId = seed.targetId
  requested : ∀ frame ∈ frames, frame.sessionTime ∈ seed.requestedRange
  nodup : (frames.map (·.id)).Nodup
  retained : ∀ frame ∈ frames, ∀ range ∈ evictedRanges, frame.sessionTime ∉ range

theorem framesChecked_of_validate (h : validateFrameMetadata seed frames evictedRanges = .ok ()) :
    FramesChecked seed frames evictedRanges := by
  simp only [validateFrameMetadata, Results.bind_eq_ok, refuse_eq_ok] at h
  obtain ⟨seen, hloop, -⟩ := h
  -- The loop keeps the identifiers of the frames it has gone through.
  have hprefix := Results.foldlM_prefix
    (P := fun done seen => seen = done.map (·.id) ∧ FramesChecked seed done evictedRanges)
    (fun done frame rest seen seen' _ hdone hstep => by
      obtain ⟨rfl, hscope, hrequested, hnodup, hretained⟩ := hdone
      simp only [checkFrame, Results.bind_eq_ok, refuse_eq_ok, Results.pure_eq_ok] at hstep
      obtain ⟨-, hsame, -, hin, -, hnew, -, hkept, rfl⟩ := hstep
      push Not at hsame hin hkept
      refine ⟨by simp, ?_, ?_, ?_, ?_⟩
      · simpa [or_imp, forall_and] using ⟨⟨fun f hf => (hscope f hf).1, hsame.1⟩, fun f hf => (hscope f hf).2, hsame.2⟩
      · simpa [or_imp, forall_and] using ⟨hrequested, hin⟩
      · rw [List.map_append, List.nodup_append]
        refine ⟨hnodup, by simp, fun a ha b hb => ?_⟩
        obtain rfl : b = frame.id := by simpa using hb
        exact fun heq => hnew (heq ▸ ha)
      · simpa [or_imp, forall_and] using ⟨hretained, hkept⟩)
    ⟨rfl, by simp, by simp, by simp, by simp⟩ hloop
  exact hprefix.2

/-- **A classification is sound.**  Its range lies in the requested one and meets no evicted range, the warnings are
empty exactly when it is the requested one, which complete retention insists on, and it has all the frames. -/
structure SoundRetention (seed : RangeSeed) (frames : List CapturedFrame) (evictedRanges : List SessionRange)
    (options : RangeResolutionOptions) (resolved : SessionRange) (warnings : List RetentionWarning) : Prop where
  contained : seed.requestedRange.fst ≤ resolved.fst ∧ resolved.snd ≤ seed.requestedRange.snd
  retained : ∀ range ∈ evictedRanges, ¬ rangesIntersect range resolved
  warned : warnings = [] ↔ resolved = seed.requestedRange
  complete : options.retention = .requireComplete → resolved = seed.requestedRange
  frames : ∀ frame ∈ frames, frame.sessionTime ∈ resolved

theorem classifyRetention_sound (hchecked : FramesChecked seed frames availability.evictedRanges)
    (hordered : SessionTimesOrdered frames)
    (hbounds : ∀ bounds ∈ availability.retainedBounds, ∀ frame ∈ frames, frame.sessionTime ∈ bounds)
    (h : classifyRetention seed frames hframes availability options sessionNow = .ok (resolved, warnings)) :
    SoundRetention seed frames availability.evictedRanges options resolved warnings := by
  obtain ⟨retained, candidate, hretained, hcomplete, hedges, hfirst, hlast, hclamp, hdisjoint, rfl⟩ :=
    classifyRetention_eq_ok h
  have hhead := hchecked.requested _ (List.head_mem hframes)
  have hgetLast := hchecked.requested _ (List.getLast_mem hframes)
  -- The candidate lies in the requested range and has all the frames.
  have hcandidate : seed.requestedRange.fst ≤ candidate.fst ∧ candidate.snd ≤ seed.requestedRange.snd := by
    rw [hfirst, hlast]
    refine ⟨?_, ?_⟩ <;> split
    · exact hhead.1
    · exact le_rfl
    · exact hgetLast.2
    · exact le_rfl
  have hin : ∀ frame ∈ frames, frame.sessionTime ∈ candidate := by
    intro frame hframe
    refine ⟨?_, ?_⟩
    · rw [hfirst]
      split
      · exact hordered.head_le hframe
      · exact (hchecked.requested frame hframe).1
    · rw [hlast]
      split
      · exact hordered.le_getLast hframe
      · exact (hchecked.requested frame hframe).2
  have hresolved : candidate.fst ≤ resolved.fst ∧ resolved.snd ≤ candidate.snd := by
    rcases hclamp with ⟨rfl, -⟩ | ⟨-, hboth, rfl⟩
    · exact ⟨le_rfl, le_rfl⟩
    · exact ⟨le_max_left _ _, min_le_left _ _⟩
  have hevicted : ∀ range ∈ availability.evictedRanges, ¬ rangesIntersect range resolved := by
    intro range hrange hmeet
    obtain ⟨time, hin, hmem⟩ := rangesIntersect_iff.1 hmeet
    have hreq : time ∈ seed.requestedRange :=
      ⟨hcandidate.1.trans (hresolved.1.trans hmem.1), hmem.2.trans (hresolved.2.trans hcandidate.2)⟩
    obtain ⟨part, hpart, htime⟩ := exists_mem_evictedInside.2 ⟨hreq, range, hrange, hin⟩
    exact hdisjoint part hpart (rangesIntersect_iff.2 ⟨time, htime, hmem⟩)
  have hcontained : seed.requestedRange.fst ≤ resolved.fst ∧ resolved.snd ≤ seed.requestedRange.snd :=
    ⟨hcandidate.1.trans hresolved.1, hresolved.2.trans hcandidate.2⟩
  have hwarned : retentionWarnings seed.requestedRange candidate resolved
      (evictedInside availability.evictedRanges seed.requestedRange) sessionNow = [] ↔ resolved = seed.requestedRange := by
    rw [retentionWarnings_eq_nil]
    constructor
    · rintro ⟨hnotFirst, hnotLast, -, -⟩
      exact NonemptyInterval.ext (Prod.ext (le_antisymm (not_lt.1 hnotFirst) hcontained.1)
        (le_antisymm hcontained.2 (not_lt.1 hnotLast)))
    · rintro rfl
      refine ⟨lt_irrefl _, lt_irrefl _, ?_, ?_⟩
      · -- An evicted edge of the requested range would be in the resolved one.
        rw [List.eq_nil_iff_forall_not_mem]
        intro range hrange
        refine hdisjoint range hrange ?_
        rcases hedges range hrange with hedge | hedge
        · exact rangesIntersect_iff.2 ⟨_, hedge, le_rfl, seed.requestedRange.fst_le_snd⟩
        · exact rangesIntersect_iff.2 ⟨_, hedge, seed.requestedRange.fst_le_snd, le_rfl⟩
      · exact NonemptyInterval.ext (Prod.ext (le_antisymm hcandidate.1 hresolved.1)
          (le_antisymm hresolved.2 hcandidate.2))
  refine ⟨hcontained, hevicted, hwarned, fun hpolicy => ?_, fun frame hframe => ?_⟩
  · have hnone := hcomplete hpolicy
    rcases hclamp with ⟨rfl, -⟩ | ⟨hclipped, -⟩
    · rw [hnone] at hfirst hlast
      simp only [List.not_mem_nil, false_and, exists_false, if_false] at hfirst hlast
      exact NonemptyInterval.ext (Prod.ext hfirst hlast)
    · rw [hpolicy] at hclipped
      cases hclipped
  · rcases hclamp with ⟨rfl, -⟩ | ⟨-, hboth, rfl⟩
    · exact hin frame hframe
    · exact mem_intersection.2 ⟨hin frame hframe, hbounds retained hretained frame hframe⟩

end Krometrail

/-!
## The constructor accepts what the resolver builds

Every seed has its anchor inside its range (`RangeSeed.Valid`), well-formed answers of the ports keep the identifiers in
order, and with a sound classification each check of the constructor passes (`resolution_sound`).
-/

namespace Krometrail

variable {anchor : TemporalRangeAnchor} {options : RangeResolutionOptions} {answers : PortAnswers} {s : RangeSeed}

/-- What every seed keeps. -/
structure RangeSeed.Valid (s : RangeSeed) : Prop where
  anchorTime : s.requestedAnchorTime ∈ s.requestedRange
  kind : anchorKindMatches s.anchorKind s.anchorReference = true
  window : s.anchorKind = .interaction ↔ s.appliedInteractionWindow.isSome = true
  midpoint : s.anchorKind = .sessionTime ∨ s.anchorKind = .wallClock ∨ s.anchorKind = .sourceFrame →
    s.requestedAnchorTime = rangeMidpoint s.requestedRange

theorem mem_windowRange {first last time : SessionTime} {window : InteractionWindow} {message : String}
    {range : SessionRange} (hfirst : first ≤ time) (hlast : time ≤ last)
    (h : windowRange first last window message = .ok range) : time ∈ range := by
  simp only [windowRange, Results.bind_eq_ok, okOr_eq_ok, checkedAdd_eq_some] at h
  obtain ⟨stop, ⟨hbound, rfl⟩, hrange⟩ := h
  obtain ⟨hfst, hsnd⟩ := SessionRange.new_eq_ok hrange
  have := first.nanos.toNat_lt
  have hstart := SessionTime.le_iff.1 hfirst
  have hstop := SessionTime.le_iff.1 hlast
  refine ⟨?_, ?_⟩
  · rw [hfst, SessionTime.le_iff, SessionTime.toNat_fromNanos (by unfold u64Max; omega)]
    omega
  · rw [hsnd, SessionTime.le_iff, SessionTime.toNat_fromNanos hbound]
    omega

theorem seedFromInterval_valid (scope : IntervalAnchorScope) (range : SessionRange) {kind : TemporalRangeAnchorKind}
    (hkind : kind = .sessionTime ∨ kind = .wallClock) : (seedFromInterval scope range kind).Valid := by
  rcases hkind with rfl | rfl <;>
    exact ⟨rangeMidpoint_mem range, rfl, by simp [seedFromInterval], fun _ => rfl⟩

theorem seedFromInteraction_valid {interaction : InteractionAnchor} {window : InteractionWindow}
    (h : seedFromInteraction interaction window = .ok s) :
    s.Valid ∧ s.anchorReference = .interaction interaction.interactionId := by
  simp only [seedFromInteraction, Results.bind_eq_ok, Results.pure_eq_ok] at h
  obtain ⟨range, hrange, rfl⟩ := h
  refine ⟨⟨mem_windowRange interaction.timing.started_le ?_ hrange, rfl, by simp, by simp⟩, rfl⟩
  -- The window ends after the observation, or after the completion where nothing was observed.
  cases hobserved : interaction.timing.observedAt with
  | none => exact interaction.timing.dispatched_le
  | some observed => exact interaction.timing.dispatched_le.trans (interaction.timing.completed_le observed hobserved)

theorem seedFromObservation_valid {observation : TimelineObservation} {scope : AnchorScope}
    {window : Option InteractionWindow} {kind : TemporalRangeAnchorKind} {reference : ResolvedAnchorReference}
    (hmatches : anchorKindMatches kind reference = true) (hkind : kind = .navigation ∨ kind = .marker)
    (h : seedFromObservation observation scope window kind reference = .ok s) :
    s.Valid ∧ s.anchorReference = reference := by
  simp only [seedFromObservation, Results.bind_eq_ok, Results.pure_eq_ok] at h
  obtain ⟨-, -, range, hrange, rfl⟩ := h
  exact ⟨⟨mem_windowRange le_rfl le_rfl hrange, hmatches, by rcases hkind with rfl | rfl <;> simp,
    by rcases hkind with rfl | rfl <;> simp⟩, rfl⟩

theorem seedFromEndpoints_valid {scope : AnchorScope} {startId endId : FrameId} {first last : CapturedFrame}
    (h : seedFromEndpoints answers scope startId endId first last = .ok s) :
    s.Valid ∧ s.anchorReference = .sourceFrames startId endId ∧ s.frames answers = answers.ordinalFrames := by
  simp only [seedFromEndpoints, Results.bind_eq_ok, Results.pure_eq_ok] at h
  obtain ⟨-, -, -, -, -, -, range, -, rfl⟩ := h
  exact ⟨⟨rangeMidpoint_mem range, rfl, by simp, fun _ => rfl⟩, rfl, rfl⟩

theorem seed_valid (h : seed anchor options answers = .ok s) : s.Valid := by
  cases anchor with
  | sessionTime scope range =>
    simp only [seed, Results.bind_eq_ok, Results.pure_eq_ok] at h
    obtain ⟨-, -, rfl⟩ := h
    exact seedFromInterval_valid scope range (.inl rfl)
  | wallClock scope start stop =>
    simp only [seed, Results.bind_eq_ok, Results.pure_eq_ok] at h
    obtain ⟨-, -, session, -, start, -, stop, -, range, -, -, -, rfl⟩ := h
    exact seedFromInterval_valid scope range (.inr rfl)
  | interaction scope id window =>
    simp only [seed, Results.bind_eq_ok] at h
    obtain ⟨interaction, -, -, -, h⟩ := h
    exact (seedFromInteraction_valid h).1
  | latestInteraction session target window =>
    simp only [seed, Results.bind_eq_ok] at h
    obtain ⟨interaction, -, -, -, h⟩ := h
    exact (seedFromInteraction_valid h).1
  | navigation scope id window =>
    simp only [seed, Results.bind_eq_ok] at h
    obtain ⟨observation, -, h⟩ := h
    exact (seedFromObservation_valid rfl (.inl rfl) h).1
  | marker scope id window =>
    simp only [seed, Results.bind_eq_ok] at h
    obtain ⟨observation, -, h⟩ := h
    exact (seedFromObservation_valid rfl (.inr rfl) h).1
  | sourceFrame scope startId endId =>
    simp only [seed] at h
    split at h
    · exact (seedFromEndpoints_valid h).1
    · cases h

/-- The observation is the one that the anchor asks for. -/
def ObservationPayloadRef.answersTo (payload : ObservationPayloadRef) : TemporalRangeAnchor → Prop
  | .navigation _ id _ => payload = .navigation id
  | .marker _ id _ => payload = .marker id
  | _ => True

/-- The looked up endpoints, in the inclusive range of their ordinals. -/
def PortAnswers.EndpointsAnswer (answers : PortAnswers) : TemporalRangeAnchor → Prop
  | .sourceFrame _ startId endId =>
    ∃ first last, answers.endpoints = [first, last] ∧ first.id = startId ∧ last.id = endId ∧
      first ∈ answers.ordinalFrames ∧ last ∈ answers.ordinalFrames ∧ ∀ frame ∈ answers.ordinalFrames,
        first.captureOrdinal.value ≤ frame.captureOrdinal.value ∧ frame.captureOrdinal.value ≤ last.captureOrdinal.value
  | _ => True

/-- What the resolver relies on in the answers of its ports. -/
structure PortAnswers.WellFormed (answers : PortAnswers) (anchor : TemporalRangeAnchor) (s : RangeSeed) : Prop where
  identified : ∀ frame ∈ s.frames answers,
    frame.id.uuid.isNil = false ∧ frame.sessionId.uuid.isNil = false ∧ frame.targetId.uuid.isNil = false
  ordered : SessionTimesOrdered (s.frames answers)
  bounds : ∀ bounds ∈ answers.availability.retainedBounds, ∀ frame ∈ s.frames answers, frame.sessionTime ∈ bounds
  gaps : ∀ gap ∈ answers.gaps, gap.sessionId = s.sessionId ∧ gap.targetId = s.targetId
  payloads : ∀ observation ∈ answers.observations, observation.payload.anyNil = false
  interaction : ∀ interaction ∈ answers.interaction, interaction.interactionId.uuid.isNil = false
  observation : ∀ observation ∈ answers.observation,
    observation.payload.anyNil = false ∧ observation.payload.answersTo anchor
  endpoints : answers.EndpointsAnswer anchor

theorem ordinals_pairwise {frames : List CapturedFrame} (h : outOfOrder frames = false) :
    frames.Pairwise fun a b => a.captureOrdinal.value < b.captureOrdinal.value := by
  induction frames with
  | nil => exact .nil
  | cons first rest ih =>
    cases rest with
    | nil => exact List.pairwise_singleton _ _
    | cons second rest =>
      simp only [outOfOrder, Bool.or_eq_false_iff, decide_eq_false_iff_not, UInt64.not_le] at h
      have htail := ih h.2
      refine List.pairwise_cons.2 ⟨fun frame hframe => ?_, htail⟩
      rcases List.mem_cons.1 hframe with rfl | hframe
      · exact h.1
      · exact UInt64.lt_trans h.1 (List.rel_of_pairwise_cons htail hframe)

theorem endpointsMatch_of_ordinals {frames : List CapturedFrame} {first last : CapturedFrame}
    (hordered : frames.Pairwise fun a b => a.captureOrdinal.value < b.captureOrdinal.value) (hfirst : first ∈ frames)
    (hlast : last ∈ frames) (hall : ∀ frame ∈ frames, first.captureOrdinal.value ≤ frame.captureOrdinal.value ∧
      frame.captureOrdinal.value ≤ last.captureOrdinal.value) :
    frames.head? = some first ∧ frames.getLast? = some last := by
  constructor
  · cases frames with
    | nil => cases hfirst
    | cons head rest =>
      rcases List.mem_cons.1 hfirst with rfl | hrest
      · rfl
      · exact absurd (hall head List.mem_cons_self).1 (UInt64.not_le.2 (List.rel_of_pairwise_cons hordered hrest))
  · have hne : frames ≠ [] := List.ne_nil_of_mem hlast
    rw [List.getLast?_eq_some_getLast hne]
    have hsplit : frames = frames.dropLast ++ [frames.getLast hne] := (List.dropLast_append_getLast hne).symm
    rw [hsplit] at hlast hordered
    rcases List.mem_append.1 hlast with hin | hin
    · have hlt := (List.pairwise_append.1 hordered).2.2 last hin _ List.mem_cons_self
      exact absurd (hall _ (List.getLast_mem hne)).2 (UInt64.not_le.2 hlt)
    · rw [List.mem_singleton.1 hin]

theorem reference_valid (h : seed anchor options answers = .ok s) (hwf : answers.WellFormed anchor s)
    (hordered : outOfOrder (s.frames answers) = false) :
    s.anchorReference.anyNil = false ∧ s.anchorReference.endpointsMatch ((s.frames answers).map (·.id)) = true := by
  cases anchor with
  | sessionTime scope range =>
    simp only [seed, Results.bind_eq_ok, Results.pure_eq_ok] at h
    obtain ⟨-, -, rfl⟩ := h
    exact ⟨rfl, rfl⟩
  | wallClock scope start stop =>
    simp only [seed, Results.bind_eq_ok, Results.pure_eq_ok] at h
    obtain ⟨-, -, session, -, start, -, stop, -, range, -, -, -, rfl⟩ := h
    exact ⟨rfl, rfl⟩
  | interaction scope id window =>
    simp only [seed, Results.bind_eq_ok, okOr_eq_ok] at h
    obtain ⟨interaction, hinteraction, -, -, h⟩ := h
    rw [(seedFromInteraction_valid h).2]
    exact ⟨hwf.interaction interaction hinteraction, rfl⟩
  | latestInteraction session target window =>
    simp only [seed, Results.bind_eq_ok, okOr_eq_ok] at h
    obtain ⟨interaction, hinteraction, -, -, h⟩ := h
    rw [(seedFromInteraction_valid h).2]
    exact ⟨hwf.interaction interaction hinteraction, rfl⟩
  | navigation scope id window =>
    simp only [seed, Results.bind_eq_ok, okOr_eq_ok] at h
    obtain ⟨observation, hobservation, h⟩ := h
    obtain ⟨hnil, hanswers⟩ := hwf.observation observation hobservation
    have hpayload : observation.payload = .navigation id := hanswers
    rw [hpayload] at hnil
    rw [(seedFromObservation_valid rfl (.inl rfl) h).2]
    exact ⟨hnil, rfl⟩
  | marker scope id window =>
    simp only [seed, Results.bind_eq_ok, okOr_eq_ok] at h
    obtain ⟨observation, hobservation, h⟩ := h
    obtain ⟨hnil, hanswers⟩ := hwf.observation observation hobservation
    have hpayload : observation.payload = .marker id := hanswers
    rw [hpayload] at hnil
    rw [(seedFromObservation_valid rfl (.inr rfl) h).2]
    exact ⟨hnil, rfl⟩
  | sourceFrame scope startId endId =>
    obtain ⟨first, last, hendpoints, rfl, rfl, hfirst, hlast, hall⟩ := hwf.endpoints
    simp only [seed, hendpoints] at h
    obtain ⟨-, hreference, hframes⟩ := seedFromEndpoints_valid h
    have hidentified := hwf.identified
    rw [hframes] at hordered hidentified
    obtain ⟨hhead, hgetLast⟩ := endpointsMatch_of_ordinals (ordinals_pairwise hordered) hfirst hlast hall
    rw [hreference, hframes]
    refine ⟨?_, ?_⟩
    · simp [ResolvedAnchorReference.anyNil, (hidentified first hfirst).1, (hidentified last hlast).1]
    · simp [ResolvedAnchorReference.endpointsMatch, hhead, hgetLast]

/-! ### The constructor -/

theorem wholeMillis_millis {millis : Nat} (side : String) (h : millis ≤ 120000) :
    wholeMillis (millis * 1000000) side = .ok millis := by
  unfold wholeMillis maxNaturalAnchorWindow
  rw [if_neg (by omega), if_neg (by omega), Nat.mul_div_cancel _ (by decide)]

theorem InteractionWindow.recheck_eq (window : InteractionWindow) :
    window.recheck = .ok (window.beforeMillis, window.afterMillis) := by
  simp [recheck, check, wholeMillis_millis, window.before_le, window.after_le]

theorem recheckWindow_eq (window : Option InteractionWindow) : recheckWindow window = .ok () := by
  cases window with
  | none => rfl
  | some window =>
    show window.recheck.map _ = _
    rw [window.recheck_eq]
    rfl

section Gaps

variable {gaps clipped : List CaptureGap} {range : SessionRange}

theorem clipCaptureGap_eq_ok {gap : CaptureGap} {clip : Option CaptureGap} (h : clipCaptureGap range gap = .ok clip) :
    ∀ kept ∈ clip, kept.sessionId = gap.sessionId ∧ kept.targetId = gap.targetId ∧ rangesIntersect kept.range range := by
  unfold clipCaptureGap at h
  split at h
  · rename_i hmeet
    simp only [Results.bind_eq_ok, Results.mapError_eq_ok, Results.pure_eq_ok] at h
    obtain ⟨kept, hnew, rfl⟩ := h
    unfold CaptureGap.new at hnew
    split at hnew
    · cases hnew
      intro kept hkept
      cases hkept
      refine ⟨rfl, rfl, rangesIntersect_iff.2 ⟨_, ⟨le_rfl, NonemptyInterval.fst_le_snd _⟩, ?_⟩⟩
      exact (mem_intersection.1 ⟨le_rfl, NonemptyInterval.fst_le_snd (intersection gap.range range hmeet)⟩).2
    · cases hnew
  · split at h
    · cases h
    · cases h
      simp

theorem clipCaptureGaps_eq_ok (h : clipCaptureGaps gaps range = .ok clipped) : ∀ kept ∈ clipped, ∃ gap ∈ gaps,
    kept.sessionId = gap.sessionId ∧ kept.targetId = gap.targetId ∧ rangesIntersect kept.range range := by
  simp only [clipCaptureGaps, Results.bind_eq_ok, Results.pure_eq_ok] at h
  obtain ⟨clips, hclips, rfl⟩ := h
  intro kept hkept
  obtain ⟨clip, hclip, hsome⟩ := List.mem_filterMap.1 hkept
  obtain ⟨k, hk, rfl⟩ := List.mem_iff_getElem.1 hclip
  have hall := List.forall₂_iff_get.1 (Results.mapM_eq_ok hclips)
  have hk' : k < gaps.length := hall.1 ▸ hk
  exact ⟨gaps[k], List.getElem_mem hk', clipCaptureGap_eq_ok (hall.2 k hk' hk) kept hsome⟩

end Gaps

section Identifiers

variable {α : Type} [DecidableEq α]

theorem foldl_pushUnique (values start : List α) (h : start.Nodup) :
    (values.foldl pushUnique start).Nodup ∧ ∀ a ∈ values.foldl pushUnique start, a ∈ start ∨ a ∈ values := by
  induction values generalizing start with
  | nil => exact ⟨h, fun a ha => .inl ha⟩
  | cons value values ih =>
    have hpush : (pushUnique start value).Nodup ∧ ∀ a ∈ pushUnique start value, a ∈ start ∨ a = value := by
      unfold pushUnique
      split
      · exact ⟨h, fun a ha => .inl ha⟩
      · rename_i hnew
        refine ⟨List.nodup_append.2 ⟨h, by simp, ?_⟩, by simp⟩
        rintro a ha b hb rfl
        exact hnew (List.mem_singleton.1 hb ▸ ha)
    obtain ⟨hnodup, hmem⟩ := ih _ hpush.1
    refine ⟨hnodup, fun a ha => ?_⟩
    rcases hmem a ha with hin | hin
    · rcases hpush.2 a hin with hstart | rfl
      · exact .inl hstart
      · exact .inr (by simp)
    · exact .inr (by simp [hin])

theorem payloadIds_spec (pick : ObservationPayloadRef → Option α) (observations : List TimelineObservation) :
    (payloadIds pick observations).Nodup ∧
      ∀ a ∈ payloadIds pick observations, ∃ observation ∈ observations, pick observation.payload = some a := by
  obtain ⟨hnodup, hmem⟩ := foldl_pushUnique (observations.filterMap fun o => pick o.payload) [] List.nodup_nil
  refine ⟨hnodup, fun a ha => ?_⟩
  rcases hmem a ha with hin | hin
  · cases hin
  · exact List.mem_filterMap.1 hin

end Identifiers

theorem payloadIds_not_nil {α : Type} [DecidableEq α] (pick : ObservationPayloadRef → Option α) (nil : α → Bool)
    (hpayloads : ∀ observation ∈ answers.observations, observation.payload.anyNil = false)
    (hpick : ∀ payload a, pick payload = some a → payload.anyNil = nil a) :
    (payloadIds pick answers.observations).any nil = false := by
  rw [List.any_eq_false]
  intro a ha
  obtain ⟨observation, hobservation, hsome⟩ := (payloadIds_spec pick answers.observations).2 a ha
  rw [← hpick _ a hsome, hpayloads observation hobservation]
  simp

theorem buildRange_accepted {resolved : SessionRange} {warnings : List RetentionWarning} {gaps : List CaptureGap}
    (hvalid : s.Valid) (hwf : answers.WellFormed anchor s) (hne : s.frames answers ≠ [])
    (hreference : s.anchorReference.anyNil = false ∧
      s.anchorReference.endpointsMatch ((s.frames answers).map (·.id)) = true)
    (hchecked : FramesChecked s (s.frames answers) answers.availability.evictedRanges)
    (hsound : SoundRetention s (s.frames answers) answers.availability.evictedRanges options resolved warnings)
    (hgaps : clipCaptureGaps answers.gaps resolved = .ok gaps) (hpolicy : options.captureGaps = .reject → gaps = []) :
    ∃ range, buildRange s options answers (s.frames answers) resolved warnings = .ok range ∧
      range.requestedRange = s.requestedRange ∧ range.resolvedRange = resolved ∧ range.retentionWarnings = warnings ∧
      range.frameIds = (s.frames answers).map (·.id) := by
  have hall : (s.frames answers).filter (fun frame => decide (frame.sessionTime ∈ resolved)) = s.frames answers :=
    List.filter_eq_self.2 fun frame hframe => decide_eq_true (hsound.frames frame hframe)
  have hscope : s.sessionId.uuid.isNil = false ∧ s.targetId.uuid.isNil = false := by
    have hhead := List.head_mem hne
    obtain ⟨hsession, htarget⟩ := hchecked.scope _ hhead
    rw [← hsession, ← htarget]
    exact (hwf.identified _ hhead).2
  have hinteractions := payloadIds_not_nil (·.interactionId) (·.uuid.isNil) hwf.payloads
    (by intro payload a h; cases payload <;> cases h; rfl)
  have hnavigations := payloadIds_not_nil (·.navigationId) (·.uuid.isNil) hwf.payloads
    (by intro payload a h; cases payload <;> cases h; rfl)
  have hmarkers := payloadIds_not_nil (·.markerId) (·.uuid.isNil) hwf.payloads
    (by intro payload a h; cases payload <;> cases h; rfl)
  refine ⟨{ sessionId := s.sessionId, targetId := s.targetId, anchorKind := s.anchorKind,
            resolvedAnchor := { reference := s.anchorReference, requestedTime := s.requestedAnchorTime,
                                effectiveTime := clampTime s.requestedAnchorTime resolved },
            requestedRange := s.requestedRange, resolvedRange := resolved,
            frameIds := (s.frames answers).map (·.id), interactionIds := payloadIds (·.interactionId) answers.observations,
            navigationIds := payloadIds (·.navigationId) answers.observations,
            markerIds := payloadIds (·.markerId) answers.observations, gaps, retentionWarnings := warnings,
            appliedInteractionWindow := s.appliedInteractionWindow, options }, ?_, rfl, rfl, rfl, rfl⟩
  simp only [buildRange, hall, hgaps, ResolvedAnchor.new, ResolvedAnchorReference.validate, Results.bind_eq_ok,
    Results.pure_eq_ok, refuse_eq_ok, Except.ok.injEq, exists_eq_left', ResolvedRange.newWithAnchor]
  refine ⟨(), hne, (), ?_, _, ⟨(), by simp [hreference.1], rfl⟩, (), ?_, rfl⟩
  · rintro ⟨hreject, hsome⟩
    exact hsome (by rw [hpolicy hreject]; rfl)
  simp only [ResolvedRange.validate, ResolvedAnchorReference.validate, Results.bind_eq_ok, refuse_eq_ok,
    recheckWindow_eq, exists_const]
  have hwarnings : warnings.isEmpty = true ↔ resolved = s.requestedRange := by
    rw [List.isEmpty_iff]
    exact hsound.warned
  refine ⟨by simp [hscope], by simp [hreference.1], by simpa using hne, ?_, ?_, ?_, ?_, by simp [hvalid.kind], trivial,
    ?_, by simp [hreference.2], ?_, ?_, ?_, ?_⟩
  · -- identifiers
    have hframes : ((s.frames answers).map (·.id)).any (·.uuid.isNil) = false := by
      rw [List.any_eq_false]
      intro id hid
      obtain ⟨frame, hframe, rfl⟩ := List.mem_map.1 hid
      simp [(hwf.identified frame hframe).1]
    rintro ((hnil | hnil | hnil | hnil) | hdup | hdup | hdup | hdup)
    · exact Bool.false_ne_true (hframes.symm.trans hnil)
    · exact Bool.false_ne_true (hinteractions.symm.trans hnil)
    · exact Bool.false_ne_true (hnavigations.symm.trans hnil)
    · exact Bool.false_ne_true (hmarkers.symm.trans hnil)
    · exact hdup hchecked.nodup
    · exact hdup (payloadIds_spec _ _).1
    · exact hdup (payloadIds_spec _ _).1
    · exact hdup (payloadIds_spec _ _).1
  · rintro (hbefore | hafter)
    · exact absurd hsound.contained.1 (not_le.2 hbefore)
    · exact absurd hsound.contained.2 (not_le.2 hafter)
  · rintro (hanchor | heffective | hclamped)
    · exact hanchor hvalid.anchorTime
    · exact heffective (clampTime_mem _ _)
    · exact hclamped rfl
  · rintro ⟨gap, hgap, hother⟩
    obtain ⟨source, hsource, hsession, htarget, hmeet⟩ := clipCaptureGaps_eq_ok hgaps gap hgap
    obtain ⟨hs, ht⟩ := hwf.gaps source hsource
    rcases hother with hother | hother | hother
    · exact hother (hsession.trans hs)
    · exact hother (htarget.trans ht)
    · exact hother hmeet
  · exact fun hne => hne (propext hvalid.window)
  · exact fun h => h.2 (hvalid.midpoint h.1)
  · exact fun h => h.1 (hsound.complete h.2)
  · exact fun h => h.1 (hwarnings.1 h.2)
  · exact fun h => h.2 (hwarnings.2 (not_not.1 h.1))

/-- **Range resolution is sound.**  For the seed of every anchor, and well-formed answers of the ports, a classification
that succeeds gives a range inside the requested one and off every evicted range, with warnings exactly when it is
partial, equal to the requested one under complete retention, and with every frame of the requested range; and, unless
known gaps are to be refused, the result is built from it and passes the checks of its constructor. -/
theorem resolution_sound {resolved : SessionRange} {warnings : List RetentionWarning}
    (hseed : seed anchor options answers = .ok s) (hwf : answers.WellFormed anchor s) (hne : s.frames answers ≠ [])
    (hframes : validateFrameMetadata s (s.frames answers) answers.availability.evictedRanges = .ok ())
    (hclassified : classifyRetention s (s.frames answers) hne answers.availability options answers.sessionNow =
      .ok (resolved, warnings)) :
    SoundRetention s (s.frames answers) answers.availability.evictedRanges options resolved warnings ∧
      ∀ gaps, clipCaptureGaps answers.gaps resolved = .ok gaps → (options.captureGaps = .reject → gaps = []) →
        ∃ range, finalize s options answers = .ok range ∧ range.validate = .ok () ∧
          range.requestedRange = s.requestedRange ∧ range.resolvedRange = resolved ∧
          range.retentionWarnings = warnings ∧ range.frameIds = (s.frames answers).map (·.id) := by
  have hchecked := framesChecked_of_validate hframes
  have hsound := classifyRetention_sound hchecked hwf.ordered hwf.bounds hclassified
  have hordered : outOfOrder (s.frames answers) = false := by
    simp only [validateFrameMetadata, Results.bind_eq_ok, refuse_eq_ok, Bool.not_eq_true] at hframes
    obtain ⟨-, -, hordered⟩ := hframes
    exact hordered
  refine ⟨hsound, fun gaps hgaps hpolicy => ?_⟩
  obtain ⟨range, hbuilt, hfields⟩ := buildRange_accepted (seed_valid hseed) hwf hne
    (reference_valid hseed hwf hordered) hchecked hsound hgaps hpolicy
  refine ⟨range, ?_, ?_, hfields⟩
  · simp only [finalize, hframes, Results.ok_bind, dif_neg hne, hclassified]
    exact hbuilt
  · simp only [buildRange, ResolvedRange.newWithAnchor, Results.bind_eq_ok, Results.pure_eq_ok] at hbuilt
    obtain ⟨-, -, gaps', -, -, -, anchor', -, passed, hvalidate, rfl⟩ := hbuilt
    exact hvalidate

/-! ### A range with an evicted edge -/

def timedFrame (id : UInt8) (ordinal nanos : UInt64) (hordinal : ordinal ≠ 0) : CapturedFrame :=
  { id := ⟨someUuid id⟩, sessionId := ⟨someUuid 1⟩, targetId := ⟨someUuid 2⟩, captureOrdinal := ⟨ordinal, hordinal⟩,
    sourceTime := none, observedTime := ⟨nanos⟩, sessionTime := ⟨nanos⟩, format := .png,
    image := .unit, viewport := .unit, deviceScaleFactor := .one, warnings := [], sessionTime_le := UInt64.le_refl nanos }

/-- Nothing is left before the first frame, and nothing is captured behind the last one. -/
def trimmedAnswers : PortAnswers :=
  { session := none, target := none, interaction := none, observation := none, endpoints := [], ordinalFrames := [],
    frames := [timedFrame 3 1 30 ordinal_one, timedFrame 4 2 90 ordinal_two],
    availability := { retainedBounds := some ⟨⟨⟨30⟩, ⟨90⟩⟩, by decide⟩, evictedRanges := [⟨⟨⟨5⟩, ⟨20⟩⟩, by decide⟩] },
    sessionNow := none, gaps := [], observations := [] }

def wideRange : SessionRange := ⟨⟨⟨10⟩, ⟨100⟩⟩, by decide⟩

def partialOptions : RangeResolutionOptions :=
  { retention := .allowPartial, captureGaps := .included, implicitInteractionWindow := .default }

def wideScope : IntervalAnchorScope := ⟨⟨someUuid 1⟩, ⟨someUuid 2⟩⟩

def wideSeed : RangeSeed := seedFromInterval wideScope wideRange .sessionTime

theorem trimmedAnswers_wellFormed : trimmedAnswers.WellFormed (.sessionTime wideScope wideRange) wideSeed where
  identified := by decide
  ordered := by
    unfold SessionTimesOrdered
    decide
  bounds := by decide
  gaps := by decide
  payloads := by decide
  interaction := by decide
  observation := nofun
  endpoints := trivial

def trimmedRange : SessionRange := ⟨⟨⟨30⟩, ⟨90⟩⟩, by decide⟩

theorem resolution_sound_trimmed :
    SoundRetention wideSeed (wideSeed.frames trimmedAnswers) trimmedAnswers.availability.evictedRanges partialOptions
      trimmedRange
      [.requestedStartBeforeOldestRetained ⟨10⟩ ⟨30⟩, .requestedEndAfterNewestRetained ⟨100⟩ ⟨90⟩,
        .partiallyEvicted wideRange trimmedRange, .partiallyCaptured wideRange trimmedRange,
        .evictedRanges [⟨⟨⟨10⟩, ⟨20⟩⟩, by decide⟩]] :=
  (resolution_sound (show seed (.sessionTime wideScope wideRange) partialOptions trimmedAnswers = .ok wideSeed from rfl)
    trimmedAnswers_wellFormed (List.cons_ne_nil _ _) rfl rfl).1

end Krometrail
