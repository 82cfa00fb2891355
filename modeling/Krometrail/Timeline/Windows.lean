import Krometrail.Timeline.Acceptance

/-!
# Windows and clipped gaps near the ends of the clock

A window about an interaction or a point begins at the start of the clock at the earliest, and is refused where it would
end after the clock does.  Clipping keeps exactly the gaps that meet the range, each cut down to it, and refuses a list with
a gap outside that claims lost frames.
-/

namespace Krometrail

open Results

variable {range : SessionRange} {gap clip : CaptureGap} {gaps clipped : List CaptureGap}

/-- What a window about a first and a last time makes of them. -/
structure WindowExact (first last : SessionTime) (window : InteractionWindow) (message : String)
    (result : Result SessionRange) : Prop where
  fits : last.nanos.toNat + window.afterMillis * 1000000 ≤ u64Max → ∃ range, result = .ok range ∧
    range.fst.nanos.toNat = first.nanos.toNat - window.beforeMillis * 1000000 ∧
    range.snd.nanos.toNat = last.nanos.toNat + window.afterMillis * 1000000 ∧
    ∀ time, first ≤ time → time ≤ last → time ∈ range
  refused : u64Max < last.nanos.toNat + window.afterMillis * 1000000 → result = .error (invalidTime message)

/-- A gap that is cut down to the range, and is the same otherwise. -/
structure CaptureGap.ClipOf (range : SessionRange) (gap clip : CaptureGap) : Prop where
  id : clip.id = gap.id
  scope : clip.sessionId = gap.sessionId ∧ clip.targetId = gap.targetId
  times : ∀ time, time ∈ clip.range ↔ time ∈ gap.range ∧ time ∈ range
  declared : clip.observedTime = gap.observedTime ∧ clip.reason = gap.reason
  estimate : clip.estimatedMissingFrames = gap.estimatedMissingFrames

/-- The gap is outside the range and claims lost frames. -/
def CaptureGap.Misplaced (range : SessionRange) (gap : CaptureGap) : Prop :=
  ¬ rangesIntersect gap.range range ∧ gap.estimatedMissingFrames.isSome = true

/-- What the clipping of a list answers with: every gap that meets the range, in order, in a form that the validation of
a resolved range of the same scope accepts. -/
structure ClipsExactly (gaps : List CaptureGap) (range : SessionRange) (result : Result (List CaptureGap)) : Prop where
  refused : (∃ gap ∈ gaps, gap.Misplaced range) →
    result = .error (persistenceRangeError "capture-gap source returned estimated loss outside the resolved range")
  clips : (∀ gap ∈ gaps, ¬ gap.Misplaced range) → ∃ clipped, result = .ok clipped ∧
    List.Forall₂ (CaptureGap.ClipOf range) (gaps.filter (rangesIntersect ·.range range)) clipped ∧
    ∀ value : ResolvedRange, value.resolvedRange = range →
      (∀ gap ∈ gaps, gap.sessionId = value.sessionId ∧ gap.targetId = value.targetId) →
      ({ value with gaps := clipped } : ResolvedRange).validate = ({ value with gaps := [] } : ResolvedRange).validate

theorem windowRange_exact {first last : SessionTime} (hordered : first ≤ last) (window : InteractionWindow) (message : String) :
    WindowExact first last window message (windowRange first last window message) where
  fits hbound := by
    have hfirst := first.nanos.toNat_lt
    have hle := SessionTime.le_iff.1 hordered
    set start := first.nanos.toNat - window.beforeMillis * 1000000 with hstart
    set stop := last.nanos.toNat + window.afterMillis * 1000000 with hstop
    have hstartNanos : (SessionTime.fromNanos start).nanos.toNat = start :=
      SessionTime.toNat_fromNanos (by unfold u64Max; omega)
    have hstopNanos : (SessionTime.fromNanos stop).nanos.toNat = stop := SessionTime.toNat_fromNanos hbound
    have horder : SessionTime.fromNanos start ≤ SessionTime.fromNanos stop := by
      rw [SessionTime.le_iff, hstartNanos, hstopNanos]
      omega
    refine ⟨⟨⟨.fromNanos start, .fromNanos stop⟩, horder⟩, ?_, hstartNanos, hstopNanos, fun time hfrom hto => ?_⟩
    · have hadd : okOr (checkedAdd last.nanos.toNat (window.afterMillis * 1000000)) (invalidTime message) = .ok stop :=
        okOr_eq_ok.2 (checkedAdd_eq_some.2 ⟨hbound, rfl⟩)
      have hnew : SessionRange.new (.fromNanos start) (.fromNanos stop) = .ok ⟨⟨.fromNanos start, .fromNanos stop⟩, horder⟩ :=
        dif_pos horder
      rw [windowRange, hadd, ok_bind, hnew]
    · have hfrom := SessionTime.le_iff.1 hfrom
      have hto := SessionTime.le_iff.1 hto
      refine ⟨SessionTime.le_iff.2 ?_, SessionTime.le_iff.2 ?_⟩
      · show (SessionTime.fromNanos start).nanos.toNat ≤ _
        omega
      · show _ ≤ (SessionTime.fromNanos stop).nanos.toNat
        omega
  refused hover := by
    have hadd : checkedAdd last.nanos.toNat (window.afterMillis * 1000000) = none := if_neg (not_le.2 hover)
    rw [windowRange, hadd]
    rfl

theorem InteractionTiming.started_le_end (timing : InteractionTiming) :
    timing.startedAt ≤ timing.observedAt.getD timing.completedAt := by
  have hcompleted := timing.started_le.trans timing.dispatched_le
  cases hobserved : timing.observedAt with
  | none => exact hcompleted
  | some observed => exact hcompleted.trans (timing.completed_le observed hobserved)

/-- The gap cut down to the range. -/
def CaptureGap.clipTo (gap : CaptureGap) (range : SessionRange) (h : rangesIntersect gap.range range) : CaptureGap :=
  { gap with
    range := intersection gap.range range h
    endsBy := by
      have hmin : (intersection gap.range range h).snd ≤ gap.range.snd := min_le_left _ _
      exact UInt64.le_trans hmin gap.endsBy }

theorem CaptureGap.clipOf_clipTo (h : rangesIntersect gap.range range) : gap.ClipOf range (gap.clipTo range h) :=
  ⟨rfl, ⟨rfl, rfl⟩, fun _ => mem_intersection (h := h), ⟨rfl, rfl⟩, rfl⟩

theorem clipCaptureGap_meets (h : rangesIntersect gap.range range) :
    clipCaptureGap range gap = .ok (some (gap.clipTo range h)) := by
  have hnew : CaptureGap.new gap.id gap.sessionId gap.targetId (intersection gap.range range h) gap.observedTime gap.reason
      gap.estimatedMissingFrames = .ok (gap.clipTo range h) := dif_pos (gap.clipTo range h).endsBy
  rw [clipCaptureGap, dif_pos h, hnew]
  rfl

theorem clipCaptureGap_outside (h : ¬ rangesIntersect gap.range range) : clipCaptureGap range gap =
    if gap.estimatedMissingFrames.isSome then
      .error (persistenceRangeError "capture-gap source returned estimated loss outside the resolved range")
    else .ok none := dif_neg h

theorem clipCaptureGaps_cons (gap : CaptureGap) (gaps : List CaptureGap) : clipCaptureGaps (gap :: gaps) range = (do
    let clip ← clipCaptureGap range gap
    let clipped ← clipCaptureGaps gaps range
    return clip.toList ++ clipped) := by
  unfold clipCaptureGaps
  rw [List.mapM_cons]
  cases clipCaptureGap range gap with
  | error error => rfl
  | ok clip =>
    simp only [ok_bind]
    cases gaps.mapM (clipCaptureGap range) with
    | error error => rfl
    | ok clips => cases clip <;> rfl

theorem clipCaptureGaps_misplaced (h : ∃ gap ∈ gaps, gap.Misplaced range) : clipCaptureGaps gaps range =
    .error (persistenceRangeError "capture-gap source returned estimated loss outside the resolved range") := by
  induction gaps with
  | nil => obtain ⟨gap, hgap, -⟩ := h; nomatch hgap
  | cons gap gaps ih =>
    rw [clipCaptureGaps_cons]
    by_cases hhere : gap.Misplaced range
    · rw [clipCaptureGap_outside hhere.1, if_pos hhere.2]
      rfl
    · -- a gap that is in its place lets the loop go on to the misplaced one
      have hrest : ∃ gap ∈ gaps, gap.Misplaced range := by
        obtain ⟨other, hother, hmisplaced⟩ := h
        rcases List.mem_cons.1 hother with rfl | hother
        · exact absurd hmisplaced hhere
        · exact ⟨other, hother, hmisplaced⟩
      rw [ih hrest]
      by_cases hmeets : rangesIntersect gap.range range
      · rw [clipCaptureGap_meets hmeets]
        rfl
      · rw [clipCaptureGap_outside hmeets, if_neg fun hsome => hhere ⟨hmeets, hsome⟩]
        rfl

theorem clipCaptureGaps_placed (h : ∀ gap ∈ gaps, ¬ gap.Misplaced range) : ∃ clipped, clipCaptureGaps gaps range = .ok clipped ∧
    List.Forall₂ (CaptureGap.ClipOf range) (gaps.filter (rangesIntersect ·.range range)) clipped := by
  induction gaps with
  | nil => exact ⟨[], rfl, .nil⟩
  | cons gap gaps ih =>
    obtain ⟨clipped, hclipped, hall⟩ := ih fun other hother => h other (List.mem_cons_of_mem _ hother)
    rw [clipCaptureGaps_cons, hclipped]
    by_cases hmeets : rangesIntersect gap.range range
    · rw [clipCaptureGap_meets hmeets, List.filter_cons_of_pos (by simpa using hmeets)]
      exact ⟨_, rfl, .cons (CaptureGap.clipOf_clipTo hmeets) hall⟩
    · have hnone : ¬ gap.estimatedMissingFrames.isSome = true := fun hsome => h gap List.mem_cons_self ⟨hmeets, hsome⟩
      rw [clipCaptureGap_outside hmeets, if_neg hnone, List.filter_cons_of_neg (by simpa using hmeets)]
      exact ⟨_, rfl, hall⟩

theorem validate_clipped {value : ResolvedRange} (hrange : value.resolvedRange = range)
    (hscope : ∀ gap ∈ gaps, gap.sessionId = value.sessionId ∧ gap.targetId = value.targetId)
    (hclips : List.Forall₂ (CaptureGap.ClipOf range) (gaps.filter (rangesIntersect ·.range range)) clipped) :
    ({ value with gaps := clipped } : ResolvedRange).validate = ({ value with gaps := [] } : ResolvedRange).validate := by
  have hpasses : ¬ ∃ clip ∈ clipped, clip.sessionId ≠ value.sessionId ∨ clip.targetId ≠ value.targetId ∨
      ¬ rangesIntersect clip.range value.resolvedRange := by
    rintro ⟨clip, hclip, hrefused⟩
    obtain ⟨gap, hgap, hclipOf⟩ : ∃ gap ∈ gaps.filter (rangesIntersect ·.range range), gap.ClipOf range clip := by
      obtain ⟨k, hk, rfl⟩ := List.mem_iff_getElem.1 hclip
      obtain ⟨hlength, hall⟩ := List.forall₂_iff_get.1 hclips
      exact ⟨_, List.getElem_mem (hlength.symm ▸ hk), hall k (hlength.symm ▸ hk) hk⟩
    obtain ⟨hsession, htarget⟩ := hscope gap (List.mem_filter.1 hgap).1
    have hstart : clip.range.fst ∈ clip.range := ⟨le_rfl, clip.range.fst_le_snd⟩
    rcases hrefused with hne | hne | hne
    · exact hne (hclipOf.scope.1.trans hsession)
    · exact hne (hclipOf.scope.2.trans htarget)
    · exact hne (rangesIntersect_iff.2 ⟨_, hstart, hrange ▸ ((hclipOf.times _).1 hstart).2⟩)
  have hnone : ¬ ∃ clip ∈ ([] : List CaptureGap), clip.sessionId ≠ value.sessionId ∨ clip.targetId ≠ value.targetId ∨
      ¬ rangesIntersect clip.range value.resolvedRange := nofun
  have hok {refused : Prop} [Decidable refused] {error : KrometrailError} (h : ¬ refused) : refuse refused error = .ok () :=
    refuse_eq_ok.2 h
  unfold ResolvedRange.validate
  dsimp only
  rw [hok hpasses, hok hnone]
  rfl

/-- The ranges about interactions and points are exact, the range of every seed holds its anchor, and clipping is exact. -/
theorem ranges_and_gaps_exact :
    (∀ (anchor : InteractionAnchor) (window : InteractionWindow),
      WindowExact anchor.timing.startedAt (anchor.timing.observedAt.getD anchor.timing.completedAt) window
        "interaction window exceeds session time" (interactionRange anchor window)) ∧
    (∀ (time : SessionTime) (window : Option InteractionWindow),
      WindowExact time time (window.getD ⟨0, 0, by decide, by decide⟩) "anchor window exceeds session time"
        (pointRange time window)) ∧
    (∀ (anchor : TemporalRangeAnchor) (options : RangeResolutionOptions) (answers : PortAnswers) (s : RangeSeed),
      seed anchor options answers = .ok s → s.requestedAnchorTime ∈ s.requestedRange) ∧
    ∀ (gaps : List CaptureGap) (range : SessionRange), ClipsExactly gaps range (clipCaptureGaps gaps range) := by
  refine ⟨fun anchor window => windowRange_exact anchor.timing.started_le_end _ _,
    fun time window => windowRange_exact le_rfl _ _, fun _ _ _ _ h => (seed_valid h).anchorTime, fun gaps range => ?_⟩
  refine ⟨clipCaptureGaps_misplaced, fun hplaced => ?_⟩
  obtain ⟨clipped, hclipped, hall⟩ := clipCaptureGaps_placed hplaced
  exact ⟨clipped, hclipped, hall, fun value hrange hscope => validate_clipped hrange hscope hall⟩

/-- A gap of one nanosecond that claims a lost frame. -/
def earlyGap : CaptureGap :=
  ⟨⟨someUuid 3⟩, ⟨someUuid 1⟩, ⟨someUuid 2⟩, ⟨⟨⟨0⟩, ⟨1⟩⟩, by decide⟩, ⟨1⟩, .captureStopped, some 1, by decide⟩

/-- At the end of the clock a window is refused and not clamped, and a gap outside the range is not dropped when it claims
a lost frame. -/
theorem window_past_the_clock_refused :
    pointRange ⟨-1⟩ (some ⟨0, 1, by decide, by decide⟩) = .error (invalidTime "anchor window exceeds session time") ∧
    ∃ error, clipCaptureGaps [earlyGap] wideRange = .error error := by
  exact ⟨(windowRange_exact le_rfl _ _).refused (by decide), _, clipCaptureGaps_misplaced ⟨earlyGap, List.mem_singleton_self _, by decide, rfl⟩⟩

end Krometrail
