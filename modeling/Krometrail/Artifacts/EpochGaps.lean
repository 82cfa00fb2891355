import Krometrail.Artifacts.Epochs

/-!
# Gaps and markers of the epochs

Each gap has one owner, each epoch the markers of its span, and both are in order inside the span (`epoch_annotations`).
A pair of frames is measured across a gap exactly where the gap belongs to an earlier epoch and no other gap of its own
cuts it (`gaps_cut_iff`).
-/

namespace Krometrail.Epochs

open Results Sorting

variable {range : ResolvedRange} {frames : List EncodedFrame} {markers : List ArtifactMarker} {limits : AdaptationLimits}
  {plans : List EpochPlan} {all : List Span} {gap : SessionRange} {k : Nat}

theorem exists_nearest (hne : all ≠ []) (gap : SessionRange) : ∃ span ∈ all, Nearest all gap span := by
  cases hmin : all.argmin (distance gap) with
  | none => exact absurd (List.argmin_eq_none.1 hmin) hne
  | some span => exact ⟨span, List.argmin_mem hmin, fun other hother => List.le_of_mem_argmin hother hmin⟩

/-- The spans before the place do not satisfy it, the one there does. -/
def FirstAt (all : List Span) (p : Span → Prop) (k : Nat) : Prop :=
  (∃ span, all[k]? = some span ∧ p span) ∧ ∀ j < k, ∀ span, all[j]? = some span → ¬ p span

theorem firstAt_iff_findIdx? (p : Span → Prop) [DecidablePred p] :
    all.findIdx? (fun span => decide (p span)) = some k ↔ FirstAt all p k := by
  rw [List.findIdx?_eq_some_iff_getElem]
  constructor
  · rintro ⟨hk, hp, hbefore⟩
    refine ⟨⟨all[k], List.getElem?_eq_getElem hk, of_decide_eq_true hp⟩, fun j hj span hspan => ?_⟩
    obtain ⟨hj', rfl⟩ := List.getElem?_eq_some_iff.1 hspan
    simpa using hbefore j hj
  · rintro ⟨⟨span, hspan, hp⟩, hbefore⟩
    obtain ⟨hk, rfl⟩ := List.getElem?_eq_some_iff.1 hspan
    refine ⟨hk, decide_eq_true hp, fun j hj => ?_⟩
    simpa using hbefore j hj _ (List.getElem?_eq_getElem (hj.trans hk))

theorem findIdx?_overlaps_eq_none : all.findIdx? (fun span => decide (Overlaps gap span)) = none ↔
    ∀ span ∈ all, ¬ Overlaps gap span := by
  simp [List.findIdx?_eq_none_iff]

theorem gapOwner_eq_iff (hne : all ≠ []) : gapOwner all gap = k ↔
    FirstAt all (Overlaps gap) k ∨ (∀ span ∈ all, ¬ Overlaps gap span) ∧ FirstAt all (Nearest all gap) k := by
  unfold gapOwner
  cases hfirst : all.findIdx? fun span => decide (Overlaps gap span) with
  | some first =>
    rw [Option.getD_some]
    have hsome : ¬ ∀ span ∈ all, ¬ Overlaps gap span := by
      rw [← findIdx?_overlaps_eq_none, hfirst]
      simp
    rw [← firstAt_iff_findIdx?, hfirst, Option.some_inj]
    exact ⟨.inl, fun h => h.resolve_right fun hnone => hsome hnone.1⟩
  | none =>
    rw [Option.getD_none]
    have hnone := findIdx?_overlaps_eq_none.1 hfirst
    obtain ⟨span, hspan, hnearest⟩ := exists_nearest hne gap
    have hlt : all.findIdx (fun span => decide (Nearest all gap span)) < all.length :=
      List.findIdx_lt_length_of_exists ⟨span, hspan, decide_eq_true hnearest⟩
    have hindex : all.findIdx (fun span => decide (Nearest all gap span)) = k ↔ FirstAt all (Nearest all gap) k := by
      rw [← firstAt_iff_findIdx?, List.findIdx?_eq_some_iff_findIdx_eq]
      exact ⟨fun h => ⟨h ▸ hlt, h⟩, And.right⟩
    rw [hindex]
    constructor
    · exact fun h => .inr ⟨hnone, h⟩
    · rintro (⟨⟨other, hother, hover⟩, -⟩ | h)
      · exact absurd hover (hnone other (List.mem_of_getElem? hother))
      · exact h.2

variable {positions : List Nat} {span : Span} {a b : EncodedFrame}

theorem mem_positions {gaps : List CaptureGap} {position : Nat} (h : (assignGapOwners gaps all)[k]? = some positions) :
    position ∈ positions ↔ ∃ gap, gaps[position]? = some gap ∧ gapOwner all gap.range = k := by
  unfold assignGapOwners at h
  rw [List.getElem?_map] at h
  obtain ⟨k', hk', rfl⟩ := Option.map_eq_some_iff.1 h
  obtain ⟨-, rfl⟩ := List.getElem?_eq_some_iff.1 hk'
  rw [List.mem_filter, decide_eq_true_eq, List.mem_range, List.getElem_range]
  constructor
  · rintro ⟨-, gap, hgap, howner⟩
    exact ⟨gap, hgap, howner⟩
  · rintro ⟨gap, hgap, howner⟩
    exact ⟨(List.getElem?_eq_some_iff.1 hgap).1, gap, hgap, howner⟩

theorem clampRange_mem (range : SessionRange) {start stop : SessionTime} (h : start ≤ stop) :
    (clampRange range start stop).1 ≤ (clampRange range start stop).2 ∧ start ≤ (clampRange range start stop).1 ∧
      (clampRange range start stop).2 ≤ stop := by
  unfold clampRange
  split
  · exact ⟨le_rfl, le_rfl, h⟩
  · rename_i hbefore
    split
    · exact ⟨le_rfl, h, le_rfl⟩
    · rename_i hbehind
      rw [not_lt] at hbefore hbehind
      exact ⟨max_le (le_min range.fst_le_snd hbehind) (le_min hbefore h), le_max_right _ _, min_le_right _ _⟩

def Span.Ordered (span : Span) : Prop := span.frames.Pairwise fun a b => time a ≤ time b

theorem Span.Ordered.mem (h : span.Ordered) {frame : EncodedFrame} (hframe : frame ∈ span.frames) :
    span.start ≤ time frame ∧ time frame ≤ span.stop := by
  constructor
  · unfold Span.start
    obtain ⟨first, rest, hfirst⟩ := List.exists_cons_of_ne_nil span.frames_ne_nil
    have hordered := h
    unfold Span.Ordered at hordered
    simp only [hfirst, List.head_cons] at hframe hordered ⊢
    rcases List.mem_cons.1 hframe with rfl | hrest
    · exact le_rfl
    · exact List.rel_of_pairwise_cons hordered hrest
  · unfold Span.stop
    have hsplit := List.dropLast_append_getLast span.frames_ne_nil
    rw [← hsplit] at hframe
    unfold Span.Ordered at h
    rw [← hsplit, List.pairwise_append] at h
    rcases List.mem_append.1 hframe with hin | hin
    · exact h.2.2 frame hin _ (by simp)
    · rw [List.mem_singleton.1 hin]

theorem Span.Ordered.start_le_stop (h : span.Ordered) : span.start ≤ span.stop :=
  (h.mem (List.head_mem span.frames_ne_nil)).2

theorem clampRange_meets (hspan : span.Ordered) (ha : a ∈ span.frames) (hb : b ∈ span.frames) :
    ((clampRange gap span.start span.stop).1 ≤ time b ∧ time a ≤ (clampRange gap span.start span.stop).2) ↔
      Overlaps gap span ∧ Meets gap a b ∨
        gap.snd < span.start ∧ time a = span.start ∨ span.stop < gap.fst ∧ time b = span.stop := by
  obtain ⟨ha0, ha1⟩ := hspan.mem ha
  obtain ⟨hb0, hb1⟩ := hspan.mem hb
  unfold clampRange Overlaps Meets
  split
  · rename_i hbefore
    have hnot : ¬ span.stop < gap.fst := not_lt.2 ((gap.fst_le_snd.trans hbefore.le).trans hspan.start_le_stop)
    constructor
    · exact fun h => .inr (.inl ⟨hbefore, le_antisymm h.2 ha0⟩)
    · rintro (⟨⟨-, hover⟩, -⟩ | ⟨-, hedge⟩ | ⟨hbehind, -⟩)
      · exact absurd hover (not_le.2 hbefore)
      · exact ⟨hb0, hedge.le⟩
      · exact absurd hbehind hnot
  · rename_i hbefore
    split
    · rename_i hbehind
      constructor
      · exact fun h => .inr (.inr ⟨hbehind, le_antisymm hb1 h.1⟩)
      · rintro (⟨⟨hover, -⟩, -⟩ | ⟨hbefore', -⟩ | ⟨-, hedge⟩)
        · exact absurd hover (not_le.2 hbehind)
        · exact absurd hbefore' hbefore
        · exact ⟨hedge.ge, ha1⟩
    · rename_i hbehind
      constructor
      · rintro ⟨hfirst, hlast⟩
        exact .inl ⟨⟨not_lt.1 hbehind, not_lt.1 hbefore⟩, (le_max_left _ _).trans hfirst, hlast.trans (min_le_left _ _)⟩
      · rintro (⟨-, hfirst, hlast⟩ | ⟨hbefore', -⟩ | ⟨hbehind', -⟩)
        · exact ⟨max_le hfirst hb0, le_min hlast ha1⟩
        · exact absurd hbefore' hbefore
        · exact absurd hbehind' hbehind

theorem declared_ranges {clipped : List (CaptureGap × SessionTime × SessionTime)} {declared : List DeclaredGap}
    (h : List.Forall₂ (fun a b => declaredGap a = .ok b) clipped declared) :
    declared.map (fun gap => (gap.range.fst, gap.range.snd)) = clipped.map (·.2) := by
  induction h with
  | nil => rfl
  | cons hdeclared _ ih =>
    simp only [declaredGap, bind_eq_ok, mapError_eq_ok, pure_eq_ok] at hdeclared
    obtain ⟨range, hrange, rfl⟩ := hdeclared
    obtain ⟨hfst, hsnd⟩ := SessionRange.new_eq_ok hrange
    rw [List.map_cons, List.map_cons, ih]
    exact congrArg (· :: _) (Prod.ext hfst hsnd)

theorem clippedGaps_eq_ok {gaps : List CaptureGap} {start stop : SessionTime} {declared : List DeclaredGap}
    (h : clippedGaps gaps positions start stop = .ok declared) :
    (∀ gap, gap ∈ declared.map (fun gap => (gap.range.fst, gap.range.snd)) ↔
        ∃ position ∈ positions, ∃ source, gaps[position]? = some source ∧ clampRange source.range start stop = gap) ∧
      declared.Pairwise fun a b => a.range.fst ≤ b.range.fst := by
  unfold clippedGaps at h
  generalize hpaired : ((positions.filterMap (gaps[·]?)).map fun gap => (gap, clampRange gap.range start stop)) = paired at h
  have hranges := declared_ranges (mapM_eq_ok h)
  constructor
  · intro gap
    rw [hranges, List.mem_map]
    simp only [mem_sortByKey, ← hpaired, List.mem_map, List.mem_filterMap]
    constructor
    · rintro ⟨-, ⟨source, ⟨position, hposition, hsource⟩, rfl⟩, rfl⟩
      exact ⟨position, hposition, source, hsource, rfl⟩
    · rintro ⟨position, hposition, source, hsource, rfl⟩
      exact ⟨_, ⟨source, ⟨position, hposition, hsource⟩, rfl⟩, rfl⟩
  · have hstarts : declared.map (fun gap => gap.range.fst) = (sortByKey (fun clipped => clipped.2.1) paired).map (·.2.1) := by
      have := congrArg (List.map Prod.fst) hranges
      rwa [List.map_map, List.map_map] at this
    have hpairwise : (declared.map fun gap => gap.range.fst).Pairwise (· ≤ ·) := by
      rw [hstarts, List.pairwise_map]
      exact pairwise_sortByKey _ _
    rwa [List.pairwise_map] at hpairwise

theorem planEpoch_eq_ok {index : Nat} {plan : EpochPlan} (h : planEpoch range markers index span positions = .ok plan) :
    plan.index = index ∧ plan.frames = span.frames ∧ plan.markers = clippedMarkers markers span.start span.stop ∧
      clippedGaps range.gaps positions span.start span.stop = .ok plan.gaps ∧
      plan.sourceRange.fst = span.start ∧ plan.sourceRange.snd = span.stop := by
  simp only [planEpoch, bind_eq_ok, mapError_eq_ok, pure_eq_ok] at h
  obtain ⟨bytes, -, -, -, gaps, hgaps, source, hsource, rfl⟩ := h
  obtain ⟨hfst, hsnd⟩ := SessionRange.new_eq_ok hsource
  exact ⟨rfl, rfl, rfl, hgaps, hfst, hsnd⟩

theorem checkFrames_ordered {previous : Option EncodedFrame} {items : List (FrameId × EncodedFrame)}
    (h : checkFrames range previous items = .ok ()) :
    (items.map (·.2)).Pairwise (fun a b => time a ≤ time b) ∧
      ∀ before ∈ previous, ∀ frame ∈ items.map (·.2), time before ≤ time frame := by
  induction items generalizing previous with
  | nil => exact ⟨.nil, by simp⟩
  | cons item rest ih =>
    simp only [checkFrames, bind_eq_ok, refuse_eq_ok] at h
    obtain ⟨-, hfirst, bytes, -, hrest⟩ := h
    obtain ⟨hpairwise, hbehind⟩ := ih hrest
    have hhead := hbehind item.2 rfl
    refine ⟨List.pairwise_cons.2 ⟨hhead, hpairwise⟩, fun before hbefore frame hframe => ?_⟩
    have hle : time before ≤ time item.2 := by
      by_contra hlt
      exact hfirst (.inr (.inr (.inr (.inr ⟨before, hbefore, .inr (not_le.1 hlt)⟩))))
    rcases List.mem_cons.1 hframe with rfl | hframe
    · exact hle
    · exact hle.trans (hhead frame hframe)

theorem map_frames_spans (frames : List EncodedFrame) : (spans frames).map (·.frames) = frames.splitBy sameEpoch := by
  unfold spans
  rw [List.map_map]
  exact List.attach_map_subtype_val _

theorem spans_ordered (h : frames.Pairwise fun a b => time a ≤ time b) : ∀ span ∈ spans frames, span.Ordered := by
  intro span hspan
  have hmem : span.frames ∈ frames.splitBy sameEpoch := by
    rw [← map_frames_spans]
    exact List.mem_map_of_mem hspan
  rw [← List.flatten_splitBy sameEpoch frames, List.pairwise_flatten] at h
  exact h.1 _ hmem

theorem validateAndPlan_eq_ok (h : validateAndPlan range frames markers limits = .ok plans) :
    spans frames ≠ [] ∧ (∀ span ∈ spans frames, span.Ordered) ∧ plans.length = (spans frames).length ∧
      ∀ k plan, plans[k]? = some plan → ∃ span positions, (spans frames)[k]? = some span ∧
        (assignGapOwners range.gaps (spans frames))[k]? = some positions ∧
        planEpoch range markers k span positions = .ok plan := by
  simp only [validateAndPlan, bind_eq_ok, refuse_eq_ok] at h
  obtain ⟨-, hframes, -, -, bytes, -, -, -, passed, hchecked, hplans⟩ := h
  push Not at hframes
  obtain ⟨hlength, hne⟩ := hframes
  have hordered := (checkFrames_ordered hchecked).1
  rw [List.map_snd_zip hlength.le] at hordered
  have hforall := mapM_eq_ok hplans
  have howners : (assignGapOwners range.gaps (spans frames)).length = (spans frames).length := by simp [assignGapOwners]
  have hcount := hforall.length_eq
  rw [List.length_zipIdx, List.length_zip, howners, Nat.min_self] at hcount
  refine ⟨?_, spans_ordered hordered, hcount.symm, fun k plan hplan => ?_⟩
  · intro hnil
    have := map_frames_spans frames
    rw [hnil] at this
    exact List.splitBy_ne_nil.2 hne this.symm
  · obtain ⟨hk, rfl⟩ := List.getElem?_eq_some_iff.1 hplan
    have hk' : k < (spans frames).length := by omega
    have hitem := (List.forall₂_iff_get.1 hforall).2 k (by simpa [howners] using hk') hk
    refine ⟨(spans frames)[k], (assignGapOwners range.gaps (spans frames))[k], List.getElem?_eq_getElem hk',
      List.getElem?_eq_getElem (by omega), ?_⟩
    simpa using hitem

def narrow : PixelDimensions := .unit

def wide : PixelDimensions := .pair

def paintedFrame (id : UInt8) (image : PixelDimensions) (ordinal nanos : UInt64) (hordinal : ordinal ≠ 0) : EncodedFrame :=
  { metadata :=
      { id := ⟨someUuid id⟩, sessionId := ⟨someUuid 1⟩, targetId := ⟨someUuid 2⟩, captureOrdinal := ⟨ordinal, hordinal⟩,
        sourceTime := none, observedTime := ⟨nanos⟩, sessionTime := ⟨nanos⟩, format := .png, image, viewport := narrow,
        deviceScaleFactor := .one, warnings := [], sessionTime_le := UInt64.le_refl nanos },
    bytes := [0], bytes_ne_nil := by decide }

/-- Two narrow frames at 0 and 10, and two wide ones at 20 and 30. -/
def resizedFrames : List EncodedFrame :=
  [paintedFrame 3 narrow 1 0 ordinal_one, paintedFrame 4 narrow 2 10 ordinal_two, paintedFrame 5 wide 3 20 ordinal_three,
    paintedFrame 6 wide 4 30 ordinal_four]

def resizeGap : CaptureGap :=
  { id := ⟨someUuid 7⟩, sessionId := ⟨someUuid 1⟩, targetId := ⟨someUuid 2⟩, range := ⟨⟨⟨5⟩, ⟨25⟩⟩, by decide⟩,
    observedTime := ⟨25⟩, reason := .screencastPaused, estimatedMissingFrames := none, endsBy := by decide }

def resizedRange : ResolvedRange :=
  { sessionId := ⟨someUuid 1⟩, targetId := ⟨someUuid 2⟩, anchorKind := .sessionTime,
    resolvedAnchor := { reference := .interval, requestedTime := ⟨15⟩, effectiveTime := ⟨15⟩ },
    requestedRange := ⟨⟨⟨0⟩, ⟨30⟩⟩, by decide⟩, resolvedRange := ⟨⟨⟨0⟩, ⟨30⟩⟩, by decide⟩,
    frameIds := resizedFrames.map (·.metadata.id), interactionIds := [], navigationIds := [], markerIds := [],
    gaps := [resizeGap], retentionWarnings := [], appliedInteractionWindow := none,
    options := { retention := .requireComplete, captureGaps := .included, implicitInteractionWindow := .default } }

def adaptationLimits : AdaptationLimits := { maxMarkers := 16, maxEncodedSourceBytes := 1024 }

/-- The gap cuts a pair of the span at place `k`: it meets the pair and overlaps no earlier span, or it overlaps no span at
all, is moved to an edge of this one, and the pair is at that edge. -/
def Cuts (all : List Span) (gap : SessionRange) (k : Nat) (span : Span) (a b : EncodedFrame) : Prop :=
  Meets gap a b ∧ (∀ j < k, ∀ other, all[j]? = some other → ¬ Overlaps gap other) ∨
    (∀ other ∈ all, ¬ Overlaps gap other) ∧ FirstAt all (Nearest all gap) k ∧
      (gap.snd < span.start ∧ time a = span.start ∨ span.stop < gap.fst ∧ time b = span.stop)

/-- Each pair of adjacent frames that a gap meets is cut by some gap. -/
def GapsSeen (gaps : List CaptureGap) (all : List Span) : Prop :=
  ∀ (k : Nat) (span : Span), all[k]? = some span → ∀ a b, [a, b] <:+: span.frames →
    (∃ gap ∈ gaps, Meets gap.range a b) → ∃ gap ∈ gaps, Cuts all gap.range k span a b

theorem measurePair_gapBoundary {gaps : List DeclaredGap} :
    (∃ n, measurePair gaps a b = .gapBoundary n) ↔ ∃ gap ∈ gaps, Meets gap.range a b := by
  unfold measurePair
  split
  · rename_i hzero
    unfold intersectingGapCount at hzero
    rw [List.countP_eq_zero] at hzero
    constructor
    · exact fun ⟨n, hn⟩ => nomatch hn
    · rintro ⟨gap, hgap, hmeets⟩
      exact absurd (decide_eq_true hmeets) (hzero gap hgap)
  · rename_i hcount
    have hpos := Nat.pos_of_ne_zero hcount
    unfold intersectingGapCount at hpos
    obtain ⟨gap, hgap, hmeets⟩ := List.countP_pos_iff.1 hpos
    exact ⟨fun _ => ⟨gap, hgap, of_decide_eq_true hmeets⟩, fun _ => ⟨_, rfl⟩⟩

theorem Meets.overlaps (hspan : span.Ordered) (ha : a ∈ span.frames) (hb : b ∈ span.frames) (h : Meets gap a b)
    : Overlaps gap span :=
  ⟨h.1.trans (hspan.mem hb).2, (hspan.mem ha).1.trans h.2⟩

theorem cuts_iff (hne : all ≠ []) (hget : all[k]? = some span) (hspan : span.Ordered) (ha : a ∈ span.frames)
    (hb : b ∈ span.frames) :
    (gapOwner all gap = k ∧ (clampRange gap span.start span.stop).1 ≤ time b ∧
      time a ≤ (clampRange gap span.start span.stop).2) ↔ Cuts all gap k span a b := by
  rw [gapOwner_eq_iff hne, clampRange_meets hspan ha hb]
  have hself : ∀ {p : Span → Prop}, FirstAt all p k → p span := by
    rintro p ⟨⟨other, hother, hp⟩, -⟩
    rwa [← Option.some.inj (hget.symm.trans hother)] at hp
  constructor
  · rintro ⟨hfirst | ⟨hnone, hnearest⟩, hmeets⟩
    · refine .inl ⟨?_, hfirst.2⟩
      obtain ⟨hstop, hstart⟩ := hself hfirst
      rcases hmeets with ⟨-, hmeets⟩ | ⟨hbefore, -⟩ | ⟨hbehind, -⟩
      · exact hmeets
      · exact absurd hstart (not_le.2 hbefore)
      · exact absurd hstop (not_le.2 hbehind)
    · refine .inr ⟨hnone, hnearest, ?_⟩
      rcases hmeets with ⟨hover, -⟩ | hedge
      · exact absurd hover (hnone span (List.mem_of_getElem? hget))
      · exact hedge
  · rintro (⟨hmeets, hearlier⟩ | ⟨hnone, hnearest, hedge⟩)
    · have hover := hmeets.overlaps hspan ha hb
      exact ⟨.inl ⟨⟨span, hget, hover⟩, hearlier⟩, .inl ⟨hover, hmeets⟩⟩
    · exact ⟨.inr ⟨hnone, hnearest⟩, .inr hedge⟩

/-- **The measurement of an epoch sees the gaps that the epoch owns.**  Each pair of adjacent frames that a gap of the range
meets is a gap boundary exactly when some gap cuts it. -/
theorem gaps_cut_iff (h : validateAndPlan range frames markers limits = .ok plans) :
    (∀ (k : Nat) (plan : EpochPlan), plans[k]? = some plan → ∀ a b, [a, b] <:+: plan.frames →
        (∃ gap ∈ range.gaps, Meets gap.range a b) → ∃ n, measurePair plan.gaps a b = .gapBoundary n) ↔
      GapsSeen range.gaps (spans frames) := by
  obtain ⟨hne, hordered, hlength, hplans⟩ := validateAndPlan_eq_ok h
  -- what the measurement of one epoch finds
  have hepoch : ∀ (k : Nat) (plan : EpochPlan) (span : Span), plans[k]? = some plan → (spans frames)[k]? = some span →
      plan.frames = span.frames ∧ ∀ a b, [a, b] <:+: span.frames →
        ((∃ n, measurePair plan.gaps a b = .gapBoundary n) ↔ ∃ gap ∈ range.gaps, Cuts (spans frames) gap.range k span a b) := by
    intro k plan span hplan hspan
    obtain ⟨span', positions, hspan', hpositions, hmade⟩ := hplans k plan hplan
    obtain rfl : span' = span := Option.some.inj (hspan'.symm.trans hspan)
    obtain ⟨-, hframes, -, hgaps, -, -⟩ := planEpoch_eq_ok hmade
    obtain ⟨hclipped, -⟩ := clippedGaps_eq_ok hgaps
    have hspanOrder := hordered span' (List.mem_of_getElem? hspan)
    refine ⟨hframes, fun a b hpair => ?_⟩
    have ha : a ∈ span'.frames := hpair.subset (by simp)
    have hb : b ∈ span'.frames := hpair.subset (by simp)
    rw [measurePair_gapBoundary]
    constructor
    · rintro ⟨declared, hdeclared, hmeets⟩
      obtain ⟨position, hposition, gap, hgap, hclamp⟩ := (hclipped _).1 (List.mem_map_of_mem hdeclared)
      obtain ⟨gap', hgap', howner⟩ := (mem_positions hpositions).1 hposition
      obtain rfl : gap' = gap := Option.some.inj (hgap'.symm.trans hgap)
      refine ⟨gap', List.mem_of_getElem? hgap, (cuts_iff hne hspan hspanOrder ha hb).1 ⟨howner, ?_⟩⟩
      rw [hclamp]
      exact hmeets
    · rintro ⟨gap, hgap, hcuts⟩
      obtain ⟨howner, hmeets⟩ := (cuts_iff hne hspan hspanOrder ha hb).2 hcuts
      obtain ⟨position, hposition⟩ := List.mem_iff_getElem?.1 hgap
      have hin := (hclipped _).2 ⟨position, (mem_positions hpositions).2 ⟨gap, hposition, howner⟩, gap, hposition, rfl⟩
      obtain ⟨declared, hdeclared, hclamp⟩ := List.mem_map.1 hin
      refine ⟨declared, hdeclared, ?_⟩
      rw [← hclamp] at hmeets
      exact hmeets
  constructor
  · intro hcut k span hspan a b hpair hmeets
    have hk : k < plans.length := hlength ▸ (List.getElem?_eq_some_iff.1 hspan).1
    have hplan := List.getElem?_eq_getElem hk
    obtain ⟨hframes, hiff⟩ := hepoch k _ span hplan hspan
    exact (hiff a b hpair).1 (hcut k _ hplan a b (hframes ▸ hpair) hmeets)
  · intro hseen k plan hplan a b hpair hmeets
    have hk : k < (spans frames).length := hlength ▸ (List.getElem?_eq_some_iff.1 hplan).1
    have hspan := List.getElem?_eq_getElem hk
    obtain ⟨hframes, hiff⟩ := hepoch k plan _ hplan hspan
    rw [hframes] at hpair
    exact (hiff a b hpair).2 (hseen k _ hspan a b hpair hmeets)

theorem gaps_cut_narrow : ∃ plans, validateAndPlan resizedRange resizedFrames [] adaptationLimits = .ok plans ∧
    ((∀ (k : Nat) (plan : EpochPlan), plans[k]? = some plan → ∀ a b, [a, b] <:+: plan.frames →
        (∃ gap ∈ resizedRange.gaps, Meets gap.range a b) → ∃ n, measurePair plan.gaps a b = .gapBoundary n) ↔
      GapsSeen resizedRange.gaps (spans resizedFrames)) := by
  have hplanned : validateAndPlan resizedRange resizedFrames [] adaptationLimits = .ok _ := rfl
  exact ⟨_, hplanned, gaps_cut_iff hplanned⟩

/-- The first epoch owns the gap, and the pair of the second one is measured across it. -/
theorem gap_not_cut : ∃ plans plan a b, resizedRange.validate = .ok () ∧
    validateAndPlan resizedRange resizedFrames [] adaptationLimits = .ok plans ∧ plans[1]? = some plan ∧
    plan.validateAnnotations = .ok () ∧ plan.frames = [a, b] ∧ (∃ gap ∈ resizedRange.gaps, Meets gap.range a b) ∧
    measurePair plan.gaps a b = .measured :=
  ⟨_, _, _, _, rfl, rfl, rfl, rfl, rfl, by decide, rfl⟩

end Krometrail.Epochs
