import Krometrail.Timeline.Acceptance
import Krometrail.Video.Validator

/-!
# Builder and validator

The drafts of the builder are as the validator wants them, real-time or held, unless two frames of one time are inside a gap
or a gap has no identifier (`plan_agreement`).
-/

namespace Krometrail.Video

open Results

variable {gaps : List CoalescedGap} {frame : CapturedFrame} {frames rest : List CapturedFrame}
  {drafts final held : List DraftSegment} {segments : List VideoPresentationSegment} {id : FrameId}
  {policy : VideoPresentationPolicy} {meaningful : List FrameId} {first last : Nat}

/-! ### The plan of the builder -/

/-- What the constructor of an input checks. -/
structure Accepted (input : VideoPlanInput) : Prop where
  narrows : input.range.requestedRange.fst ≤ input.range.resolvedRange.fst ∧
    input.range.resolvedRange.snd ≤ input.range.requestedRange.snd
  ids : input.frames.map (·.id) = input.epochFrameIds
  nodup : input.epochFrameIds.Nodup
  identified : input.epochFrameIds.any (·.uuid.isNil) = false
  within : ∀ frame ∈ input.frames, frame.sessionTime ∈ input.range.resolvedRange
  ordered : input.frames.IsChain fun a b => nanos a ≤ nanos b
  meaningful : validateMeaningfulFrames input.epochFrameIds input.meaningfulFrameIds = .ok ()
  nodupMeaningful : input.meaningfulFrameIds.Nodup
  geometry : input.outputSource = input.epochImage
  count : input.frames.length ≤ maxVideoSourceFrames
  meaningfulCount : input.meaningfulFrameIds.length ≤ maxVideoMeaningfulFrames
  span : ∀ first ∈ input.frames.head?, ∀ last ∈ input.frames.getLast?, nanos last - nanos first ≤ maxSourceNanos

variable {input : VideoPlanInput} {draft : DraftSegment} {error : KrometrailError}

theorem Accepted.isNil_eq_false (h : Accepted input) : ∀ frame ∈ input.frames, frame.id.uuid.isNil = false := by
  intro frame hframe
  have hmem : frame.id ∈ input.epochFrameIds := h.ids ▸ List.mem_map_of_mem hframe
  simpa using List.any_eq_false.1 h.identified frame.id hmem

theorem validateFrames_eq_ok {prior : Option CapturedFrame} {frames : List CapturedFrame}
    (h : input.validateFrames prior frames = .ok ()) :
    (∀ frame ∈ frames, frame.sessionTime ∈ input.range.resolvedRange) ∧
      (prior.toList ++ frames).IsChain fun a b => nanos a ≤ nanos b := by
  induction frames generalizing prior with
  | nil =>
    refine ⟨nofun, ?_⟩
    cases prior <;> simp
  | cons frame frames ih =>
    simp only [VideoPlanInput.validateFrames, bind_eq_ok, refuse_eq_ok] at h
    obtain ⟨-, hscope, -, -, passed, horder, hrest⟩ := h
    obtain ⟨hwithin, hchain⟩ := ih hrest
    rw [not_or, not_or, not_not, not_not, not_not] at hscope
    refine ⟨fun other hother => ?_, ?_⟩
    · rcases List.mem_cons.1 hother with rfl | hin
      · exact hscope.2.2
      · exact hwithin other hin
    · cases prior with
      | none => exact hchain
      | some before =>
        refine List.isChain_cons_cons.2 ⟨?_, hchain⟩
        by_contra hlt
        exact horder ⟨before, rfl, .inr (not_le.1 hlt)⟩

theorem accepted_of_validate (h : input.validate = .ok ()) : Accepted input := by
  simp only [VideoPlanInput.validate, VideoPlanInput.validateEpoch, VideoPlanInput.validateLimits, bind_eq_ok,
    refuse_eq_ok] at h
  obtain ⟨u0, hrange, u1, ⟨u2, hepoch, u3, hids, position, -, u4, -, hframes⟩, u5, hmeaningful, u6, hgeometry, u7, hcount,
    u8, hmeaningfulCount, u9, -, hspan⟩ := h
  have hnarrows := hrange
  simp only [ResolvedRange.validate, bind_eq_ok, refuse_eq_ok] at hnarrows
  obtain ⟨-, -, -, -, -, -, -, -, v, hnarrow, -⟩ := hnarrows
  rw [not_or, not_lt, not_lt] at hnarrow
  push Not at hepoch
  obtain ⟨hwithin, hchain⟩ := validateFrames_eq_ok hframes
  have hnodup := hmeaningful
  simp only [validateMeaningfulFrames, bind_eq_ok, refuse_eq_ok] at hnodup
  obtain ⟨w, hnodup, -⟩ := hnodup
  push Not at hnodup
  refine ⟨hnarrow, not_not.1 hids, hepoch.2.2.1, ?_, hwithin, hchain, hmeaningful, hnodup.2, not_not.1 hgeometry, by omega,
    by omega, ?_⟩
  · simpa using hepoch.2.1
  · intro first hfirst last hlast
    by_contra hlt
    exact hspan ⟨first, hfirst, last, hlast, not_le.1 hlt⟩

theorem placed_spec (hne : frames ≠ []) (hgaps : Coalesced gaps (nanos (frames.head hne)) (nanos (frames.getLast hne)))
    (hordered : frames.IsChain fun a b => nanos a ≤ nanos b) (hwhole : GapsWhole gaps frames)
    (hrun : (rawDrafts gaps frames).foldlM placeDraft [] = .ok drafts) :
    slateDrafts drafts = gaps.map (fun gap => ⟨.gapSlate gap.gapIds gap.start gap.stop, gap.stop - gap.start, .recordedGap⟩) ∧
      frameDrafts drafts = frameDrafts (rawDrafts gaps frames) ∧
      drafts.getLast? = some (frameDraft (frames.getLast hne) terminalHoldNanos .terminalHold) := by
  obtain ⟨frame, rest, rfl⟩ := List.exists_cons_of_ne_nil hne
  rw [List.head_cons] at hgaps
  have hstart : Reached gaps (nanos frame) [] := by
    have hnone : gaps.filter (fun gap => decide (gap.start < nanos frame)) = [] := by
      refine List.filter_eq_nil_iff.2 fun gap hgap => ?_
      have := (hgaps.within gap hgap).1
      simp only [decide_eq_true_eq]
      omega
    refine ⟨by rw [hnone]; rfl, fun gap hgap hlt => ?_⟩
    exact absurd (hgaps.within gap hgap).1 (not_le.2 hlt)
  obtain ⟨hslates, hlast⟩ := reached_rawDrafts hgaps.apart hordered hwhole hstart hrun
  refine ⟨?_, ?_, hlast⟩
  · rw [hslates, List.filter_eq_self.2]
    · refine List.map_congr_left fun gap hgap => ?_
      unfold slateAt
      rw [min_eq_left (hgaps.within gap hgap).2]
    · intro gap hgap
      exact decide_eq_true (gap.lt.trans_le (hgaps.within gap hgap).2)
  · have := frameDrafts_place hrun
    rwa [show frameDrafts [] = [] from rfl, List.nil_append] at this

theorem planned_realTime
    (hslates : slateDrafts drafts =
      gaps.map fun gap => ⟨.gapSlate gap.gapIds gap.start gap.stop, gap.stop - gap.start, .recordedGap⟩)
    (hframes : frameDrafts drafts = frameDrafts (rawDrafts gaps frames)) :
    Planned gaps frames .realTime meaningful drafts drafts where
  sources := rfl
  slates := hslates
  frames := hframes
  ordinary _ _ := rfl
  held := nofun

theorem source_holdGap (draft : DraftSegment) : draft.holdGap.source = draft.source := by
  unfold DraftSegment.holdGap
  split <;> rfl

theorem isFrame_holdGap (draft : DraftSegment) : draft.holdGap.isFrame = draft.isFrame := by
  unfold DraftSegment.isFrame
  rw [source_holdGap]

theorem holdGap_of_ofFrame (h : draft.ofFrame id = true) : draft.holdGap = draft := by
  unfold DraftSegment.holdGap
  rw [if_neg]
  simp [isFrame_of_ofFrame h]

theorem filter_holdGap (drafts : List DraftSegment) (id : FrameId) :
    (drafts.map (·.holdGap)).filter (·.ofFrame id) = drafts.filter (·.ofFrame id) := by
  induction drafts with
  | nil => rfl
  | cons draft drafts ih =>
    have hof : draft.holdGap.ofFrame id = draft.ofFrame id := by
      unfold DraftSegment.ofFrame
      rw [source_holdGap]
    rw [List.map_cons, List.filter_cons, List.filter_cons, ih, hof]
    split
    · rename_i hframe
      rw [holdGap_of_ofFrame hframe]
    · rfl

theorem planned_modelOptimized (hnodup : meaningful.Nodup)
    (hslates : slateDrafts drafts =
      gaps.map fun gap => ⟨.gapSlate gap.gapIds gap.start gap.stop, gap.stop - gap.start, .recordedGap⟩)
    (hframes : frameDrafts drafts = frameDrafts (rawDrafts gaps frames))
    (hrun : meaningful.foldlM holdMeaningful (drafts.map (·.holdGap)) = .ok final) :
    Planned gaps frames .modelOptimized meaningful drafts final := by
  obtain ⟨hsources, hheldSlates, hordinary, hheld⟩ := holds_eq_ok hnodup hrun
  refine ⟨?_, ?_, hframes, fun id hid => ?_, fun _ id hid => ?_⟩
  · rw [hsources, List.map_map]
    exact List.map_congr_left fun draft _ => source_holdGap draft
  · have hmap : slateDrafts (drafts.map (·.holdGap)) = (slateDrafts drafts).map (·.holdGap) := by
      unfold slateDrafts
      rw [List.filter_map]
      refine congrArg _ (List.filter_congr fun draft _ => ?_)
      show (!draft.holdGap.isFrame) = _
      rw [isFrame_holdGap]
    rw [hheldSlates, hmap, hslates, List.map_map]
    refine List.map_congr_left fun gap _ => ?_
    show DraftSegment.holdGap _ = _
    unfold DraftSegment.holdGap slateTiming
    by_cases hlt : gap.stop - gap.start < modelGapHoldNanos
    · rw [if_pos ⟨rfl, hlt⟩]
      simp only [if_pos hlt]
    · rw [if_neg fun hboth => hlt hboth.2]
      simp only [if_neg hlt]
  · rw [hordinary id (hid.resolve_left nofun), filter_holdGap]
  · rw [(hheld id hid).1, filter_holdGap]

theorem rawDrafts_shows (hapart : gaps.Pairwise fun a b => a.stop < b.start)
    (hordered : frames.IsChain fun a b => nanos a ≤ nanos b) (hdraft : draft ∈ frameDrafts (rawDrafts gaps frames)) :
    ∃ before frame rest, frames = before ++ frame :: rest ∧ Shows frame (base gaps frame rest).2 draft := by
  induction frames with
  | nil => cases hdraft
  | cons first frames ih =>
    rw [rawDrafts, frameDrafts_append, List.mem_append] at hdraft
    rcases hdraft with hown | hrest
    · exact ⟨[], first, frames, rfl, (own_spec hapart hordered).1 draft hown⟩
    · obtain ⟨before, frame, rest, rfl, hshows⟩ := ih hordered.tail hrest
      exact ⟨first :: before, frame, rest, rfl, hshows⟩

theorem idxOf?_split {before : List CapturedFrame} (hids : ((before ++ frame :: rest).map (·.id)).Nodup) :
    ((before ++ frame :: rest).map (·.id)).idxOf? frame.id = some before.length := by
  induction before with
  | nil => simp [List.idxOf?_cons]
  | cons first before ih =>
    rw [List.cons_append, List.map_cons, List.nodup_cons] at hids
    have hne : first.id ≠ frame.id := fun heq => hids.1 (by rw [heq]; simp)
    rw [List.cons_append, List.map_cons, List.idxOf?_cons, ih hids.2]
    simp [hne]

theorem positions_eq (ids : List FrameId) (drafts : List DraftSegment) :
    (drafts.map (·.source)).filterMap (·.position ids) =
      ((frameDrafts drafts).map (·.source)).filterMap (·.position ids) := by
  induction drafts with
  | nil => rfl
  | cons draft drafts ih =>
    rw [List.map_cons, List.filterMap_cons, ih]
    cases hsource : draft.source with
    | sourceFrame id time => simp [frameDrafts, DraftSegment.isFrame, hsource, List.filterMap_cons]
    | gapSlate ids start stop => simp [frameDrafts, DraftSegment.isFrame, hsource, VideoSegmentSource.position]

theorem positions_ordered (hapart : gaps.Pairwise fun a b => a.stop < b.start)
    (hordered : frames.IsChain fun a b => nanos a ≤ nanos b) (hids : (frames.map (·.id)).Nodup)
    (before behind : List CapturedFrame) (hsplit : frames = before ++ behind) :
    (((frameDrafts (rawDrafts gaps behind)).map (·.source)).filterMap (·.position (frames.map (·.id)))).Pairwise (· ≤ ·) ∧
      ∀ position ∈ ((frameDrafts (rawDrafts gaps behind)).map (·.source)).filterMap (·.position (frames.map (·.id))),
        before.length ≤ position := by
  induction behind generalizing before with
  | nil => exact ⟨.nil, nofun⟩
  | cons frame rest ih =>
    have hchain : (frame :: rest).IsChain fun a b => nanos a ≤ nanos b := by
      rw [hsplit] at hordered
      exact hordered.right_of_append
    obtain ⟨hpairwise, hbound⟩ := ih (before ++ [frame]) (by rw [hsplit, List.append_assoc]; rfl)
    have hown : ∀ position ∈ ((frameDrafts (ownDrafts gaps frame rest)).map (·.source)).filterMap
        (·.position (frames.map (·.id))), position = before.length := by
      intro position hposition
      obtain ⟨source, hsource, hat⟩ := List.mem_filterMap.1 hposition
      obtain ⟨draft, hdraft, rfl⟩ := List.mem_map.1 hsource
      rw [((own_spec hapart hchain).1 draft hdraft).source] at hat
      have hindex := idxOf?_split (hsplit ▸ hids)
      rw [← hsplit] at hindex
      exact (Option.some.inj (hindex.symm.trans hat)).symm
    rw [rawDrafts, frameDrafts_append, List.map_append, List.filterMap_append]
    refine ⟨List.pairwise_append.2 ⟨?_, hpairwise, fun a ha b hb => ?_⟩, fun position hposition => ?_⟩
    · exact List.pairwise_of_forall_mem_list fun a ha b hb => ((hown a ha).trans (hown b hb).symm).le
    · have := hbound b hb
      rw [List.length_append, List.length_singleton] at this
      rw [hown a ha]
      omega
    · rcases List.mem_append.1 hposition with hin | hin
      · exact (hown position hin).ge
      · have := hbound position hin
        rw [List.length_append, List.length_singleton] at this
        omega

/-! ### The final drafts -/

theorem validate_slate (gap : CoalescedGap) {start stop : Nat} (hlt : start < stop)
    (hnamed : gap.gapIds ≠ [] ∧ gap.gapIds.Nodup ∧ ∀ id ∈ gap.gapIds, id.uuid.isNil = false) :
    (VideoSegmentSource.gapSlate gap.gapIds start stop).validate = .ok () := by
  obtain ⟨hne, hnodup, hnil⟩ := hnamed
  simp only [VideoSegmentSource.validate, bind_eq_ok, refuse_eq_ok]
  refine ⟨(), ?_, not_le.2 hlt⟩
  rintro (hempty | hany | hdup)
  · exact hne hempty
  · obtain ⟨id, hid, hisNil⟩ := List.any_eq_true.1 hany
    rw [hnil id hid] at hisNil
    cases hisNil
  · exact hdup hnodup

theorem validate_frame (h : frame.id.uuid.isNil = false) (time : Nat) :
    (VideoSegmentSource.sourceFrame frame.id time).validate = .ok () := by
  simp [VideoSegmentSource.validate, h]

/-- What the validator and the finish need of a draft. -/
structure Fit (gaps : List CoalescedGap) (frames : List CapturedFrame) (policy : VideoPresentationPolicy)
    (draft : DraftSegment) : Prop where
  valid : draft.source.validate = .ok ()
  duration_pos : 0 < draft.durationNanos
  shown : draft.isFrame = true → FrameBasis policy draft.timingBasis ∧
    ∃ frame ∈ frames, draft.source = .sourceFrame frame.id (nanos frame)
  gap : draft.isFrame = false → ∃ gap ∈ gaps, draft.source = .gapSlate gap.gapIds gap.start gap.stop ∧
    (draft.durationNanos, draft.timingBasis) = slateTiming policy (gap.stop - gap.start)

theorem base_basis (gaps : List CoalescedGap) (frame : CapturedFrame) (rest : List CapturedFrame) :
    FrameBasis policy (base gaps frame rest).2 := by
  cases rest with
  | nil => simp [FrameBasis, base]
  | cons next rest =>
    rw [base]
    split <;> simp [FrameBasis]

theorem slateTiming_pos {duration : Nat} (h : 0 < duration) : 0 < (slateTiming policy duration).1 := by
  unfold slateTiming
  split
  · exact h
  · split
    · show 0 < modelGapHoldNanos
      decide
    · exact h

theorem mem_lengthen {extra : Nat} {own : List DraftSegment} (h : draft ∈ lengthen extra own) :
    draft ∈ own ∨ ∃ shorter ∈ own, shorter.durationNanos ≤ draft.durationNanos ∧
      draft.timingBasis = .modelMeaningfulHold := by
  cases own with
  | nil => cases h
  | cons shorter own =>
    rcases List.mem_cons.1 h with rfl | hin
    · exact .inr ⟨shorter, by simp, Nat.le_add_right _ _, rfl⟩
    · exact .inl (List.mem_cons_of_mem _ hin)

theorem Planned.fit (h : Planned gaps frames policy meaningful drafts final) (hgaps : Coalesced gaps first last)
    (hordered : frames.IsChain fun a b => nanos a ≤ nanos b) (hids : (frames.map (·.id)).Nodup)
    (hnil : ∀ frame ∈ frames, frame.id.uuid.isNil = false) : ∀ draft ∈ final, Fit gaps frames policy draft := by
  intro draft hdraft
  cases hframe : draft.isFrame with
  | false =>
    have hslate : draft ∈ slateDrafts final := List.mem_filter.2 ⟨hdraft, by simp [hframe]⟩
    rw [h.slates] at hslate
    obtain ⟨gap, hgap, rfl⟩ := List.mem_map.1 hslate
    exact ⟨validate_slate gap gap.lt (hgaps.named gap hgap), slateTiming_pos (Nat.sub_pos_of_lt gap.lt), by simp [hframe],
      fun _ => ⟨gap, hgap, rfl, rfl⟩⟩
  | true =>
    -- its source is that of a draft of a frame
    have hsource : draft.source ∈ drafts.map (·.source) := by
      rw [← h.sources]
      exact List.mem_map_of_mem hdraft
    obtain ⟨origin, horigin, heq⟩ := List.mem_map.1 hsource
    have horiginFrame : origin.isFrame = true := by
      unfold DraftSegment.isFrame at hframe ⊢
      rwa [heq]
    have hraw : origin ∈ frameDrafts (rawDrafts gaps frames) := by
      rw [← h.frames]
      exact List.mem_filter.2 ⟨horigin, horiginFrame⟩
    obtain ⟨before, frame, rest, hsplit, hshows⟩ := rawDrafts_shows hgaps.apart hordered hraw
    have hin : frame ∈ frames := by
      rw [hsplit]
      simp
    have hsourceFrame : draft.source = .sourceFrame frame.id (nanos frame) := heq ▸ hshows.source
    have hof : draft.ofFrame frame.id = true := by
      unfold DraftSegment.ofFrame
      rw [hsourceFrame]
      exact decide_eq_true rfl
    have hfilter : draft ∈ final.filter (·.ofFrame frame.id) := List.mem_filter.2 ⟨hdraft, hof⟩
    have hown := h.own hgaps.apart hordered hids hsplit
    have hchain : (frame :: rest).IsChain fun a b => nanos a ≤ nanos b := by
      rw [hsplit] at hordered
      exact hordered.right_of_append
    obtain ⟨hall, -⟩ := own_spec hgaps.apart hchain
    have htimed : 0 < draft.durationNanos ∧ FrameBasis policy draft.timingBasis := by
      by_cases hheld : policy = .modelOptimized ∧ frame.id ∈ meaningful
      · rw [h.held hheld.1 frame.id hheld.2, hown, heldOwn] at hfilter
        have hcases : draft ∈ frameDrafts (ownDrafts gaps frame rest) ∨
            ∃ shorter ∈ frameDrafts (ownDrafts gaps frame rest), shorter.durationNanos ≤ draft.durationNanos ∧
              draft.timingBasis = .modelMeaningfulHold := by
          split at hfilter
          · exact mem_lengthen hfilter
          · exact .inl hfilter
        rcases hcases with hsame | ⟨shorter, hshorter, hle, hbasis⟩
        · exact ⟨(hall draft hsame).duration_pos, (hall draft hsame).basis ▸ base_basis gaps frame rest⟩
        · refine ⟨(hall shorter hshorter).duration_pos.trans_le hle, ?_⟩
          rw [hbasis, hheld.1]
          simp [FrameBasis]
      · have hordinary : policy = .realTime ∨ frame.id ∉ meaningful := by
          cases policy with
          | realTime => exact .inl rfl
          | modelOptimized => exact .inr fun hmem => hheld ⟨rfl, hmem⟩
        rw [h.ordinary frame.id hordinary, hown] at hfilter
        exact ⟨(hall draft hfilter).duration_pos, (hall draft hfilter).basis ▸ base_basis gaps frame rest⟩
    refine ⟨?_, htimed.1, fun _ => ⟨htimed.2, frame, hin, hsourceFrame⟩, fun hnot => by cases hframe.symm.trans hnot⟩
    rw [hsourceFrame]
    exact validate_frame (hnil frame hin) _

theorem mem_nanos {frames : List CapturedFrame} (hordered : frames.IsChain fun a b => nanos a ≤ nanos b)
    (hne : frames ≠ []) (hframe : frame ∈ frames) :
    nanos (frames.head hne) ≤ nanos frame ∧ nanos frame ≤ nanos (frames.getLast hne) := by
  have hpairwise : frames.Pairwise fun a b => nanos a ≤ nanos b :=
    (List.isChain_iff_pairwise (R := fun a b => nanos a ≤ nanos b)).1 hordered
  constructor
  · obtain ⟨first, rest, rfl⟩ := List.exists_cons_of_ne_nil hne
    rcases List.mem_cons.1 hframe with rfl | hrest
    · exact le_rfl
    · exact List.rel_of_pairwise_cons hpairwise hrest
  · have hsplit := List.dropLast_append_getLast hne
    rw [← hsplit] at hframe hpairwise
    rw [List.pairwise_append] at hpairwise
    rcases List.mem_append.1 hframe with hin | hin
    · exact hpairwise.2.2 frame hin _ (by simp)
    · rw [List.mem_singleton.1 hin]

theorem validateParts_accepts (hinput : Accepted input) (hne : input.frames ≠ [])
    (hgaps : Coalesced gaps (nanos (input.frames.head hne)) (nanos (input.frames.getLast hne)))
    (h : Planned gaps input.frames input.policy input.meaningfulFrameIds drafts final)
    (hfit : ∀ draft ∈ final, Fit gaps input.frames input.policy draft) (hfinal : final ≠ [])
    (hsegments : segments.map (·.draft) = final) (hlaid : Laid 0 0 segments)
    (hlength : segments.length ≤ maxVideoPresentationSegments) :
    ∃ duration, (input.plan (nanos (input.frames.head hne)) (nanos (input.frames.getLast hne)) segments).validateParts =
      .ok duration := by
  have hids : (input.frames.map (·.id)).Nodup := hinput.ids ▸ hinput.nodup
  have hsources : segments.map (·.source) = final.map (·.source) := by rw [← hsegments, map_source_draft]
  have hpositions := positions_ordered hgaps.apart hinput.ordered hids [] input.frames rfl
  have hpositionsEq : (segments.map (·.source)).filterMap (·.position (input.frames.map (·.id))) =
      ((frameDrafts (rawDrafts gaps input.frames)).map (·.source)).filterMap (·.position (input.frames.map (·.id))) := by
    rw [hsources, h.sources, positions_eq, h.frames]
  have hloop : ∃ duration, checkSegments (input.frames.map (·.id)) (input.frames.map nanos)
      (nanos (input.frames.head hne)) (nanos (input.frames.getLast hne)) 0 0 none segments = .ok duration := by
    refine checkSegments_accepts hlaid ?_ ?_ (by rw [hpositionsEq]; exact hpositions.1) nofun
    · rintro source hsource frameId time rfl
      rw [hsources] at hsource
      obtain ⟨draft, hdraft, heq⟩ := List.mem_map.1 hsource
      have hframe : draft.isFrame = true := by
        unfold DraftSegment.isFrame
        rw [heq]
      obtain ⟨-, frame, hin, hshown⟩ := (hfit draft hdraft).shown hframe
      rw [heq, VideoSegmentSource.sourceFrame.injEq] at hshown
      obtain ⟨rfl, rfl⟩ := hshown
      obtain ⟨before, rest, hsplit⟩ := List.append_of_mem hin
      have hindex := idxOf?_split (hsplit ▸ hids)
      rw [← hsplit] at hindex
      refine ⟨before.length, hindex, ?_, mem_nanos hinput.ordered hne hin⟩
      rw [hsplit]
      simp
    · rintro source hsource gapIds start stop rfl
      rw [hsources] at hsource
      obtain ⟨draft, hdraft, heq⟩ := List.mem_map.1 hsource
      have hslate : draft.isFrame = false := by
        unfold DraftSegment.isFrame
        rw [heq]
      obtain ⟨gap, hgap, hshown, -⟩ := (hfit draft hdraft).gap hslate
      rw [heq, VideoSegmentSource.gapSlate.injEq] at hshown
      obtain ⟨-, rfl, rfl⟩ := hshown
      exact hgaps.within gap hgap
  obtain ⟨duration, hduration⟩ := hloop
  refine ⟨duration, ?_⟩
  have hhead := hinput.within _ (List.head_mem hne)
  have htail := hinput.within _ (List.getLast_mem hne)
  have hspan := hinput.span _ (List.head?_eq_some_head hne) _ (List.getLast?_eq_some_getLast hne)
  have hnil := hinput.identified
  simp only [VideoPresentationPlan.validateParts, VideoPlanInput.plan, bind_eq_ok]
  refine ⟨(), refuse_eq_ok.2 ?_, (), refuse_eq_ok.2 ?_, (), refuse_eq_ok.2 ?_, (), refuse_eq_ok.2 ?_, (),
    refuse_eq_ok.2 ?_, (), refuse_eq_ok.2 ?_, (), ?_, (), refuse_eq_ok.2 ?_, (), refuse_eq_ok.2 ?_, (),
    refuse_eq_ok.2 ?_, (), refuse_eq_ok.2 ?_, (), refuse_eq_ok.2 ?_, hduration⟩
  · rintro (hlt | hlt | hlt | hlt)
    · exact absurd hinput.narrows.1 (not_le.2 hlt)
    · exact absurd hinput.narrows.2 (not_le.2 hlt)
    · exact absurd (SessionTime.le_iff.1 hhead.1) (not_le.2 hlt)
    · exact absurd (SessionTime.le_iff.1 htail.2) (not_le.2 hlt)
  · rintro (hempty | hlengths | hnil' | hdup | hother)
    · exact hne (List.map_eq_nil_iff.1 hempty)
    · exact hlengths (by simp)
    · rw [hinput.ids, hnil] at hnil'
      cases hnil'
    · exact hdup hids
    · exact hother hinput.ids.symm
  · rw [not_not, List.isChain_map]
    exact hinput.ordered
  · rintro (hfirst | hlast)
    · exact hfirst (by rw [List.head?_map, List.head?_eq_some_head hne]; rfl)
    · exact hlast (by rw [List.getLast?_map, List.getLast?_eq_some_getLast hne]; rfl)
  · exact not_lt.2 (mem_nanos hinput.ordered hne (List.head_mem hne)).2
  · exact not_lt.2 hspan
  · rw [hinput.ids]
    exact hinput.meaningful
  · exact not_not.2 hinput.geometry
  · rw [List.length_map]
    exact not_lt.2 hinput.count
  · exact not_lt.2 hinput.meaningfulCount
  · rintro rfl
    exact hfinal hsegments.symm
  · exact not_lt.2 hlength

theorem validate_accepts (hinput : Accepted input) (hne : input.frames ≠ [])
    (hgaps : Coalesced gaps (nanos (input.frames.head hne)) (nanos (input.frames.getLast hne)))
    (h : Planned gaps input.frames input.policy input.meaningfulFrameIds drafts final)
    (hlast : drafts.getLast? = some (frameDraft (input.frames.getLast hne) terminalHoldNanos .terminalHold))
    (hsegments : segments.map (·.draft) = final) (hlaid : Laid 0 0 segments)
    (hlength : segments.length ≤ maxVideoPresentationSegments) :
    (∃ duration, (input.plan (nanos (input.frames.head hne)) (nanos (input.frames.getLast hne)) segments).validate =
        .ok duration) ∨
      (input.plan (nanos (input.frames.head hne)) (nanos (input.frames.getLast hne)) segments).validate =
        .error invisibleError := by
  have hids : (input.frames.map (·.id)).Nodup := hinput.ids ▸ hinput.nodup
  have hnil := hinput.isNil_eq_false
  have hfit := h.fit hgaps hinput.ordered hids hnil
  have hlastSource : final.getLast?.map (·.source) =
      some (.sourceFrame (input.frames.getLast hne).id (nanos (input.frames.getLast hne))) := by
    rw [← List.getLast?_map, h.sources, List.getLast?_map, hlast]
    rfl
  have hfinal : final ≠ [] := by
    rintro rfl
    cases hlastSource
  obtain ⟨duration, hparts⟩ := validateParts_accepts hinput hne hgaps h hfit hfinal hsegments hlaid hlength
  unfold VideoPresentationPlan.validate
  rw [hparts, ok_bind]
  by_cases hvisible : ∃ id ∈ input.meaningfulFrameIds, segments.any (·.ofFrame id) = false
  · right
    show (refuse _ invisibleError >>= _) = _
    unfold refuse
    rw [if_pos]
    · rfl
    · exact hvisible
  · left
    refine ⟨duration, ?_⟩
    have hall : ∀ id ∈ input.meaningfulFrameIds, segments.any (·.ofFrame id) = true := by
      intro id hid
      by_contra hnot
      exact hvisible ⟨id, hid, by simpa using hnot⟩
    simp only [VideoPlanInput.plan, validateCanonicalTiming, bind_eq_ok]
    refine ⟨(), refuse_eq_ok.2 hvisible, (), ⟨(), ?_, (), ?_, refuse_eq_ok.2 ?_⟩, rfl⟩
    · refine checkTimings_accepts (fun segment hsegment hframe => ?_) ?_ ?_ nofun
      · have hmem : segment.draft ∈ final := by
          rw [← hsegments]
          exact List.mem_map_of_mem hsegment
        exact ((hfit segment.draft hmem).shown hframe).1
      · intro draft hdraft ids start stop hsource
        rw [hsegments] at hdraft
        obtain ⟨hmem, hslate⟩ := List.mem_filter.1 hdraft
        obtain ⟨gap, hgap, hshown, htiming⟩ := (hfit draft hmem).gap (by simpa using hslate)
        rw [hsource, VideoSegmentSource.gapSlate.injEq] at hshown
        obtain ⟨-, rfl, rfl⟩ := hshown
        exact ⟨gap.lt.le, htiming⟩
      · rw [h.slateRanges hsegments, List.pairwise_map]
        exact hgaps.apart
    · exact checkFrames_accepts h hsegments hgaps.apart hinput.ordered hids hall [] input.frames rfl
    · rw [not_not]
      have hsegmentLast : segments.getLast?.map (·.source) =
          some (.sourceFrame (input.frames.getLast hne).id (nanos (input.frames.getLast hne))) := by
        rw [← hlastSource, ← hsegments, List.getLast?_map, Option.map_map]
        rfl
      obtain ⟨segment, hsegment, hsource⟩ := Option.map_eq_some_iff.1 hsegmentLast
      refine ⟨segment, hsegment, (input.frames.getLast hne).id, ?_, ?_⟩
      · rw [List.getLast?_map, List.getLast?_eq_some_getLast hne]
        rfl
      · unfold VideoPresentationSegment.ofFrame VideoPresentationSegment.draft DraftSegment.ofFrame
        simp [hsource]

/-! ### The errors of the builder -/

theorem refuse_passes {refused : Prop} [Decidable refused] (h : ¬ refused) :
    refuse refused error = .ok () := refuse_eq_ok.2 h

def Limited (error : KrometrailError) : Prop := error.code = .resourceLimitExceeded

theorem okOr_limited {α : Type} {value : Option α} {message : String} (h : okOr value (limitError message) = .error error)
    : Limited error := by
  cases value with
  | none =>
    cases h
    rfl
  | some a => cases h

theorem pushDraft_limited {output : List DraftSegment} (h : pushDraft output draft = .error error) : Limited error := by
  unfold pushDraft at h
  split at h
  · split at h
    · rename_i lastDuration _ _ _ _ _ _ _ _
      cases hsum : okOr (checkedAdd _ draft.durationNanos) (limitError "video gap presentation duration overflowed") with
      | error e =>
        rw [hsum] at h
        cases h
        exact okOr_limited hsum
      | ok duration =>
        rw [hsum] at h
        cases h
    · cases h
  · cases h

theorem place_limited {output : List DraftSegment} (hvalid : ∀ draft ∈ drafts, draft.source.validate = .ok ())
    (h : drafts.foldlM placeDraft output = .error error) : Limited error := by
  induction drafts generalizing output with
  | nil => cases h
  | cons draft drafts ih =>
    rw [List.foldlM_cons, placeDraft, hvalid draft (by simp), ok_bind] at h
    cases hpush : pushDraft output draft with
    | error e =>
      rw [hpush] at h
      cases h
      exact pushDraft_limited hpush
    | ok next =>
      rw [hpush, ok_bind] at h
      exact ih (fun other hother => hvalid other (List.mem_cons_of_mem draft hother)) h

theorem finishFrom_limited {index cursor : Nat}
    (hfit : ∀ draft ∈ drafts, draft.source.validate = .ok () ∧ 0 < draft.durationNanos)
    (h : finishFrom index cursor drafts = .error error) : Limited error := by
  induction drafts generalizing index cursor with
  | nil => cases h
  | cons draft drafts ih =>
    obtain ⟨hvalid, hpos⟩ := hfit draft (by simp)
    unfold finishFrom at h
    cases hsum : okOr (checkedAdd cursor draft.durationNanos)
        (limitError "video presentation duration overflowed") with
    | error e =>
      rw [hsum] at h
      cases h
      exact okOr_limited hsum
    | ok stop =>
      rw [hsum, ok_bind] at h
      rw [okOr_eq_ok, checkedAdd_eq_some] at hsum
      by_cases hlong : maxPresentationNanos < cursor ∨ maxPresentationNanos < stop
      · rw [refuse, if_pos hlong] at h
        cases h
        rfl
      · have hsome : ¬ stop ≤ cursor := by omega
        rw [refuse_passes hlong, ok_bind, refuse_passes hsome, ok_bind, hvalid, ok_bind] at h
        cases hrest : finishFrom (index + 1) stop drafts with
        | error e =>
          rw [hrest] at h
          cases h
          exact ih (fun other hother => hfit other (List.mem_cons_of_mem draft hother)) hrest
        | ok behind =>
          rw [hrest] at h
          cases h

theorem finishSegments_limited (hfit : ∀ draft ∈ drafts, draft.source.validate = .ok () ∧ 0 < draft.durationNanos)
    (h : finishSegments drafts = .error error) : Limited error := by
  unfold finishSegments at h
  by_cases hlong : drafts.length > maxVideoPresentationSegments
  · rw [refuse, if_pos hlong] at h
    cases h
    rfl
  · rw [refuse_passes hlong, ok_bind] at h
    exact finishFrom_limited hfit h

theorem totalNanos_limited {message : String} (h : totalNanos message drafts = .error error) : Limited error := by
  unfold totalNanos at h
  generalize 0 = start at h
  induction drafts generalizing start with
  | nil => cases h
  | cons draft drafts ih =>
    rw [List.foldlM_cons] at h
    cases hsum : okOr (checkedAdd start draft.durationNanos) (limitError message) with
    | error e =>
      rw [hsum] at h
      cases h
      exact okOr_limited hsum
    | ok next =>
      rw [hsum, ok_bind] at h
      exact ih next h

theorem holdFirst_error {extra : Nat} (h : holdFirst id extra drafts = .error error) :
    Limited error ∨ error = obscuredError := by
  induction drafts with
  | nil => exact .inr (Except.error.inj h).symm
  | cons draft drafts ih =>
    unfold holdFirst at h
    split at h
    · cases hsum : okOr (checkedAdd draft.durationNanos extra) (limitError "model-optimized frame hold overflowed") with
      | error e =>
        rw [hsum] at h
        cases h
        exact .inl (okOr_limited hsum)
      | ok duration =>
        rw [hsum] at h
        cases h
    · cases hrest : holdFirst id extra drafts with
      | error e =>
        rw [hrest] at h
        cases h
        exact ih hrest
      | ok behind =>
        rw [hrest] at h
        cases h

theorem holds_error (h : meaningful.foldlM holdMeaningful drafts = .error error) : Limited error ∨ error = obscuredError := by
  induction meaningful generalizing drafts with
  | nil => cases h
  | cons id meaningful ih =>
    rw [List.foldlM_cons] at h
    cases hhold : holdMeaningful drafts id with
    | ok next =>
      rw [hhold, ok_bind] at h
      exact ih h
    | error e =>
      rw [hhold] at h
      cases h
      unfold holdMeaningful at hhold
      by_cases hnone : drafts.any (·.ofFrame id) = false
      · rw [refuse, if_pos hnone] at hhold
        exact .inr (Except.error.inj hhold).symm
      · rw [refuse_passes hnone, ok_bind] at hhold
        cases hsum : totalNanos "model-optimized frame hold overflowed" (drafts.filter (·.ofFrame id)) with
        | error e' =>
          rw [hsum] at hhold
          cases hhold
          exact .inl (totalNanos_limited hsum)
        | ok sum =>
          rw [hsum, ok_bind] at hhold
          split at hhold
          · exact holdFirst_error hhold
          · cases hhold

theorem gapDrafts_valid {stop cursor : Nat} (hnil : frame.id.uuid.isNil = false)
    (hnamed : ∀ gap ∈ gaps, gap.gapIds ≠ [] ∧ gap.gapIds.Nodup ∧ ∀ id ∈ gap.gapIds, id.uuid.isNil = false) :
    ∀ draft ∈ gapDrafts frame stop cursor gaps, draft.source.validate = .ok () := by
  induction gaps generalizing cursor with
  | nil =>
    intro draft hdraft
    unfold gapDrafts at hdraft
    split at hdraft
    · obtain rfl := List.mem_singleton.1 hdraft
      exact validate_frame hnil _
    · cases hdraft
  | cons gap gaps ih =>
    have hrest : ∀ cursor, ∀ draft ∈ gapDrafts frame stop cursor gaps, draft.source.validate = .ok () := fun cursor =>
      ih fun other hother => hnamed other (List.mem_cons_of_mem gap hother)
    intro draft hdraft
    unfold gapDrafts at hdraft
    dsimp only at hdraft
    split at hdraft
    · exact hrest _ draft hdraft
    · rcases List.mem_append.1 hdraft with hbefore | hbehind
      · split at hbefore
        · obtain rfl := List.mem_singleton.1 hbefore
          exact validate_frame hnil _
        · cases hbefore
      · split at hbehind
        · rename_i hlt
          rcases List.mem_cons.1 hbehind with rfl | hin
          · exact validate_slate gap hlt (hnamed gap (by simp))
          · exact hrest _ draft hin
        · exact hrest _ draft hbehind

theorem rawDrafts_valid (hnil : ∀ frame ∈ frames, frame.id.uuid.isNil = false)
    (hnamed : ∀ gap ∈ gaps, gap.gapIds ≠ [] ∧ gap.gapIds.Nodup ∧ ∀ id ∈ gap.gapIds, id.uuid.isNil = false) :
    ∀ draft ∈ rawDrafts gaps frames, draft.source.validate = .ok () := by
  induction frames with
  | nil => exact nofun
  | cons frame rest ih =>
    intro draft hdraft
    have hframe := hnil frame (by simp)
    rw [rawDrafts] at hdraft
    rcases List.mem_append.1 hdraft with hown | hrest
    · cases rest with
      | nil =>
        obtain rfl := List.mem_singleton.1 hown
        exact validate_frame hframe _
      | cons next rest =>
        rw [ownDrafts] at hown
        split at hown
        · obtain rfl := List.mem_singleton.1 hown
          exact validate_frame hframe _
        · exact gapDrafts_valid hframe hnamed draft hown
    · exact ih (fun other hother => hnil other (List.mem_cons_of_mem frame hother)) draft hrest

/-- A failure that planning may have: a limit, or a meaningful frame that the gaps hide. -/
def Expected (error : KrometrailError) : Prop :=
  Limited error ∨ error = obscuredError ∨ error = invisibleError

def VideoPlanInput.epochGaps (input : VideoPlanInput) (hframes : input.frames ≠ []) : List CoalescedGap :=
  coalesceEpochGaps input.range.gaps (nanos (input.frames.head hframes)) (nanos (input.frames.getLast hframes))

/-- The gaps between the frames have identifiers. -/
def VideoPlanInput.GapsNamed (input : VideoPlanInput) (hframes : input.frames ≠ []) : Prop :=
  ∀ gap ∈ input.range.gaps,
    (clipGap (nanos (input.frames.head hframes)) (nanos (input.frames.getLast hframes)) gap).isSome = true →
      gap.id.uuid.isNil = false

instance (input : VideoPlanInput) (hframes : input.frames ≠ []) : Decidable (input.GapsNamed hframes) :=
  inferInstanceAs (Decidable (∀ _ ∈ _, _))

theorem segments_planned (hinput : Accepted input) (hne : input.frames ≠ [])
    (hgaps : Coalesced (input.epochGaps hne) (nanos (input.frames.head hne)) (nanos (input.frames.getLast hne)))
    (hwhole : GapsWhole (input.epochGaps hne) input.frames) :
    (∃ error, input.segments (nanos (input.frames.head hne)) (nanos (input.frames.getLast hne)) = .error error ∧
        Expected error) ∨
      ∃ segments drafts, input.segments (nanos (input.frames.head hne)) (nanos (input.frames.getLast hne)) =
          .ok segments ∧
        Planned (input.epochGaps hne) input.frames input.policy input.meaningfulFrameIds drafts (segments.map (·.draft)) ∧
        drafts.getLast? = some (frameDraft (input.frames.getLast hne) terminalHoldNanos .terminalHold) ∧
        Laid 0 0 segments ∧ segments.length ≤ maxVideoPresentationSegments := by
  have hids : (input.frames.map (·.id)).Nodup := hinput.ids ▸ hinput.nodup
  have hnil := hinput.isNil_eq_false
  have hvalid := rawDrafts_valid hnil hgaps.named
  unfold VideoPlanInput.segments realTimeSegments
  show (∃ error, (((rawDrafts (input.epochGaps hne) input.frames).foldlM placeDraft [] >>= finishSegments) >>= _) =
    .error error ∧ _) ∨ ∃ segments drafts, (((rawDrafts (input.epochGaps hne) input.frames).foldlM placeDraft [] >>=
      finishSegments) >>= _) = .ok segments ∧ _
  cases hplaced : (rawDrafts (input.epochGaps hne) input.frames).foldlM placeDraft [] with
  | error error => exact .inl ⟨error, rfl, .inl (place_limited hvalid hplaced)⟩
  | ok drafts =>
    obtain ⟨hslates, hframes, hlast⟩ := placed_spec hne hgaps hinput.ordered hwhole hplaced
    have hreal : Planned (input.epochGaps hne) input.frames .realTime input.meaningfulFrameIds drafts drafts :=
      planned_realTime hslates hframes
    have hfit := hreal.fit hgaps hinput.ordered hids hnil
    rw [ok_bind]
    cases hfinish : finishSegments drafts with
    | error error =>
      exact .inl ⟨error, rfl, .inl (finishSegments_limited (fun draft hdraft =>
        ⟨(hfit draft hdraft).valid, (hfit draft hdraft).duration_pos⟩) hfinish)⟩
    | ok shown =>
      obtain ⟨hdrafts, hlaid, hlength⟩ := finishSegments_eq_ok hfinish
      rw [ok_bind]
      cases hpolicy : input.policy with
      | realTime =>
        exact .inr ⟨shown, drafts, rfl, by rw [hdrafts]; exact hreal, hlast, hlaid, hlength⟩
      | modelOptimized =>
        -- the holds, and the second finish
        show (∃ error, optimizeForModel shown input.meaningfulFrameIds = .error error ∧ _) ∨
          ∃ segments drafts, optimizeForModel shown input.meaningfulFrameIds = .ok segments ∧ _
        unfold optimizeForModel
        rw [hdrafts]
        cases hheld : input.meaningfulFrameIds.foldlM holdMeaningful (drafts.map (·.holdGap)) with
        | error error =>
          refine .inl ⟨error, rfl, ?_⟩
          rcases holds_error hheld with hlimited | hobscured
          · exact .inl hlimited
          · exact .inr (.inl hobscured)
        | ok final =>
          have hmodel := planned_modelOptimized hinput.nodupMeaningful hslates hframes hheld
          have hfitModel := hmodel.fit hgaps hinput.ordered hids hnil
          rw [ok_bind]
          cases hsecond : finishSegments final with
          | error error =>
            exact .inl ⟨error, rfl, .inl (finishSegments_limited (fun draft hdraft =>
              ⟨(hfitModel draft hdraft).valid, (hfitModel draft hdraft).duration_pos⟩) hsecond)⟩
          | ok segments =>
            obtain ⟨hfinal, hlaid', hlength'⟩ := finishSegments_eq_ok hsecond
            exact .inr ⟨segments, drafts, rfl, by rw [hfinal]; exact hmodel, hlast, hlaid', hlength'⟩

/-- **Builder and validator agree.**  Planning an accepted input gives a plan, or fails with a limit or for a meaningful
frame that the gaps hide, if the gaps have identifiers and no two frames of one time are inside a gap. -/
theorem plan_agreement {input : VideoPlanInput} (hinput : input.validate = .ok ()) (hframes : input.frames ≠ [])
    (hnamed : input.GapsNamed hframes) (hwhole : GapsWhole (input.epochGaps hframes) input.frames) :
    (∃ plan, buildPresentationPlan input hframes = .ok plan) ∨
      ∃ error, buildPresentationPlan input hframes = .error error ∧ Expected error := by
  have haccepted := accepted_of_validate hinput
  have hgaps : Coalesced (input.epochGaps hframes) (nanos (input.frames.head hframes))
      (nanos (input.frames.getLast hframes)) := coalesced _ _ _ hnamed
  have hspan : ¬ nanos (input.frames.getLast hframes) < nanos (input.frames.head hframes) :=
    not_lt.2 (mem_nanos haccepted.ordered hframes (List.head_mem hframes)).2
  unfold buildPresentationPlan
  dsimp only
  rw [refuse_passes hspan, ok_bind]
  rcases segments_planned haccepted hframes hgaps hwhole with ⟨error, herror, hexpected⟩ |
    ⟨segments, drafts, hsegments, hplanned, hlast, hlaid, hlength⟩
  · rw [herror]
    exact .inr ⟨error, rfl, hexpected⟩
  · rw [hsegments, ok_bind]
    rcases validate_accepts haccepted hframes hgaps hplanned hlast rfl hlaid hlength with ⟨duration, hduration⟩ | hinvisible
    · rw [hduration]
      exact .inl ⟨_, rfl⟩
    · rw [hinvisible]
      exact .inr ⟨_, rfl, .inr (.inr rfl)⟩

def tiedFrames : List CapturedFrame :=
  [timedFrame 3 1 0 ordinal_one, timedFrame 4 2 10 ordinal_two, timedFrame 5 3 10 ordinal_three, timedFrame 6 4 20 ordinal_four]

def pausedGap (start stop : UInt64) (h : start ≤ stop) : CaptureGap :=
  { id := ⟨someUuid 7⟩, sessionId := ⟨someUuid 1⟩, targetId := ⟨someUuid 2⟩, range := ⟨⟨⟨start⟩, ⟨stop⟩⟩, h⟩,
    observedTime := ⟨stop⟩, reason := .screencastPaused, estimatedMissingFrames := none, endsBy := UInt64.le_refl _ }

def tiedInput (gap : CaptureGap) : VideoPlanInput :=
  { range :=
      { sessionId := ⟨someUuid 1⟩, targetId := ⟨someUuid 2⟩, anchorKind := .sessionTime,
        resolvedAnchor := { reference := .interval, requestedTime := ⟨10⟩, effectiveTime := ⟨10⟩ },
        requestedRange := ⟨⟨⟨0⟩, ⟨20⟩⟩, by decide⟩, resolvedRange := ⟨⟨⟨0⟩, ⟨20⟩⟩, by decide⟩,
        frameIds := tiedFrames.map (·.id), interactionIds := [], navigationIds := [], markerIds := [], gaps := [gap],
        retentionWarnings := [], appliedInteractionWindow := none,
        options := { retention := .requireComplete, captureGaps := .included, implicitInteractionWindow := .default } },
    epochFrameIds := tiedFrames.map (·.id), epochImage := .unit, epochViewport := .unit, epochDeviceScaleFactor := .one,
    frames := tiedFrames, meaningfulFrameIds := [⟨someUuid 4⟩], outputSource := .unit,
    policy := .modelOptimized }

theorem plan_agreement_tied :
    (∃ plan, buildPresentationPlan (tiedInput (pausedGap 5 8 (by decide))) (by decide) = .ok plan) ∨
      ∃ error, buildPresentationPlan (tiedInput (pausedGap 5 8 (by decide))) (by decide) = .error error ∧ Expected error :=
  plan_agreement (by decide +kernel) (by decide) (by decide +kernel) (by decide +kernel)

/-- The gap goes on over both frames, whose slates are not joined, and the validator refuses them. -/
theorem tied_frames_refused : ¬ ∀ input, input.validate = .ok () → ∀ hframes,
    (∃ plan, buildPresentationPlan input hframes = .ok plan) ∨
      ∃ error, buildPresentationPlan input hframes = .error error ∧ Expected error := by
  intro h
  have herror : buildPresentationPlan (tiedInput (pausedGap 5 15 (by decide))) (by decide) = .error
      (invalid "video gap slate source ranges must remain ordered, disjoint, and coalesced") := rfl
  rcases h (tiedInput (pausedGap 5 15 (by decide))) (by decide +kernel) (by decide) with ⟨plan, hplan⟩ | ⟨error, hfails, hexpected⟩
  · cases herror.symm.trans hplan
  · obtain rfl := Except.error.inj (herror.symm.trans hfails)
    rcases hexpected with hlimited | hobscured | hinvisible
    · cases hlimited
    · exact absurd (congrArg KrometrailError.message hobscured) (by decide)
    · exact absurd (congrArg KrometrailError.message hinvisible) (by decide)

end Krometrail.Video
