import Krometrail.Video.Durations

/-!
# What the validator accepts

Each loop of the validator accepts segments whose drafts are as the builder plans them (`Planned`): the slates are the gaps,
and each frame has its own drafts, the first of which a hold may make longer.
-/

namespace Krometrail.Video

open Results

variable {gaps : List CoalescedGap} {frame : CapturedFrame} {frames rest : List CapturedFrame}
  {drafts final held : List DraftSegment} {segments : List VideoPresentationSegment} {id : FrameId}
  {policy : VideoPresentationPolicy} {meaningful : List FrameId} {first last : Nat}

def VideoSegmentSource.range : VideoSegmentSource → Option (Nat × Nat)
  | sourceFrame .. => none
  | gapSlate _ start stop => some (start, stop)

theorem slateRanges_eq (segments : List VideoPresentationSegment) :
    slateRanges segments = (segments.map (·.source)).filterMap (·.range) := by
  unfold slateRanges
  rw [List.filterMap_map]
  refine List.filterMap_congr fun segment _ => ?_
  show _ = segment.source.range
  cases segment.source <;> rfl

theorem ranges_eq (drafts : List DraftSegment) :
    (drafts.map (·.source)).filterMap (·.range) = ((slateDrafts drafts).map (·.source)).filterMap (·.range) := by
  induction drafts with
  | nil => rfl
  | cons draft drafts ih =>
    rw [List.map_cons, List.filterMap_cons, ih]
    cases hsource : draft.source with
    | sourceFrame id time => simp [slateDrafts, DraftSegment.isFrame, hsource, VideoSegmentSource.range]
    | gapSlate ids start stop => simp [slateDrafts, DraftSegment.isFrame, hsource, VideoSegmentSource.range]

/-- What is known of the final drafts. -/
structure Planned (gaps : List CoalescedGap) (frames : List CapturedFrame) (policy : VideoPresentationPolicy)
    (meaningful : List FrameId) (drafts final : List DraftSegment) : Prop where
  sources : final.map (·.source) = drafts.map (·.source)
  slates : slateDrafts final = gaps.map fun gap =>
    ⟨.gapSlate gap.gapIds gap.start gap.stop, (slateTiming policy (gap.stop - gap.start)).1,
      (slateTiming policy (gap.stop - gap.start)).2⟩
  frames : frameDrafts drafts = frameDrafts (rawDrafts gaps frames)
  ordinary : ∀ id, policy = .realTime ∨ id ∉ meaningful → final.filter (·.ofFrame id) = drafts.filter (·.ofFrame id)
  held : policy = .modelOptimized → ∀ id ∈ meaningful, final.filter (·.ofFrame id) = heldOwn (drafts.filter (·.ofFrame id))

theorem filter_ofFrame_frameDrafts (drafts : List DraftSegment) (id : FrameId) :
    drafts.filter (·.ofFrame id) = (frameDrafts drafts).filter (·.ofFrame id) := by
  unfold frameDrafts
  rw [List.filter_filter]
  refine List.filter_congr fun draft _ => ?_
  cases h : draft.ofFrame id with
  | true => simp [isFrame_of_ofFrame h]
  | false => simp

theorem Planned.own (h : Planned gaps frames policy meaningful drafts final)
    (hapart : gaps.Pairwise fun a b => a.stop < b.start) (hordered : frames.IsChain fun a b => nanos a ≤ nanos b)
    (hids : (frames.map (·.id)).Nodup) {before : List CapturedFrame} (hsplit : frames = before ++ frame :: rest) :
    drafts.filter (·.ofFrame frame.id) = frameDrafts (ownDrafts gaps frame rest) := by
  subst hsplit
  rw [filter_ofFrame_frameDrafts, h.frames]
  exact filter_ofFrame hapart hordered hids

theorem total_lengthen {extra : Nat} {own : List DraftSegment} (hne : own ≠ []) :
    total (lengthen extra own) = total own + extra := by
  cases own with
  | nil => exact absurd rfl hne
  | cons draft own =>
    simp [lengthen, total]
    omega

theorem checkBases_ordinary {basis : VideoTimingBasis} {own : List VideoPresentationSegment}
    (h : ∀ segment ∈ own, segment.timingBasis = basis) : checkBases false basis own = .ok () := by
  induction own with
  | nil => rfl
  | cons segment own ih =>
    simp only [checkBases, bind_eq_ok, refuse_eq_ok]
    exact ⟨(), by simp [h segment (by simp)], ih fun other hother => h other (List.mem_cons_of_mem segment hother)⟩

theorem checkFrame_accepts {isMeaningful : Bool} {basis : VideoTimingBasis} {own : List DraftSegment}
    {ownSegments : List VideoPresentationSegment} (hshows : ∀ draft ∈ own, Shows frame basis draft)
    (hbound : total own ≤ u64Max)
    (hsegments : ownSegments.map (·.draft) =
      if policy = .modelOptimized ∧ isMeaningful = true then heldOwn own else own)
    (hvisible : isMeaningful = true → ownSegments ≠ []) :
    checkFrame policy isMeaningful (total own) basis ownSegments = .ok () := by
  have hheld : heldOwn own = [] ↔ own = [] := by
    unfold heldOwn
    split
    · cases own <;> simp [lengthen]
    · rfl
  have hempty : ownSegments = [] ↔ own = [] := by
    rw [← List.map_eq_nil_iff (f := (·.draft)), hsegments]
    split
    · exact hheld
    · rfl
  unfold checkFrame
  split
  · rename_i hnone
    rw [refuse_eq_ok]
    have hown := hempty.1 hnone
    have hnot : isMeaningful ≠ true := fun hmeaningful => hvisible hmeaningful hnone
    rw [hown]
    simp [total, hnot]
  · rename_i hsome
    have hne : own ≠ [] := fun hnone => hsome (hempty.2 hnone)
    have hpos : total own ≠ 0 := by
      obtain ⟨draft, others, rfl⟩ := List.exists_cons_of_ne_nil hne
      have := (hshows draft (by simp)).duration_pos
      simp [total]
      omega
    have hbasis : ∀ draft ∈ own, draft.timingBasis = basis := fun draft hdraft => (hshows draft hdraft).basis
    simp only [bind_eq_ok, refuse_eq_ok]
    refine ⟨(), hpos, ?_⟩
    by_cases hadjusted : policy = .modelOptimized ∧ isMeaningful = true ∧ total own < modelMeaningfulHoldNanos
    · obtain ⟨hpolicy, hmeaningful, hlt⟩ := hadjusted
      rw [if_pos ⟨hpolicy, hmeaningful⟩, heldOwn, if_pos hlt] at hsegments
      have htotal : total (ownSegments.map (·.draft)) = modelMeaningfulHoldNanos := by
        rw [hsegments, total_lengthen hne]
        omega
      have hfits : modelMeaningfulHoldNanos ≤ u64Max := by decide
      refine ⟨_, totalNanos_total (htotal.le.trans hfits), (), ?_, ?_⟩
      · simp [hpolicy, hmeaningful, hlt, htotal]
      · obtain ⟨segment, others, rfl⟩ := List.exists_cons_of_ne_nil hsome
        obtain ⟨draft, own, rfl⟩ := List.exists_cons_of_ne_nil hne
        rw [List.map_cons, lengthen, List.cons.injEq] at hsegments
        have hfirst : segment.timingBasis = .modelMeaningfulHold := congrArg DraftSegment.timingBasis hsegments.1
        simp only [hpolicy, hmeaningful, hlt, checkBases, bind_eq_ok, refuse_eq_ok]
        refine ⟨(), by simp [hfirst], checkBases_ordinary fun other hother => ?_⟩
        have hmem : other.draft ∈ own := by
          rw [← hsegments.2]
          exact List.mem_map_of_mem hother
        exact hbasis other.draft (List.mem_cons_of_mem draft hmem)
    · have hsame : ownSegments.map (·.draft) = own := by
        rw [hsegments]
        split
        · rename_i hboth
          rw [heldOwn, if_neg fun hlt => hadjusted ⟨hboth.1, hboth.2, hlt⟩]
        · rfl
      have hdecided : (decide (policy = .modelOptimized) && isMeaningful &&
          decide (total own < modelMeaningfulHoldNanos)) = false := by
        rw [Bool.eq_false_iff]
        intro htrue
        simp only [Bool.and_eq_true, decide_eq_true_eq] at htrue
        exact hadjusted ⟨htrue.1.1, htrue.1.2, htrue.2⟩
      refine ⟨_, totalNanos_total (by rw [hsame]; exact hbound), (), ?_, ?_⟩
      · rw [hsame, hdecided]
        simp
      · rw [hdecided]
        refine checkBases_ordinary fun segment hsegment => ?_
        have hmem : segment.draft ∈ own := by
          rw [← hsame]
          exact List.mem_map_of_mem hsegment
        exact hbasis segment.draft hmem

theorem baseVisible_accepts (hapart : gaps.Pairwise fun a b => a.stop < b.start)
    (hordered : (frame :: rest).IsChain fun a b => nanos a ≤ nanos b) :
    baseVisible (gaps.map fun gap => (gap.start, gap.stop)) (nanos frame) (rest.map nanos) = .ok (base gaps frame rest) := by
  cases rest with
  | nil => rfl
  | cons next rest =>
    rw [List.isChain_cons_cons] at hordered
    have hbound : nanos next ≤ u64Max := by
      have := next.sessionTime.nanos.toNat_lt
      unfold nanos u64Max
      omega
    have htotal := gapDrafts_total hapart le_rfl hordered.1 fun gap _ => le_max_right gap.start (nanos frame)
    have hfold : ∀ (gaps : List CoalescedGap) (start : Nat), start + obscured gaps (nanos frame) (nanos next) ≤ u64Max →
        (gaps.map fun gap => (gap.start, gap.stop)).foldlM (fun total gap =>
          okOr (checkedAdd total (overlap (nanos frame) (nanos next) gap))
            (limitError "video source gap duration accounting overflowed")) start =
          .ok (start + obscured gaps (nanos frame) (nanos next)) := by
      intro gaps
      induction gaps with
      | nil => exact fun start _ => rfl
      | cons gap gaps ih =>
        intro start hle
        have hsum : obscured (gap :: gaps) (nanos frame) (nanos next) =
            overlap (nanos frame) (nanos next) (gap.start, gap.stop) + obscured gaps (nanos frame) (nanos next) := by
          simp [obscured]
        rw [hsum] at hle ⊢
        rw [List.map_cons, List.foldlM_cons, bind_eq_ok]
        refine ⟨start + overlap (nanos frame) (nanos next) (gap.start, gap.stop), ?_, ?_⟩
        · rw [okOr_eq_ok, checkedAdd_eq_some]
          exact ⟨by omega, rfl⟩
        · rw [ih _ (by omega), Nat.add_assoc]
    have hobscured := hfold gaps 0 (by omega)
    rw [Nat.zero_add] at hobscured
    simp only [baseVisible, base, List.map_cons, bind_eq_ok, refuse_eq_ok]
    refine ⟨(), by omega, ?_⟩
    by_cases heq : nanos frame = nanos next
    · rw [if_pos (by omega), if_pos heq]
      rfl
    · rw [if_neg (by omega), if_neg heq]
      simp only [bind_eq_ok, refuse_eq_ok]
      exact ⟨_, hobscured, (), by omega, rfl⟩

theorem map_source_draft (segments : List VideoPresentationSegment) :
    (segments.map (·.draft)).map (·.source) = segments.map (·.source) := by
  rw [List.map_map]
  rfl

theorem Planned.slateRanges (h : Planned gaps frames policy meaningful drafts final)
    (hsegments : segments.map (·.draft) = final) : slateRanges segments = gaps.map fun gap => (gap.start, gap.stop) := by
  rw [slateRanges_eq, ← map_source_draft, hsegments, ranges_eq, h.slates, List.map_map, List.filterMap_map]
  exact congrFun (List.filterMap_eq_map (f := fun gap : CoalescedGap => (gap.start, gap.stop))) gaps

theorem checkFrames_accepts (h : Planned gaps frames policy meaningful drafts final)
    (hsegments : segments.map (·.draft) = final) (hapart : gaps.Pairwise fun a b => a.stop < b.start)
    (hordered : frames.IsChain fun a b => nanos a ≤ nanos b) (hids : (frames.map (·.id)).Nodup)
    (hvisible : ∀ id ∈ meaningful, segments.any (·.ofFrame id) = true) (before behind : List CapturedFrame)
    (hsplit : frames = before ++ behind) :
    checkFrames policy meaningful segments (behind.map (·.id)) (behind.map nanos) = .ok () := by
  induction behind generalizing before with
  | nil => rfl
  | cons frame rest ih =>
    simp only [List.map_cons, checkFrames, bind_eq_ok]
    have hchain : (frame :: rest).IsChain fun a b => nanos a ≤ nanos b := by
      rw [hsplit] at hordered
      exact hordered.right_of_append
    obtain ⟨hshows, htotal⟩ := own_spec hapart hchain
    have hown := h.own hapart hordered hids hsplit
    refine ⟨base gaps frame rest, ?_, (), ?_, ih (before ++ [frame]) (by rw [hsplit, List.append_assoc]; rfl)⟩
    · rw [h.slateRanges hsegments]
      exact baseVisible_accepts hapart hchain
    · rw [← htotal]
      refine checkFrame_accepts hshows ?_ ?_ fun hmeaningful hnone => ?_
      · rw [htotal]
        cases rest with
        | nil =>
          show terminalHoldNanos ≤ u64Max
          decide
        | cons next rest =>
          rw [base]
          split
          · show minimumVisibleFrameNanos ≤ u64Max
            decide
          · have := next.sessionTime.nanos.toNat_lt
            show nanos next - nanos frame - obscured gaps (nanos frame) (nanos next) ≤ u64Max
            unfold nanos u64Max
            omega
      · have hmap : (segments.filter (·.ofFrame frame.id)).map (·.draft) = final.filter (·.ofFrame frame.id) := by
          rw [← hsegments, List.filter_map]
          rfl
        rw [hmap, ← hown]
        split
        · rename_i hboth
          exact h.held hboth.1 frame.id (of_decide_eq_true hboth.2)
        · rename_i hneither
          refine h.ordinary frame.id ?_
          cases policy with
          | realTime => exact .inl rfl
          | modelOptimized =>
            refine .inr fun hin => hneither ⟨rfl, decide_eq_true hin⟩
      · have hany := hvisible frame.id (of_decide_eq_true hmeaningful)
        rw [List.any_eq_true] at hany
        obtain ⟨segment, hsegment, hof⟩ := hany
        have hmem : segment ∈ segments.filter (·.ofFrame frame.id) := List.mem_filter.2 ⟨hsegment, hof⟩
        rw [hnone] at hmem
        cases hmem

/-- The basis of a frame's draft, which a hold of the model may change. -/
def FrameBasis (policy : VideoPresentationPolicy) (basis : VideoTimingBasis) : Prop :=
  (basis ≠ .recordedGap ∧ basis ≠ .modelGapHold) ∧ (policy = .realTime → basis ≠ .modelMeaningfulHold)

theorem checkTimings_accepts {prior : Option Nat}
    (hframes : ∀ segment ∈ segments, segment.isFrame = true → FrameBasis policy segment.timingBasis)
    (hslates : ∀ draft ∈ slateDrafts (segments.map (·.draft)), ∀ ids start stop, draft.source = .gapSlate ids start stop →
      start ≤ stop ∧ (draft.durationNanos, draft.timingBasis) = slateTiming policy (stop - start))
    (hapart : (slateRanges segments).Pairwise fun a b => a.2 < b.1)
    (hprior : ∀ before ∈ prior, ∀ range ∈ slateRanges segments, before < range.1) :
    checkTimings policy prior segments = .ok () := by
  induction segments generalizing prior with
  | nil => rfl
  | cons segment segments ih =>
    have hframes' := fun other hother => hframes other (List.mem_cons_of_mem segment hother)
    have hslates' : ∀ draft ∈ slateDrafts (segments.map (·.draft)), ∀ ids start stop,
        draft.source = .gapSlate ids start stop →
          start ≤ stop ∧ (draft.durationNanos, draft.timingBasis) = slateTiming policy (stop - start) := by
      intro draft hdraft
      refine hslates draft ?_
      unfold slateDrafts at hdraft ⊢
      rw [List.mem_filter] at hdraft ⊢
      exact ⟨List.mem_cons_of_mem _ hdraft.1, hdraft.2⟩
    unfold checkTimings
    cases hsource : segment.source with
    | sourceFrame frameId time =>
      have hsame : slateRanges (segment :: segments) = slateRanges segments := by simp [slateRanges, hsource]
      rw [hsame] at hapart hprior
      have hframe : segment.isFrame = true := by
        simp [VideoPresentationSegment.isFrame, VideoPresentationSegment.draft, DraftSegment.isFrame, hsource]
      obtain ⟨⟨hgap, hhold⟩, hreal⟩ := hframes segment (by simp) hframe
      simp only [bind_eq_ok, refuse_eq_ok]
      exact ⟨(), by simp [hgap, hhold], (), fun hboth => hreal hboth.1 hboth.2, ih hframes' hslates' hapart hprior⟩
    | gapSlate ids start stop =>
      have hcons : slateRanges (segment :: segments) = (start, stop) :: slateRanges segments := by simp [slateRanges, hsource]
      rw [hcons] at hapart hprior
      rw [List.pairwise_cons] at hapart
      have hmem : segment.draft ∈ slateDrafts ((segment :: segments).map (·.draft)) := by
        simp [slateDrafts, DraftSegment.isFrame, VideoPresentationSegment.draft, hsource]
      obtain ⟨hle, htiming⟩ := hslates segment.draft hmem ids start stop hsource
      have hbasis : segment.timingBasis = .recordedGap ∨ segment.timingBasis = .modelGapHold := by
        have := congrArg Prod.snd htiming
        unfold slateTiming at this
        split at this
        · exact .inl this
        · split at this
          · exact .inr this
          · exact .inl this
      simp only [bind_eq_ok, refuse_eq_ok]
      refine ⟨(), ?_, (), not_lt.2 hle, (), not_not.2 htiming, (), ?_, ih hframes' hslates' hapart.2 ?_⟩
      · rintro ⟨hnot, hnot'⟩
        exact hbasis.elim hnot hnot'
      · rintro ⟨before, hbefore, hge⟩
        exact absurd (hprior before hbefore (start, stop) (by simp)) (not_lt.2 hge)
      · intro before hbefore range hrange
        cases hbefore
        exact hapart.1 range hrange

/-- The position of the frame that a source shows. -/
def VideoSegmentSource.position (ids : List FrameId) : VideoSegmentSource → Option Nat
  | sourceFrame frameId _ => ids.idxOf? frameId
  | gapSlate .. => none

theorem checkSegments_accepts {ids : List FrameId} {times : List Nat} {index start : Nat} {lastPosition : Option Nat}
    (hlaid : Laid index start segments)
    (hframes : ∀ source ∈ segments.map (·.source), ∀ frameId time, source = .sourceFrame frameId time →
      ∃ position, ids.idxOf? frameId = some position ∧ times[position]? = some time ∧ first ≤ time ∧ time ≤ last)
    (hslates : ∀ source ∈ segments.map (·.source), ∀ gapIds start stop, source = .gapSlate gapIds start stop →
      first ≤ start ∧ stop ≤ last)
    (hordered : ((segments.map (·.source)).filterMap (·.position ids)).Pairwise (· ≤ ·))
    (hlast : ∀ before ∈ lastPosition, ∀ position ∈ (segments.map (·.source)).filterMap (·.position ids), before ≤ position) :
    ∃ duration, checkSegments ids times first last index start lastPosition segments = .ok duration := by
  induction segments generalizing index start lastPosition with
  | nil => exact ⟨start, rfl⟩
  | cons segment segments ih =>
    cases hlaid with
    | cons hvalid hlaid =>
      have hframes' := fun source hsource => hframes source (List.mem_cons_of_mem _ hsource)
      have hslates' := fun source hsource => hslates source (List.mem_cons_of_mem _ hsource)
      rw [List.map_cons, List.filterMap_cons] at hordered hlast
      cases hsource : segment.source with
      | sourceFrame frameId time =>
        obtain ⟨position, hposition, htime, hfirst, hlastTime⟩ :=
          hframes segment.source (by simp) frameId time hsource
        have hat : segment.source.position ids = some position := by
          rw [hsource]
          exact hposition
        rw [hat] at hordered hlast
        rw [List.pairwise_cons] at hordered
        obtain ⟨duration, hduration⟩ := ih hlaid hframes' hslates' hordered.2
          (fun before (hbefore : before ∈ some position) => Option.some.inj hbefore ▸ hordered.1)
        refine ⟨duration, ?_⟩
        simp only [checkSegments, bind_eq_ok, refuse_eq_ok]
        refine ⟨(), by simp, (), hvalid, some position, ?_, hduration⟩
        rw [hsource]
        simp only [checkSource, bind_eq_ok, refuse_eq_ok, pure_eq_ok, okOr_eq_ok]
        refine ⟨position, hposition, (), by simp [htime], (), ?_, (), by omega, rfl⟩
        rintro ⟨before, hbefore, hlt⟩
        exact absurd (hlast before hbefore position (by simp)) (not_le.2 hlt)
      | gapSlate gapIds slateStart slateStop =>
        obtain ⟨hfirst, hstop⟩ := hslates segment.source (by simp) gapIds slateStart slateStop hsource
        have hat : segment.source.position ids = none := by
          rw [hsource]
          rfl
        rw [hat] at hordered hlast
        obtain ⟨duration, hduration⟩ := ih hlaid hframes' hslates' hordered hlast
        refine ⟨duration, ?_⟩
        simp only [checkSegments, bind_eq_ok, refuse_eq_ok]
        refine ⟨(), by simp, (), hvalid, lastPosition, ?_, hduration⟩
        rw [hsource]
        simp only [checkSource, bind_eq_ok, refuse_eq_ok, pure_eq_ok]
        exact ⟨(), by omega, trivial⟩

end Krometrail.Video
