import Krometrail.Video.Slates

/-!
# Durations

The drafts of a frame are shown for what the gaps leave of the time to the next frame (`own_spec`), a hold makes the first
one longer (`Held`), and finished segments are the drafts one behind the other (`Laid`).
-/

namespace Krometrail.Video

open Results

variable {gaps : List CoalescedGap} {frame : CapturedFrame} {rest : List CapturedFrame} {drafts held : List DraftSegment}
  {segments : List VideoPresentationSegment} {id : FrameId}

/-- The sum of the durations. -/
def total (drafts : List DraftSegment) : Nat := (drafts.map (·.durationNanos)).sum

/-- What the gaps take of an interval. -/
def obscured (gaps : List CoalescedGap) (start stop : Nat) : Nat :=
  (gaps.map fun gap => overlap start stop (gap.start, gap.stop)).sum

variable {cursor : Nat} {draft : DraftSegment}

theorem gapDrafts_total {stop : Nat} (hapart : gaps.Pairwise fun a b => a.stop < b.start) (hframe : nanos frame ≤ cursor)
    (hstop : cursor ≤ stop) (hgaps : ∀ gap ∈ gaps, cursor ≤ max gap.start (nanos frame)) :
    total (frameDrafts (gapDrafts frame stop cursor gaps)) + obscured gaps (nanos frame) stop = stop - cursor := by
  induction gaps generalizing cursor with
  | nil =>
    unfold gapDrafts
    split
    · simp [total, obscured, frameDrafts, frameDraft, DraftSegment.isFrame]
    · simp [total, obscured, frameDrafts]
      omega
  | cons gap gaps ih =>
    rw [List.pairwise_cons] at hapart
    have hlt := gap.lt
    have hfirst := hgaps gap (by simp)
    have hrest := fun other hother => hgaps other (List.mem_cons_of_mem gap hother)
    have hobscured : obscured (gap :: gaps) (nanos frame) stop =
        (min gap.stop stop - max gap.start (nanos frame)) + obscured gaps (nanos frame) stop := by
      simp [obscured, overlap]
    unfold gapDrafts
    dsimp only
    split
    · rename_i hskip
      rw [hobscured]
      have := ih hapart.2 hframe hstop hrest
      omega
    · rename_i hbetween
      rw [not_or, not_le, not_le] at hbetween
      have hmax : max cursor (max gap.start (nanos frame)) = max gap.start (nanos frame) := max_eq_right hfirst
      rw [hmax, if_pos hbetween.1, hobscured]
      have hlater : ∀ other ∈ gaps, min gap.stop stop ≤ max other.start (nanos frame) := by
        intro other hother
        have := hapart.1 other hother
        omega
      have := ih hapart.2 (by omega) (min_le_right _ _) hlater
      have hshown : total (frameDrafts (if cursor < max gap.start (nanos frame) then
          [frameDraft frame (max gap.start (nanos frame) - cursor) .recordedDelta] else [])) =
            max gap.start (nanos frame) - cursor := by
        split
        · simp [total, frameDrafts, frameDraft, DraftSegment.isFrame]
        · simp [total, frameDrafts]
          omega
      have hsplit : ∀ before behind : List DraftSegment, ∀ slate : DraftSegment, slate.isFrame = false →
          total (frameDrafts (before ++ slate :: behind)) = total (frameDrafts before) + total (frameDrafts behind) := by
        intro before behind slate hslate
        simp [total, frameDrafts, hslate]
      rw [hsplit _ _ _ rfl, hshown]
      omega

/-- The drafts of a frame show it for some time each. -/
structure Shows (frame : CapturedFrame) (basis : VideoTimingBasis) (draft : DraftSegment) : Prop where
  source : draft.source = .sourceFrame frame.id (nanos frame)
  duration_pos : 0 < draft.durationNanos
  basis : draft.timingBasis = basis

theorem gapDrafts_shows {stop : Nat} :
    ∀ draft ∈ frameDrafts (gapDrafts frame stop cursor gaps), Shows frame .recordedDelta draft := by
  have hone : ∀ duration, 0 < duration → ∀ draft ∈ frameDrafts [frameDraft frame duration .recordedDelta],
      Shows frame .recordedDelta draft := by
    intro duration hpos draft hdraft
    obtain rfl := List.mem_singleton.1 (List.mem_filter.1 hdraft).1
    exact ⟨rfl, hpos, rfl⟩
  induction gaps generalizing cursor with
  | nil =>
    unfold gapDrafts
    split
    · rename_i hlt
      exact hone _ (by omega)
    · simp [frameDrafts]
  | cons gap gaps ih =>
    unfold gapDrafts
    dsimp only
    split
    · exact ih
    · intro draft hdraft
      unfold frameDrafts at hdraft
      rw [List.filter_append, List.mem_append] at hdraft
      rcases hdraft with hbefore | hbehind
      · split at hbefore
        · rename_i hlt
          exact hone _ (by omega) draft hbefore
        · cases hbefore
      · split at hbehind
        · rw [List.filter_cons_of_neg (by simp [DraftSegment.isFrame])] at hbehind
          exact ih draft hbehind
        · exact ih draft hbehind

/-- The visible duration of a frame without a hold, and its basis. -/
def base (gaps : List CoalescedGap) (frame : CapturedFrame) : List CapturedFrame → Nat × VideoTimingBasis
  | [] => (terminalHoldNanos, .terminalHold)
  | next :: _ =>
    if nanos frame = nanos next then (minimumVisibleFrameNanos, .minimumVisibleFrame)
    else (nanos next - nanos frame - obscured gaps (nanos frame) (nanos next), .recordedDelta)

theorem own_spec (hapart : gaps.Pairwise fun a b => a.stop < b.start)
    (hordered : (frame :: rest).IsChain fun a b => nanos a ≤ nanos b) :
    (∀ draft ∈ frameDrafts (ownDrafts gaps frame rest), Shows frame (base gaps frame rest).2 draft) ∧
      total (frameDrafts (ownDrafts gaps frame rest)) = (base gaps frame rest).1 := by
  cases rest with
  | nil =>
    refine ⟨fun draft hdraft => ?_, by simp [ownDrafts, base, total, frameDrafts, frameDraft, DraftSegment.isFrame]⟩
    obtain rfl := List.mem_singleton.1 (List.mem_filter.1 hdraft).1
    have hpos : 0 < terminalHoldNanos := by decide
    exact ⟨rfl, hpos, rfl⟩
  | cons next rest =>
    rw [List.isChain_cons_cons] at hordered
    rw [ownDrafts, base]
    split
    · refine ⟨fun draft hdraft => ?_, by simp [total, frameDrafts, frameDraft, DraftSegment.isFrame]⟩
      obtain rfl := List.mem_singleton.1 (List.mem_filter.1 hdraft).1
      have hpos : 0 < minimumVisibleFrameNanos := by decide
      exact ⟨rfl, hpos, rfl⟩
    · have htotal := gapDrafts_total hapart le_rfl hordered.1 fun gap _ => le_max_right gap.start (nanos frame)
      exact ⟨gapDrafts_shows, by dsimp only; omega⟩

theorem frameDrafts_append (a b : List DraftSegment) : frameDrafts (a ++ b) = frameDrafts a ++ frameDrafts b :=
  List.filter_append a b

theorem ofFrame_of_shows {basis : VideoTimingBasis} (h : Shows frame basis draft) :
    draft.ofFrame id = decide (frame.id = id) := by
  unfold DraftSegment.ofFrame
  rw [h.source]

theorem filter_ofFrame (hapart : gaps.Pairwise fun a b => a.stop < b.start) {before : List CapturedFrame}
    (hordered : (before ++ frame :: rest).IsChain fun a b => nanos a ≤ nanos b)
    (hids : ((before ++ frame :: rest).map (·.id)).Nodup) :
    (frameDrafts (rawDrafts gaps (before ++ frame :: rest))).filter (·.ofFrame frame.id) =
      frameDrafts (ownDrafts gaps frame rest) := by
  have hnone : ∀ frames : List CapturedFrame, frames.IsChain (fun a b => nanos a ≤ nanos b) →
      (∀ other ∈ frames, other.id ≠ frame.id) →
        (frameDrafts (rawDrafts gaps frames)).filter (·.ofFrame frame.id) = [] := by
    intro frames hchain hother
    induction frames with
    | nil => rfl
    | cons first frames ih =>
      rw [rawDrafts, frameDrafts_append, List.filter_append, ih hchain.tail fun other h => hother other (by simp [h]),
        List.append_nil, List.filter_eq_nil_iff]
      intro draft hdraft
      rw [ofFrame_of_shows ((own_spec hapart hchain).1 draft hdraft)]
      simp [hother first (by simp)]
  induction before with
  | nil =>
    rw [List.nil_append] at hordered hids ⊢
    rw [List.map_cons, List.nodup_cons] at hids
    have hrest : ∀ other ∈ rest, other.id ≠ frame.id := fun other hother heq =>
      hids.1 (heq ▸ List.mem_map_of_mem hother)
    rw [rawDrafts, frameDrafts_append, List.filter_append, hnone rest hordered.tail hrest, List.append_nil,
      List.filter_eq_self]
    intro draft hdraft
    rw [ofFrame_of_shows ((own_spec hapart hordered).1 draft hdraft)]
    simp
  | cons first before ih =>
    rw [List.cons_append] at hordered hids ⊢
    rw [List.map_cons, List.nodup_cons] at hids
    rw [rawDrafts, frameDrafts_append, List.filter_append, ih hordered.tail hids.2]
    have hfirst : first.id ≠ frame.id := fun heq => hids.1 (by rw [heq]; simp)
    rw [List.filter_eq_nil_iff.2, List.nil_append]
    intro draft hdraft
    rw [ofFrame_of_shows ((own_spec hapart hordered).1 draft hdraft)]
    simp [hfirst]

/-- Segments one behind the other. -/
inductive Laid : Nat → Nat → List VideoPresentationSegment → Prop
  | nil {index start : Nat} : Laid index start []
  | cons {segment : VideoPresentationSegment} {rest : List VideoPresentationSegment} :
      segment.source.validate = .ok () → Laid (segment.index + 1) segment.stop rest →
        Laid segment.index segment.start (segment :: rest)

theorem finishFrom_eq_ok {index : Nat} (h : finishFrom index cursor drafts = .ok segments) :
    segments.map (·.draft) = drafts ∧ Laid index cursor segments := by
  induction drafts generalizing index cursor segments with
  | nil =>
    cases h
    exact ⟨rfl, .nil⟩
  | cons draft drafts ih =>
    simp only [finishFrom, bind_eq_ok, pure_eq_ok, okOr_eq_ok, checkedAdd_eq_some] at h
    obtain ⟨stop, ⟨-, rfl⟩, -, -, -, -, passed, hvalid, behind, hrest, rfl⟩ := h
    obtain ⟨hdrafts, hlaid⟩ := ih hrest
    refine ⟨?_, ?_⟩
    · rw [List.map_cons, hdrafts]
      simp [VideoPresentationSegment.draft]
    · exact @Laid.cons ⟨index, draft.source, cursor, cursor + draft.durationNanos, draft.timingBasis⟩ behind hvalid hlaid

theorem finishSegments_eq_ok (h : finishSegments drafts = .ok segments) :
    segments.map (·.draft) = drafts ∧ Laid 0 0 segments ∧ segments.length ≤ maxVideoPresentationSegments := by
  simp only [finishSegments, bind_eq_ok, refuse_eq_ok, not_lt] at h
  obtain ⟨-, hlength, hfinish⟩ := h
  obtain ⟨hdrafts, hlaid⟩ := finishFrom_eq_ok hfinish
  refine ⟨hdrafts, hlaid, ?_⟩
  rw [← hdrafts, List.length_map] at hlength
  exact hlength

theorem totalNanos_eq_ok {message : String} {sum : Nat} (h : totalNanos message drafts = .ok sum) : sum = total drafts := by
  have hfold : ∀ (drafts : List DraftSegment) (start sum : Nat),
      drafts.foldlM (fun total draft => okOr (checkedAdd total draft.durationNanos) (limitError message)) start = .ok sum →
        sum = start + total drafts := by
    intro drafts
    induction drafts with
    | nil =>
      intro start sum h
      cases h
      rfl
    | cons draft drafts ih =>
      intro start sum h
      simp only [List.foldlM_cons, bind_eq_ok, okOr_eq_ok, checkedAdd_eq_some] at h
      obtain ⟨next, ⟨-, rfl⟩, hrest⟩ := h
      rw [ih _ _ hrest]
      simp [total]
      omega
  have := hfold drafts 0 sum h
  omega

theorem totalNanos_total {message : String} (h : total drafts ≤ u64Max) : totalNanos message drafts = .ok (total drafts) := by
  have hfold : ∀ (drafts : List DraftSegment) (start : Nat), start + total drafts ≤ u64Max →
      drafts.foldlM (fun total draft => okOr (checkedAdd total draft.durationNanos) (limitError message)) start =
        .ok (start + total drafts) := by
    intro drafts
    induction drafts with
    | nil => exact fun start _ => rfl
    | cons draft drafts ih =>
      intro start hle
      have htotal : total (draft :: drafts) = draft.durationNanos + total drafts := by simp [total]
      rw [htotal] at hle ⊢
      rw [List.foldlM_cons, bind_eq_ok]
      refine ⟨start + draft.durationNanos, ?_, ?_⟩
      · rw [okOr_eq_ok, checkedAdd_eq_some]
        exact ⟨by omega, rfl⟩
      · rw [ih _ (by omega), Nat.add_assoc]
  have := hfold drafts 0 (by omega)
  rwa [Nat.zero_add] at this

/-- The first draft, shown for longer. -/
def lengthen (extra : Nat) : List DraftSegment → List DraftSegment
  | [] => []
  | draft :: rest =>
    { draft with durationNanos := draft.durationNanos + extra, timingBasis := .modelMeaningfulHold } :: rest

/-- The drafts of a meaningful frame. -/
def heldOwn (own : List DraftSegment) : List DraftSegment :=
  if total own < modelMeaningfulHoldNanos then lengthen (modelMeaningfulHoldNanos - total own) own else own

/-- What a hold changes of the drafts. -/
structure Held (id : FrameId) (change : List DraftSegment → List DraftSegment) (drafts held : List DraftSegment) :
    Prop where
  sources : held.map (·.source) = drafts.map (·.source)
  slates : slateDrafts held = slateDrafts drafts
  other : ∀ other ≠ id, held.filter (·.ofFrame other) = drafts.filter (·.ofFrame other)
  own : held.filter (·.ofFrame id) = change (drafts.filter (·.ofFrame id))

theorem isFrame_of_ofFrame (h : draft.ofFrame id = true) : draft.isFrame = true := by
  unfold DraftSegment.ofFrame at h
  unfold DraftSegment.isFrame
  split at h
  · rfl
  · cases h

theorem ofFrame_unique {other : FrameId} (h : draft.ofFrame id = true) (hne : other ≠ id) : draft.ofFrame other = false := by
  unfold DraftSegment.ofFrame at h ⊢
  split at h
  · obtain rfl := of_decide_eq_true h
    exact decide_eq_false fun heq => hne heq.symm
  · cases h

theorem holdFirst_eq_ok {extra : Nat} (h : holdFirst id extra drafts = .ok held) : Held id (lengthen extra) drafts held := by
  induction drafts generalizing held with
  | nil => cases h
  | cons draft drafts ih =>
    unfold holdFirst at h
    split at h
    · rename_i hof
      simp only [bind_eq_ok, pure_eq_ok, okOr_eq_ok, checkedAdd_eq_some] at h
      obtain ⟨duration, ⟨-, rfl⟩, rfl⟩ := h
      have hframe := isFrame_of_ofFrame hof
      -- a draft and its longer one have the same source
      have hsame : ∀ other, DraftSegment.ofFrame other ⟨draft.source, draft.durationNanos + extra, .modelMeaningfulHold⟩ =
          draft.ofFrame other := fun _ => rfl
      have hsameFrame : DraftSegment.isFrame ⟨draft.source, draft.durationNanos + extra, .modelMeaningfulHold⟩ =
          draft.isFrame := rfl
      refine ⟨rfl, ?_, fun other hne => ?_, ?_⟩
      · simp [slateDrafts, hsameFrame, hframe]
      · simp [hsame, ofFrame_unique hof hne]
      · simp [hsame, hof, lengthen]
    · rename_i hof
      simp only [bind_eq_ok, pure_eq_ok] at h
      obtain ⟨behind, hbehind, rfl⟩ := h
      obtain ⟨hsources, hslates, hother, hown⟩ := ih hbehind
      refine ⟨by simp [hsources], ?_, fun other hne => ?_, ?_⟩
      · unfold slateDrafts at hslates ⊢
        simp only [List.filter_cons, hslates]
      · simp only [List.filter_cons, hother other hne]
      · rw [Bool.not_eq_true] at hof
        rw [List.filter_cons_of_neg (by simp [hof]), List.filter_cons_of_neg (by simp [hof])]
        exact hown

theorem holdMeaningful_eq_ok (h : holdMeaningful drafts id = .ok held) :
    Held id heldOwn drafts held ∧ drafts.any (·.ofFrame id) = true := by
  simp only [holdMeaningful, bind_eq_ok, refuse_eq_ok] at h
  obtain ⟨-, hany, sum, hsum, hheld⟩ := h
  rw [Bool.not_eq_false] at hany
  obtain rfl := totalNanos_eq_ok hsum
  refine ⟨?_, hany⟩
  split at hheld
  · rename_i hlt
    obtain ⟨hsources, hslates, hother, hown⟩ := holdFirst_eq_ok hheld
    refine ⟨hsources, hslates, hother, ?_⟩
    rw [hown, heldOwn, if_pos hlt]
  · rename_i hge
    cases hheld
    refine ⟨rfl, rfl, fun _ _ => rfl, ?_⟩
    rw [heldOwn, if_neg hge]

theorem holds_eq_ok {meaningful : List FrameId} (hnodup : meaningful.Nodup)
    (h : meaningful.foldlM holdMeaningful drafts = .ok held) :
    held.map (·.source) = drafts.map (·.source) ∧ slateDrafts held = slateDrafts drafts ∧
      (∀ id, id ∉ meaningful → held.filter (·.ofFrame id) = drafts.filter (·.ofFrame id)) ∧
      ∀ id ∈ meaningful, held.filter (·.ofFrame id) = heldOwn (drafts.filter (·.ofFrame id)) ∧
        drafts.any (·.ofFrame id) = true := by
  induction meaningful generalizing drafts with
  | nil =>
    cases h
    exact ⟨rfl, rfl, fun _ _ => rfl, nofun⟩
  | cons first meaningful ih =>
    rw [List.foldlM_cons, bind_eq_ok] at h
    obtain ⟨next, hfirst, hrest⟩ := h
    obtain ⟨⟨hsources, hslates, hother, hown⟩, hany⟩ := holdMeaningful_eq_ok hfirst
    rw [List.nodup_cons] at hnodup
    obtain ⟨hsources', hslates', hother', hown'⟩ := ih hnodup.2 hrest
    refine ⟨hsources'.trans hsources, hslates'.trans hslates, fun id hid => ?_, fun id hid => ?_⟩
    · rw [List.mem_cons, not_or] at hid
      rw [hother' id hid.2, hother id hid.1]
    · rcases List.mem_cons.1 hid with rfl | hin
      · exact ⟨by rw [hother' id hnodup.1, hown], hany⟩
      · have hne : id ≠ first := fun heq => hnodup.1 (heq ▸ hin)
        obtain ⟨hheld, hany'⟩ := hown' id hin
        refine ⟨by rw [hheld, hother id hne], ?_⟩
        have hfilter := hother id hne
        rw [List.any_eq_true] at hany' ⊢
        obtain ⟨draft, hdraft, hof⟩ := hany'
        have hmem : draft ∈ next.filter (·.ofFrame id) := List.mem_filter.2 ⟨hdraft, hof⟩
        rw [hfilter] at hmem
        exact ⟨draft, (List.mem_filter.1 hmem).1, hof⟩

end Krometrail.Video
