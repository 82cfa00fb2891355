import Krometrail.Video.Plan

/-!
# Slates

What the builder pushes has two parts that the validator reads apart: the drafts of frames, which pushing keeps as they are,
and the slates, which are exactly the coalesced gaps as far as the cursor has come (`Reached`).
-/

namespace Krometrail.Video

open Results Sorting

variable {gaps : List CoalescedGap} {gap : CoalescedGap} {output output' : List DraftSegment} {draft : DraftSegment}
  {cursor cursor' : Nat}

/-- Coalesced gaps are apart, in the presented range and named. -/
structure Coalesced (gaps : List CoalescedGap) (first last : Nat) : Prop where
  apart : gaps.Pairwise fun a b => a.stop < b.start
  within : ∀ gap ∈ gaps, first ≤ gap.start ∧ gap.stop ≤ last
  named : ∀ gap ∈ gaps, gap.gapIds ≠ [] ∧ gap.gapIds.Nodup ∧ ∀ id ∈ gap.gapIds, id.uuid.isNil = false

theorem coalesceFrom_forall {P : CoalescedGap → Prop} {clipped : List ClippedGap} {current : CoalescedGap}
    (hsingle : ∀ gap ∈ clipped, P gap.single) (hmerge : ∀ gap ∈ clipped, ∀ current, P current → P (current.merge gap))
    (hcurrent : P current) : ∀ gap ∈ coalesceFrom current clipped, P gap := by
  induction clipped generalizing current with
  | nil =>
    intro gap hgap
    rw [List.mem_singleton.1 hgap]
    exact hcurrent
  | cons next rest ih =>
    have hsingle' := fun gap hgap => hsingle gap (List.mem_cons_of_mem next hgap)
    have hmerge' := fun gap hgap => hmerge gap (List.mem_cons_of_mem next hgap)
    unfold coalesceFrom
    split
    · exact ih hsingle' hmerge' (hmerge next (by simp) current hcurrent)
    · intro gap hgap
      rcases List.mem_cons.1 hgap with rfl | hrest
      · exact hcurrent
      · exact ih hsingle' hmerge' (hsingle next (by simp)) gap hrest

theorem coalesceFrom_apart {clipped : List ClippedGap} {current : CoalescedGap}
    (hsorted : clipped.Pairwise fun a b => a.start ≤ b.start) (hle : ∀ gap ∈ clipped, current.start ≤ gap.start) :
    (coalesceFrom current clipped).Pairwise (fun a b => a.stop < b.start) := by
  induction clipped generalizing current with
  | nil => exact List.pairwise_singleton _ _
  | cons next rest ih =>
    rw [List.pairwise_cons] at hsorted
    unfold coalesceFrom
    split
    · exact ih hsorted.2 fun gap hgap => hle gap (List.mem_cons_of_mem next hgap)
    · rename_i hbehind
      refine List.pairwise_cons.2 ⟨?_, ih hsorted.2 hsorted.1⟩
      have hstart : ∀ gap ∈ coalesceFrom next.single rest, next.start ≤ gap.start := by
        refine coalesceFrom_forall (P := fun gap => next.start ≤ gap.start) hsorted.1 ?_ le_rfl
        exact fun _ _ current hcurrent => hcurrent
      intro gap hgap
      exact (not_le.1 hbehind).trans_le (hstart gap hgap)

theorem coalesced (captureGaps : List CaptureGap) (first last : Nat)
    (hids : ∀ gap ∈ captureGaps, (clipGap first last gap).isSome = true → gap.id.uuid.isNil = false) :
    Coalesced (coalesceEpochGaps captureGaps first last) first last := by
  unfold coalesceEpochGaps
  have hsorted := pairwise_sortByKey (fun gap : ClippedGap => toLex (gap.start, toLex (gap.stop, gapKey gap.id)))
    (captureGaps.filterMap (clipGap first last))
  have hclipped : ∀ gap ∈ sortByKey (fun gap : ClippedGap => toLex (gap.start, toLex (gap.stop, gapKey gap.id)))
      (captureGaps.filterMap (clipGap first last)),
      (first ≤ gap.start ∧ gap.stop ≤ last) ∧ gap.id.uuid.isNil = false := by
    intro gap hgap
    rw [mem_sortByKey, List.mem_filterMap] at hgap
    obtain ⟨source, hsource, hclip⟩ := hgap
    have hid := hids source hsource (by rw [hclip]; rfl)
    unfold clipGap at hclip
    split at hclip
    · cases hclip
      exact ⟨⟨le_max_right _ _, min_le_right _ _⟩, hid⟩
    · cases hclip
  split
  · exact ⟨.nil, nofun, nofun⟩
  · rename_i next rest heq
    rw [heq] at hsorted hclipped
    have hstarts : (next :: rest).Pairwise fun a b : ClippedGap => a.start ≤ b.start := by
      refine hsorted.imp fun {a b} hle => ?_
      rcases (Prod.Lex.le_iff).1 hle with hlt | heq'
      · exact hlt.le
      · exact heq'.1.le
    rw [List.pairwise_cons] at hstarts
    have hnext := hclipped next (by simp)
    have hrest := fun gap hgap => hclipped gap (List.mem_cons_of_mem next hgap)
    refine ⟨coalesceFrom_apart hstarts.2 hstarts.1, ?_, ?_⟩
    · refine coalesceFrom_forall (fun gap hgap => (hrest gap hgap).1) ?_ hnext.1
      intro gap hgap current hcurrent
      exact ⟨hcurrent.1, max_le (hrest gap hgap).1.2 hcurrent.2⟩
    · refine coalesceFrom_forall (P := fun gap => gap.gapIds ≠ [] ∧ gap.gapIds.Nodup ∧ ∀ id ∈ gap.gapIds, id.uuid.isNil = false)
        (fun gap hgap => ?_) ?_ ?_
      · exact ⟨by simp [ClippedGap.single], by simp [ClippedGap.single], by simpa [ClippedGap.single] using (hrest gap hgap).2⟩
      · intro gap hgap current ⟨hne, hnodup, hnil⟩
        unfold CoalescedGap.merge
        split
        · exact ⟨hne, hnodup, hnil⟩
        · rename_i hnew
          have hperm := perm_sortByKey gapKey (current.gapIds ++ [gap.id])
          refine ⟨fun hempty => ?_, ?_, fun id hid => ?_⟩
          · have hnone : sortByKey gapKey (current.gapIds ++ [gap.id]) = [] := hempty
            rw [hnone] at hperm
            simpa using hperm.length_eq
          · refine hperm.nodup_iff.2 (List.nodup_append.2 ⟨hnodup, by simp, fun a ha b hb => ?_⟩)
            rw [List.mem_singleton.1 hb]
            rintro rfl
            exact hnew ha
          · rw [mem_sortByKey] at hid
            rcases List.mem_append.1 hid with hold | hid
            · exact hnil id hold
            · rw [List.mem_singleton.1 hid]
              exact (hrest gap hgap).2
      · exact ⟨by simp [ClippedGap.single], by simp [ClippedGap.single], by simpa [ClippedGap.single] using hnext.2⟩

def frameDrafts (drafts : List DraftSegment) : List DraftSegment := drafts.filter (·.isFrame)

def slateDrafts (drafts : List DraftSegment) : List DraftSegment := drafts.filter fun draft => !draft.isFrame

theorem pushDraft_frame (hdraft : draft.isFrame = true) : pushDraft output draft = .ok (output ++ [draft]) := by
  unfold pushDraft
  split
  · rename_i hsource
    unfold DraftSegment.isFrame at hdraft
    rw [hsource] at hdraft
    cases hdraft
  · rfl

theorem place_frame (hdraft : draft.isFrame = true) (h : [draft].foldlM placeDraft output = .ok output') :
    output' = output ++ [draft] := by
  simp only [List.foldlM_cons, List.foldlM_nil, placeDraft, bind_eq_ok, pure_eq_ok] at h
  obtain ⟨next, ⟨passed, hvalid, hpush⟩, rfl⟩ := h
  rw [pushDraft_frame hdraft] at hpush
  exact (Except.ok.inj hpush).symm

theorem frameDrafts_pushDraft (h : pushDraft output draft = .ok output') :
    frameDrafts output' = frameDrafts output ++ frameDrafts [draft] := by
  unfold pushDraft at h
  split at h
  · rename_i lastIds lastStart lastStop lastDuration lastBasis nextIds nextStart nextStop hlast hsource
    split at h
    · cases hsum : okOr (checkedAdd lastDuration draft.durationNanos)
        (limitError "video gap presentation duration overflowed") with
      | error e =>
        rw [hsum] at h
        cases h
      | ok duration =>
        rw [hsum] at h
        cases h
        obtain ⟨before, rfl⟩ := List.getLast?_eq_some_iff.1 hlast
        simp [frameDrafts, DraftSegment.isFrame, hsource]
    · cases h
      simp [frameDrafts]
  · cases h
    simp [frameDrafts]

theorem frameDrafts_place {drafts : List DraftSegment} (h : drafts.foldlM placeDraft output = .ok output') :
    frameDrafts output' = frameDrafts output ++ frameDrafts drafts := by
  induction drafts generalizing output with
  | nil =>
    cases h
    simp [frameDrafts]
  | cons draft drafts ih =>
    simp only [List.foldlM_cons, placeDraft, bind_eq_ok] at h
    obtain ⟨next, ⟨-, -, hpush⟩, hrest⟩ := h
    rw [ih hrest, frameDrafts_pushDraft hpush, List.append_assoc]
    congr 1
    exact (List.filter_append [draft] drafts).symm

/-- The slate of a gap as far as the cursor has come. -/
def slateAt (cursor : Nat) (gap : CoalescedGap) : DraftSegment :=
  ⟨.gapSlate gap.gapIds gap.start (min gap.stop cursor), min gap.stop cursor - gap.start, .recordedGap⟩

/-- The slates up to a cursor, and the one of the gap that the cursor is inside of is the last draft. -/
structure Reached (gaps : List CoalescedGap) (cursor : Nat) (output : List DraftSegment) : Prop where
  slates : slateDrafts output = (gaps.filter fun gap => decide (gap.start < cursor)).map (slateAt cursor)
  inside : ∀ gap ∈ gaps, gap.start < cursor → cursor < gap.stop → output.getLast? = some (slateAt cursor gap)

theorem Reached.pushFrame (h : Reached gaps cursor output) (hcursor : cursor ≤ cursor')
    (hclear : ∀ gap ∈ gaps, gap.start < cursor' → gap.stop ≤ cursor) (hdraft : draft.isFrame = true) :
    Reached gaps cursor' (output ++ [draft]) where
  slates := by
    have hsame : slateDrafts (output ++ [draft]) = slateDrafts output := by simp [slateDrafts, hdraft]
    have hfilter : gaps.filter (fun gap => decide (gap.start < cursor')) =
        gaps.filter fun gap => decide (gap.start < cursor) := by
      refine List.filter_congr fun gap hgap => decide_eq_decide.2 ⟨fun hlt => ?_, fun hlt => hlt.trans_le hcursor⟩
      exact gap.lt.trans_le (hclear gap hgap hlt)
    rw [hsame, h.slates, hfilter]
    refine List.map_congr_left fun gap hgap => ?_
    rw [List.mem_filter, decide_eq_true_eq] at hgap
    have hle := hclear gap hgap.1 (hgap.2.trans_le hcursor)
    unfold slateAt
    rw [min_eq_left hle, min_eq_left (hle.trans hcursor)]
  inside gap hgap hstart hstop := absurd ((hclear gap hgap hstart).trans hcursor) (not_le.2 hstop)

theorem Reached.pushSlate (h : Reached gaps cursor output) (hapart : gaps.Pairwise fun a b => a.stop < b.start)
    (hgap : gap ∈ gaps) (hstart : gap.start ≤ cursor) (hcursor : cursor < cursor') (hstop : cursor' ≤ gap.stop)
    (hpush : pushDraft output ⟨.gapSlate gap.gapIds cursor cursor', cursor' - cursor, .recordedGap⟩ = .ok output') :
    Reached gaps cursor' output' := by
  obtain ⟨before, behind, rfl⟩ := List.append_of_mem hgap
  rw [List.pairwise_append, List.pairwise_cons] at hapart
  obtain ⟨-, ⟨hbehind, -⟩, hbefore⟩ := hapart
  have hbefore' : ∀ other ∈ before, other.stop < gap.start := fun other hother => hbefore other hother gap (by simp)
  -- the gaps that begin before a cursor inside the gap are those before it, and the gap
  have hfilter : ∀ c, gap.start < c → c ≤ gap.stop →
      (before ++ gap :: behind).filter (fun other => decide (other.start < c)) = before ++ [gap] := by
    intro c hc hcstop
    rw [List.filter_append, List.filter_cons_of_pos (by simpa using hc)]
    congr 1
    · refine List.filter_eq_self.2 fun other hother => decide_eq_true ?_
      have := hbefore' other hother
      have := other.lt
      omega
    · congr 1
      refine List.filter_eq_nil_iff.2 fun other hother => ?_
      have := hbehind other hother
      simp only [decide_eq_true_eq]
      omega
  have hmap : ∀ c, gap.start ≤ c → before.map (slateAt c) = before.map (slateAt gap.start) := by
    intro c hc
    refine List.map_congr_left fun other hother => ?_
    have hlt := (hbefore' other hother).le
    unfold slateAt
    rw [min_eq_left (hlt.trans hc), min_eq_left hlt]
  have hslate : slateAt cursor' gap = ⟨.gapSlate gap.gapIds gap.start cursor', cursor' - gap.start, .recordedGap⟩ := by
    unfold slateAt
    rw [min_eq_right hstop]
  have hinside : ∀ other ∈ before ++ gap :: behind, other.start < cursor' → cursor' < other.stop → other = gap := by
    intro other hother hlt hgt
    rcases List.mem_append.1 hother with hin | hin
    · have := hbefore' other hin
      omega
    · rcases List.mem_cons.1 hin with rfl | hin
      · rfl
      · have := hbehind other hin
        omega
  have hnew := hfilter cursor' (hstart.trans_lt hcursor) hstop
  rcases hstart.lt_or_eq with hlt | heq
  · -- the slate of the gap grows
    have hlast := h.inside gap hgap hlt (hcursor.trans_le hstop)
    have hold := h.slates
    rw [hfilter cursor hlt (hcursor.le.trans hstop), List.map_append, hmap cursor hstart, List.map_singleton] at hold
    obtain ⟨rest, rfl⟩ := List.getLast?_eq_some_iff.1 hlast
    have hat : slateAt cursor gap = ⟨.gapSlate gap.gapIds gap.start cursor, cursor - gap.start, .recordedGap⟩ := by
      unfold slateAt
      rw [min_eq_right (hcursor.le.trans hstop)]
    rw [hat] at hpush hold
    simp only [pushDraft, List.getLast?_append, List.getLast?_singleton, Option.some_or, and_self, if_true] at hpush
    cases hsum : okOr (checkedAdd (cursor - gap.start) (cursor' - cursor))
        (limitError "video gap presentation duration overflowed") with
    | error e =>
      rw [hsum] at hpush
      cases hpush
    | ok duration =>
      rw [hsum] at hpush
      cases hpush
      rw [okOr_eq_ok, checkedAdd_eq_some] at hsum
      have hduration : duration = cursor' - gap.start := by omega
      have hrest : slateDrafts rest = before.map (slateAt gap.start) := by
        simpa [slateDrafts, DraftSegment.isFrame] using hold
      refine ⟨?_, fun other hother hlt' hgt => ?_⟩
      · rw [hnew, List.map_append, hmap cursor' (hstart.trans hcursor.le), List.map_singleton, hslate, ← hrest, hduration]
        simp [slateDrafts, DraftSegment.isFrame]
      · rw [hinside other hother hlt' hgt, hslate, hduration]
        simp
  · -- the slate of the gap begins
    have hold := h.slates
    have hnone : (before ++ gap :: behind).filter (fun other => decide (other.start < cursor)) = before := by
      rw [List.filter_append, List.filter_cons_of_neg (by simp [heq])]
      rw [List.filter_eq_self.2, List.filter_eq_nil_iff.2, List.append_nil]
      · intro other hother
        have := hbehind other hother
        have := gap.lt
        simp only [decide_eq_true_eq]
        omega
      · intro other hother
        have := hbefore' other hother
        have := other.lt
        simp only [decide_eq_true_eq]
        omega
    rw [hnone, hmap cursor hstart] at hold
    -- the last draft is no slate that ends at the cursor
    have happend : output' = output ++ [⟨.gapSlate gap.gapIds cursor cursor', cursor' - cursor, .recordedGap⟩] := by
      unfold pushDraft at hpush
      split at hpush
      · rename_i lastIds lastStart lastStop lastDuration lastBasis nextIds nextStart nextStop hlast hsource
        split at hpush
        · rename_i hjoin
          obtain ⟨rfl, rfl, rfl⟩ : gap.gapIds = nextIds ∧ cursor = nextStart ∧ cursor' = nextStop := by
            simpa using hsource
          have hmem : (⟨.gapSlate lastIds lastStart lastStop, lastDuration, lastBasis⟩ : DraftSegment) ∈
              slateDrafts output :=
            List.mem_filter.2 ⟨List.mem_of_getLast? hlast, rfl⟩
          rw [hold] at hmem
          obtain ⟨other, hother, hat⟩ := List.mem_map.1 hmem
          have hends : min other.stop gap.start = lastStop := by
            have := congrArg DraftSegment.source hat
            simp only [slateAt, VideoSegmentSource.gapSlate.injEq] at this
            exact this.2.2
          have := hbefore' other hother
          have := hjoin.2.2
          omega
        · exact (Except.ok.inj hpush).symm
      · exact (Except.ok.inj hpush).symm
    subst happend
    refine ⟨?_, fun other hother hlt' hgt => ?_⟩
    · rw [hnew, List.map_append, hmap cursor' (hstart.trans hcursor.le), List.map_singleton, hslate, ← hold, heq]
      simp [slateDrafts, DraftSegment.isFrame]
    · rw [hinside other hother hlt' hgt, hslate, heq]
      simp

theorem reached_gapDrafts {frame : CapturedFrame} {stop : Nat} {done rest : List CoalescedGap}
    (hgaps : gaps = done ++ rest) (hapart : gaps.Pairwise fun a b => a.stop < b.start)
    (hdone : ∀ gap ∈ done, min gap.stop stop ≤ cursor ∨ stop ≤ gap.start) (hlt : nanos frame < stop)
    (hframe : nanos frame ≤ cursor) (hstop : cursor ≤ stop)
    (hrest : ∀ gap ∈ rest, cursor ≤ max gap.start (nanos frame)) (h : Reached gaps cursor output)
    (hrun : (gapDrafts frame stop cursor rest).foldlM placeDraft output = .ok output') :
    Reached gaps stop output' := by
  induction rest generalizing done cursor output with
  | nil =>
    unfold gapDrafts at hrun
    split at hrun
    · rename_i hvisible
      obtain rfl := place_frame rfl hrun
      refine h.pushFrame hvisible.le (fun gap hgap hbefore => ?_) rfl
      rw [hgaps, List.append_nil] at hgap
      have := hdone gap hgap
      omega
    · cases hrun
      obtain rfl : cursor = stop := by omega
      exact h
  | cons gap rest ih =>
    have hgaps' : gaps = (done ++ [gap]) ++ rest := by rw [hgaps, List.append_assoc, List.singleton_append]
    have hgap : gap ∈ gaps := by rw [hgaps]; simp
    have hgapLt := gap.lt
    have hfirst := hrest gap (by simp)
    have hrest' := fun other hother => hrest other (List.mem_cons_of_mem gap hother)
    have hbehind : ∀ other ∈ rest, gap.stop < other.start := by
      rw [hgaps, List.pairwise_append] at hapart
      exact fun other hother => List.rel_of_pairwise_cons hapart.2.1 hother
    unfold gapDrafts at hrun
    dsimp only at hrun
    split at hrun
    · -- the gap is not between the frames
      rename_i hskip
      refine ih hgaps' (fun other hother => ?_) hframe hstop hrest' h hrun
      rcases List.mem_append.1 hother with hold | hnew
      · exact hdone other hold
      · rw [List.mem_singleton.1 hnew]
        omega
    · rename_i hbetween
      rw [not_or, not_le, not_le] at hbetween
      have hmax : max cursor (max gap.start (nanos frame)) = max gap.start (nanos frame) := max_eq_right hfirst
      rw [hmax, if_pos hbetween.1, List.foldlM_append, bind_eq_ok] at hrun
      obtain ⟨middle, hbefore, hslate⟩ := hrun
      -- the frame up to the gap
      have hmiddle : Reached gaps (max gap.start (nanos frame)) middle := by
        split at hbefore
        · rename_i hvisible
          obtain rfl := place_frame rfl hbefore
          refine h.pushFrame hvisible.le (fun other hother hbefore => ?_) rfl
          rw [hgaps, List.mem_append, List.mem_cons] at hother
          rcases hother with hold | rfl | hnew
          · have := hdone other hold
            omega
          · omega
          · have := hbehind other hnew
            omega
        · rename_i hnone
          cases hbefore
          obtain heq : cursor = max gap.start (nanos frame) := by omega
          rw [← heq]
          exact h
      simp only [List.foldlM_cons, placeDraft, bind_eq_ok] at hslate
      obtain ⟨next, ⟨-, -, hpush⟩, hrun⟩ := hslate
      have hnext := hmiddle.pushSlate hapart hgap (le_max_left _ _) hbetween.1 (min_le_left _ _) hpush
      refine ih hgaps' (fun other hother => ?_) (by omega) (min_le_right _ _) (fun other hother => ?_) hnext hrun
      · rcases List.mem_append.1 hother with hold | hnew
        · have := hdone other hold
          omega
        · rw [List.mem_singleton.1 hnew]
          exact .inl le_rfl
      · have := hbehind other hother
        omega

/-- No two frames of one time are inside a gap. -/
def GapsWhole (gaps : List CoalescedGap) (frames : List CapturedFrame) : Prop :=
  frames.IsChain fun a b => nanos a = nanos b → ∀ gap ∈ gaps, ¬ (gap.start < nanos a ∧ nanos a < gap.stop)

instance (gaps : List CoalescedGap) (frames : List CapturedFrame) : Decidable (GapsWhole gaps frames) :=
  inferInstanceAs (Decidable (List.IsChain _ _))

theorem reached_rawDrafts {frame : CapturedFrame} {rest : List CapturedFrame}
    (hapart : gaps.Pairwise fun a b => a.stop < b.start) (hordered : (frame :: rest).IsChain fun a b => nanos a ≤ nanos b)
    (hwhole : GapsWhole gaps (frame :: rest)) (h : Reached gaps (nanos frame) output)
    (hrun : (rawDrafts gaps (frame :: rest)).foldlM placeDraft output = .ok output') :
    slateDrafts output' = (gaps.filter fun gap =>
        decide (gap.start < nanos ((frame :: rest).getLast (by simp)))).map
          (slateAt (nanos ((frame :: rest).getLast (by simp)))) ∧
      output'.getLast? = some (frameDraft ((frame :: rest).getLast (by simp)) terminalHoldNanos .terminalHold) := by
  induction rest generalizing frame output with
  | nil =>
    rw [rawDrafts, ownDrafts, rawDrafts, List.append_nil] at hrun
    obtain rfl := place_frame rfl hrun
    refine ⟨?_, by simp⟩
    rw [← List.getLast_singleton (a := frame) (by simp)] at h
    rw [← h.slates]
    simp [slateDrafts, frameDraft, DraftSegment.isFrame]
  | cons next rest ih =>
    rw [List.isChain_cons_cons] at hordered
    have hwhole' := hwhole
    unfold GapsWhole at hwhole'
    rw [List.isChain_cons_cons] at hwhole'
    rw [rawDrafts, List.foldlM_append, bind_eq_ok] at hrun
    obtain ⟨middle, hown, hrun⟩ := hrun
    rw [List.getLast_cons (List.cons_ne_nil next rest)]
    refine ih hordered.2 hwhole'.2 ?_ hrun
    rw [ownDrafts] at hown
    split at hown
    · rename_i heq
      obtain rfl := place_frame rfl hown
      rw [← heq]
      refine h.pushFrame le_rfl (fun gap hgap hlt => ?_) rfl
      have hnot := hwhole'.1 heq gap hgap
      omega
    · rename_i hne
      refine reached_gapDrafts (List.nil_append gaps).symm hapart nofun (lt_of_le_of_ne hordered.1 hne) le_rfl hordered.1
        (fun gap _ => le_max_right _ _) h hown

end Krometrail.Video
