import Krometrail.Lib.Coalescing
import Krometrail.Lib.Results
import Krometrail.Timeline.Ranges

/-!
# Capture quality

The summaries of the capture behind a resolved range: the gaps that meet it, the runs of frames of one visual epoch, and
the cadence of the frames.
-/

namespace Krometrail.CaptureQuality

open Coalescing Results Sorting

structure CaptureGapSummary where
  gapCount : Nat
  coveredDurationNanos : Nat
  knownMissingFrames : Nat
  hasUnknownMissingEstimate : Bool

/-- `intersection`, where there is one. -/
def intersection? (left right : SessionRange) : Option SessionRange :=
  if h : rangesIntersect left right then some (intersection left right h) else none

/-- The clipped ranges of the gaps that meet the range. -/
def clippedGaps (gaps : List CaptureGap) (range : SessionRange) : List SessionRange :=
  gaps.filterMap fun gap => intersection? gap.range range

def duration (range : SessionRange) : Nat := range.snd.nanos.toNat - range.fst.nanos.toNat

/-- A `usize` as a `u64`. -/
def countAsU64 (count : Nat) : Nat := min count u64Max

def gapSummary (gaps : List CaptureGap) (range : SessionRange) : CaptureGapSummary :=
  let meeting := gaps.filter fun gap => (intersection? gap.range range).isSome
  let merged := coalesce id (clippedGaps gaps range)
  { gapCount := countAsU64 meeting.length
    coveredDurationNanos := merged.foldl (fun total range => saturatingAdd total (duration range)) 0
    knownMissingFrames := (meeting.filterMap (·.estimatedMissingFrames)).foldl saturatingAdd 0
    hasUnknownMissingEstimate := meeting.any (·.estimatedMissingFrames.isNone) }

/-! ### Epochs -/

structure FramePoint where
  frameId : FrameId
  captureOrdinal : CaptureOrdinal
  sessionTime : SessionTime

structure EpochSummary where
  epochIndex : Nat
  range : SessionRange
  frameCount : Nat
  firstFrame : FramePoint
  lastFrame : FramePoint
  image : PixelDimensions
  viewport : PixelDimensions
  deviceScaleFactor : DeviceScaleFactor

def framePoint (frame : CapturedFrame) : FramePoint := ⟨frame.id, frame.captureOrdinal, frame.sessionTime⟩

def sameVisualEpoch (frame other : CapturedFrame) : Bool :=
  decide (frame.image = other.image ∧ frame.viewport = other.viewport ∧
    frame.deviceScaleFactor.bits = other.deviceScaleFactor.bits)

/-- The summary of the first frame of an epoch. -/
def EpochSummary.single (epochIndex : Nat) (frame : CapturedFrame) : EpochSummary where
  epochIndex := epochIndex
  range := NonemptyInterval.pure frame.sessionTime
  frameCount := 1
  firstFrame := framePoint frame
  lastFrame := framePoint frame
  image := frame.image
  viewport := frame.viewport
  deviceScaleFactor := frame.deviceScaleFactor

/-- Behind a frame of the same epoch, `range` is the wider range. -/
def EpochSummary.extend (current : EpochSummary) (frame : CapturedFrame) (range : SessionRange) : EpochSummary :=
  { current with range, frameCount := saturatingAdd current.frameCount 1, lastFrame := framePoint frame }

def epochCountError : KrometrailError := .new .resourceLimitExceeded "epoch count exceeds the summary format"

/-- The body of the loop of `epoch_summaries`: the epochs so far, and the previous frame. -/
def summarizeFrame (state : List EpochSummary × Option CapturedFrame) (frame : CapturedFrame) :
    Result (List EpochSummary × Option CapturedFrame) :=
  match state.2.any (sameVisualEpoch frame), state.1.getLast? with
  | true, some current => do
    let range ← (SessionRange.new current.range.fst frame.sessionTime).mapError fun _ =>
      .new .persistenceFailed "epoch frame metadata is not in session-time order"
    return (state.1.dropLast ++ [current.extend frame range], some frame)
  | _, _ => do
    refuse (state.1.length ≥ 2 ^ 32) epochCountError
    return (state.1 ++ [.single state.1.length frame], some frame)

def epochSummaries (frames : List CapturedFrame) : Result (List EpochSummary) := do
  let state ← frames.foldlM summarizeFrame ([], none)
  return state.1

structure CadenceSummary where
  intervalCount : Nat
  minNanos : Nat
  medianNanos : Nat
  p95Nanos : Nat
  maxNanos : Nat

/-- The times between adjacent frames. -/
def intervals (frames : List CapturedFrame) : List Nat :=
  frames.zipWith (fun first second => second.sessionTime.nanos.toNat - first.sessionTime.nanos.toNat) frames.tail

def nearestRank (sorted : List Nat) (percentile : Nat) : Nat :=
  let rank := max 1 (min ((min (percentile * sorted.length) u64Max + 99) / 100) sorted.length)
  sorted.getD (rank - 1) 0

def cadence (frames : List CapturedFrame) : Option CadenceSummary :=
  match sortByKey id (intervals frames) with
  | [] => none
  | least :: rest =>
    let deltas := least :: rest
    some {
      intervalCount := countAsU64 deltas.length
      minNanos := least
      medianNanos := nearestRank deltas 50
      p95Nanos := nearestRank deltas 95
      maxNanos := deltas.getLast (List.cons_ne_nil _ _) }

/-! ### The length of a union -/

/-- A session time on the real line. -/
def place (time : SessionTime) : ℝ := time.nanos.toNat

theorem place_mono : Monotone place := fun _ _ h => Nat.cast_le.2 (SessionTime.le_iff.1 h)

theorem id_reaches : Reaches id place where
  mono := place_mono
  gapless _ _ _ hz hy := (place_mono hz).trans hy.le

theorem ofReal_duration (range : SessionRange) :
    MeasureTheory.volume (Set.Icc (place range.fst) (place range.snd)) = duration range := by
  have hle := SessionTime.le_iff.1 range.fst_le_snd
  rw [Real.volume_Icc, place, place, ← Nat.cast_sub hle, ENNReal.ofReal_natCast]
  rfl

theorem measurableSet_points (ranges : List SessionRange) : MeasurableSet (points place ranges) := by
  induction ranges with
  | nil => simp [points]
  | cons range ranges ih =>
    rw [← List.singleton_append, points_append, points_singleton]
    exact measurableSet_Icc.union ih

theorem volume_points {ranges : List SessionRange} (h : ranges.Pairwise (Beyond id)) :
    MeasureTheory.volume (points place ranges) = ((ranges.map duration).sum : ℕ) := by
  induction ranges with
  | nil => simp [points]
  | cons range ranges ih =>
    have hdisjoint : Disjoint (Set.Icc (place range.fst) (place range.snd)) (points place ranges) := by
      rw [Set.disjoint_left]
      rintro y ⟨-, hlast⟩ ⟨other, hother, hfirst, -⟩
      have hbeyond : range.snd < other.fst := List.rel_of_pairwise_cons h hother
      have hlt : place range.snd < place other.fst := Nat.cast_lt.2 (not_le.1 fun hle => hbeyond.not_ge (SessionTime.le_iff.2 hle))
      exact absurd (hfirst.trans hlast) (not_le.2 hlt)
    rw [← List.singleton_append, points_append, points_singleton,
      MeasureTheory.measure_union hdisjoint (measurableSet_points ranges), ofReal_duration, ih h.of_cons]
    push_cast
    simp

theorem foldl_saturatingAdd {α : Type} (f : α → Nat) (l : List α) (total : Nat) (h : total + (l.map f).sum ≤ u64Max) :
    l.foldl (fun total a => saturatingAdd total (f a)) total = total + (l.map f).sum := by
  induction l generalizing total with
  | nil => rfl
  | cons a l ih =>
    rw [List.map_cons, List.sum_cons] at h ⊢
    have hfits : saturatingAdd total (f a) = total + f a := min_eq_left (by omega)
    rw [List.foldl_cons, hfits, ih _ (by omega)]
    omega

def gapPoints (gaps : List CaptureGap) (range : SessionRange) : Set ℝ :=
  {y | (∃ gap ∈ gaps, y ∈ Set.Icc (place gap.range.fst) (place gap.range.snd)) ∧
    y ∈ Set.Icc (place range.fst) (place range.snd)}

theorem points_clippedGaps (gaps : List CaptureGap) (range : SessionRange) :
    points place (clippedGaps gaps range) = gapPoints gaps range := by
  ext y
  simp only [points, clippedGaps, gapPoints, List.mem_filterMap, Set.mem_ofPred_eq, Set.mem_Icc]
  constructor
  · rintro ⟨clipped, ⟨gap, hgap, hclipped⟩, hfirst, hlast⟩
    unfold intersection? at hclipped
    split at hclipped
    · cases hclipped
      simp only [intersection, place_mono.map_max, place_mono.map_min, max_le_iff, le_min_iff] at hfirst hlast
      exact ⟨⟨gap, hgap, hfirst.1, hlast.1⟩, hfirst.2, hlast.2⟩
    · cases hclipped
  · rintro ⟨⟨gap, hgap, hfirst, hlast⟩, hfirst', hlast'⟩
    have hcast : ∀ a b : SessionTime, place a ≤ place b → a ≤ b := fun a b h => SessionTime.le_iff.2 (Nat.cast_le.1 h)
    have hmeet : rangesIntersect gap.range range :=
      ⟨hcast _ _ (hfirst.trans hlast'), hcast _ _ (hfirst'.trans hlast)⟩
    refine ⟨intersection gap.range range hmeet, ⟨gap, hgap, dif_pos hmeet⟩, ?_⟩
    simp only [intersection, place_mono.map_max, place_mono.map_min, max_le_iff, le_min_iff]
    exact ⟨⟨hfirst, hfirst'⟩, hlast, hlast'⟩

theorem gapPoints_subset (gaps : List CaptureGap) (range : SessionRange) :
    gapPoints gaps range ⊆ Set.Icc 0 (u64Max : ℝ) := by
  rintro y ⟨-, hfirst, hlast⟩
  have hmax : place range.snd ≤ (u64Max : ℝ) := by
    have := range.snd.nanos.toNat_lt
    exact Nat.cast_le.2 (by unfold u64Max; omega)
  exact ⟨(Nat.cast_nonneg _).trans hfirst, hlast.trans hmax⟩

theorem volume_gapPoints (gaps : List CaptureGap) (range : SessionRange) :
    MeasureTheory.volume (gapPoints gaps range) = (gapSummary gaps range).coveredDurationNanos := by
  have hvolume := volume_points (beyond_coalesce id_reaches (clippedGaps gaps range))
  rw [points_coalesce id_reaches, points_clippedGaps] at hvolume
  have hfits : ((coalesce id (clippedGaps gaps range)).map duration).sum ≤ u64Max := by
    have hle : MeasureTheory.volume (gapPoints gaps range) ≤ MeasureTheory.volume (Set.Icc 0 (u64Max : ℝ)) :=
      MeasureTheory.measure_mono (gapPoints_subset gaps range)
    rw [hvolume, Real.volume_Icc, sub_zero, ENNReal.ofReal_natCast] at hle
    exact_mod_cast hle
  rw [hvolume]
  congr 1
  exact (Nat.zero_add _).symm.trans (foldl_saturatingAdd duration _ 0 (by omega)).symm

theorem gapCount_gapSummary (gaps : List CaptureGap) (range : SessionRange) (h : gaps.length ≤ u64Max) :
    (gapSummary gaps range).gapCount = gaps.countP fun gap => decide (rangesIntersect gap.range range) := by
  have hmeets : ∀ gap : CaptureGap, (intersection? gap.range range).isSome = decide (rangesIntersect gap.range range) := by
    intro gap
    unfold intersection?
    split <;> simp_all
  simp only [gapSummary, hmeets, List.countP_eq_length_filter]
  exact min_eq_left ((List.length_filter_le _ _).trans h)

/-! ### The runs of one epoch -/

/-- What `validate_frame_metadata` checks of adjacent frames. -/
structure CaptureOrder (frames : List CapturedFrame) : Prop where
  ordinals : frames.Pairwise fun previous frame => previous.captureOrdinal.value < frame.captureOrdinal.value
  times : frames.Pairwise fun previous frame => previous.sessionTime ≤ frame.sessionTime

/-- The runs are what the frames fall into where the epoch changes. -/
structure VisualEpochs (frames : List CapturedFrame) (runs : List (List CapturedFrame)) : Prop where
  flatten : runs.flatten = frames
  ne_nil : ∀ run ∈ runs, run ≠ []
  same : ∀ run ∈ runs, ∀ frame ∈ run, ∀ other ∈ run, sameVisualEpoch frame other = true
  changes : runs.IsChain fun run next => ∀ frame ∈ run, ∀ other ∈ next, sameVisualEpoch other frame = false

/-- The summary is the one of the run. -/
structure Summarizes (run : List CapturedFrame) (epoch : EpochSummary) : Prop where
  frameCount : epoch.frameCount = run.length
  firstFrame : run.head?.map framePoint = some epoch.firstFrame
  lastFrame : run.getLast?.map framePoint = some epoch.lastFrame
  range : epoch.range.fst = epoch.firstFrame.sessionTime ∧ epoch.range.snd = epoch.lastFrame.sessionTime
  geometry : ∀ frame ∈ run, frame.image = epoch.image ∧ frame.viewport = epoch.viewport ∧
    frame.deviceScaleFactor.bits = epoch.deviceScaleFactor.bits

theorem sameVisualEpoch_comm (frame other : CapturedFrame) : sameVisualEpoch frame other = sameVisualEpoch other frame := by
  unfold sameVisualEpoch
  congr 1
  simp only [eq_comm]

theorem sameVisualEpoch_trans {frame other third : CapturedFrame} (h : sameVisualEpoch frame other = true)
    (h' : sameVisualEpoch other third = true) : sameVisualEpoch frame third = true := by
  simp only [sameVisualEpoch, decide_eq_true_eq] at h h' ⊢
  exact ⟨h.1.trans h'.1, h.2.1.trans h'.2.1, h.2.2.trans h'.2.2⟩

theorem sameVisualEpoch_self (frame : CapturedFrame) : sameVisualEpoch frame frame = true := by simp [sameVisualEpoch]

theorem VisualEpochs.concat_eq {frames : List CapturedFrame} {last : CapturedFrame} {runs : List (List CapturedFrame)}
    (h : VisualEpochs (frames ++ [last]) runs) : ∃ front run, runs = front ++ [run ++ [last]] := by
  rcases List.eq_nil_or_concat' runs with rfl | ⟨front, group, rfl⟩
  · exact absurd h.flatten (by simp)
  · rcases List.eq_nil_or_concat' group with rfl | ⟨run, other, rfl⟩
    · exact absurd rfl (h.ne_nil [] (by simp))
    · have hflatten := h.flatten
      rw [List.flatten_append, List.flatten_singleton, ← List.append_assoc] at hflatten
      obtain rfl : other = last := by simpa using congrArg List.getLast? hflatten
      exact ⟨front, run, rfl⟩

section Steps

variable {frames run : List CapturedFrame} {front : List (List CapturedFrame)} {frame last : CapturedFrame}
  {epochs : List EpochSummary} {epoch : EpochSummary}

theorem VisualEpochs.extend (h : VisualEpochs (frames ++ [last]) (front ++ [run ++ [last]]))
    (hsame : sameVisualEpoch frame last = true) :
    VisualEpochs (frames ++ [last, frame]) (front ++ [run ++ [last, frame]]) := by
  have hlast : ∀ other ∈ run ++ [last], sameVisualEpoch frame other = true := fun other hother =>
    sameVisualEpoch_trans hsame (h.same _ (by simp) last (by simp) other hother)
  refine ⟨?_, ?_, ?_, ?_⟩
  · have := congrArg (· ++ [frame]) h.flatten
    simpa using this
  · intro group hgroup
    rcases List.mem_append.1 hgroup with hfront | hrun
    · exact h.ne_nil group (by simp [hfront])
    · simp_all
  · intro group hgroup first hfirst other hother
    rcases List.mem_append.1 hgroup with hfront | hrun
    · exact h.same group (by simp [hfront]) first hfirst other hother
    · obtain rfl := List.mem_singleton.1 hrun
      have hsplit : run ++ [last, frame] = (run ++ [last]) ++ [frame] := by simp
      rw [hsplit, List.mem_append, List.mem_singleton] at hfirst hother
      rcases hfirst with hfirst | rfl <;> rcases hother with hother | rfl
      · exact h.same _ (by simp) first hfirst other hother
      · exact (sameVisualEpoch_comm _ _).trans (hlast first hfirst)
      · exact hlast other hother
      · exact sameVisualEpoch_self _
  · have hchain := h.changes
    rw [List.isChain_append] at hchain ⊢
    refine ⟨hchain.1, List.isChain_singleton _, fun group hgroup next hnext first hfirst other hother => ?_⟩
    obtain rfl : run ++ [last, frame] = next := by simpa using hnext
    have hchange := hchain.2.2 group hgroup (run ++ [last]) rfl first hfirst
    have hsplit : run ++ [last, frame] = (run ++ [last]) ++ [frame] := by simp
    rw [hsplit, List.mem_append, List.mem_singleton] at hother
    rcases hother with hother | rfl
    · exact hchange other hother
    · by_contra hne
      have hfirst := sameVisualEpoch_trans ((sameVisualEpoch_comm _ _).trans hsame) (Bool.eq_true_of_not_eq_false hne)
      exact absurd hfirst (Bool.not_eq_true _ ▸ hchange last (by simp))

theorem VisualEpochs.begin (h : VisualEpochs frames front)
    (hchange : ∀ last ∈ frames.getLast?, sameVisualEpoch frame last = false) :
    VisualEpochs (frames ++ [frame]) (front ++ [[frame]]) := by
  refine ⟨by simp [h.flatten], ?_, ?_, ?_⟩
  · intro group hgroup
    rcases List.mem_append.1 hgroup with hfront | hrun
    · exact h.ne_nil group hfront
    · simp_all
  · intro group hgroup first hfirst other hother
    rcases List.mem_append.1 hgroup with hfront | hrun
    · exact h.same group hfront first hfirst other hother
    · obtain rfl := List.mem_singleton.1 hrun
      rw [List.mem_singleton.1 hfirst, List.mem_singleton.1 hother]
      exact sameVisualEpoch_self _
  · rw [List.isChain_append]
    refine ⟨h.changes, List.isChain_singleton _, fun group hgroup next hnext first hfirst other hother => ?_⟩
    obtain rfl : [frame] = next := by simpa using hnext
    obtain rfl := List.mem_singleton.1 hother
    have hmem : group ∈ front := List.mem_of_mem_getLast? hgroup
    -- the last frame of the last run is the last of all
    obtain ⟨last, hlast⟩ : ∃ last, group.getLast? = some last := by
      rw [← Option.isSome_iff_exists, List.getLast?_isSome]
      exact h.ne_nil group hmem
    have hframes : frames.getLast? = some last := by
      obtain ⟨before, rfl⟩ : ∃ before, front = before ++ [group] := List.getLast?_eq_some_iff.1 hgroup
      rw [← h.flatten]
      simp [hlast]
    by_contra hne
    have hsame := h.same group hmem first hfirst last (List.mem_of_mem_getLast? hlast)
    exact absurd (sameVisualEpoch_trans (Bool.eq_true_of_not_eq_false hne) hsame)
      (Bool.not_eq_true _ ▸ hchange last hframes)

theorem summarizes_single (index : Nat) (frame : CapturedFrame) : Summarizes [frame] (.single index frame) where
  frameCount := rfl
  firstFrame := rfl
  lastFrame := rfl
  range := ⟨rfl, rfl⟩
  geometry := by simp [EpochSummary.single]

theorem Summarizes.extend {range : SessionRange} (h : Summarizes (run ++ [last]) epoch)
    (hsame : sameVisualEpoch frame last = true) (hlen : run.length + 2 ≤ u64Max)
    (hrange : range.fst = epoch.range.fst ∧ range.snd = frame.sessionTime) :
    Summarizes (run ++ [last, frame]) (epoch.extend frame range) where
  frameCount := by
    have hcount : epoch.frameCount = run.length + 1 := by simpa using h.frameCount
    simp only [EpochSummary.extend, hcount, saturatingAdd, List.length_append, List.length_cons, List.length_nil]
    omega
  firstFrame := by
    rw [← show (run ++ [last]) ++ [frame] = run ++ [last, frame] by simp, List.head?_append]
    have hfirst := h.firstFrame
    cases hhead : (run ++ [last]).head? with
    | none => rw [hhead] at hfirst; nomatch hfirst
    | some first => rw [hhead] at hfirst; exact hfirst
  lastFrame := by simp [EpochSummary.extend]
  range := ⟨hrange.1.trans h.range.1, hrange.2⟩
  geometry := by
    intro other hother
    rw [← show (run ++ [last]) ++ [frame] = run ++ [last, frame] by simp, List.mem_append, List.mem_singleton] at hother
    rcases hother with hother | rfl
    · exact h.geometry other hother
    · obtain ⟨himage, hviewport, hscale⟩ := h.geometry last (by simp)
      simp only [sameVisualEpoch, decide_eq_true_eq] at hsame
      exact ⟨hsame.1.trans himage, hsame.2.1.trans hviewport, hsame.2.2.trans hscale⟩

theorem summarizeFrame_same (before : List EpochSummary) (h : Summarizes (run ++ [last]) epoch)
    (hsame : sameVisualEpoch frame last = true) (hlen : run.length + 2 ≤ u64Max)
    (htimes : ∀ other ∈ run ++ [last], other.sessionTime ≤ frame.sessionTime) :
    ∃ epoch', summarizeFrame (before ++ [epoch], some last) frame = .ok (before ++ [epoch'], some frame) ∧
      Summarizes (run ++ [last, frame]) epoch' ∧ epoch'.epochIndex = epoch.epochIndex := by
  have hle : epoch.range.fst ≤ frame.sessionTime := by
    have hfirst := h.firstFrame
    obtain ⟨first, hhead, hpoint⟩ := Option.map_eq_some_iff.1 hfirst
    rw [h.range.1, ← hpoint]
    exact htimes first (List.mem_of_mem_head? hhead)
  refine ⟨epoch.extend frame ⟨(epoch.range.fst, frame.sessionTime), hle⟩, ?_, h.extend hsame hlen ⟨rfl, rfl⟩, rfl⟩
  simp [summarizeFrame, hsame, SessionRange.new, hle, Except.mapError]

theorem summarizeFrame_other {previous : Option CapturedFrame}
    (hchange : ∀ last ∈ previous, sameVisualEpoch frame last = false) :
    summarizeFrame (epochs, previous) frame =
      if epochs.length < 2 ^ 32 then .ok (epochs ++ [.single epochs.length frame], some frame) else .error epochCountError := by
  have hany : previous.any (sameVisualEpoch frame) = false := by
    cases previous with
    | none => rfl
    | some last => exact hchange last rfl
  unfold summarizeFrame
  rw [hany]
  split
  · simp_all
  · by_cases hfits : epochs.length < 2 ^ 32
    · simp only [refuse, ge_iff_le, not_le.2 hfits, hfits, if_true, if_false]
      rfl
    · simp only [refuse, ge_iff_le, not_lt.1 hfits, hfits, if_true, if_false]
      rfl

end Steps

theorem forall₂_concat {α β : Type} {R : α → β → Prop} {l : List α} {a : α} {m : List β} (h : List.Forall₂ R (l ++ [a]) m) :
    ∃ m' b, m = m' ++ [b] ∧ List.Forall₂ R l m' ∧ R a b := by
  induction l generalizing m with
  | nil =>
    obtain _ | ⟨hab, hnil⟩ := h
    obtain rfl := List.forall₂_nil_left_iff.1 hnil
    exact ⟨[], _, rfl, .nil, hab⟩
  | cons x l ih =>
    obtain _ | ⟨hx, hrest⟩ := h
    obtain ⟨m', b, rfl, hm', hb⟩ := ih hrest
    exact ⟨_ :: m', b, rfl, .cons hx hm', hb⟩

theorem foldlM_summarizeFrame (frames : List CapturedFrame)
    (htimes : frames.Pairwise fun previous frame => previous.sessionTime ≤ frame.sessionTime) (hlen : frames.length ≤ u64Max) :
    ∃ runs, VisualEpochs frames runs ∧
      if runs.length ≤ 2 ^ 32 then
        ∃ epochs, frames.foldlM summarizeFrame ([], none) = .ok (epochs, frames.getLast?) ∧
          List.Forall₂ Summarizes runs epochs ∧ epochs.map (·.epochIndex) = List.range epochs.length
      else frames.foldlM summarizeFrame ([], none) = .error epochCountError := by
  induction frames using List.reverseRecOn with
  | nil =>
    refine ⟨[], ⟨rfl, by simp, by simp, List.isChain_nil⟩, ?_⟩
    rw [if_pos (by simp)]
    exact ⟨[], rfl, .nil, rfl⟩
  | append_singleton frames frame ih =>
    rw [List.pairwise_append] at htimes
    rw [List.length_append, List.length_singleton] at hlen
    obtain ⟨runs, hruns, hloop⟩ := ih htimes.1 (by omega)
    have hbefore : ∀ other ∈ frames, other.sessionTime ≤ frame.sessionTime := fun other hother =>
      htimes.2.2 other hother frame (List.mem_singleton_self _)
    have hrun : (frames ++ [frame]).foldlM summarizeFrame ([], none) =
        frames.foldlM summarizeFrame ([], none) >>= fun state => summarizeFrame state frame := by
      rw [List.foldlM_append]
      simp only [List.foldlM_cons, List.foldlM_nil, bind_pure]
    rw [hrun, List.getLast?_concat]
    by_cases hsame : frames.getLast?.any (sameVisualEpoch frame) = true
    · -- the last run goes on
      obtain ⟨last, hlast, hlike⟩ := (Option.any_eq_true _ _).1 hsame
      obtain ⟨earlier, rfl⟩ := List.getLast?_eq_some_iff.1 hlast
      obtain ⟨front, run, rfl⟩ := hruns.concat_eq
      have hextend := hruns.extend hlike
      have hmem : ∀ other ∈ run ++ [last], other ∈ earlier ++ [last] := fun other hother => by
        rw [← hruns.flatten]
        exact List.mem_flatten.2 ⟨_, by simp, hother⟩
      have hfits : run.length + 2 ≤ u64Max := by
        have hle := congrArg List.length hruns.flatten
        simp only [List.flatten_append, List.flatten_singleton, List.length_append, List.length_singleton] at hle hlen
        omega
      refine ⟨_, by simpa using hextend, ?_⟩
      have hlength : (front ++ [run ++ [last, frame]]).length = (front ++ [run ++ [last]]).length := by simp
      rw [hlength]
      split at hloop
      · rename_i hle
        obtain ⟨epochs, hepochs, hsummaries, hindices⟩ := hloop
        obtain ⟨before, epoch, rfl, hbefore', hepoch⟩ := forall₂_concat hsummaries
        obtain ⟨epoch', hstep, hepoch', hindex⟩ :=
          summarizeFrame_same before hepoch hlike hfits fun other hother => hbefore other (hmem other hother)
        rw [if_pos hle, hepochs, hlast, ok_bind, hstep]
        refine ⟨_, rfl, List.rel_append hbefore' (.cons hepoch' .nil), ?_⟩
        simpa [hindex] using hindices
      · rename_i hgt
        rw [if_neg hgt, hloop]
        rfl
    · -- a run begins
      have hchange : ∀ last ∈ frames.getLast?, sameVisualEpoch frame last = false := by
        intro last hlast
        by_contra hne
        exact hsame ((Option.any_eq_true _ _).2 ⟨last, hlast, Bool.eq_true_of_not_eq_false hne⟩)
      refine ⟨_, hruns.begin hchange, ?_⟩
      rw [List.length_append, List.length_singleton]
      split at hloop
      · obtain ⟨epochs, hepochs, hsummaries, hindices⟩ := hloop
        have hcount : epochs.length = runs.length := hsummaries.length_eq.symm
        rw [hepochs, ok_bind, summarizeFrame_other hchange, hcount]
        by_cases hfits : runs.length < 2 ^ 32
        · rw [if_pos (show runs.length + 1 ≤ 2 ^ 32 from hfits), if_pos hfits]
          refine ⟨_, rfl, List.rel_append hsummaries (.cons (summarizes_single _ _) .nil), ?_⟩
          simp [hindices, hcount, List.range_succ, EpochSummary.single]
        · rw [if_neg (show ¬ runs.length + 1 ≤ 2 ^ 32 from hfits), if_neg hfits]
      · rename_i hgt
        rw [if_neg (show ¬ runs.length + 1 ≤ 2 ^ 32 by omega), hloop]
        rfl

variable {frames : List CapturedFrame} {runs : List (List CapturedFrame)}

theorem VisualEpochs.sum_length (h : VisualEpochs frames runs) : (runs.map List.length).sum = frames.length := by
  rw [← h.flatten, List.length_flatten]

theorem sum_frameCount {epochs : List EpochSummary} (h : List.Forall₂ Summarizes runs epochs) :
    (epochs.map (·.frameCount)).sum = (runs.map List.length).sum := by
  induction h with
  | nil => rfl
  | cons hepoch _ ih => rw [List.map_cons, List.map_cons, List.sum_cons, List.sum_cons, ih, hepoch.frameCount]

theorem nearestRank_mem {deltas : List Nat} (percentile : Nat) (h : deltas ≠ []) : nearestRank deltas percentile ∈ deltas := by
  have hpos := List.length_pos_iff.2 h
  simp only [nearestRank]
  rw [List.getD_eq_getElem _ _ (by omega)]
  exact List.getElem_mem _

theorem nearestRank_mono {deltas : List Nat} (hsorted : deltas.Pairwise (· ≤ ·)) (h : deltas ≠ []) {low high : Nat} (hle : low ≤ high) :
    nearestRank deltas low ≤ nearestRank deltas high := by
  have hpos := List.length_pos_iff.2 h
  have hmul : low * deltas.length ≤ high * deltas.length := Nat.mul_le_mul_right _ hle
  simp only [nearestRank]
  rw [List.getD_eq_getElem _ _ (by omega), List.getD_eq_getElem _ _ (by omega)]
  rcases Nat.lt_or_eq_of_le (show max 1 (min ((min (low * deltas.length) u64Max + 99) / 100) deltas.length) - 1 ≤
      max 1 (min ((min (high * deltas.length) u64Max + 99) / 100) deltas.length) - 1 by omega) with hlt | heq
  · exact List.pairwise_iff_getElem.1 hsorted _ _ _ _ hlt
  · simp only [heq, le_refl]

theorem cadence_ordered {summary : CadenceSummary} (h : cadence frames = some summary) :
    (summary.minNanos ∈ intervals frames ∧ summary.maxNanos ∈ intervals frames ∧
      ∀ delta ∈ intervals frames, summary.minNanos ≤ delta ∧ delta ≤ summary.maxNanos) ∧
    (summary.medianNanos ∈ intervals frames ∧ summary.p95Nanos ∈ intervals frames) ∧
    summary.minNanos ≤ summary.medianNanos ∧ summary.medianNanos ≤ summary.p95Nanos ∧ summary.p95Nanos ≤ summary.maxNanos := by
  unfold cadence at h
  split at h
  · cases h
  · rename_i least rest hdeltas
    cases h
    have hsorted : (least :: rest).Pairwise (· ≤ ·) := hdeltas ▸ pairwise_sortByKey id (intervals frames)
    have hmem : ∀ delta, delta ∈ least :: rest ↔ delta ∈ intervals frames := fun delta => by
      rw [← hdeltas, mem_sortByKey]
    have hne : least :: rest ≠ [] := List.cons_ne_nil _ _
    have hleast : ∀ delta ∈ least :: rest, least ≤ delta := by
      rintro delta (_ | ⟨_, hdelta⟩)
      · exact le_rfl
      · exact List.rel_of_pairwise_cons hsorted hdelta
    have hgreatest : ∀ delta ∈ least :: rest, delta ≤ (least :: rest).getLast hne := by
      intro delta hdelta
      rw [← List.dropLast_append_getLast hne] at hsorted hdelta
      rcases List.mem_append.1 hdelta with hbefore | hlast
      · exact (List.pairwise_append.1 hsorted).2.2 delta hbefore _ (List.mem_singleton_self _)
      · exact (List.mem_singleton.1 hlast).le
    refine ⟨⟨(hmem _).1 (by simp), (hmem _).1 (List.getLast_mem hne), fun delta hdelta =>
      ⟨hleast delta ((hmem _).2 hdelta), hgreatest delta ((hmem _).2 hdelta)⟩⟩,
      ⟨(hmem _).1 (nearestRank_mem 50 hne), (hmem _).1 (nearestRank_mem 95 hne)⟩, ?_, ?_, ?_⟩
    · exact hleast _ (nearestRank_mem 50 hne)
    · exact nearestRank_mono hsorted hne (by omega)
    · exact hgreatest _ (nearestRank_mem 95 hne)

theorem length_intervals (frames : List CapturedFrame) : (intervals frames).length = frames.length - 1 := by
  simp [intervals]

theorem cadence_eq_none : cadence frames = none ↔ frames.length < 2 := by
  have hlength : (sortByKey id (intervals frames)).length = frames.length - 1 := by
    rw [(perm_sortByKey id (intervals frames)).length_eq, length_intervals]
  unfold cadence
  split
  · rename_i hnil
    rw [hnil, List.length_nil] at hlength
    exact ⟨fun _ => by omega, fun _ => rfl⟩
  · rename_i hcons
    rw [hcons, List.length_cons] at hlength
    exact ⟨nofun, fun _ => by omega⟩

/-- The summaries of frames in capture order are exact: the gaps' covered duration is the length of what they cover of the range,
the epochs are the runs of one visual epoch, unless there are more of them than the format has numbers for, and the cadence
is ordered. -/
theorem capture_quality_exact (frames : List CapturedFrame) (gaps : List CaptureGap) (range : SessionRange)
    (horder : CaptureOrder frames) (hframes : frames.length ≤ u64Max) (hgaps : gaps.length ≤ u64Max) :
    (MeasureTheory.volume (gapPoints gaps range) = (gapSummary gaps range).coveredDurationNanos ∧
      (gapSummary gaps range).gapCount = gaps.countP fun gap => decide (rangesIntersect gap.range range)) ∧
    (∃ runs, VisualEpochs frames runs ∧
      if runs.length ≤ 2 ^ 32 then
        ∃ epochs, epochSummaries frames = .ok epochs ∧ List.Forall₂ Summarizes runs epochs ∧
          epochs.map (·.epochIndex) = List.range epochs.length ∧ (epochs.map (·.frameCount)).sum = frames.length
      else epochSummaries frames = .error epochCountError) ∧
    (cadence frames = none ↔ frames.length < 2) ∧
    ∀ summary, cadence frames = some summary →
      (summary.minNanos ∈ intervals frames ∧ summary.maxNanos ∈ intervals frames ∧
        ∀ delta ∈ intervals frames, summary.minNanos ≤ delta ∧ delta ≤ summary.maxNanos) ∧
      (summary.medianNanos ∈ intervals frames ∧ summary.p95Nanos ∈ intervals frames) ∧
      summary.minNanos ≤ summary.medianNanos ∧ summary.medianNanos ≤ summary.p95Nanos ∧
      summary.p95Nanos ≤ summary.maxNanos := by
  refine ⟨⟨volume_gapPoints gaps range, gapCount_gapSummary gaps range hgaps⟩, ?_, cadence_eq_none, fun _ => cadence_ordered⟩
  obtain ⟨runs, hruns, hloop⟩ := foldlM_summarizeFrame frames horder.times hframes
  refine ⟨runs, hruns, ?_⟩
  split at hloop
  · rename_i hfits
    obtain ⟨epochs, hepochs, hsummaries, hindices⟩ := hloop
    rw [if_pos hfits]
    refine ⟨epochs, ?_, hsummaries, hindices, (sum_frameCount hsummaries).trans hruns.sum_length⟩
    rw [epochSummaries, hepochs]
    rfl
  · rename_i hmore
    rw [if_neg hmore, epochSummaries, hloop]
    rfl

/-- The frame of the number, one or two pixels wide. -/
def alternatingFrame (i : Fin (2 ^ 32 + 1)) : CapturedFrame :=
  { id := ⟨someUuid 1⟩, sessionId := ⟨someUuid 2⟩, targetId := ⟨someUuid 3⟩
    captureOrdinal := ⟨UInt64.ofNat (i + 1), by
      rw [Ne, ← UInt64.toNat_inj, UInt64.toNat_ofNat']
      have := i.isLt
      simp
      omega⟩
    sourceTime := none, observedTime := ⟨0⟩, sessionTime := ⟨0⟩, format := .png
    image := if i.val % 2 = 0 then .unit else .pair
    viewport := .unit, deviceScaleFactor := .one, warnings := []
    sessionTime_le := UInt64.le_refl _ }

/-- Two gaps of four nanoseconds that share one. -/
def sharedGaps : List CaptureGap :=
  [⟨⟨someUuid 4⟩, ⟨someUuid 2⟩, ⟨someUuid 3⟩, ⟨⟨⟨3⟩, ⟨7⟩⟩, by decide⟩, ⟨9⟩, .captureStopped, none, by decide⟩,
    ⟨⟨someUuid 5⟩, ⟨someUuid 2⟩, ⟨someUuid 3⟩, ⟨⟨⟨0⟩, ⟨4⟩⟩, by decide⟩, ⟨9⟩, .captureStopped, none, by decide⟩]

def clippingRange : SessionRange := ⟨⟨⟨1⟩, ⟨9⟩⟩, by decide⟩

theorem capture_quality_exact_shared :
    MeasureTheory.volume (gapPoints sharedGaps clippingRange) = 6 ∧ cadence [alternatingFrame 0, alternatingFrame 1] ≠ none := by
  have hexact := capture_quality_exact [alternatingFrame 0, alternatingFrame 1] sharedGaps clippingRange
    ⟨by decide, by decide⟩ (by decide) (by decide)
  refine ⟨?_, fun hnone => absurd (hexact.2.2.1.1 hnone) (by decide)⟩
  rw [hexact.1.1, show (gapSummary sharedGaps clippingRange).coveredDurationNanos = 6 by decide]
  rfl

def alternatingFrames : List CapturedFrame := (List.finRange (2 ^ 32 + 1)).map alternatingFrame

theorem captureOrder_alternatingFrames : CaptureOrder alternatingFrames where
  ordinals := by
    rw [alternatingFrames, List.pairwise_map]
    refine (List.pairwise_lt_finRange _).imp fun {i j} hlt => ?_
    have hi := i.isLt
    have hj := j.isLt
    simp only [alternatingFrame, UInt64.lt_iff_toNat_lt, UInt64.toNat_ofNat']
    omega
  times := by
    rw [alternatingFrames, List.pairwise_map]
    exact List.pairwise_of_forall fun _ _ => le_rfl

theorem VisualEpochs.length_le (h : VisualEpochs frames runs)
    (hchanges : frames.IsChain fun frame next => sameVisualEpoch frame next = false) : frames.length ≤ runs.length := by
  have hone : ∀ run ∈ runs, run.length ≤ 1 := by
    intro run hrun
    match run, hrun with
    | [], _ => exact Nat.zero_le _
    | [_], _ => exact le_rfl
    | frame :: next :: rest, hrun =>
      have hchain := hchanges.infix (h.flatten ▸ List.infix_of_mem_flatten hrun)
      rw [List.isChain_cons_cons, h.same _ hrun frame (by simp) next (by simp)] at hchain
      cases hchain.1
  rw [← h.sum_length]
  exact (List.sum_le_card_nsmul (runs.map List.length) 1 (by simpa using hone)).trans (by simp)

/-- One epoch more than the summary has numbers for is refused. -/
theorem epochs_past_the_format : CaptureOrder alternatingFrames ∧ epochSummaries alternatingFrames = .error epochCountError := by
  refine ⟨captureOrder_alternatingFrames, ?_⟩
  have hlength : alternatingFrames.length = 2 ^ 32 + 1 := by rw [alternatingFrames, List.length_map, List.length_finRange]
  have hchanges : alternatingFrames.IsChain fun frame next => sameVisualEpoch frame next = false := by
    rw [alternatingFrames, List.isChain_map, List.isChain_iff_getElem]
    intro i hi
    simp only [List.getElem_finRange, alternatingFrame, sameVisualEpoch, decide_eq_false_iff_not, not_and]
    intro himage
    split at himage <;> split at himage
    · simp_all
      omega
    · exact absurd (congrArg (·.width) himage) (by decide)
    · exact absurd (congrArg (·.width) himage) (by decide)
    · simp_all
      omega
  obtain ⟨runs, hruns, hloop⟩ := foldlM_summarizeFrame alternatingFrames captureOrder_alternatingFrames.times (by rw [hlength]; decide)
  have hmore := hruns.length_le hchanges
  rw [if_neg (by omega)] at hloop
  rw [epochSummaries, hloop]
  rfl

end Krometrail.CaptureQuality
