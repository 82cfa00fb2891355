import Krometrail.Lib.Intervals
import Krometrail.Vision.Measure
import Krometrail.Vision.Parallel

/-!
# Continuity of a sequence

Two frames are comparable where no declared gap meets the span between them.  Selection counts the gaps of the adjacent pairs
instead, and numbers the frames by the segments between them.  Both agree for every pair of frames: a gap meets a span where it
meets one of its adjacent pairs.
-/

namespace Krometrail.Vision.Continuity

open Krometrail.Vision.Measure Krometrail.Vision.Parallel Krometrail.Vision.Sweeps Results

structure TimeRange where
  start : Nat
  stop : Nat
  start_le_stop : start ≤ stop

/-- A `NormalizedSequence`, as normalization makes it. -/
structure NormalizedSequence (F : Type) where
  dimensions : PixelDimensions
  frames : List (SequenceFrame F)
  analysisMask : Option BinaryMask
  analysisPixelCount : Nat
  gapRanges : List TimeRange
  frames_ne_nil : frames ≠ []
  common : ∀ frame ∈ frames, frame.dimensions = dimensions
  ordered : frames.Pairwise fun a b => a.timestamp ≤ b.timestamp
  mask_dimensions : ∀ mask ∈ analysisMask, mask.dimensions = dimensions
  included_ne_nil : includedPoints analysisMask dimensions ≠ []
  analysisPixelCount_eq : analysisPixelCount = (includedPoints analysisMask dimensions).length

variable {F : Type}

inductive ComparisonOutcome
  | measured (vector : MeasurementVector)
  | gapBoundary (declaredGapCount : Nat)

structure FrameComparison where
  earlierFrameIndex : Nat
  laterFrameIndex : Nat
  elapsedNanos : Nat
  outcome : ComparisonOutcome

structure PairPixels (F : Type) where
  earlierFrameIndex : Nat
  laterFrameIndex : Nat
  earlier : SequenceFrame F
  later : SequenceFrame F
  gapCount : Nat

/-- The gap meets an inclusive interval of times. -/
def TimeRange.Meets (gap : TimeRange) (earlier later : Nat) : Prop := gap.start ≤ later ∧ earlier ≤ gap.stop

instance (gap : TimeRange) (earlier later : Nat) : Decidable (gap.Meets earlier later) := inferInstanceAs (Decidable (_ ∧ _))

def intersectingGapCount (gapRanges : List TimeRange) (earlier later : Nat) : Nat :=
  gapRanges.countP fun gap => decide (gap.Meets earlier later)

/-! ### Comparisons -/

section Comparisons

variable (sequence : NormalizedSequence F) (parameters : MeasurementParameters)

def pairPixels (earlierFrameIndex laterFrameIndex : Nat) : Except Fault (PairPixels F) :=
  if laterFrameIndex ≤ earlierFrameIndex then
    .error (.error ⟨.invalidParameter, "comparison indices must name two existing frames in increasing order"⟩)
  else match sequence.frames[earlierFrameIndex]?, sequence.frames[laterFrameIndex]? with
  | some earlier, some later =>
    .ok { earlierFrameIndex, laterFrameIndex, earlier, later,
          gapCount := intersectingGapCount sequence.gapRanges earlier.timestamp later.timestamp }
  | _, _ => .error (.error ⟨.invalidParameter, "comparison indices must name two existing frames in increasing order"⟩)

/-- The elapsed time of a pair. -/
def elapsed (pair : PairPixels F) : Except Fault Nat :=
  if pair.earlier.timestamp ≤ pair.later.timestamp then .ok (pair.later.timestamp - pair.earlier.timestamp)
  else .error (.error ⟨.outOfOrder, "comparison timestamps are not in nondecreasing order"⟩)

/-- No pixel is read across a gap. -/
def outcomeFromPair (pair : PairPixels F) : Except Fault ComparisonOutcome :=
  if pair.gapCount ≠ 0 then .ok (.gapBoundary pair.gapCount)
  else do
    let vector ← measurePixels pair.earlier.linearRgb16 pair.later.linearRgb16 sequence.dimensions sequence.analysisPixelCount
      sequence.analysisMask parameters
    return .measured vector

def comparisonFromPair (pair : PairPixels F) : Except Fault FrameComparison := do
  let elapsedNanos ← elapsed pair
  let outcome ← outcomeFromPair sequence parameters pair
  return { earlierFrameIndex := pair.earlierFrameIndex, laterFrameIndex := pair.laterFrameIndex, elapsedNanos, outcome }

def measurePair (earlierFrameIndex laterFrameIndex : Nat) : Except Fault FrameComparison := do
  comparisonFromPair sequence parameters (← pairPixels sequence earlierFrameIndex laterFrameIndex)

def adjacentPairs : Except Fault (List (PairPixels F)) :=
  (List.range (sequence.frames.length - 1)).mapM fun index => pairPixels sequence index (index + 1)

/-- What is made of each pair, by a number of workers; a panic of one of them is taken for its error. -/
def mapPairs {α : Type} (workers : Nat) (pairs : List (PairPixels F)) (f : PairPixels F → Except Fault α) : Except Fault (List α) :=
  (mapReduce pairs.length workers [] (fun items index => items ++ [pairs[index]?.elim (.error .outOfBounds) f]) (· ++ ·)).mapM id

def measureAdjacent (workers : Nat) : Except Fault (List FrameComparison) := do
  mapPairs workers (← adjacentPairs sequence) (comparisonFromPair sequence parameters)

/-- A comparison with the change bits of its pair. -/
def analyzePair (maskBytes : Option Nat) (pair : PairPixels F) : Except Fault (FrameComparison × Option (List UInt8)) := do
  let elapsedNanos ← elapsed pair
  let comparison (outcome : ComparisonOutcome) : FrameComparison :=
    { earlierFrameIndex := pair.earlierFrameIndex, laterFrameIndex := pair.laterFrameIndex, elapsedNanos, outcome }
  if pair.gapCount ≠ 0 then return (comparison (.gapBoundary pair.gapCount), none)
  else do
    let classifier ← PixelClassifier.new parameters
    let (vector, changeBits) ← measurePixelsWithClassifier pair.earlier.linearRgb16 pair.later.linearRgb16 sequence.dimensions
      sequence.analysisPixelCount sequence.analysisMask classifier (maskBytes.map (List.replicate · 0))
    return (comparison (.measured vector), changeBits)

/-- How many bytes of change bits each pair needs, if any are wanted. -/
def changeMaskBytes (wantChangeMasks : Bool) : Except Fault (Option Nat) :=
  if wantChangeMasks then do
    let padded ← orOverflow (checkedAdd (sequence.dimensions.width * sequence.dimensions.height) 7)
    return some (padded / 8)
  else .ok none

/-- The comparisons and the change bits of `analyze_adjacent_pairs`. -/
def analyzeAdjacentPairs (wantChangeMasks : Bool) (workers : Nat) : Except Fault (List (FrameComparison × Option (List UInt8))) := do
  let pairs ← adjacentPairs sequence
  let maskBytes ← changeMaskBytes sequence wantChangeMasks
  mapPairs workers pairs (analyzePair sequence parameters maskBytes)

end Comparisons

/-! ### Segments -/

def scoreOverflow : VisionError :=
  ⟨.resourceLimitExceeded, "storyboard selection score exceeds the supported integer representation"⟩

/-- `list[index] = value`. -/
def setAt {α : Type} (l : List α) (index : Nat) (value : α) : Except Fault (List α) :=
  if index < l.length then .ok (l.set index value) else .error .outOfBounds

structure SelectionState where
  segment : Nat
  segments : List Nat
  cumulativeChange : List Nat
  incomingChange : List Nat
  changedRegion : List Bool

/-- One comparison of the first loop of `SelectionAnalysis::new`. -/
def SelectionState.step (state : SelectionState) (comparison : FrameComparison) : Except Fault SelectionState :=
  let later := comparison.laterFrameIndex
  match comparison.outcome with
  | .gapBoundary _ => do
    let segment ← orError scoreOverflow (checkedAdd state.segment 1)
    let segments ← setAt state.segments later segment
    let cumulativeChange ← setAt state.cumulativeChange later 0
    return { state with segment, segments, cumulativeChange }
  | .measured vector => do
    let segments ← setAt state.segments later state.segment
    let incomingChange ← setAt state.incomingChange later vector.perceptualFrameDistance
    let changedRegion ← setAt state.changedRegion later vector.changedRegionBounds.isSome
    let previous ← state.cumulativeChange[later - 1]?.elim (.error .outOfBounds) .ok
    let total ← orError scoreOverflow (checkedAdd previous vector.perceptualFrameDistance)
    let cumulativeChange ← setAt state.cumulativeChange later total
    return { state with segments, incomingChange, changedRegion, cumulativeChange }

structure SelectionAnalysis where
  segments : List Nat
  cumulativeChange : List Nat
  incomingChange : List Nat
  localPeak : List Nat
  trendDelta : List Nat
  regionTransition : List Bool
  segmentCount : Nat

section Trends

variable (state : SelectionState) (index : Nat)

/-- The frames at the two indices are of one segment. -/
def sameSegment (left right : Nat) : Bool := decide (state.segments[left]? = state.segments[right]?)

/-- The frame continues the segment of the one before it. -/
def continues : Bool := decide (0 < index) && sameSegment state index (index - 1)

def incomingAt : Nat := state.incomingChange.getD index 0

def previousChange : Nat :=
  if 1 < index ∧ sameSegment state (index - 1) (index - 2) then incomingAt state (index - 1) else 0

def nextChange : Nat :=
  if index + 1 < state.segments.length ∧ sameSegment state (index + 1) index then incomingAt state (index + 1) else 0

end Trends

def SelectionAnalysis.new (adjacent : List FrameComparison) (frameCount : Nat) : Except Fault SelectionAnalysis := do
  let state ← adjacent.foldlM SelectionState.step
    { segment := 0, segments := List.replicate frameCount 0, cumulativeChange := List.replicate frameCount 0,
      incomingChange := List.replicate frameCount 0, changedRegion := List.replicate frameCount false }
  let trend {α : Type} (none : α) (value : Nat → α) : List α :=
    (List.range frameCount).map fun index => if continues state index then value index else none
  return {
    segments := state.segments
    cumulativeChange := state.cumulativeChange
    incomingChange := state.incomingChange
    localPeak := trend 0 fun index =>
      if previousChange state index ≤ incomingAt state index ∧ nextChange state index < incomingAt state index then incomingAt state index
      else 0
    trendDelta := trend 0 fun index =>
      max (absDiff (incomingAt state index) (previousChange state index)) (absDiff (incomingAt state index) (nextChange state index))
    regionTransition := trend false fun index => state.changedRegion.getD index false != state.changedRegion.getD (index - 1) false
    segmentCount := state.segment + 1 }

/-- The distance of two frames in the information gain of a fill candidate. -/
def informationDistance (analysis : SelectionAnalysis) (left right : Nat) : Option Nat :=
  if analysis.segments[left]? ≠ analysis.segments[right]? then none
  else some (absDiff (analysis.cumulativeChange.getD left 0) (analysis.cumulativeChange.getD right 0))

structure PeakMetrics where
  distance : Nat
  changed : Nat
  compared : Nat
  absolute : Nat
  reverseIndex : Nat

def PeakMetrics.fromVector (vector : MeasurementVector) (index : Nat) : PeakMetrics where
  distance := vector.perceptualFrameDistance
  changed := vector.changedPixelProportion.changed
  compared := vector.changedPixelProportion.compared
  absolute := vector.absolutePixelDifference
  reverseIndex := u64Max - index

def PeakMetrics.cmp (a b : PeakMetrics) : Ordering :=
  ((((compare a.distance b.distance).then (compare a.changed b.changed)).then
    (compare (a.changed * b.compared) (b.changed * a.compared))).then (compare a.absolute b.absolute)).then
    (compare a.reverseIndex b.reverseIndex)

/-- The best comparison with one more measured one. -/
def considerPeak (best : Option (FrameComparison × PeakMetrics)) (comparison : FrameComparison) (metrics : PeakMetrics) :
    Option (FrameComparison × PeakMetrics) :=
  if metrics.distance = 0 ∧ metrics.changed = 0 then best
  else if best.all fun current => metrics.cmp current.2 == .gt then some (comparison, metrics)
  else best

/-- The loop of `peak_baseline_comparison`. -/
def peakSearch (measure : Nat → Except Fault FrameComparison) (segments : List Nat) (segment : Option Nat) :
    List Nat → Option (FrameComparison × PeakMetrics) → Except Fault (Option FrameComparison)
  | [], best => .ok (best.map (·.1))
  | index :: rest, best =>
    if segments[index]? ≠ segment then .ok (best.map (·.1))
    else do
      let comparison ← measure index
      match comparison.outcome with
      | .gapBoundary _ => .ok (best.map (·.1))
      | .measured vector => peakSearch measure segments segment rest (considerPeak best comparison (.fromVector vector index))

def peakBaselineComparison (sequence : NormalizedSequence F) (baseline : Nat) (analysis : SelectionAnalysis)
    (parameters : MeasurementParameters) : Except Fault (Option FrameComparison) :=
  peakSearch (measurePair sequence parameters baseline) analysis.segments analysis.segments[baseline]?
    (List.range' (baseline + 1) (sequence.frames.length - (baseline + 1))) none

/-- A visual moment of the manifest at the later frame of a comparison crosses a gap; none where it starts before all time. -/
def momentCrossesGaps (gapRanges : List TimeRange) (comparison : FrameComparison) (timestamp : Nat) : Option Bool :=
  if comparison.elapsedNanos ≤ timestamp then some (gapRanges.any fun gap => decide (gap.Meets (timestamp - comparison.elapsedNanos) timestamp))
  else none

/-! ### Boundaries -/

/-- The pair is not measured. -/
def FrameComparison.IsGapBoundary (comparison : FrameComparison) : Prop := ∃ count, comparison.outcome = .gapBoundary count

section Boundaries

variable (sequence : NormalizedSequence F)

def timestampAt (index : Nat) : Nat := sequence.frames[index]?.elim 0 (·.timestamp)

/-- A declared gap meets the span between two frames. -/
def Apart (i j : Nat) : Prop := ∃ gap ∈ sequence.gapRanges, gap.Meets (timestampAt sequence i) (timestampAt sequence j)

instance (i j : Nat) : Decidable (Apart sequence i j) := inferInstanceAs (Decidable (∃ gap ∈ _, _))

/-- How many pairs of neighbours before a frame have a gap. -/
def boundariesBefore (index : Nat) : Nat := (List.range index).countP fun k => decide (Apart sequence k (k + 1))

variable {sequence}

theorem timestampAt_eq {index : Nat} {frame : SequenceFrame F} (h : sequence.frames[index]? = some frame) :
    timestampAt sequence index = frame.timestamp := by
  rw [timestampAt, h]
  rfl

theorem timestampAt_le {i j : Nat} (hij : i ≤ j) (hj : j < sequence.frames.length) :
    timestampAt sequence i ≤ timestampAt sequence j := by
  rw [timestampAt_eq (List.getElem?_eq_getElem (hij.trans_lt hj)), timestampAt_eq (List.getElem?_eq_getElem hj)]
  obtain rfl | hlt := hij.eq_or_lt
  · exact le_rfl
  · exact List.pairwise_iff_getElem.1 sequence.ordered i j (hij.trans_lt hj) hj hlt

theorem intersectingGapCount_ne_zero {gapRanges : List TimeRange} {earlier later : Nat} :
    intersectingGapCount gapRanges earlier later ≠ 0 ↔ ∃ gap ∈ gapRanges, gap.Meets earlier later := by
  rw [intersectingGapCount, ← Nat.pos_iff_ne_zero, List.countP_pos_iff]
  simp only [decide_eq_true_iff]

theorem apart_iff_step {i j : Nat} (hij : i < j) (hj : j < sequence.frames.length) :
    Apart sequence i j ↔ ∃ k, (i ≤ k ∧ k < j) ∧ Apart sequence k (k + 1) := by
  have hgap (gap : TimeRange) : gap.Meets (timestampAt sequence i) (timestampAt sequence j) ↔
      ∃ k, (i ≤ k ∧ k < j) ∧ gap.Meets (timestampAt sequence k) (timestampAt sequence (k + 1)) :=
    Intervals.meets_iff_step gap.start_le_stop hij fun k l hkl hl => timestampAt_le hkl (hl.trans_lt hj)
  constructor
  · rintro ⟨gap, hmem, hmeets⟩
    obtain ⟨k, hk, hstep⟩ := (hgap gap).1 hmeets
    exact ⟨k, hk, gap, hmem, hstep⟩
  · rintro ⟨k, hk, gap, hmem, hstep⟩
    exact ⟨gap, hmem, (hgap gap).2 ⟨k, hk, hstep⟩⟩

theorem boundariesBefore_succ (index : Nat) :
    boundariesBefore sequence (index + 1) = boundariesBefore sequence index + if Apart sequence index (index + 1) then 1 else 0 := by
  unfold boundariesBefore
  rw [List.range_succ, List.countP_append, List.countP_singleton]
  simp only [decide_eq_true_eq]

theorem boundariesBefore_ne_iff {i j : Nat} (hij : i < j) (hj : j < sequence.frames.length) :
    boundariesBefore sequence i ≠ boundariesBefore sequence j ↔ Apart sequence i j := by
  have hsplit : List.range j = List.range i ++ List.range' i (j - i) := by
    rw [List.range_eq_range', List.range_eq_range', ← Nat.sub_zero j, ← Chunks.range'_append_range' (Nat.zero_le i) hij.le]
    simp
  unfold boundariesBefore
  rw [apart_iff_step hij hj, hsplit, List.countP_append, ne_eq, left_eq_add, ← ne_eq, ← Nat.pos_iff_ne_zero, List.countP_pos_iff]
  simp only [List.mem_range'_1, decide_eq_true_eq]
  refine exists_congr fun k => and_congr_left fun _ => ⟨fun h => ⟨h.1, by omega⟩, fun h => ⟨h.1, by omega⟩⟩

end Boundaries

/-! ### Pairs -/

section Pairs

variable {sequence : NormalizedSequence F} {parameters : MeasurementParameters} {i j : Nat}

/-- What `pairPixels` makes of two indices. -/
structure PairOf (sequence : NormalizedSequence F) (i j : Nat) (pair : PairPixels F) : Prop where
  lt : i < j
  earlierFrameIndex_eq : pair.earlierFrameIndex = i
  laterFrameIndex_eq : pair.laterFrameIndex = j
  earlier_eq : sequence.frames[i]? = some pair.earlier
  later_eq : sequence.frames[j]? = some pair.later
  gapCount_ne_zero : pair.gapCount ≠ 0 ↔ Apart sequence i j

variable {pair : PairPixels F}

theorem pairPixels_eq_ok (h : pairPixels sequence i j = .ok pair) : PairOf sequence i j pair := by
  unfold pairPixels at h
  split at h
  · exact absurd h (by simp)
  next hlt =>
    split at h
    next earlier later hearlier hlater =>
      cases h
      refine ⟨not_le.1 hlt, rfl, rfl, hearlier, hlater, ?_⟩
      rw [intersectingGapCount_ne_zero, Apart, timestampAt_eq hearlier, timestampAt_eq hlater]
    · exact absurd h (by simp)

theorem PairOf.dimensions_eq {i j : Nat} (h : PairOf sequence i j pair) :
    pair.earlier.dimensions = sequence.dimensions ∧ pair.later.dimensions = sequence.dimensions :=
  ⟨sequence.common _ (List.mem_of_getElem? h.earlier_eq), sequence.common _ (List.mem_of_getElem? h.later_eq)⟩

theorem pairPixels_total (hij : i < j) (hj : j < sequence.frames.length) : ∃ pair, pairPixels sequence i j = .ok pair := by
  unfold pairPixels
  rw [if_neg (not_le.2 hij), List.getElem?_eq_getElem (hij.trans hj), List.getElem?_eq_getElem hj]
  exact ⟨_, rfl⟩

theorem PairOf.elapsed_eq (h : PairOf sequence i j pair) :
    elapsed pair = .ok (timestampAt sequence j - timestampAt sequence i) := by
  obtain ⟨hj, -⟩ := List.getElem?_eq_some_iff.1 h.later_eq
  have hle := timestampAt_le h.lt.le hj
  rw [timestampAt_eq h.earlier_eq, timestampAt_eq h.later_eq] at hle ⊢
  exact if_pos hle

/-- What is made of a pair by either of the two loops. -/
structure ComparisonOf (sequence : NormalizedSequence F) (i j : Nat) (comparison : FrameComparison) : Prop where
  laterFrameIndex_eq : comparison.laterFrameIndex = j
  elapsedNanos_eq : comparison.elapsedNanos = timestampAt sequence j - timestampAt sequence i
  isGapBoundary_iff : comparison.IsGapBoundary ↔ Apart sequence i j

/-- The comparisons of all pairs of neighbours, in order. -/
def AdjacentComparisons (sequence : NormalizedSequence F) (adjacent : List FrameComparison) : Prop :=
  List.Forall₂ (fun k comparison => ComparisonOf sequence k (k + 1) comparison) (List.range (sequence.frames.length - 1)) adjacent

theorem PairOf.gapBoundary (h : PairOf sequence i j pair) (hgap : pair.gapCount ≠ 0) :
    ComparisonOf sequence i j ⟨pair.earlierFrameIndex, pair.laterFrameIndex, timestampAt sequence j - timestampAt sequence i,
      .gapBoundary pair.gapCount⟩ :=
  ⟨h.laterFrameIndex_eq, rfl, iff_of_true ⟨_, rfl⟩ (h.gapCount_ne_zero.1 hgap)⟩

theorem PairOf.measured (h : PairOf sequence i j pair) (hgap : ¬ pair.gapCount ≠ 0) (vector : MeasurementVector) :
    ComparisonOf sequence i j ⟨pair.earlierFrameIndex, pair.laterFrameIndex, timestampAt sequence j - timestampAt sequence i,
      .measured vector⟩ :=
  ⟨h.laterFrameIndex_eq, rfl, iff_of_false (fun ⟨_, hcount⟩ => nomatch hcount) fun hapart => hgap (h.gapCount_ne_zero.2 hapart)⟩

theorem comparisonFromPair_eq_ok {comparison : FrameComparison} (hpair : PairOf sequence i j pair)
    (h : comparisonFromPair sequence parameters pair = .ok comparison) : ComparisonOf sequence i j comparison := by
  unfold comparisonFromPair at h
  rw [hpair.elapsed_eq, ok_bind, bind_eq_ok] at h
  obtain ⟨outcome, houtcome, hcomparison⟩ := h
  cases hcomparison
  unfold outcomeFromPair at houtcome
  split at houtcome
  next hgap =>
    cases houtcome
    exact hpair.gapBoundary hgap
  next hgap =>
    obtain ⟨vector, -, hvector⟩ := bind_eq_ok.1 houtcome
    cases hvector
    exact hpair.measured hgap vector

theorem analyzePair_eq_ok {maskBytes : Option Nat} {item : FrameComparison × Option (List UInt8)}
    (hpair : PairOf sequence i j pair) (h : analyzePair sequence parameters maskBytes pair = .ok item) :
    ComparisonOf sequence i j item.1 := by
  unfold analyzePair at h
  rw [hpair.elapsed_eq, ok_bind] at h
  dsimp only at h
  split at h
  next hgap =>
    cases h
    exact hpair.gapBoundary hgap
  next hgap =>
    simp only [bind_eq_ok] at h
    obtain ⟨classifier, -, ⟨vector, changeBits⟩, -, hitem⟩ := h
    cases hitem
    exact hpair.measured hgap vector

theorem measurePair_eq_ok {comparison : FrameComparison} (h : measurePair sequence parameters i j = .ok comparison) :
    ComparisonOf sequence i j comparison := by
  obtain ⟨pair, hpair, hcomparison⟩ := bind_eq_ok.1 h
  exact comparisonFromPair_eq_ok (pairPixels_eq_ok hpair) hcomparison

theorem measurePair_of_apart (hij : i < j) (hj : j < sequence.frames.length) (hapart : Apart sequence i j) :
    ∃ comparison, measurePair sequence parameters i j = .ok comparison := by
  obtain ⟨pair, hpair⟩ := pairPixels_total hij hj
  have hof := pairPixels_eq_ok hpair
  rw [measurePair, hpair, ok_bind, comparisonFromPair, hof.elapsed_eq, ok_bind, outcomeFromPair,
    if_pos (hof.gapCount_ne_zero.2 hapart)]
  exact ⟨_, rfl⟩

theorem measurePair_gapBoundary (hij : i < j) (hj : j < sequence.frames.length) :
    (∃ comparison, measurePair sequence parameters i j = .ok comparison ∧ comparison.IsGapBoundary) ↔ Apart sequence i j := by
  constructor
  · rintro ⟨comparison, hcomparison, hgap⟩
    exact (measurePair_eq_ok hcomparison).isGapBoundary_iff.1 hgap
  · intro hapart
    obtain ⟨comparison, hcomparison⟩ := measurePair_of_apart hij hj hapart
    exact ⟨comparison, hcomparison, (measurePair_eq_ok hcomparison).isGapBoundary_iff.2 hapart⟩

end Pairs

section Neighbours

variable {sequence : NormalizedSequence F} {α : Type}

theorem mapPairs_eq (workers : Nat) (pairs : List (PairPixels F)) (f : PairPixels F → Except Fault α) :
    mapPairs workers pairs f = pairs.mapM f := by
  have hindexed : (List.range' 0 pairs.length).map (fun index => pairs[index]?.elim (.error .outOfBounds) f) = pairs.map f := by
    refine List.ext_getElem (by simp) fun k hk _ => ?_
    have hlt : k < pairs.length := by simpa using hk
    simp [List.getElem?_eq_getElem hlt]
  rw [mapPairs, mapReduce_eq workers (Chunks.merges_push _ _), Chunks.foldRange_push, Nat.sub_zero, hindexed, List.mapM_map]
  rfl

theorem adjacentComparisons_of {pairs : List (PairPixels F)} {f : PairPixels F → Except Fault α} {items : List α}
    {comparisonOf : α → FrameComparison} (hpairs : adjacentPairs sequence = .ok pairs) (hitems : pairs.mapM f = .ok items)
    (hf : ∀ i j pair item, PairOf sequence i j pair → f pair = .ok item → ComparisonOf sequence i j (comparisonOf item)) :
    AdjacentComparisons sequence (items.map comparisonOf) := by
  refine List.forall₂_map_right_iff.2 ((mapM_mapM_eq_ok hpairs hitems).imp ?_)
  rintro k item ⟨pair, hpair, hitem⟩
  exact hf k (k + 1) pair item (pairPixels_eq_ok hpair) hitem

theorem measureAdjacent_eq_ok {parameters : MeasurementParameters} {workers : Nat} {adjacent : List FrameComparison}
    (h : measureAdjacent sequence parameters workers = .ok adjacent) : AdjacentComparisons sequence adjacent := by
  obtain ⟨pairs, hpairs, hadjacent⟩ := bind_eq_ok.1 h
  rw [mapPairs_eq] at hadjacent
  have hcomparisons : AdjacentComparisons sequence (adjacent.map id) :=
    adjacentComparisons_of hpairs hadjacent fun i j pair comparison hpair => comparisonFromPair_eq_ok hpair
  rwa [List.map_id] at hcomparisons

theorem analyzeAdjacentPairs_eq_ok {parameters : MeasurementParameters} {wantChangeMasks : Bool} {workers : Nat}
    {items : List (FrameComparison × Option (List UInt8))}
    (h : analyzeAdjacentPairs sequence parameters wantChangeMasks workers = .ok items) :
    AdjacentComparisons sequence (items.map Prod.fst) := by
  obtain ⟨pairs, hpairs, hrest⟩ := bind_eq_ok.1 h
  obtain ⟨maskBytes, -, hitems⟩ := bind_eq_ok.1 hrest
  rw [mapPairs_eq] at hitems
  exact adjacentComparisons_of hpairs hitems fun i j pair item hpair => analyzePair_eq_ok hpair

end Neighbours

section Numbering

variable {sequence : NormalizedSequence F}

theorem setAt_eq_ok {α : Type} {l l' : List α} {index : Nat} {value : α} (h : setAt l index value = .ok l') :
    index < l.length ∧ l' = l.set index value := by
  unfold setAt at h
  split at h
  next hlt => exact ⟨hlt, (Except.ok.inj h).symm⟩
  · exact absurd h (by simp)

theorem step_eq_ok {state state' : SelectionState} {comparison : FrameComparison} {i j : Nat}
    (hcomparison : ComparisonOf sequence i j comparison) (h : state.step comparison = .ok state') :
    j < state.segments.length ∧ state'.segments = state.segments.set j state'.segment ∧
      state'.segment = state.segment + if Apart sequence i j then 1 else 0 := by
  obtain ⟨earlier, later, elapsedNanos, outcome⟩ := comparison
  obtain ⟨rfl, -, hgap⟩ := hcomparison
  cases outcome with
  | gapBoundary count =>
    simp only [SelectionState.step, bind_eq_ok] at h
    obtain ⟨segment, hsegment, segments, hsegments, cumulativeChange, -, hstate⟩ := h
    cases hstate
    obtain ⟨hlt, rfl⟩ := setAt_eq_ok hsegments
    obtain ⟨-, rfl⟩ := checkedAdd_eq_some.1 (orError_eq_ok hsegment)
    exact ⟨hlt, rfl, by rw [if_pos (hgap.1 ⟨count, rfl⟩)]⟩
  | measured vector =>
    simp only [SelectionState.step, bind_eq_ok] at h
    obtain ⟨segments, hsegments, incomingChange, -, changedRegion, -, previous, -, total, -, cumulativeChange, -, hstate⟩ := h
    cases hstate
    obtain ⟨hlt, rfl⟩ := setAt_eq_ok hsegments
    have hno : ¬ Apart sequence i later := fun hapart => by
      obtain ⟨count, hcount⟩ := hgap.2 hapart
      exact absurd hcount (by simp)
    exact ⟨hlt, rfl, by rw [if_neg hno, Nat.add_zero]⟩

/-- The frames up to an index are numbered by the boundaries before them. -/
structure Numbered (sequence : NormalizedSequence F) (index : Nat) (state : SelectionState) : Prop where
  length_eq : state.segments.length = sequence.frames.length
  segment_eq : state.segment = boundariesBefore sequence index
  segments_eq : ∀ k ≤ index, k < sequence.frames.length → state.segments[k]? = some (boundariesBefore sequence k)

theorem Numbered.step {index : Nat} {state state' : SelectionState} {comparison : FrameComparison} (h : Numbered sequence index state)
    (hcomparison : ComparisonOf sequence index (index + 1) comparison) (hrun : state.step comparison = .ok state') :
    Numbered sequence (index + 1) state' := by
  obtain ⟨hlt, hsegments, hsegment⟩ := step_eq_ok hcomparison hrun
  have hcount : state'.segment = boundariesBefore sequence (index + 1) := by
    rw [hsegment, h.segment_eq, boundariesBefore_succ]
  refine ⟨by rw [hsegments, List.length_set, h.length_eq], hcount, fun k hk hframes => ?_⟩
  rw [hsegments]
  obtain rfl | hne := eq_or_ne k (index + 1)
  · rw [List.getElem?_set_self hlt, hcount]
  · rw [List.getElem?_set_ne hne.symm]
    exact h.segments_eq k (by omega) hframes

/-- `SelectionAnalysis::new` numbers every frame by the boundaries before it. -/
theorem segments_eq {adjacent : List FrameComparison} {analysis : SelectionAnalysis} (hadjacent : AdjacentComparisons sequence adjacent)
    (h : SelectionAnalysis.new adjacent sequence.frames.length = .ok analysis) {k : Nat} (hk : k < sequence.frames.length) :
    analysis.segments[k]? = some (boundariesBefore sequence k) := by
  obtain ⟨state, hstate, hanalysis⟩ := bind_eq_ok.1 h
  cases hanalysis
  have hnumbered : Numbered sequence adjacent.length state := by
    refine foldlM_prefix (P := fun done state => Numbered sequence done.length state) ?_ ?_ hstate
    · rintro done comparison rest state state' rfl hdone hrun
      have hcomparison := hadjacent.get (i := done.length) (by rw [hadjacent.length_eq]; simp) (by simp)
      simp only [List.get_eq_getElem, List.getElem_range, List.getElem_append_right le_rfl, Nat.sub_self, List.getElem_cons_zero] at hcomparison
      rw [List.length_append, List.length_singleton]
      exact hdone.step hcomparison hrun
    · refine ⟨List.length_replicate, rfl, fun k hk hframes => ?_⟩
      obtain rfl : k = 0 := Nat.le_zero.1 hk
      rw [List.getElem?_replicate, if_pos hframes]
      rfl
  have hlength : adjacent.length = sequence.frames.length - 1 := by rw [← hadjacent.length_eq, List.length_range]
  exact hnumbered.segments_eq k (by omega) hk

theorem segments_ne_iff {adjacent : List FrameComparison} {analysis : SelectionAnalysis}
    (hadjacent : AdjacentComparisons sequence adjacent) (h : SelectionAnalysis.new adjacent sequence.frames.length = .ok analysis)
    {i j : Nat} (hij : i < j) (hj : j < sequence.frames.length) :
    analysis.segments[i]? ≠ analysis.segments[j]? ↔ Apart sequence i j := by
  rw [segments_eq hadjacent h (hij.trans hj), segments_eq hadjacent h hj, ← boundariesBefore_ne_iff hij hj, ne_eq, ne_eq,
    Option.some_inj]

end Numbering

section Tests

variable {sequence : NormalizedSequence F} {parameters : MeasurementParameters}

theorem peakSearch_segments {measure : Nat → Except Fault FrameComparison} {segments : List Nat} {segment : Option Nat} {l : List Nat}
    (hagree : ∀ index ∈ l, segments[index]? ≠ segment → ∃ comparison, measure index = .ok comparison ∧ comparison.IsGapBoundary)
    (best : Option (FrameComparison × PeakMetrics)) :
    peakSearch measure segments segment l best = peakSearch measure [] none l best := by
  induction l generalizing best with
  | nil => rfl
  | cons index rest ih =>
    have hrest := ih fun index hindex => hagree index (List.mem_cons_of_mem _ hindex)
    unfold peakSearch
    rw [if_neg (show ¬ ([] : List Nat)[index]? ≠ none by simp)]
    by_cases hsegment : segments[index]? ≠ segment
    · obtain ⟨comparison, hcomparison, count, hcount⟩ := hagree index List.mem_cons_self hsegment
      rw [if_pos hsegment, hcomparison, ok_bind, hcount]
    · rw [if_neg hsegment]
      refine bind_congr_ok fun comparison _ => ?_
      cases comparison.outcome with
      | gapBoundary count => rfl
      | measured vector => exact hrest _

theorem momentCrossesGaps_eq {comparison : FrameComparison} {i j : Nat} (hcomparison : ComparisonOf sequence i j comparison)
    (hij : i ≤ j) (hj : j < sequence.frames.length) :
    momentCrossesGaps sequence.gapRanges comparison (timestampAt sequence j) = some (decide (Apart sequence i j)) := by
  have hle := timestampAt_le hij hj
  have hearlier : timestampAt sequence j - (timestampAt sequence j - timestampAt sequence i) = timestampAt sequence i := by omega
  rw [momentCrossesGaps, hcomparison.elapsedNanos_eq, if_pos (Nat.sub_le _ _), hearlier, Option.some_inj, Bool.eq_iff_iff,
    List.any_eq_true, decide_eq_true_iff]
  simp only [decide_eq_true_iff]
  rfl

theorem informationDistance_eq_none {analysis : SelectionAnalysis} {left right : Nat} :
    informationDistance analysis left right = none ↔ analysis.segments[left]? ≠ analysis.segments[right]? := by
  unfold informationDistance
  split
  next h => exact iff_of_true rfl h
  next h => exact iff_of_false (by simp) h

/-- Two frames are a gap boundary exactly where the selection numbers them differently, as the scores of the fill candidates and the
manifest find; and the peak search is what it is without the numbers. -/
theorem segments_agree_with_gaps {adjacent : List FrameComparison} {analysis : SelectionAnalysis}
    (hadjacent : (∃ measured workers, measureAdjacent sequence measured workers = .ok adjacent) ∨
      ∃ measured wantChangeMasks workers items,
        analyzeAdjacentPairs sequence measured wantChangeMasks workers = .ok items ∧ items.map Prod.fst = adjacent)
    (hanalysis : SelectionAnalysis.new adjacent sequence.frames.length = .ok analysis) {i j : Nat} (hij : i < j)
    (hj : j < sequence.frames.length) :
    ((∃ comparison, measurePair sequence parameters i j = .ok comparison ∧ comparison.IsGapBoundary) ↔
      analysis.segments[i]? ≠ analysis.segments[j]?) ∧
    (informationDistance analysis i j = none ↔ analysis.segments[i]? ≠ analysis.segments[j]?) ∧
    (informationDistance analysis j i = none ↔ analysis.segments[i]? ≠ analysis.segments[j]?) ∧
    (∀ comparison, measurePair sequence parameters i j = .ok comparison →
      momentCrossesGaps sequence.gapRanges comparison (timestampAt sequence j) =
        some (decide (analysis.segments[i]? ≠ analysis.segments[j]?))) ∧
    peakBaselineComparison sequence i analysis parameters =
      peakSearch (measurePair sequence parameters i) [] none (List.range' (i + 1) (sequence.frames.length - (i + 1))) none := by
  have hcomparisons : AdjacentComparisons sequence adjacent := by
    obtain ⟨measured, workers, hrun⟩ | ⟨measured, wantChangeMasks, workers, items, hrun, rfl⟩ := hadjacent
    · exact measureAdjacent_eq_ok hrun
    · exact analyzeAdjacentPairs_eq_ok hrun
  have hsegments {k : Nat} (hik : i < k) (hk : k < sequence.frames.length) :
      analysis.segments[i]? ≠ analysis.segments[k]? ↔ Apart sequence i k := segments_ne_iff hcomparisons hanalysis hik hk
  refine ⟨(measurePair_gapBoundary hij hj).trans (hsegments hij hj).symm, informationDistance_eq_none,
    informationDistance_eq_none.trans ne_comm, fun comparison hcomparison => ?_, peakSearch_segments (fun index hindex hne => ?_) none⟩
  · rw [momentCrossesGaps_eq (measurePair_eq_ok hcomparison) hij.le hj]
    simp only [hsegments hij hj]
  · obtain ⟨hlow, hhigh⟩ := List.mem_range'_1.1 hindex
    have hik : i < index := hlow
    have hlast : index < sequence.frames.length := by omega
    exact (measurePair_gapBoundary hik hlast).2 ((hsegments hik hlast).1 hne.symm)

end Tests

/-- Two frames at one time, after a gap behind the first. -/
def paused : NormalizedSequence Unit where
  dimensions := Measure.line
  frames := [grayLine 0 (by decide), { grayLine 0 (by decide) with timestamp := 5, timestamp_le := by decide },
    { grayLine 600 (by decide) with timestamp := 5, timestamp_le := by decide }]
  analysisMask := none
  analysisPixelCount := 3
  gapRanges := [⟨2, 3, by decide⟩]
  frames_ne_nil := List.cons_ne_nil _ _
  common := by simp [grayLine]
  ordered := by simp [grayLine]
  mask_dimensions := by simp
  included_ne_nil := by decide
  analysisPixelCount_eq := rfl

theorem segments_agree_with_gaps_paused : ∃ adjacent analysis, measureAdjacent paused defaultParameters 2 = .ok adjacent ∧
    SelectionAnalysis.new adjacent 3 = .ok analysis ∧
    ((∃ comparison, measurePair paused defaultParameters 0 2 = .ok comparison ∧ comparison.IsGapBoundary) ↔
      analysis.segments[0]? ≠ analysis.segments[2]?) :=
  ⟨_, _, rfl, rfl, (@segments_agree_with_gaps _ paused _ _ _ (.inl ⟨defaultParameters, 2, rfl⟩) rfl _ _ (by decide) (by decide)).1⟩

end Krometrail.Vision.Continuity
