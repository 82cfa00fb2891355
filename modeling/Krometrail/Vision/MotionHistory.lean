import Krometrail.Vision.DifferenceMap

/-!
# Motion histories

The measured pairs between two gaps are a segment.  Within a segment each changed pixel gains the weight of the pair's recency,
saturating, and is marked as changed; the segments are joined by the greatest weight.  The pairs of a segment are split between
workers, which makes what one worker makes.
-/

namespace Krometrail.Vision.MotionHistory

open Accumulators Krometrail.Vision.Measure Krometrail.Vision.Parallel Krometrail.Vision.Sweeps PackedBits Results
  Krometrail.Vision.Continuity Krometrail.Vision.DifferenceMap

variable {F : Type}

/-! ### Accumulation -/

def motionLimitError : VisionError :=
  ⟨.resourceLimitExceeded, "motion-history processing exceeds configured integer or memory limits"⟩

structure MotionDecay where
  peakIntensity : Nat
  halfLifeRanks : Nat
  peakIntensity_le : peakIntensity ≤ 65535
  halfLifeRanks_pos : 0 < halfLifeRanks
  halfLifeRanks_le : halfLifeRanks ≤ 255

def MotionDecay.weightAt (decay : MotionDecay) (rankFromNewest : Nat) : Nat :=
  let shift := rankFromNewest / decay.halfLifeRanks
  if 16 ≤ shift then 0 else decay.peakIntensity >>> shift

def MotionDecay.liveWindow (decay : MotionDecay) : Nat := 16 * decay.halfLifeRanks

/-- `u16::saturating_add`. -/
def saturatingAdd16 (a b : Nat) : Nat := min (a + b) 65535

/-- The local accumulation of a worker, and the bits of the pixels it has seen change. -/
structure MotionSums where
  accumulation : List Nat
  everChanged : List UInt8

/-- `set_bit`. -/
def setBitAt (bits : List UInt8) (index : Nat) : Except Fault (List UInt8) :=
  if index / 8 < bits.length then .ok (setBit bits index) else .error .outOfBounds

def addWeight (weight value : Nat) : Nat := if weight ≠ 0 then saturatingAdd16 value weight else value

/-- A changed pixel. -/
def MotionSums.mark (weight : Nat) (state : MotionSums) (pixel : Nat) : Except Fault MotionSums := do
  let everChanged ← setBitAt state.everChanged pixel
  let accumulation ← updateAt .outOfBounds state.accumulation pixel fun value => .ok (addWeight weight value)
  return { accumulation, everChanged }

/-- The loop body of `accumulate_segment`, for an included pixel. -/
def markPixel (classifier : PixelClassifier) (width weight : Nat) (state : MotionSums) (x y : Nat) (changedByMask : Option Bool)
    (before after : Rgb16) : Except Fault MotionSums :=
  match changedSquare classifier changedByMask before after with
  | none => .ok state
  | some _ => state.mark weight (y * width + x)

/-- A row whose place overflows ends the turn; none does where the bytes of a frame are addressable. -/
def untilOverflow {σ : Type} (state : σ) : Except Fault σ → Except Fault σ
  | .error (.error _) => .ok state
  | result => result

section Segments

variable (normalized : NormalizedSequence F)

/-- The turn of a worker at a pair. -/
def foldMotion (decay : MotionDecay) (classifier : PixelClassifier) (changeBits : Nat → Option (List UInt8))
    (pairs : List (PairPixels F)) (state : Except Fault MotionSums) (offset : Nat) : Except Fault MotionSums := do
  let sums ← state
  let rank := pairs.length - 1 - offset
  if u32Max < rank then .ok sums
  else do
    let pair ← pairAt pairs offset
    untilOverflow sums (sweepPixels motionLimitError (markPixel classifier normalized.dimensions.width (decay.weightAt rank))
      normalized.dimensions pair.earlier.linearRgb16 pair.later.linearRgb16 normalized.analysisMask (changeBits offset) sums)

def MotionSums.merge (left right : MotionSums) : MotionSums where
  accumulation := List.zipWith saturatingAdd16 left.accumulation right.accumulation
  everChanged := union left.everChanged right.everChanged

/-- The panic of a worker is that of the whole. -/
def mergeMotion (left right : Except Fault MotionSums) : Except Fault MotionSums := do
  let left ← left
  let right ← right
  return left.merge right

/-- The parameters that the plan depends on. -/
structure MotionHistoryParameters where
  referenceFrameIndex : Nat
  measurement : MeasurementParameters
  decay : MotionDecay
  maxCanvasBytes : Nat

variable (parameters : MotionHistoryParameters) (shared : Option (SharedAdjacentAnalysis F normalized.dimensions)) (workers : Nat)

/-- The composite with one more segment, `comparisons`, which begins at `comparisonStart`. -/
def accumulateSegment (comparisons : List FrameComparison) (comparisonStart : Nat) (composite : MotionSums) : Except Fault MotionSums := do
  let pairs ← comparisons.mapM fun comparison => pairPixels normalized comparison.earlierFrameIndex comparison.laterFrameIndex
  let classifier ← (PixelClassifier.new parameters.measurement).mapError fun _ => .error motionLimitError
  let changeBits (offset : Nat) := shared.bind (·.changeMaskForPair (comparisonStart + offset))
  let segment ← mapReduce pairs.length workers
    (.ok { accumulation := List.replicate (normalized.dimensions.height * normalized.dimensions.width) 0
           everChanged := List.replicate composite.everChanged.length 0 })
    (foldMotion normalized parameters.decay classifier changeBits pairs) mergeMotion
  return { accumulation := List.zipWith max composite.accumulation segment.accumulation
           everChanged := union composite.everChanged segment.everChanged }

def segmentRank (pairCount : Nat) : Except Fault Nat :=
  orError motionLimitError (if pairCount - 1 ≤ u32Max then some (pairCount - 1) else none)

structure PlanState where
  composite : MotionSums
  continuitySegmentCount : Nat
  maxSegmentRank : Nat
  segmentStart : Option Nat

/-- The end of a segment before `stop`. -/
def closeSegment (comparisons : List FrameComparison) (state : PlanState) (start stop : Nat) : Except Fault PlanState := do
  let composite ← accumulateSegment normalized parameters shared workers ((comparisons.take stop).drop start) start state.composite
  let continuitySegmentCount ← orError motionLimitError (checkedAdd state.continuitySegmentCount 1)
  let rank ← segmentRank (stop - start)
  return { composite, continuitySegmentCount, maxSegmentRank := max state.maxSegmentRank rank, segmentStart := none }

/-- The loop body of `build_motion_history_plan_with_analysis`. -/
def planStep (comparisons : List FrameComparison) (state : PlanState) (item : FrameComparison × Nat) : Except Fault PlanState :=
  match item.1.outcome with
  | .measured _ => .ok { state with segmentStart := some (state.segmentStart.getD item.2) }
  | .gapBoundary _ =>
    match state.segmentStart with
    | none => .ok state
    | some start => closeSegment normalized parameters shared workers comparisons state start item.2

end Segments

/-- The pixel has changed and is at the edge of the frame, or next to one that has not changed. -/
def isOutline (everChanged : List UInt8) (dimensions : PixelDimensions) (pixel : Nat) : Bool :=
  let x := pixel % dimensions.width
  let y := pixel / dimensions.width
  bit everChanged pixel &&
    (decide (x = 0) || decide (y = 0) || decide (x + 1 = dimensions.width) || decide (y + 1 = dimensions.height) ||
      !bit everChanged (pixel - 1) || !bit everChanged (pixel + 1) || !bit everChanged (pixel - dimensions.width) ||
      !bit everChanged (pixel + dimensions.width))

def buildOutline (everChanged : List UInt8) (dimensions : PixelDimensions) : List UInt8 :=
  (List.range (dimensions.height * dimensions.width)).foldl
    (fun outline pixel => if isOutline everChanged dimensions pixel then setBit outline pixel else outline)
    (List.replicate everChanged.length 0)

def countOnes (byte : UInt8) : Nat := (List.range 8).countP fun index => byte &&& maskOf index != 0

def planWorkingBytes (pixelCount : Nat) : Except Fault Nat := do
  let padded ← orError motionLimitError (checkedAdd pixelCount 7)
  let one ← orError motionLimitError (checkedMul pixelCount 2)
  let both ← orError motionLimitError (checkedMul one 2)
  let masks ← orError motionLimitError (checkedMul (padded / 8) 2)
  orError motionLimitError (checkedAdd both masks)

/-- A `MotionHistoryPlan`, with the bits of its masks. -/
structure MotionHistoryPlan (F : Type) where
  accumulation : List Nat
  everChanged : List UInt8
  outline : List UInt8
  dimensions : PixelDimensions
  referenceFrameIndex : Nat
  referenceFrameId : F
  continuitySegmentCount : Nat
  liveWindow : Nat
  measuredPairCount : Nat
  gapPairCount : Nat
  changedPixelCount : Nat
  maxSegmentRank : Nat

def FrameComparison.isMeasured (comparison : FrameComparison) : Bool :=
  match comparison.outcome with
  | .measured _ => true
  | .gapBoundary _ => false

/-- `build_motion_history_plan_with_analysis` of aligned sequences, by a number of workers. -/
def buildMotionHistoryPlan [DecidableEq F] (normalized : NormalizedSequence F) (parameters : MotionHistoryParameters)
    (shared : Option (SharedAdjacentAnalysis F normalized.dimensions)) (workers : Nat) : Except Fault (MotionHistoryPlan F) := do
  let pixelCount := normalized.dimensions.height * normalized.dimensions.width
  let workingBytes ← planWorkingBytes pixelCount
  if parameters.maxCanvasBytes < workingBytes then .error (.error motionLimitError)
  else do
    let shared := shared.filter (·.isCompatibleWith normalized parameters.measurement)
    let comparisons ← shared.elim (measureAdjacent normalized parameters.measurement workers) fun analysis => .ok analysis.comparisons
    let measuredPairCount := comparisons.countP FrameComparison.isMeasured
    let padded ← orError motionLimitError (checkedAdd pixelCount 7)
    let state ← comparisons.zipIdx.foldlM (planStep normalized parameters shared workers comparisons)
      { composite := { accumulation := List.replicate pixelCount 0, everChanged := List.replicate (padded / 8) 0 }
        continuitySegmentCount := 0, maxSegmentRank := 0, segmentStart := none }
    let state ← state.segmentStart.elim (.ok state) fun start =>
      closeSegment normalized parameters shared workers comparisons state start comparisons.length
    let reference ← normalized.frames[parameters.referenceFrameIndex]?.elim (.error .outOfBounds) .ok
    return {
      accumulation := state.composite.accumulation
      everChanged := state.composite.everChanged
      outline := buildOutline state.composite.everChanged normalized.dimensions
      dimensions := normalized.dimensions
      referenceFrameIndex := parameters.referenceFrameIndex
      referenceFrameId := reference.id
      continuitySegmentCount := state.continuitySegmentCount
      liveWindow := parameters.decay.liveWindow
      measuredPairCount
      gapPairCount := comparisons.length - measuredPairCount
      changedPixelCount := (state.composite.everChanged.map countOnes).sum
      maxSegmentRank := state.maxSegmentRank }

/-- What the marks at a pixel add. -/
def weights (marks : List (Nat × Nat)) (pixel : Nat) : Nat := ((marks.filter fun mark => mark.1 = pixel).map fun mark => mark.2).sum

/-- The sums of marked pixels. -/
def MotionSums.of (pixelCount byteCount : Nat) (marks : List (Nat × Nat)) : MotionSums where
  accumulation := table pixelCount fun pixel => min (weights marks pixel) 65535
  everChanged := marks.foldl (fun bits mark => setBit bits mark.1) (List.replicate byteCount 0)

section Marks

variable {n byteCount : Nat} {marks marks' : List (Nat × Nat)} {f : Nat → Nat} {bits : List UInt8}

theorem foldl_addWeight {value : Nat} (h : value ≤ 65535) :
    marks.foldl (fun value mark => addWeight mark.2 value) value = min (value + (marks.map fun mark => mark.2).sum) 65535 := by
  induction marks generalizing value with
  | nil => simpa using h
  | cons mark marks ih =>
    have hstep : addWeight mark.2 value = min (value + mark.2) 65535 := by
      unfold addWeight saturatingAdd16
      split <;> omega
    rw [List.foldl_cons, hstep, ih (min_le_right _ _), List.map_cons, List.sum_cons]
    omega

theorem seen_addWeight : (seen Prod.fst (fun mark value => addWeight mark.2 value) marks fun _ => 0) =
    fun pixel => min (weights marks pixel) 65535 := by
  funext pixel
  rw [seen, foldl_addWeight (by decide), Nat.zero_add]
  rfl

theorem foldlM_mark (hplace : ∀ mark ∈ marks, mark.1 < n) (hbits : n ≤ 8 * bits.length) :
    marks.foldlM (fun state mark => MotionSums.mark mark.2 state mark.1) ⟨table n f, bits⟩ =
      .ok ⟨table n (seen Prod.fst (fun mark value => addWeight mark.2 value) marks f),
        marks.foldl (fun bits mark => setBit bits mark.1) bits⟩ := by
  induction marks generalizing f bits with
  | nil => rfl
  | cons mark marks ih =>
    have hlt := hplace mark List.mem_cons_self
    have hmark : MotionSums.mark mark.2 ⟨table n f, bits⟩ mark.1 =
        .ok ⟨table n (Function.update f mark.1 (addWeight mark.2 (f mark.1))), setBit bits mark.1⟩ := by
      have hupdate : updateAt Fault.outOfBounds (table n f) mark.1 (fun value => .ok (addWeight mark.2 value)) =
          .ok (table n (Function.update f mark.1 (addWeight mark.2 (f mark.1)))) := updateAt_table hlt rfl
      have hset : setBitAt bits mark.1 = .ok (setBit bits mark.1) := if_pos (by omega)
      rw [MotionSums.mark, hset, ok_bind, hupdate, ok_bind]
      rfl
    rw [List.foldlM_cons, hmark, ok_bind, ih (fun mark' hmark' => hplace mark' (List.mem_cons_of_mem _ hmark'))
      (by rw [length_setBit]; exact hbits), seen_cons, List.foldl_cons]

theorem foldlM_mark_of (hplace : ∀ mark ∈ marks, mark.1 < n) (hbits : n ≤ 8 * byteCount) :
    marks.foldlM (fun state mark => MotionSums.mark mark.2 state mark.1) ⟨List.replicate n 0, List.replicate byteCount 0⟩ =
      .ok (.of n byteCount marks) := by
  have hstart : List.replicate n 0 = table n fun _ => 0 := by rw [table, List.map_const', List.length_range]
  rw [hstart, foldlM_mark hplace (by rwa [List.length_replicate]), seen_addWeight]
  rfl

theorem length_everChanged_of : (MotionSums.of n byteCount marks).everChanged.length = byteCount := by
  rw [MotionSums.of, length_setBits, List.length_replicate]

theorem merge_of : (MotionSums.of n byteCount marks).merge (.of n byteCount marks') = .of n byteCount (marks ++ marks') := by
  have hbits : union (marks.foldl (fun bits mark => setBit bits mark.1) (List.replicate byteCount 0))
      (marks'.foldl (fun bits mark => setBit bits mark.1) (List.replicate byteCount 0)) =
      (marks ++ marks').foldl (fun bits mark => setBit bits mark.1) (List.replicate byteCount 0) := by
    have hlength := length_setBits Prod.fst marks (List.replicate byteCount 0)
    rw [List.length_replicate] at hlength
    rw [union_foldl_setBit, union_zero hlength, List.foldl_append]
  unfold MotionSums.merge MotionSums.of
  rw [zipWith_table, hbits]
  congr 1
  refine table_congr fun pixel _ => ?_
  simp only [weights, List.filter_append, List.map_append, List.sum_append, saturatingAdd16]
  omega

end Marks

/-! ### Chunks of a segment -/

section Pairs

variable (normalized : NormalizedSequence F) (decay : MotionDecay) (classifier : PixelClassifier)
  (changeBits : Nat → Option (List UInt8)) (pairs : List (PairPixels F))

/-- The changed pixels of a pair, with its weight. -/
def pairMarks (weight : Nat) (bits : Option (List UInt8)) (pair : PairPixels F) : List (Nat × Nat) :=
  (includedPoints normalized.analysisMask normalized.dimensions).filterMap fun point =>
    (changedSquare classifier (bits.map (bit · (point.2 * normalized.dimensions.width + point.1)))
      (pair.earlier.pixel point.1 point.2) (pair.later.pixel point.1 point.2)).map fun _ =>
      (point.2 * normalized.dimensions.width + point.1, weight)

def marksAt (offset : Nat) : List (Nat × Nat) :=
  if u32Max < pairs.length - 1 - offset then []
  else pairs[offset]?.elim [] (pairMarks normalized classifier (decay.weightAt (pairs.length - 1 - offset)) (changeBits offset))

variable {normalized decay classifier changeBits pairs}

theorem mark_lt {weight : Nat} {bits : Option (List UInt8)} {pair : PairPixels F} {mark : Nat × Nat}
    (h : mark ∈ pairMarks normalized classifier weight bits pair) :
    mark.1 < normalized.dimensions.height * normalized.dimensions.width := by
  obtain ⟨point, hpoint, hmark⟩ := List.mem_filterMap.1 h
  obtain ⟨square, -, rfl⟩ := Option.map_eq_some_iff.1 hmark
  exact point_lt hpoint

theorem marksAt_lt {offset : Nat} {mark : Nat × Nat} (h : mark ∈ marksAt normalized decay classifier changeBits pairs offset) :
    mark.1 < normalized.dimensions.height * normalized.dimensions.width := by
  unfold marksAt at h
  split at h
  · exact absurd h List.not_mem_nil
  cases hpair : pairs[offset]? with
  | none =>
    rw [hpair] at h
    exact absurd h List.not_mem_nil
  | some pair =>
    rw [hpair] at h
    exact mark_lt h

theorem sweep_marks {i j weight : Nat} {pair : PairPixels F} {bits : Option (List UInt8)} (hpair : PairOf normalized i j pair)
    (hbits : Reach normalized bits) (state : MotionSums) :
    sweepPixels motionLimitError (markPixel classifier normalized.dimensions.width weight) normalized.dimensions
        pair.earlier.linearRgb16 pair.later.linearRgb16 normalized.analysisMask bits state =
      (pairMarks normalized classifier weight bits pair).foldlM (fun state mark => MotionSums.mark mark.2 state mark.1) state := by
  obtain ⟨hearlier, hlater⟩ := hpair.dimensions_eq
  rw [sweepPixels_eq hearlier hlater normalized.mask_dimensions hbits, pairMarks, List.foldlM_filterMap]
  congr 1
  funext state point
  unfold markPixel
  cases changedSquare classifier (bits.map (bit · (point.2 * normalized.dimensions.width + point.1)))
    (pair.earlier.pixel point.1 point.2) (pair.later.pixel point.1 point.2) with
  | none => rfl
  | some square => rfl

def chunkMarks (normalized : NormalizedSequence F) (decay : MotionDecay) (classifier : PixelClassifier)
    (changeBits : Nat → Option (List UInt8)) (pairs : List (PairPixels F)) (start stop : Nat) : List (Nat × Nat) :=
  (List.range' start (stop - start)).flatMap (marksAt normalized decay classifier changeBits pairs)

theorem chunkMarks_append {a b c : Nat} (hab : a ≤ b) (hbc : b ≤ c) :
    chunkMarks normalized decay classifier changeBits pairs a b ++ chunkMarks normalized decay classifier changeBits pairs b c =
      chunkMarks normalized decay classifier changeBits pairs a c := by
  unfold chunkMarks
  rw [← List.flatMap_append, Chunks.range'_append_range' hab hbc]

variable {byteCount : Nat}

/-- The sums have an entry and a bit for each pixel. -/
def Shaped (normalized : NormalizedSequence F) (byteCount : Nat) (state : MotionSums) : Prop :=
  (∃ f, state.accumulation = table (normalized.dimensions.height * normalized.dimensions.width) f) ∧
    state.everChanged.length = byteCount

theorem Shaped.mark {state : MotionSums} (h : Shaped normalized byteCount state) (marks : List (Nat × Nat))
    (hreach : normalized.dimensions.height * normalized.dimensions.width ≤ 8 * byteCount)
    (hplace : ∀ mark ∈ marks, mark.1 < normalized.dimensions.height * normalized.dimensions.width) :
    ∃ state', marks.foldlM (fun state mark => MotionSums.mark mark.2 state mark.1) state = .ok state' ∧
      Shaped normalized byteCount state' := by
  obtain ⟨⟨f, hf⟩, hlength⟩ := h
  obtain ⟨accumulation, everChanged⟩ := state
  obtain rfl := hf
  exact ⟨_, foldlM_mark hplace (hlength ▸ hreach), ⟨_, rfl⟩, (length_setBits Prod.fst marks everChanged).trans hlength⟩

variable (hpairs : ∀ pair ∈ pairs, ∃ i j, PairOf normalized i j pair) (hbits : ∀ offset, Reach normalized (changeBits offset))
  (hreach : normalized.dimensions.height * normalized.dimensions.width ≤ 8 * byteCount)

include hpairs hbits hreach

theorem foldMotion_eq {offset : Nat} (hoffset : offset < pairs.length) {state : MotionSums} (h : Shaped normalized byteCount state) :
    foldMotion normalized decay classifier changeBits pairs (.ok state) offset =
      (marksAt normalized decay classifier changeBits pairs offset).foldlM (fun state mark => MotionSums.mark mark.2 state mark.1)
        state := by
  unfold foldMotion marksAt
  rw [ok_bind]
  dsimp only
  by_cases hrank : u32Max < pairs.length - 1 - offset
  · rw [if_pos hrank, if_pos hrank]
    rfl
  obtain ⟨i, j, hpair⟩ := hpairs _ (List.getElem_mem hoffset)
  rw [if_neg hrank, if_neg hrank, pairAt, List.getElem?_eq_getElem hoffset]
  change untilOverflow state (sweepPixels _ _ _ _ _ _ _ _) = _
  rw [sweep_marks hpair (hbits offset)]
  obtain ⟨state', hstate', -⟩ := h.mark (pairMarks normalized classifier (decay.weightAt (pairs.length - 1 - offset)) (changeBits offset)
    pairs[offset]) hreach fun mark hmark => mark_lt hmark
  simp only [Option.elim_some, hstate', untilOverflow]

theorem foldRange_eq {a b : Nat} (hb : b ≤ pairs.length) :
    Chunks.foldRange (.ok ⟨List.replicate (normalized.dimensions.height * normalized.dimensions.width) 0, List.replicate byteCount 0⟩)
        (foldMotion normalized decay classifier changeBits pairs) a b =
      .ok (.of (normalized.dimensions.height * normalized.dimensions.width) byteCount
        (chunkMarks normalized decay classifier changeBits pairs a b)) := by
  have hplace : ∀ mark ∈ chunkMarks normalized decay classifier changeBits pairs a b,
      mark.1 < normalized.dimensions.height * normalized.dimensions.width := fun mark hmark => by
    obtain ⟨offset, -, hoffset⟩ := List.mem_flatMap.1 hmark
    exact marksAt_lt hoffset
  rw [← foldlM_mark_of hplace hreach, Chunks.foldRange, chunkMarks, foldlM_flatMap]
  have hbind : foldMotion normalized decay classifier changeBits pairs =
      fun state offset => state >>= fun sums => foldMotion normalized decay classifier changeBits pairs (.ok sums) offset := by
    funext state offset
    cases state <;> rfl
  rw [hbind, Chunks.foldl_bind, ok_bind]
  refine foldlM_congr (P := Shaped normalized byteCount) (fun offset hoffset state hstate => ?_) ?_
  · have hlt : offset < pairs.length := by
      have := List.mem_range'_1.1 hoffset
      omega
    refine ⟨foldMotion_eq hpairs hbits hreach hlt hstate, fun state' hrun => ?_⟩
    obtain ⟨state'', hstate'', hshaped⟩ := hstate.mark (marksAt normalized decay classifier changeBits pairs offset) hreach
      fun mark hmark => marksAt_lt hmark
    rw [hstate''] at hrun
    exact Except.ok.inj hrun ▸ hshaped
  · exact ⟨⟨fun _ => 0, by rw [table, List.map_const', List.length_range]⟩, List.length_replicate⟩

theorem merges_motion :
    Chunks.Merges
      (.ok ⟨List.replicate (normalized.dimensions.height * normalized.dimensions.width) 0, List.replicate byteCount 0⟩)
      (foldMotion normalized decay classifier changeBits pairs) mergeMotion pairs.length := by
  intro a b c hab hbc hc
  rw [foldRange_eq hpairs hbits hreach (hbc.trans hc), foldRange_eq hpairs hbits hreach hc, foldRange_eq hpairs hbits hreach hc,
    ← chunkMarks_append hab hbc, ← merge_of]
  rfl

end Pairs

/-! ### Plans of one worker -/

section Plans

variable {normalized : NormalizedSequence F} {parameters : MotionHistoryParameters}
  {shared : Option (SharedAdjacentAnalysis F normalized.dimensions)} {composite : MotionSums} {state : PlanState}

theorem pairs_of_comparisons {comparisons : List FrameComparison} {pairs : List (PairPixels F)}
    (h : comparisons.mapM (fun comparison => pairPixels normalized comparison.earlierFrameIndex comparison.laterFrameIndex) =
      .ok pairs) : ∀ pair ∈ pairs, ∃ i j, PairOf normalized i j pair := by
  intro pair hpair
  obtain ⟨k, hk, rfl⟩ := List.getElem_of_mem hpair
  have hall := mapM_eq_ok h
  have hrun := hall.get (i := k) (by rw [hall.length_eq]; exact hk) hk
  exact ⟨_, _, pairPixels_eq_ok hrun⟩

theorem accumulateSegment_eq (comparisons : List FrameComparison) (comparisonStart workers : Nat)
    (hreach : normalized.dimensions.height * normalized.dimensions.width ≤ 8 * composite.everChanged.length) :
    accumulateSegment normalized parameters shared workers comparisons comparisonStart composite =
      accumulateSegment normalized parameters shared 1 comparisons comparisonStart composite := by
  unfold accumulateSegment
  refine bind_congr_ok fun pairs hpairs => bind_congr_ok fun classifier _ => ?_
  dsimp only
  have hmerges := @merges_motion _ _ parameters.decay classifier _ _ _ (pairs_of_comparisons hpairs)
    (fun offset => SharedAdjacentAnalysis.reach_changeMaskForPair shared (comparisonStart + offset)) hreach
  rw [mapReduce_eq workers hmerges, mapReduce_eq 1 hmerges]

theorem accumulateSegment_length {comparisons : List FrameComparison} {comparisonStart workers : Nat} {composite' : MotionSums}
    (hreach : normalized.dimensions.height * normalized.dimensions.width ≤ 8 * composite.everChanged.length)
    (h : accumulateSegment normalized parameters shared workers comparisons comparisonStart composite = .ok composite') :
    composite'.everChanged.length = composite.everChanged.length := by
  obtain ⟨pairs, hpairs, hrest⟩ := bind_eq_ok.1 h
  obtain ⟨classifier, -, hrun⟩ := bind_eq_ok.1 hrest
  obtain ⟨segment, hsegment, hcomposite⟩ := bind_eq_ok.1 hrun
  have hof := pairs_of_comparisons hpairs
  have hbits (offset : Nat) := SharedAdjacentAnalysis.reach_changeMaskForPair shared (comparisonStart + offset)
  rw [mapReduce_eq workers (merges_motion hof hbits hreach), foldRange_eq hof hbits hreach le_rfl] at hsegment
  cases hsegment
  cases hcomposite
  rw [length_union, length_everChanged_of, min_self]

variable {comparisons : List FrameComparison} (workers : Nat)
  (hreach : normalized.dimensions.height * normalized.dimensions.width ≤ 8 * state.composite.everChanged.length)

include hreach

theorem closeSegment_eq (start stop : Nat) :
    closeSegment normalized parameters shared workers comparisons state start stop =
      closeSegment normalized parameters shared 1 comparisons state start stop := by
  unfold closeSegment
  rw [accumulateSegment_eq _ start workers hreach]

theorem closeSegment_length {start stop : Nat} {state' : PlanState}
    (h : closeSegment normalized parameters shared workers comparisons state start stop = .ok state') :
    state'.composite.everChanged.length = state.composite.everChanged.length := by
  obtain ⟨composite, hcomposite, hrest⟩ := bind_eq_ok.1 h
  obtain ⟨count, -, hrun⟩ := bind_eq_ok.1 hrest
  obtain ⟨rank, -, hstate⟩ := bind_eq_ok.1 hrun
  cases hstate
  exact accumulateSegment_length hreach hcomposite

theorem planStep_eq (item : FrameComparison × Nat) :
    planStep normalized parameters shared workers comparisons state item = planStep normalized parameters shared 1 comparisons state item := by
  unfold planStep
  cases item.1.outcome with
  | measured vector => rfl
  | gapBoundary count =>
    cases state.segmentStart with
    | none => rfl
    | some start => exact closeSegment_eq workers hreach start item.2

theorem planStep_length {item : FrameComparison × Nat} {state' : PlanState}
    (h : planStep normalized parameters shared workers comparisons state item = .ok state') :
    state'.composite.everChanged.length = state.composite.everChanged.length := by
  unfold planStep at h
  split at h
  · cases h
    rfl
  · split at h
    · cases h
      rfl
    · exact closeSegment_length workers hreach h

omit hreach

theorem buildMotionHistoryPlan_eq [DecidableEq F] :
    buildMotionHistoryPlan normalized parameters shared workers = buildMotionHistoryPlan normalized parameters shared 1 := by
  unfold buildMotionHistoryPlan
  refine bind_congr_ok fun workingBytes _ => ?_
  split
  · rfl
  have hmeasured : measureAdjacent normalized parameters.measurement workers = measureAdjacent normalized parameters.measurement 1 := by
    unfold measureAdjacent
    simp only [mapPairs_eq]
  rw [hmeasured]
  refine bind_congr_ok fun comparisons _ => bind_congr_ok fun padded hpadded => ?_
  have hbytes : normalized.dimensions.height * normalized.dimensions.width ≤ 8 * (padded / 8) := by
    obtain ⟨-, rfl⟩ := checkedAdd_eq_some.1 (orError_eq_ok hpadded)
    omega
  have hloop := foldlM_congr (P := fun state : PlanState => state.composite.everChanged.length = padded / 8)
    (f := planStep normalized parameters (shared.filter (·.isCompatibleWith normalized parameters.measurement)) workers comparisons)
    (g := planStep normalized parameters (shared.filter (·.isCompatibleWith normalized parameters.measurement)) 1 comparisons)
    (l := comparisons.zipIdx)
    (b := ⟨⟨List.replicate (normalized.dimensions.height * normalized.dimensions.width) 0, List.replicate (padded / 8) 0⟩, 0, 0, none⟩)
    (fun item _ state hstate => ⟨planStep_eq workers (hstate ▸ hbytes) item, fun state' hrun =>
      (planStep_length 1 (hstate ▸ hbytes) hrun).trans hstate⟩) List.length_replicate
  rw [hloop]
  refine bind_congr_ok fun state hstate => ?_
  have hlength : state.composite.everChanged.length = padded / 8 :=
    foldlM_invariant (P := fun state : PlanState => state.composite.everChanged.length = padded / 8)
      (fun item _ state state' hstate hrun => (planStep_length 1 (hstate ▸ hbytes) hrun).trans hstate) List.length_replicate hstate
  cases state.segmentStart with
  | none => rfl
  | some start =>
    simp only [Option.elim_some]
    rw [closeSegment_eq workers (hlength ▸ hbytes)]

end Plans

/-- The difference map and the motion history are those of one worker, errors included; the mean time of the changes of a pixel is
within the range, and the time between the first and the last of them does not underflow. -/
theorem parallel_eq_sequential [DecidableEq F] (normalized : NormalizedSequence F) (mapParameters : DifferenceMapParameters)
    (motionParameters : MotionHistoryParameters) (shared : Option (SharedAdjacentAnalysis F normalized.dimensions)) (workers : Nat) :
    DifferenceMapData.build normalized mapParameters shared workers = DifferenceMapData.build normalized mapParameters shared 1 ∧
    buildMotionHistoryPlan normalized motionParameters shared workers = buildMotionHistoryPlan normalized motionParameters shared 1 ∧
    ∀ data, DifferenceMapData.build normalized mapParameters shared workers = .ok data → ∀ pixel,
      (∀ offset, data.timingOffset pixel = some offset → offset ≤ data.rangeDurationNs) ∧ (data.isRepeatedChange pixel).isSome :=
  ⟨build_eq workers, buildMotionHistoryPlan_eq workers, fun _ hdata pixel =>
    ⟨fun _ hoffset => timingOffset_le hdata hoffset, isRepeatedChange_isSome hdata pixel⟩⟩

end Krometrail.Vision.MotionHistory
