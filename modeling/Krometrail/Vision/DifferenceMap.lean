import Krometrail.Lib.Accumulators
import Krometrail.Vision.Continuity

/-!
# Difference maps

Every adjacent pair without a gap is added to six numbers of each pixel.  The pairs are split between workers, and the numbers of
the chunks are merged in order.  This is what one worker makes of all pairs, the error at an overflow included: the numbers of a
pixel are those of the list of its visits (`PixelSums.of`), and merging appends the lists.
-/

namespace Krometrail.Vision.DifferenceMap

open Accumulators Krometrail.Vision.Continuity Krometrail.Vision.Measure Krometrail.Vision.Parallel Krometrail.Vision.Sweeps PackedBits Results

variable {F : Type}

/-- A `SharedAdjacentAnalysis` of frames of these dimensions: a change mask has a bit for each pixel. -/
structure SharedAdjacentAnalysis (F : Type) (dimensions : PixelDimensions) where
  frameIds : List F
  frameTimestamps : List Nat
  noiseFloor : Nat
  comparisons : List FrameComparison
  changeMasks : Option (List (Option (List UInt8)))
  reach : ∀ masks ∈ changeMasks, ∀ bits, some bits ∈ masks → dimensions.height * dimensions.width ≤ 8 * bits.length

namespace SharedAdjacentAnalysis

variable {dimensions : PixelDimensions} (shared : SharedAdjacentAnalysis F dimensions)

def changeMaskForPair (index : Nat) : Option (List UInt8) := shared.changeMasks.bind fun masks => masks[index]?.join

def isCompatibleWith [DecidableEq F] (normalized : NormalizedSequence F) (measurement : MeasurementParameters) : Bool :=
  decide (shared.noiseFloor = measurement.noiseFloor) && decide (shared.frameIds.length = normalized.frames.length) &&
    ((shared.frameIds.zip shared.frameTimestamps).zip normalized.frames).all
      (fun item => decide (item.1.1 = item.2.id) && decide (item.1.2 = item.2.timestamp)) &&
    decide (shared.comparisons.length = normalized.frames.length - 1) &&
    shared.comparisons.zipIdx.all
      (fun item => decide (item.1.earlierFrameIndex = item.2) && decide (item.1.laterFrameIndex = item.2 + 1)) &&
    shared.changeMasks.all fun masks => decide (masks.length = shared.comparisons.length)

end SharedAdjacentAnalysis

/-- The square of the change of a pixel, if it has changed. -/
def changedSquare (classifier : PixelClassifier) (changedByMask : Option Bool) (before after : Rgb16) : Option Nat :=
  match changedByMask with
  | some false => none
  | some true => some (weightedSquare before after)
  | none =>
    let change := classifier.classify before after
    if change.changed then some change.weightedSquare else none

/-! ### Accumulators -/

def accumulatorLimitError : VisionError :=
  ⟨.resourceLimitExceeded, "difference-map accumulation exceeds configured integer or memory limits"⟩

def u128Max : Nat := 2 ^ 128 - 1

/-- A result within the bound of its integers. -/
def within (bound value : Nat) : Except Fault Nat := if value ≤ bound then .ok value else .error (.error accumulatorLimitError)

/-- The entries of the six vectors of `DifferenceAccumulators` at one pixel. -/
structure PixelSums where
  changeCount : Nat
  comparableCount : Nat
  magnitudeSum : Nat
  weightedTimeSum : Nat
  firstChangeOffset : Nat
  lastChangeOffset : Nat

def PixelSums.empty : PixelSums := ⟨0, 0, 0, 0, 0, 0⟩

/-- An included pixel of a pair. -/
def PixelSums.accumulate (laterOffset : Nat) (square : Option Nat) (sums : PixelSums) : Except Fault PixelSums := do
  let comparableCount ← within u32Max (sums.comparableCount + 1)
  match square with
  | none => return { sums with comparableCount }
  | some weightedSquare => do
    let changeCount ← within u32Max (sums.changeCount + 1)
    let magnitudeSum ← within u64Max (sums.magnitudeSum + weightedSquare)
    let weightedTime ← within u128Max (laterOffset * weightedSquare)
    let weightedTimeSum ← within u128Max (sums.weightedTimeSum + weightedTime)
    return { changeCount, comparableCount, magnitudeSum, weightedTimeSum
             firstChangeOffset := if changeCount = 1 then laterOffset else sums.firstChangeOffset
             lastChangeOffset := laterOffset }

def accumulatePixel (classifier : PixelClassifier) (width laterOffset : Nat) (accumulators : List PixelSums) (x y : Nat)
    (changedByMask : Option Bool) (before after : Rgb16) : Except Fault (List PixelSums) :=
  updateAt .outOfBounds accumulators (y * width + x) (PixelSums.accumulate laterOffset (changedSquare classifier changedByMask before after))

def accumulatePair (dimensions : PixelDimensions) (pair : PairPixels F) (rangeStart : Nat) (mask : Option BinaryMask)
    (classifier : PixelClassifier) (changeBits : Option (List UInt8)) (accumulators : List PixelSums) : Except Fault (List PixelSums) :=
  if 0 < pair.gapCount then .ok accumulators
  else do
    let laterOffset ← orError accumulatorLimitError (checkedSub pair.later.timestamp rangeStart)
    sweepPixels accumulatorLimitError (accumulatePixel classifier dimensions.width laterOffset) dimensions pair.earlier.linearRgb16
      pair.later.linearRgb16 mask changeBits accumulators

/-- A turn of the loop of `merge_results`. -/
def mergePixel (left right : PixelSums) : Except Fault PixelSums := do
  let changeCount ← within u32Max (left.changeCount + right.changeCount)
  let comparableCount ← within u32Max (left.comparableCount + right.comparableCount)
  let magnitudeSum ← within u64Max (left.magnitudeSum + right.magnitudeSum)
  let weightedTimeSum ← within u128Max (left.weightedTimeSum + right.weightedTimeSum)
  return {
    changeCount, comparableCount, magnitudeSum, weightedTimeSum
    firstChangeOffset :=
      if 0 < right.changeCount then
        if changeCount = right.changeCount then right.firstChangeOffset else min left.firstChangeOffset right.firstChangeOffset
      else left.firstChangeOffset
    lastChangeOffset := if 0 < right.changeCount then max left.lastChangeOffset right.lastChangeOffset else left.lastChangeOffset }

def mergeResults : Except Fault (List PixelSums) → Except Fault (List PixelSums) → Except Fault (List PixelSums)
  | .error error, _ => .error error
  | .ok _, .error error => .error error
  | .ok left, .ok right => (left.zip right).mapM fun entries => mergePixel entries.1 entries.2

/-- The element of an indexed list; an index outside panics. -/
def pairAt (pairs : List (PairPixels F)) (index : Nat) : Except Fault (PairPixels F) := pairs[index]?.elim (.error .outOfBounds) .ok

section Accumulate

variable [DecidableEq F] (normalized : NormalizedSequence F) (measurement : MeasurementParameters)

/-- The turn of a worker at a pair. -/
def foldPair (classifier : PixelClassifier) (changeBits : Nat → Option (List UInt8)) (pairs : List (PairPixels F))
    (state : Except Fault (List PixelSums)) (index : Nat) : Except Fault (List PixelSums) := do
  let accumulators ← state
  let pair ← pairAt pairs index
  accumulatePair normalized.dimensions pair (timestampAt normalized 0) normalized.analysisMask classifier (changeBits index) accumulators

/-- `accumulate_with_analysis`, by a number of workers. -/
def accumulateWithAnalysis (maxAccumulatorBytes : Nat) (shared : Option (SharedAdjacentAnalysis F normalized.dimensions)) (workers : Nat) :
    Except Fault (List PixelSums) := do
  let shared := shared.filter (·.isCompatibleWith normalized measurement)
  let pixelCount := normalized.dimensions.height * normalized.dimensions.width
  let accumulatorBytes ← orError accumulatorLimitError (checkedMul pixelCount 48)
  if maxAccumulatorBytes < accumulatorBytes then .error (.error accumulatorLimitError)
  else do
    let pairs ← adjacentPairs normalized
    let classifier ← (PixelClassifier.new measurement).mapError fun _ => .error accumulatorLimitError
    mapReduce pairs.length workers (.ok (List.replicate pixelCount PixelSums.empty))
      (foldPair normalized classifier (fun index => shared.bind (·.changeMaskForPair index)) pairs) mergeResults

end Accumulate

inductive FrequencyMode
  | count | magnitude | normalizedFrequency

/-- The parameters that the data depend on. -/
structure DifferenceMapParameters where
  frequencyMode : FrequencyMode
  repeatedChangeSeparation : Option Nat
  measurement : MeasurementParameters
  maxAccumulatorBytes : Nat

structure DifferenceMapData where
  accumulators : List PixelSums
  rangeStart : Nat
  rangeDurationNs : Nat
  effectiveSeparationNs : Nat
  frequencyMode : FrequencyMode
  maxChangeCount : Nat
  maxMagnitude : Nat

/-- `build_with_analysis`, by a number of workers. -/
def DifferenceMapData.build [DecidableEq F] (normalized : NormalizedSequence F) (parameters : DifferenceMapParameters)
    (shared : Option (SharedAdjacentAnalysis F normalized.dimensions)) (workers : Nat) : Except Fault DifferenceMapData := do
  let accumulators ← accumulateWithAnalysis normalized parameters.measurement parameters.maxAccumulatorBytes shared workers
  let rangeStart := timestampAt normalized 0
  let rangeDurationNs ← orError accumulatorLimitError (checkedSub (timestampAt normalized (normalized.frames.length - 1)) rangeStart)
  return {
    accumulators, rangeStart, rangeDurationNs
    effectiveSeparationNs := parameters.repeatedChangeSeparation.getD (max (rangeDurationNs / 4) 1)
    frequencyMode := parameters.frequencyMode
    maxChangeCount := (accumulators.map (·.changeCount)).foldl max 0
    maxMagnitude := (accumulators.map (·.magnitudeSum)).foldl max 0 }

def scaleToByte (value maximum : Nat) : Nat := if maximum = 0 then 0 else value * 255 / maximum

namespace DifferenceMapData

variable (data : DifferenceMapData) (pixel : Nat)

def frequencyValue : Option Nat := do
  let sums ← data.accumulators[pixel]?
  if sums.comparableCount = 0 then none
  else match data.frequencyMode with
  | .count => some (scaleToByte sums.changeCount data.maxChangeCount)
  | .magnitude => some (scaleToByte sums.magnitudeSum data.maxMagnitude)
  | .normalizedFrequency => some (scaleToByte sums.changeCount sums.comparableCount)

/-- `is_repeated_change`; none where the subtraction underflows. -/
def isRepeatedChange : Option Bool :=
  match data.accumulators[pixel]? with
  | none => some false
  | some sums =>
    if 2 ≤ sums.changeCount then
      (checkedSub sums.lastChangeOffset sums.firstChangeOffset).map fun span => decide (data.effectiveSeparationNs ≤ span)
    else some false

def timingOffset : Option Nat :=
  match data.accumulators[pixel]? with
  | none => none
  | some sums =>
    if sums.magnitudeSum = 0 then none
    else if sums.weightedTimeSum / sums.magnitudeSum ≤ u64Max then some (sums.weightedTimeSum / sums.magnitudeSum)
    else none

end DifferenceMapData

/-! ### The visits of a pixel -/

/-- A visit of a pixel: the offset of the pair, and the square of the change. -/
structure Visit where
  place : Nat
  offset : Nat
  square : Option Nat

/-- The numbers fit their integers. -/
def PixelSums.Fits (sums : PixelSums) : Prop :=
  (sums.changeCount ≤ u32Max ∧ sums.comparableCount ≤ u32Max) ∧ sums.magnitudeSum ≤ u64Max ∧ sums.weightedTimeSum ≤ u128Max

instance : DecidablePred PixelSums.Fits := fun _ => inferInstanceAs (Decidable (_ ∧ _))

/-- A visit, without the checks. -/
def PixelSums.next (visit : Visit) (sums : PixelSums) : PixelSums :=
  match visit.square with
  | none => { sums with comparableCount := sums.comparableCount + 1 }
  | some square =>
    { changeCount := sums.changeCount + 1
      comparableCount := sums.comparableCount + 1
      magnitudeSum := sums.magnitudeSum + square
      weightedTimeSum := sums.weightedTimeSum + visit.offset * square
      firstChangeOffset := if sums.changeCount + 1 = 1 then visit.offset else sums.firstChangeOffset
      lastChangeOffset := visit.offset }

/-- A merge, without the checks. -/
def PixelSums.merge (left right : PixelSums) : PixelSums where
  changeCount := left.changeCount + right.changeCount
  comparableCount := left.comparableCount + right.comparableCount
  magnitudeSum := left.magnitudeSum + right.magnitudeSum
  weightedTimeSum := left.weightedTimeSum + right.weightedTimeSum
  firstChangeOffset :=
    if 0 < right.changeCount then
      if left.changeCount + right.changeCount = right.changeCount then right.firstChangeOffset
      else min left.firstChangeOffset right.firstChangeOffset
    else left.firstChangeOffset
  lastChangeOffset := if 0 < right.changeCount then max left.lastChangeOffset right.lastChangeOffset else left.lastChangeOffset

section Sums

variable {sums : PixelSums} {visit : Visit} {left right : PixelSums} {bound value : Nat} {α : Type}

theorem within_of_le {k : Nat → Except Fault α} (h : value ≤ bound) : (within bound value >>= k) = k value := by
  rw [within, if_pos h, ok_bind]

theorem within_of_lt {k : Nat → Except Fault α} (h : ¬ value ≤ bound) :
    (within bound value >>= k) = .error (.error accumulatorLimitError) := by
  rw [within, if_neg h]
  rfl

theorem fits_of_next (h : (sums.next visit).Fits) : sums.Fits := by
  obtain ⟨place, offset, square⟩ := visit
  cases square with
  | none =>
    obtain ⟨⟨hchange, hcomparable⟩, hmagnitude, htime⟩ := h
    exact ⟨⟨hchange, (Nat.le_succ _).trans hcomparable⟩, hmagnitude, htime⟩
  | some square =>
    obtain ⟨⟨hchange, hcomparable⟩, hmagnitude, htime⟩ := h
    exact ⟨⟨(Nat.le_succ _).trans hchange, (Nat.le_succ _).trans hcomparable⟩, (Nat.le_add_right _ _).trans hmagnitude,
      (Nat.le_add_right _ _).trans htime⟩

theorem accumulate_eq (h : sums.Fits) :
    sums.accumulate visit.offset visit.square = checked PixelSums.Fits (.error accumulatorLimitError) (sums.next visit) := by
  obtain ⟨place, offset, square⟩ := visit
  obtain ⟨⟨hchange, hcomparable⟩, hmagnitude, htime⟩ := h
  unfold PixelSums.accumulate
  by_cases hcomparable' : sums.comparableCount + 1 ≤ u32Max
  · rw [within_of_le hcomparable']
    cases square with
    | none => exact (checked_of_fits ⟨⟨hchange, hcomparable'⟩, hmagnitude, htime⟩).symm
    | some square =>
      dsimp only
      by_cases hchange' : sums.changeCount + 1 ≤ u32Max
      · rw [within_of_le hchange']
        by_cases hmagnitude' : sums.magnitudeSum + square ≤ u64Max
        · rw [within_of_le hmagnitude']
          by_cases htime' : sums.weightedTimeSum + offset * square ≤ u128Max
          · rw [within_of_le ((Nat.le_add_left _ _).trans htime'), within_of_le htime']
            exact (checked_of_fits ⟨⟨hchange', hcomparable'⟩, hmagnitude', htime'⟩).symm
          · rw [checked_of_not fun hfits => htime' hfits.2.2]
            by_cases hproduct : offset * square ≤ u128Max
            · rw [within_of_le hproduct, within_of_lt htime']
            · rw [within_of_lt hproduct]
        · rw [within_of_lt hmagnitude', checked_of_not fun hfits => hmagnitude' hfits.2.1]
      · rw [within_of_lt hchange', checked_of_not fun hfits => hchange' hfits.1.1]
  · rw [within_of_lt hcomparable', checked_of_not fun hfits => hcomparable' ?_]
    cases square with
    | none => exact hfits.1.2
    | some square => exact hfits.1.2

theorem fits_of_merge (h : (left.merge right).Fits) : left.Fits ∧ right.Fits := by
  obtain ⟨⟨hchange, hcomparable⟩, hmagnitude, htime⟩ := h
  exact ⟨⟨⟨(Nat.le_add_right _ _).trans hchange, (Nat.le_add_right _ _).trans hcomparable⟩, (Nat.le_add_right _ _).trans hmagnitude,
    (Nat.le_add_right _ _).trans htime⟩, ⟨(Nat.le_add_left _ _).trans hchange, (Nat.le_add_left _ _).trans hcomparable⟩,
    (Nat.le_add_left _ _).trans hmagnitude, (Nat.le_add_left _ _).trans htime⟩

theorem mergePixel_eq : mergePixel left right = checked PixelSums.Fits (.error accumulatorLimitError) (left.merge right) := by
  unfold mergePixel
  by_cases hchange : left.changeCount + right.changeCount ≤ u32Max
  · rw [within_of_le hchange]
    by_cases hcomparable : left.comparableCount + right.comparableCount ≤ u32Max
    · rw [within_of_le hcomparable]
      by_cases hmagnitude : left.magnitudeSum + right.magnitudeSum ≤ u64Max
      · rw [within_of_le hmagnitude]
        by_cases htime : left.weightedTimeSum + right.weightedTimeSum ≤ u128Max
        · rw [within_of_le htime]
          exact (checked_of_fits ⟨⟨hchange, hcomparable⟩, hmagnitude, htime⟩).symm
        · rw [within_of_lt htime, checked_of_not fun hfits => htime hfits.2.2]
      · rw [within_of_lt hmagnitude, checked_of_not fun hfits => hmagnitude hfits.2.1]
    · rw [within_of_lt hcomparable, checked_of_not fun hfits => hcomparable hfits.1.2]
  · rw [within_of_lt hchange, checked_of_not fun hfits => hchange hfits.1.1]

end Sums

/-- The changes among the visits, each with the offset and the square. -/
def changes (visits : List Visit) : List (Nat × Nat) := visits.filterMap fun visit => visit.square.map (visit.offset, ·)

/-- The numbers of a pixel with these visits. -/
def PixelSums.of (visits : List Visit) : PixelSums where
  changeCount := (changes visits).length
  comparableCount := visits.length
  magnitudeSum := ((changes visits).map fun change => change.2).sum
  weightedTimeSum := ((changes visits).map fun change => change.1 * change.2).sum
  firstChangeOffset := ((changes visits).head?.map (·.1)).getD 0
  lastChangeOffset := ((changes visits).getLast?.map (·.1)).getD 0

section Visits

variable {visits visits' : List Visit} {visit : Visit}

theorem changes_append : changes (visits ++ visits') = changes visits ++ changes visits' := List.filterMap_append

theorem next_of : (PixelSums.of visits).next visit = PixelSums.of (visits ++ [visit]) := by
  obtain ⟨place, offset, square⟩ := visit
  cases square with
  | none => simp [PixelSums.next, PixelSums.of, changes]
  | some square =>
    have hchanges : changes (visits ++ [⟨place, offset, some square⟩]) = changes visits ++ [(offset, square)] := by
      rw [changes_append]
      rfl
    have hfirst : (if (changes visits).length + 1 = 1 then offset else ((changes visits).head?.map (·.1)).getD 0) =
        ((changes visits ++ [(offset, square)]).head?.map (·.1)).getD 0 := by
      cases changes visits <;> simp
    simp only [PixelSums.next, PixelSums.of, hchanges, List.getLast?_concat, List.length_append, List.length_singleton,
      List.map_append, List.map_singleton, List.sum_append, List.sum_singleton, Option.map_some, Option.getD_some]
    congr 1

theorem foldl_next_of : visits'.foldl (fun sums visit => sums.next visit) (PixelSums.of visits) = PixelSums.of (visits ++ visits') := by
  induction visits' generalizing visits with
  | nil => rw [List.append_nil, List.foldl_nil]
  | cons visit rest ih => rw [List.foldl_cons, next_of, ih, List.append_assoc, List.singleton_append]

section Offsets

variable {earlier later : List (Nat × Nat)}

theorem first_append (h : ∀ change ∈ earlier, ∀ change' ∈ later, change.1 ≤ change'.1) :
    (if 0 < later.length then
      if earlier.length + later.length = later.length then (later.head?.map (·.1)).getD 0
      else min ((earlier.head?.map (·.1)).getD 0) ((later.head?.map (·.1)).getD 0)
    else (earlier.head?.map (·.1)).getD 0) = ((earlier ++ later).head?.map (·.1)).getD 0 := by
  cases later with
  | nil => simp
  | cons change' rest' =>
    cases earlier with
    | nil => simp
    | cons change rest =>
      have hmin := h change List.mem_cons_self change' List.mem_cons_self
      simpa using hmin

theorem last_append (h : ∀ change ∈ earlier, ∀ change' ∈ later, change.1 ≤ change'.1) :
    (if 0 < later.length then max ((earlier.getLast?.map (·.1)).getD 0) ((later.getLast?.map (·.1)).getD 0)
    else (earlier.getLast?.map (·.1)).getD 0) = ((earlier ++ later).getLast?.map (·.1)).getD 0 := by
  rcases List.eq_nil_or_concat later with rfl | ⟨rest', change', rfl⟩
  · simp
  rcases List.eq_nil_or_concat earlier with rfl | ⟨rest, change, rfl⟩
  · simp
  simp only [List.concat_eq_append] at h ⊢
  have hmax := h change (by simp) change' (by simp)
  rw [if_pos (by simp), ← List.append_assoc, List.getLast?_concat, List.getLast?_concat, List.getLast?_concat]
  exact max_eq_right hmax

end Offsets

theorem merge_of (h : ∀ visit ∈ visits, ∀ visit' ∈ visits', visit.offset ≤ visit'.offset) :
    (PixelSums.of visits).merge (PixelSums.of visits') = PixelSums.of (visits ++ visits') := by
  have horder : ∀ change ∈ changes visits, ∀ change' ∈ changes visits', change.1 ≤ change'.1 := by
    intro change hchange change' hchange'
    obtain ⟨visit, hvisit, hsquare⟩ := List.mem_filterMap.1 hchange
    obtain ⟨visit', hvisit', hsquare'⟩ := List.mem_filterMap.1 hchange'
    obtain ⟨square, -, rfl⟩ := Option.map_eq_some_iff.1 hsquare
    obtain ⟨square', -, rfl⟩ := Option.map_eq_some_iff.1 hsquare'
    exact h visit hvisit visit' hvisit'
  unfold PixelSums.merge PixelSums.of
  rw [changes_append]
  simp only [first_append horder, last_append horder, List.length_append, List.map_append, List.sum_append]

end Visits

/-! ### The visits of a chunk -/

section Pairs

variable (normalized : NormalizedSequence F) (classifier : PixelClassifier) (changeBits : Nat → Option (List UInt8))
  (pairs : List (PairPixels F))

def pairVisits (bits : Option (List UInt8)) (pair : PairPixels F) : List Visit :=
  if 0 < pair.gapCount then []
  else (includedPoints normalized.analysisMask normalized.dimensions).map fun point =>
    { place := point.2 * normalized.dimensions.width + point.1
      offset := pair.later.timestamp - timestampAt normalized 0
      square := changedSquare classifier (bits.map (bit · (point.2 * normalized.dimensions.width + point.1)))
        (pair.earlier.pixel point.1 point.2) (pair.later.pixel point.1 point.2) }

def chunkVisits (start stop : Nat) : List Visit :=
  (List.range' start (stop - start)).flatMap fun index => pairs[index]?.elim [] (pairVisits normalized classifier (changeBits index))

/-- The change bits reach to the last pixel. -/
def Reach (bits : Option (List UInt8)) : Prop :=
  ∀ bytes ∈ bits, normalized.dimensions.height * normalized.dimensions.width ≤ 8 * bytes.length

variable {normalized classifier changeBits pairs}

theorem accumulatePair_eq {i j : Nat} {pair : PairPixels F} {bits : Option (List UInt8)} (hpair : PairOf normalized i j pair)
    (hbits : Reach normalized bits) (accumulators : List PixelSums) :
    accumulatePair normalized.dimensions pair (timestampAt normalized 0) normalized.analysisMask classifier bits accumulators =
      (pairVisits normalized classifier bits pair).foldlM
        (fun t visit => updateAt .outOfBounds t visit.place (PixelSums.accumulate visit.offset visit.square)) accumulators := by
  unfold accumulatePair pairVisits
  by_cases hgap : 0 < pair.gapCount
  · rw [if_pos hgap, if_pos hgap]
    rfl
  have hle : timestampAt normalized 0 ≤ pair.later.timestamp := by
    rw [← timestampAt_eq hpair.later_eq]
    exact timestampAt_le (Nat.zero_le _) (List.getElem?_eq_some_iff.1 hpair.later_eq).1
  obtain ⟨hearlier, hlater⟩ := hpair.dimensions_eq
  rw [if_neg hgap, if_neg hgap, checkedSub_eq_some.2 ⟨hle, rfl⟩, orError_some, ok_bind,
    sweepPixels_eq hearlier hlater normalized.mask_dimensions hbits, List.foldlM_map]
  rfl

theorem point_lt {point : Nat × Nat} (h : point ∈ includedPoints normalized.analysisMask normalized.dimensions) :
    point.2 * normalized.dimensions.width + point.1 < normalized.dimensions.height * normalized.dimensions.width := by
  obtain ⟨⟨hx, hy⟩, -⟩ := mem_includedPoints.1 h
  have hrow : (point.2 + 1) * normalized.dimensions.width ≤ normalized.dimensions.height * normalized.dimensions.width :=
    Nat.mul_le_mul_right _ hy
  rw [Nat.succ_mul] at hrow
  omega

variable {visit : Visit} {a b : Nat}

theorem place_lt {bits : Option (List UInt8)} {pair : PairPixels F} (h : visit ∈ pairVisits normalized classifier bits pair) :
    visit.place < normalized.dimensions.height * normalized.dimensions.width := by
  unfold pairVisits at h
  split at h
  · exact absurd h List.not_mem_nil
  obtain ⟨point, hpoint, rfl⟩ := List.mem_map.1 h
  exact point_lt hpoint

theorem chunkVisits_append {c : Nat} (hab : a ≤ b) (hbc : b ≤ c) :
    chunkVisits normalized classifier changeBits pairs a b ++ chunkVisits normalized classifier changeBits pairs b c =
      chunkVisits normalized classifier changeBits pairs a c := by
  unfold chunkVisits
  rw [← List.flatMap_append, Chunks.range'_append_range' hab hbc]

variable (hpairs : ∀ k pair, pairs[k]? = some pair → PairOf normalized k (k + 1) pair)

include hpairs

theorem mem_visits {k : Nat} (h : visit ∈ pairs[k]?.elim [] (pairVisits normalized classifier (changeBits k))) :
    visit.place < normalized.dimensions.height * normalized.dimensions.width ∧
      k + 1 < normalized.frames.length ∧ visit.offset = timestampAt normalized (k + 1) - timestampAt normalized 0 := by
  cases hpair : pairs[k]? with
  | none =>
    rw [hpair] at h
    exact absurd h List.not_mem_nil
  | some pair =>
    rw [hpair] at h
    have hof := hpairs k pair hpair
    refine ⟨place_lt h, (List.getElem?_eq_some_iff.1 hof.later_eq).1, ?_⟩
    change visit ∈ pairVisits _ _ _ pair at h
    unfold pairVisits at h
    split at h
    · exact absurd h List.not_mem_nil
    obtain ⟨point, -, rfl⟩ := List.mem_map.1 h
    rw [timestampAt_eq hof.later_eq]

theorem mem_chunkVisits (h : visit ∈ chunkVisits normalized classifier changeBits pairs a b) :
    visit.place < normalized.dimensions.height * normalized.dimensions.width ∧
      ∃ k, (a ≤ k ∧ k < b) ∧ k + 1 < normalized.frames.length ∧
        visit.offset = timestampAt normalized (k + 1) - timestampAt normalized 0 := by
  obtain ⟨k, hk, hvisit⟩ := List.mem_flatMap.1 h
  obtain ⟨hplace, hlt, hoffset⟩ := mem_visits hpairs hvisit
  exact ⟨hplace, k, by have := List.mem_range'_1.1 hk; omega, hlt, hoffset⟩

theorem offset_le {c : Nat} {visit' : Visit} (h : visit ∈ chunkVisits normalized classifier changeBits pairs a b)
    (h' : visit' ∈ chunkVisits normalized classifier changeBits pairs b c) : visit.offset ≤ visit'.offset := by
  obtain ⟨-, k, hk, -, hoffset⟩ := mem_chunkVisits hpairs h
  obtain ⟨-, k', hk', hlt, hoffset'⟩ := mem_chunkVisits hpairs h'
  rw [hoffset, hoffset']
  exact Nat.sub_le_sub_right (timestampAt_le (by omega) hlt) _

theorem pairwise_chunkVisits (a b : Nat) :
    (chunkVisits normalized classifier changeBits pairs a b).Pairwise fun visit visit' => visit.offset ≤ visit'.offset := by
  refine List.pairwise_flatMap.2 ⟨fun k _ => ?_, ?_⟩
  · refine List.pairwise_iff_forall_sublist.2 fun {visit visit'} hsub => ?_
    obtain ⟨-, -, hoffset⟩ := mem_visits hpairs (hsub.subset (List.mem_cons_self (a := visit)))
    obtain ⟨-, -, hoffset'⟩ := mem_visits hpairs (hsub.subset (List.mem_cons_of_mem _ (List.mem_singleton.2 rfl)))
    rw [hoffset, hoffset']
  · refine (List.pairwise_lt_range' 1).imp fun {k k'} hlt visit hvisit visit' hvisit' => ?_
    obtain ⟨-, -, hoffset⟩ := mem_visits hpairs hvisit
    obtain ⟨-, hlast, hoffset'⟩ := mem_visits hpairs hvisit'
    rw [hoffset, hoffset']
    exact Nat.sub_le_sub_right (timestampAt_le (by omega) hlast) _

variable (hbits : ∀ index, Reach normalized (changeBits index))

include hbits

theorem foldRange_eq (hb : b ≤ pairs.length) :
    Chunks.foldRange (.ok (List.replicate (normalized.dimensions.height * normalized.dimensions.width) PixelSums.empty))
        (foldPair normalized classifier changeBits pairs) a b =
      checked (AllFit PixelSums.Fits) (.error accumulatorLimitError)
        (table (normalized.dimensions.height * normalized.dimensions.width) fun place =>
          .of ((chunkVisits normalized classifier changeBits pairs a b).filter fun visit => visit.place = place)) := by
  have hstart : List.replicate (normalized.dimensions.height * normalized.dimensions.width) PixelSums.empty =
      table (normalized.dimensions.height * normalized.dimensions.width) fun _ => PixelSums.of [] := by
    rw [table, List.map_const', List.length_range]
    rfl
  have hloop : Chunks.foldRange (.ok (List.replicate (normalized.dimensions.height * normalized.dimensions.width) PixelSums.empty))
      (foldPair normalized classifier changeBits pairs) a b =
      (chunkVisits normalized classifier changeBits pairs a b).foldlM
        (fun t visit => updateAt .outOfBounds t visit.place (PixelSums.accumulate visit.offset visit.square))
        (List.replicate (normalized.dimensions.height * normalized.dimensions.width) PixelSums.empty) := by
    unfold Chunks.foldRange chunkVisits
    rw [foldlM_flatMap]
    refine (Chunks.foldl_bind _ _).trans ?_
    rw [ok_bind]
    refine foldlM_congr (P := fun _ => True) (fun k hk accumulators _ => ⟨?_, fun _ _ => trivial⟩) trivial
    have hlt : k < pairs.length := by
      have := List.mem_range'_1.1 hk
      omega
    rw [pairAt, List.getElem?_eq_getElem hlt]
    exact accumulatePair_eq (hpairs k _ (List.getElem?_eq_getElem hlt)) (hbits k) accumulators
  rw [hloop, hstart]
  refine (foldlM_updateAt (fun visit hvisit => (mem_chunkVisits hpairs hvisit).1) (fun visit _ sums hfits => accumulate_eq hfits)
    (fun visit _ sums hfits => fits_of_next hfits) fun place _ => by decide).trans ?_
  exact congrArg _ (table_congr fun place _ => foldl_next_of)

theorem merges_results :
    Chunks.Merges (.ok (List.replicate (normalized.dimensions.height * normalized.dimensions.width) PixelSums.empty))
      (foldPair normalized classifier changeBits pairs) mergeResults pairs.length := by
  intro a b c hab hbc hc
  have hmerge (place : Nat) :
      (PixelSums.of ((chunkVisits normalized classifier changeBits pairs a b).filter fun visit => visit.place = place)).merge
        (.of ((chunkVisits normalized classifier changeBits pairs b c).filter fun visit => visit.place = place)) =
      .of ((chunkVisits normalized classifier changeBits pairs a c).filter fun visit => visit.place = place) := by
    rw [← chunkVisits_append hab hbc, List.filter_append]
    exact merge_of fun visit hvisit visit' hvisit' => offset_le hpairs (List.mem_of_mem_filter hvisit) (List.mem_of_mem_filter hvisit')
  rw [foldRange_eq hpairs hbits (hbc.trans hc), foldRange_eq hpairs hbits hc, foldRange_eq hpairs hbits hc]
  -- what fits together has fitted in both chunks
  have hfits {place : Nat}
      (hplace : (PixelSums.of ((chunkVisits normalized classifier changeBits pairs a c).filter fun visit => visit.place = place)).Fits) :=
    fits_of_merge (hmerge place ▸ hplace)
  by_cases hleft : AllFit PixelSums.Fits (table (normalized.dimensions.height * normalized.dimensions.width) fun place =>
      .of ((chunkVisits normalized classifier changeBits pairs a b).filter fun visit => visit.place = place))
  · by_cases hright : AllFit PixelSums.Fits (table (normalized.dimensions.height * normalized.dimensions.width) fun place =>
        .of ((chunkVisits normalized classifier changeBits pairs b c).filter fun visit => visit.place = place))
    · rw [checked_of_fits hleft, checked_of_fits hright]
      refine (mapM_checked fun entries _ => mergePixel_eq).trans ?_
      rw [zip_table, map_table]
      exact congrArg _ (table_congr fun place _ => hmerge place)
    · rw [checked_of_fits hleft, checked_of_not hright, checked_of_not fun hall => hright (allFit_table.2 fun place hplace =>
        (hfits (allFit_table.1 hall place hplace)).2)]
      rfl
  · rw [checked_of_not hleft, checked_of_not fun hall => hleft (allFit_table.2 fun place hplace =>
      (hfits (allFit_table.1 hall place hplace)).1)]
    rfl

end Pairs

section ChangeBits

variable {normalized : NormalizedSequence F} {classifier : PixelClassifier} {measurement : MeasurementParameters}
  {bits bits' : Option (List UInt8)}

end ChangeBits

section Workers

variable {normalized : NormalizedSequence F}

theorem SharedAdjacentAnalysis.reach_changeMaskForPair (shared : Option (SharedAdjacentAnalysis F normalized.dimensions)) (index : Nat) :
    Reach normalized (shared.bind (·.changeMaskForPair index)) := by
  intro bytes hbytes
  obtain ⟨analysis, -, hmask⟩ := Option.bind_eq_some_iff.1 hbytes
  obtain ⟨masks, hmasks, hentry⟩ := Option.bind_eq_some_iff.1 hmask
  exact analysis.reach masks hmasks bytes (List.mem_of_getElem? (Option.join_eq_some_iff.1 hentry))

theorem adjacentPairs_eq_ok {pairs : List (PairPixels F)} (h : adjacentPairs normalized = .ok pairs) :
    ∀ k pair, pairs[k]? = some pair → PairOf normalized k (k + 1) pair := by
  intro k pair hpair
  obtain ⟨hk, rfl⟩ := List.getElem?_eq_some_iff.1 hpair
  have hall := mapM_eq_ok h
  have hrun := hall.get (i := k) (by rw [hall.length_eq]; exact hk) hk
  simp only [List.get_eq_getElem, List.getElem_range] at hrun
  exact pairPixels_eq_ok hrun

variable [DecidableEq F] {measurement : MeasurementParameters} {maxAccumulatorBytes : Nat}
  {shared : Option (SharedAdjacentAnalysis F normalized.dimensions)}

theorem accumulateWithAnalysis_eq (workers : Nat) :
    accumulateWithAnalysis normalized measurement maxAccumulatorBytes shared workers =
      accumulateWithAnalysis normalized measurement maxAccumulatorBytes shared 1 := by
  unfold accumulateWithAnalysis
  refine bind_congr_ok fun accumulatorBytes _ => ?_
  split
  · rfl
  refine bind_congr_ok fun pairs hpairs => bind_congr_ok fun classifier _ => ?_
  have hmerges := @merges_results _ _ classifier _ _ (adjacentPairs_eq_ok hpairs)
    (SharedAdjacentAnalysis.reach_changeMaskForPair (shared.filter (·.isCompatibleWith normalized measurement)))
  rw [mapReduce_eq workers hmerges, mapReduce_eq 1 hmerges]

/-- The numbers of a pixel are those of visits in the order of time. -/
structure Seen (normalized : NormalizedSequence F) (sums : PixelSums) (visits : List Visit) : Prop where
  eq : sums = .of visits
  ordered : visits.Pairwise fun visit visit' => visit.offset ≤ visit'.offset
  offset_le : ∀ visit ∈ visits, visit.offset ≤ timestampAt normalized (normalized.frames.length - 1) - timestampAt normalized 0

theorem accumulateWithAnalysis_seen {workers : Nat} {accumulators : List PixelSums}
    (h : accumulateWithAnalysis normalized measurement maxAccumulatorBytes shared workers = .ok accumulators) :
    ∀ sums ∈ accumulators, ∃ visits, Seen normalized sums visits := by
  unfold accumulateWithAnalysis at h
  obtain ⟨accumulatorBytes, -, hrest⟩ := bind_eq_ok.1 h
  split at hrest
  · exact absurd hrest (by simp)
  obtain ⟨pairs, hpairs, hrun⟩ := bind_eq_ok.1 hrest
  obtain ⟨classifier, -, hreduce⟩ := bind_eq_ok.1 hrun
  have hof := adjacentPairs_eq_ok hpairs
  have hbits := SharedAdjacentAnalysis.reach_changeMaskForPair (shared.filter (·.isCompatibleWith normalized measurement))
  rw [mapReduce_eq workers (merges_results hof hbits), foldRange_eq hof hbits le_rfl] at hreduce
  obtain ⟨-, rfl⟩ := checked_eq_ok hreduce
  intro sums hsums
  obtain ⟨place, -, rfl⟩ := List.mem_map.1 hsums
  refine ⟨_, rfl, (pairwise_chunkVisits hof _ _).filter _, fun visit hvisit => ?_⟩
  obtain ⟨-, k, -, hlt, hoffset⟩ := mem_chunkVisits hof (List.mem_of_mem_filter hvisit)
  rw [hoffset]
  exact Nat.sub_le_sub_right (timestampAt_le (by omega) (by omega)) _

end Workers

/-! ### Offsets -/

section Offsets

variable {normalized : NormalizedSequence F} {sums : PixelSums} {visits : List Visit}

theorem Seen.changes_le (h : Seen normalized sums visits) {change : Nat × Nat} (hchange : change ∈ changes visits) :
    change.1 ≤ timestampAt normalized (normalized.frames.length - 1) - timestampAt normalized 0 := by
  obtain ⟨visit, hvisit, hsquare⟩ := List.mem_filterMap.1 hchange
  obtain ⟨square, -, rfl⟩ := Option.map_eq_some_iff.1 hsquare
  exact h.offset_le visit hvisit

theorem Seen.pairwise_changes (h : Seen normalized sums visits) : (changes visits).Pairwise fun change change' => change.1 ≤ change'.1 := by
  refine List.pairwise_filterMap.2 (h.ordered.imp fun {visit visit'} hle change hchange change' hchange' => ?_)
  obtain ⟨square, -, rfl⟩ := Option.map_eq_some_iff.1 hchange
  obtain ⟨square', -, rfl⟩ := Option.map_eq_some_iff.1 hchange'
  exact hle

theorem Seen.first_le_last (h : Seen normalized sums visits) : sums.firstChangeOffset ≤ sums.lastChangeOffset := by
  obtain rfl := h.eq
  have hordered := h.pairwise_changes
  unfold PixelSums.of
  cases hchanges : changes visits with
  | nil => exact le_rfl
  | cons change rest =>
    rw [hchanges] at hordered
    rcases List.eq_nil_or_concat rest with rfl | ⟨front, last, rfl⟩
    · exact le_rfl
    · rw [List.concat_eq_append, ← List.cons_append, List.getLast?_concat]
      exact (List.pairwise_cons.1 hordered).1 last (by simp)

theorem Seen.time_le (h : Seen normalized sums visits) :
    sums.weightedTimeSum ≤
      sums.magnitudeSum * (timestampAt normalized (normalized.frames.length - 1) - timestampAt normalized 0) := by
  obtain rfl := h.eq
  have hle : ((changes visits).map fun change => change.1 * change.2).sum ≤ ((changes visits).map fun change =>
      change.2 * (timestampAt normalized (normalized.frames.length - 1) - timestampAt normalized 0)).sum :=
    List.sum_le_sum fun change hchange => by
      rw [Nat.mul_comm]
      exact Nat.mul_le_mul_left _ (h.changes_le hchange)
  rw [List.sum_map_mul_right] at hle
  exact hle

end Offsets

section Data

variable [DecidableEq F] {normalized : NormalizedSequence F} {parameters : DifferenceMapParameters}
  {shared : Option (SharedAdjacentAnalysis F normalized.dimensions)} {workers : Nat} {data : DifferenceMapData}

theorem build_eq (workers : Nat) : DifferenceMapData.build normalized parameters shared workers =
    DifferenceMapData.build normalized parameters shared 1 := by
  unfold DifferenceMapData.build
  rw [accumulateWithAnalysis_eq workers]

theorem build_seen (h : DifferenceMapData.build normalized parameters shared workers = .ok data) {pixel : Nat} {sums : PixelSums}
    (hsums : data.accumulators[pixel]? = some sums) : ∃ visits, Seen normalized sums visits := by
  obtain ⟨accumulators, haccumulators, hrest⟩ := bind_eq_ok.1 h
  obtain ⟨rangeDurationNs, -, hdata⟩ := bind_eq_ok.1 hrest
  cases hdata
  exact accumulateWithAnalysis_seen haccumulators sums (List.mem_of_getElem? hsums)

theorem build_rangeDurationNs (h : DifferenceMapData.build normalized parameters shared workers = .ok data) :
    data.rangeDurationNs = timestampAt normalized (normalized.frames.length - 1) - timestampAt normalized 0 := by
  obtain ⟨accumulators, -, hrest⟩ := bind_eq_ok.1 h
  obtain ⟨rangeDurationNs, hduration, hdata⟩ := bind_eq_ok.1 hrest
  cases hdata
  exact (checkedSub_eq_some.1 (orError_eq_ok hduration)).2.symm

theorem timingOffset_le (h : DifferenceMapData.build normalized parameters shared workers = .ok data) {pixel offset : Nat}
    (hoffset : data.timingOffset pixel = some offset) : offset ≤ data.rangeDurationNs := by
  unfold DifferenceMapData.timingOffset at hoffset
  split at hoffset
  · exact absurd hoffset (by simp)
  next sums hsums =>
    obtain ⟨visits, hseen⟩ := build_seen h hsums
    split at hoffset
    · exact absurd hoffset (by simp)
    split at hoffset
    · cases hoffset
      rw [build_rangeDurationNs h]
      exact Nat.div_le_of_le_mul hseen.time_le
    · exact absurd hoffset (by simp)

theorem isRepeatedChange_isSome (h : DifferenceMapData.build normalized parameters shared workers = .ok data) (pixel : Nat) :
    (data.isRepeatedChange pixel).isSome := by
  unfold DifferenceMapData.isRepeatedChange
  split
  · rfl
  next sums hsums =>
    obtain ⟨visits, hseen⟩ := build_seen h hsums
    split
    · rw [checkedSub_eq_some.2 ⟨hseen.first_le_last, rfl⟩]
      rfl
    · rfl

end Data

end Krometrail.Vision.DifferenceMap
