import Krometrail.Vision.Sweeps

/-!
# Measurement of a pair of frames

The classifier marks a pixel as changed where the weighted square of its differences is above the noise floor.  Measurement
counts the changed pixels, bounds them and sums their differences; a pixel below the floor adds to no sum.  Only a sum of
absolute differences above the greatest `u64` is refused.
-/

namespace Krometrail.Vision.Measure

open PackedBits Raster Results Sweeps

def redWeight : Nat := 13933

def greenWeight : Nat := 46871

def blueWeight : Nat := 4732

def weightSum : Nat := 65536

/-- `MeasurementParameters`; the noise floor is a `u16`. -/
structure MeasurementParameters where
  noiseFloor : Nat
  noiseFloor_le : noiseFloor ≤ 65535

def measurementOverflow : VisionError :=
  ⟨.resourceLimitExceeded, "visual measurement exceeds the supported integer representation"⟩

/-- `ok_or_else(measurement_overflow)`. -/
def orOverflow (value : Option Nat) : Except Fault Nat := orError measurementOverflow value

/-- A sum or a product in `u128`. -/
def checked128 (value : Nat) : Option Nat := if value < 2 ^ 128 then some value else none

def absDiff (a b : Nat) : Nat := if a < b then b - a else a - b

structure PixelChange where
  changed : Bool
  weightedSquare : Nat

structure PixelClassifier where
  threshold : Nat

def PixelClassifier.new (parameters : MeasurementParameters) : Except Fault PixelClassifier := do
  let threshold ← orOverflow ((checkedMul parameters.noiseFloor parameters.noiseFloor).bind fun value => checkedMul value weightSum)
  return ⟨threshold⟩

/-- `weighted_square_u64`. -/
def weightedSquare (before after : Rgb16) : Nat :=
  let red := absDiff before.red after.red
  let green := absDiff before.green after.green
  let blue := absDiff before.blue after.blue
  redWeight * red * red + greenWeight * green * green + blueWeight * blue * blue

def PixelClassifier.classify (classifier : PixelClassifier) (before after : Rgb16) : PixelChange :=
  { changed := decide (weightedSquare before after > classifier.threshold), weightedSquare := weightedSquare before after }

def linearLuminance (pixel : Rgb16) : Except Fault Nat := do
  let red ← orOverflow (checked128 (redWeight * pixel.red))
  let green ← orOverflow (checked128 (greenWeight * pixel.green))
  let blue ← orOverflow (checked128 (blueWeight * pixel.blue))
  let weighted ← orOverflow (((checked128 (red + green)).bind fun value => checked128 (value + blue)).bind fun value =>
    checked128 (value + weightSum / 2))
  return weighted / weightSum

/-- The sums and bounds of the changed pixels, and their bits where they are asked for. -/
structure Totals where
  changed : Nat
  absoluteSum : Nat
  luminanceSum : Nat
  weightedSquareSum : Nat
  minX : Nat
  minY : Nat
  maxX : Nat
  maxY : Nat
  changeBits : Option (List UInt8)

/-- `set_bit`, where change bits are asked for. -/
def setChangeBit (index : Nat) : Option (List UInt8) → Except Fault (Option (List UInt8))
  | none => .ok none
  | some bits => if index / 8 < bits.length then .ok (some (setBit bits index)) else .error .outOfBounds

/-- The loop body of `measure_pixels_with_classifier`, for an included pixel. -/
def measurePixel (classifier : PixelClassifier) (width : Nat) (totals : Totals) (x y : Nat) (_ : Option Bool) (before after : Rgb16) :
    Except Fault Totals :=
  let change := classifier.classify before after
  if change.changed then do
    let x ← orOverflow (if x ≤ u32Max then some x else none)
    let pixelIndex ← orOverflow (checkedAdd (y * (width * 3) / 3) x)
    let changeBits ← setChangeBit pixelIndex totals.changeBits
    let changed ← orOverflow (checked128 (totals.changed + 1))
    let channelSum ← orOverflow ((checked128 (absDiff before.red after.red + absDiff before.green after.green)).bind fun value =>
      checked128 (value + absDiff before.blue after.blue))
    let absoluteSum ← orOverflow (checked128 (totals.absoluteSum + channelSum))
    let weightedSquareSum ← orOverflow (checked128 (totals.weightedSquareSum + change.weightedSquare))
    let beforeLuma ← linearLuminance before
    let afterLuma ← linearLuminance after
    let luminanceSum ← orOverflow (checked128 (totals.luminanceSum + absDiff beforeLuma afterLuma))
    return { changed, absoluteSum, luminanceSum, weightedSquareSum, minX := min totals.minX x, minY := min totals.minY y,
             maxX := max totals.maxX x, maxY := max totals.maxY y, changeBits }
  else .ok totals

/-- A quotient in `u128`; a division by zero panics. -/
def divide (numerator denominator : Nat) : Except Fault Nat :=
  if denominator = 0 then .error .outOfBounds else .ok (numerator / denominator)

def roundRatio (numerator denominator : Nat) : Except Fault Nat := do
  let value ← orOverflow (checked128 (numerator + denominator / 2))
  divide value denominator

/-- The first loop of `integer_sqrt`: the digits that are left, where the bit is four to the power of one digit less. -/
def leadingDigits : Nat → Nat → Nat
  | 0, _ => 0
  | digits + 1, remainder => if remainder < 4 ^ digits then leadingDigits digits remainder else digits + 1

/-- The second loop of `integer_sqrt`. -/
def integerSqrtLoop : Nat → Nat → Nat → Nat
  | 0, _, result => result
  | digits + 1, remainder, result =>
    if result + 4 ^ digits ≤ remainder then integerSqrtLoop digits (remainder - (result + 4 ^ digits)) (result / 2 + 4 ^ digits)
    else integerSqrtLoop digits remainder (result / 2)

/-- `integer_sqrt` of a `u128`. -/
def integerSqrt (value : Nat) : Nat := integerSqrtLoop (leadingDigits 64 value) value 0

/-- `u16::try_from`. -/
def toU16 (value : Nat) : Except Fault Nat := orOverflow (if value ≤ 65535 then some value else none)

/-! ### Measurement -/

structure ChangedPixelProportion where
  changed : Nat
  compared : Nat
  compared_ne_zero : compared ≠ 0
  changed_le : changed ≤ compared

def ChangedPixelProportion.new (changed compared : Nat) : Result ChangedPixelProportion :=
  if h : compared ≠ 0 ∧ changed ≤ compared then .ok ⟨changed, compared, h.1, h.2⟩
  else .error ⟨.invalidParameter, "changed-pixel proportion requires a nonzero compared count and changed <= compared"⟩

structure MeasurementVector where
  absolutePixelDifference : Nat
  changedPixelProportion : ChangedPixelProportion
  changedRegionBounds : Option PixelRect
  meanLuminanceDifference : Nat
  meanColorDifference : Nat
  perceptualFrameDistance : Nat

/-- `u64::try_from`. -/
def toU64 (value : Nat) : Except Fault Nat := orOverflow (if value ≤ u64Max then some value else none)

/-- The length of a range of coordinates. -/
def extent (low high : Nat) : Except Fault Nat :=
  orOverflow (if low ≤ high then if high - low + 1 ≤ u32Max then some (high - low + 1) else none else none)

def changedRegion (totals : Totals) : Except Fault (Option PixelRect) :=
  if totals.changed = 0 then .ok none
  else do
    let width ← extent totals.minX totals.maxX
    let height ← extent totals.minY totals.maxY
    let rect ← (pixelRect totals.minX totals.minY width height).mapError Fault.error
    return some rect

/-- What follows the loop of `measure_pixels_with_classifier`. -/
def summarize (totals : Totals) (compared : Nat) : Except Fault MeasurementVector := do
  let changed ← toU64 totals.changed
  let changedRegionBounds ← changedRegion totals
  let meanLuminanceDifference ← toU16 (← roundRatio totals.luminanceSum compared)
  let colorDivisor ← orOverflow (checked128 (compared * 3))
  let meanColorDifference ← toU16 (← roundRatio totals.absoluteSum colorDivisor)
  let perceptualDivisor ← orOverflow (checked128 (weightSum * compared))
  let meanWeightedSquare ← divide totals.weightedSquareSum perceptualDivisor
  let perceptualFrameDistance ← toU16 (integerSqrt meanWeightedSquare)
  let absolutePixelDifference ← toU64 totals.absoluteSum
  let changedPixelProportion ← (ChangedPixelProportion.new changed compared).mapError Fault.error
  return { absolutePixelDifference, changedPixelProportion, changedRegionBounds, meanLuminanceDifference, meanColorDifference,
           perceptualFrameDistance }

/-- The totals before the first pixel. -/
def Totals.empty (changeBits : Option (List UInt8)) : Totals :=
  { changed := 0, absoluteSum := 0, luminanceSum := 0, weightedSquareSum := 0, minX := u32Max, minY := u32Max, maxX := 0, maxY := 0,
    changeBits }

/-- The measurement, and the change bits as they are left. -/
def measurePixelsWithClassifier (earlier later : List Nat) (dimensions : PixelDimensions) (analysisPixelCount : Nat)
    (mask : Option BinaryMask) (classifier : PixelClassifier) (changeBits : Option (List UInt8)) :
    Except Fault (MeasurementVector × Option (List UInt8)) := do
  let totals ← sweepPixels measurementOverflow (measurePixel classifier dimensions.width) dimensions earlier later mask none
    (Totals.empty changeBits)
  let vector ← summarize totals analysisPixelCount
  return (vector, totals.changeBits)

def measurePixels (earlier later : List Nat) (dimensions : PixelDimensions) (analysisPixelCount : Nat) (mask : Option BinaryMask)
    (parameters : MeasurementParameters) : Except Fault MeasurementVector := do
  let classifier ← PixelClassifier.new parameters
  let (vector, _) ← measurePixelsWithClassifier earlier later dimensions analysisPixelCount mask classifier none
  return vector

theorem leadingDigits_spec {digits value : Nat} (h : value < 4 ^ digits) : value < 4 ^ leadingDigits digits value := by
  induction digits with
  | zero => exact h
  | succ digits ih =>
    unfold leadingDigits
    split
    · next hlt => exact ih hlt
    · exact h

/-- With the root of the digits before as `root`, the loop finds the root of the whole value. -/
theorem integerSqrtLoop_eq {digits root remainder : Nat} (h : remainder < (2 * root + 1) * 4 ^ digits) :
    integerSqrtLoop digits remainder (root * 4 ^ digits) = Nat.sqrt (remainder + root * root * 4 ^ digits) := by
  induction digits generalizing root remainder with
  | zero =>
    rw [Nat.pow_zero, Nat.mul_one] at h
    simp only [integerSqrtLoop, Nat.pow_zero, Nat.mul_one]
    exact (Nat.eq_sqrt.2 ⟨by omega, by ring_nf; omega⟩)
  | succ digits ih =>
    have hhalf : root * 4 ^ (digits + 1) / 2 = 2 * root * 4 ^ digits := by
      rw [Nat.pow_succ, show root * (4 ^ digits * 4) = 2 * (2 * root * 4 ^ digits) by ring, Nat.mul_div_cancel_left _ (by decide)]
    have hsquare : root * root * 4 ^ (digits + 1) = 2 * root * (2 * root) * 4 ^ digits := by ring
    have htrial : root * 4 ^ (digits + 1) + 4 ^ digits = (2 * (2 * root) + 1) * 4 ^ digits := by ring
    have hbound : (2 * root + 1) * 4 ^ (digits + 1) = (2 * (2 * root + 1) + 1) * 4 ^ digits + (2 * (2 * root) + 1) * 4 ^ digits := by
      ring
    rw [integerSqrtLoop, hhalf, htrial, hsquare]
    split
    · next hle =>
      rw [show 2 * root * 4 ^ digits + 4 ^ digits = (2 * root + 1) * 4 ^ digits by ring, ih (by omega)]
      congr 1
      have : (2 * root + 1) * (2 * root + 1) * 4 ^ digits = 2 * root * (2 * root) * 4 ^ digits + (2 * (2 * root) + 1) * 4 ^ digits := by ring
      omega
    · next hlt => exact ih (not_le.1 hlt)

theorem integerSqrt_eq {value : Nat} (h : value < 2 ^ 128) : integerSqrt value = Nat.sqrt value := by
  have hleading : value < 4 ^ leadingDigits 64 value := leadingDigits_spec (by rwa [show 4 ^ 64 = 2 ^ 128 by norm_num])
  have : integerSqrtLoop (leadingDigits 64 value) value (0 * 4 ^ leadingDigits 64 value) = _ :=
    integerSqrtLoop_eq (by simpa using hleading)
  simpa [integerSqrt] using this

/-! ### What a pixel adds -/

/-- `linear_luminance`, as a number. -/
def luminance (pixel : Rgb16) : Nat :=
  (redWeight * pixel.red + greenWeight * pixel.green + blueWeight * pixel.blue + weightSum / 2) / weightSum

/-- The sum of the absolute differences of the channels. -/
def channelDifference (before after : Rgb16) : Nat :=
  absDiff before.red after.red + absDiff before.green after.green + absDiff before.blue after.blue

/-- The channels of a pixel are values of a `u16`. -/
def Rgb16.Bounded (pixel : Rgb16) : Prop := pixel.red ≤ 65535 ∧ pixel.green ≤ 65535 ∧ pixel.blue ≤ 65535

theorem absDiff_le {a b bound : Nat} (ha : a ≤ bound) (hb : b ≤ bound) : absDiff a b ≤ bound := by
  unfold absDiff
  split <;> omega

section Pixels

variable {before after pixel : Rgb16} (hbefore : Rgb16.Bounded before) (hafter : Rgb16.Bounded after)

include hbefore hafter

theorem channelDifference_le : channelDifference before after ≤ 196605 := by
  have hred := absDiff_le hbefore.1 hafter.1
  have hgreen := absDiff_le hbefore.2.1 hafter.2.1
  have hblue := absDiff_le hbefore.2.2 hafter.2.2
  unfold channelDifference
  omega

theorem weightedSquare_le : weightedSquare before after ≤ 65536 * (65535 * 65535) := by
  have hred := absDiff_le hbefore.1 hafter.1
  have hgreen := absDiff_le hbefore.2.1 hafter.2.1
  have hblue := absDiff_le hbefore.2.2 hafter.2.2
  have hredSquare := Nat.mul_le_mul hred hred
  have hgreenSquare := Nat.mul_le_mul hgreen hgreen
  have hblueSquare := Nat.mul_le_mul hblue hblue
  simp only [weightedSquare, redWeight, greenWeight, blueWeight, Nat.mul_assoc]
  omega

omit hbefore hafter

theorem orOverflow_some (value : Nat) : orOverflow (some value) = .ok value := rfl

theorem checked128_of_lt {value : Nat} (h : value < 2 ^ 128) : checked128 value = some value := if_pos h

theorem luminance_le (h : Rgb16.Bounded pixel) : luminance pixel ≤ 65535 := by
  obtain ⟨hred, hgreen, hblue⟩ := h
  simp only [luminance, redWeight, greenWeight, blueWeight, weightSum]
  omega

theorem linearLuminance_eq (h : Rgb16.Bounded pixel) : linearLuminance pixel = .ok (luminance pixel) := by
  obtain ⟨hred, hgreen, hblue⟩ := h
  have hlt (value : Nat) (hvalue : value ≤ 2 ^ 64) : value < 2 ^ 128 := hvalue.trans_lt (by norm_num)
  have hredProduct := checked128_of_lt (hlt (redWeight * pixel.red) (by unfold redWeight; omega))
  have hgreenProduct := checked128_of_lt (hlt (greenWeight * pixel.green) (by unfold greenWeight; omega))
  have hblueProduct := checked128_of_lt (hlt (blueWeight * pixel.blue) (by unfold blueWeight; omega))
  have hfirst := checked128_of_lt (hlt (redWeight * pixel.red + greenWeight * pixel.green) (by unfold redWeight greenWeight; omega))
  have hsecond := checked128_of_lt (hlt (redWeight * pixel.red + greenWeight * pixel.green + blueWeight * pixel.blue)
    (by unfold redWeight greenWeight blueWeight; omega))
  have hthird := checked128_of_lt (hlt (redWeight * pixel.red + greenWeight * pixel.green + blueWeight * pixel.blue + weightSum / 2)
    (by unfold redWeight greenWeight blueWeight weightSum; omega))
  rw [linearLuminance, hredProduct, orOverflow_some, ok_bind, hgreenProduct, orOverflow_some, ok_bind, hblueProduct,
    orOverflow_some, ok_bind, hfirst, Option.bind_some, hsecond, Option.bind_some, hthird, orOverflow_some, ok_bind]
  rfl

end Pixels

/-! ### What the loop leaves -/

section Loop

variable {classifier : PixelClassifier} {dimensions : PixelDimensions} {totals : Totals} {count : Nat}

/-- The totals with one more changed pixel. -/
def Totals.record (width : Nat) (totals : Totals) (x y : Nat) (before after : Rgb16) : Totals where
  changed := totals.changed + 1
  absoluteSum := totals.absoluteSum + channelDifference before after
  luminanceSum := totals.luminanceSum + absDiff (luminance before) (luminance after)
  weightedSquareSum := totals.weightedSquareSum + weightedSquare before after
  minX := min totals.minX x
  minY := min totals.minY y
  maxX := max totals.maxX x
  maxY := max totals.maxY y
  changeBits := totals.changeBits.map (setBit · (y * width + x))

/-- No sum is more than a number of pixels can make. -/
structure Totals.Bounded (totals : Totals) (count : Nat) : Prop where
  changed : totals.changed ≤ count
  absoluteSum : totals.absoluteSum ≤ count * 196605
  luminanceSum : totals.luminanceSum ≤ count * 65535
  weightedSquareSum : totals.weightedSquareSum ≤ count * (65536 * (65535 * 65535))

theorem Totals.Bounded.mono {more : Nat} (h : totals.Bounded count) (hle : count ≤ more) : totals.Bounded more :=
  ⟨h.changed.trans hle, h.absoluteSum.trans (Nat.mul_le_mul_right _ hle), h.luminanceSum.trans (Nat.mul_le_mul_right _ hle),
    h.weightedSquareSum.trans (Nat.mul_le_mul_right _ hle)⟩

theorem Totals.Bounded.record {x y width : Nat} {before after : Rgb16} (h : totals.Bounded count) (hbefore : Rgb16.Bounded before)
    (hafter : Rgb16.Bounded after) : (totals.record width x y before after).Bounded (count + 1) := by
  obtain ⟨hchanged, habsolute, hluminance, hweighted⟩ := h
  have hdifference := channelDifference_le hbefore hafter
  have hluma := absDiff_le (luminance_le hbefore) (luminance_le hafter)
  have hsquare := weightedSquare_le hbefore hafter
  constructor <;> simp only [Totals.record] <;> omega

theorem measurePixel_eq {x y : Nat} {changedByMask : Option Bool} {before after : Rgb16} (h : totals.Bounded count) (hcount : count ≤ 2 ^ 64)
    (hx : x < dimensions.width) (hy : y < dimensions.height)
    (hbits : ∀ bits ∈ totals.changeBits, dimensions.height * dimensions.width ≤ 8 * bits.length)
    (hbefore : Rgb16.Bounded before) (hafter : Rgb16.Bounded after) :
    measurePixel classifier dimensions.width totals x y changedByMask before after =
      .ok (if (classifier.classify before after).changed then totals.record dimensions.width x y before after else totals) := by
  have hdifference := channelDifference_le hbefore hafter
  have hluma := absDiff_le (luminance_le hbefore) (luminance_le hafter)
  have hsquare := weightedSquare_le hbefore hafter
  obtain ⟨hchanged, habsolute, hluminance, hweighted⟩ := h
  have hrow : (y + 1) * dimensions.width ≤ dimensions.height * dimensions.width := Nat.mul_le_mul_right _ hy
  rw [Nat.succ_mul] at hrow
  have hbytes := dimensions.bytes_le
  rw [Nat.mul_comm dimensions.width] at hbytes
  have hmax : u64Max = 2 ^ 64 - 1 := rfl
  have hlt (value : Nat) (hvalue : value ≤ 2 ^ 127) : value < 2 ^ 128 := hvalue.trans_lt (by norm_num)
  by_cases hclassified : (classifier.classify before after).changed = true
  · have hcolumn : x ≤ u32Max := hx.le.trans dimensions.width_le
    have hindex : checkedAdd (y * (dimensions.width * 3) / 3) x = some (y * dimensions.width + x) := by
      rw [← Nat.mul_assoc, Nat.mul_div_cancel _ (by decide)]
      exact checkedAdd_of_le (by omega)
    have hset : setChangeBit (y * dimensions.width + x) totals.changeBits =
        .ok (totals.changeBits.map (setBit · (y * dimensions.width + x))) := by
      cases hsome : totals.changeBits with
      | none => rfl
      | some bits =>
        have := hbits bits hsome
        exact if_pos (by omega)
    have hcounted := checked128_of_lt (hlt (totals.changed + 1) (by omega))
    have hpair := checked128_of_lt (hlt (absDiff before.red after.red + absDiff before.green after.green)
      (by unfold channelDifference at hdifference; omega))
    have hsum : checked128 (absDiff before.red after.red + absDiff before.green after.green + absDiff before.blue after.blue) =
        some (channelDifference before after) := checked128_of_lt (hlt (channelDifference before after) (by omega))
    have habsoluteSum := checked128_of_lt (hlt (totals.absoluteSum + channelDifference before after) (by omega))
    have hweightedSum := checked128_of_lt (hlt (totals.weightedSquareSum + weightedSquare before after) (by omega))
    have hluminanceSum := checked128_of_lt (hlt (totals.luminanceSum + absDiff (luminance before) (luminance after)) (by omega))
    simp only [measurePixel, if_pos hclassified, if_pos hcolumn, hindex, hset, hcounted, hpair, Option.bind_some, hsum, habsoluteSum,
      linearLuminance_eq hbefore, linearLuminance_eq hafter, hluminanceSum, orOverflow_some, ok_bind]
    rw [show (classifier.classify before after).weightedSquare = weightedSquare before after from rfl, hweightedSum, orOverflow_some,
      ok_bind]
    rfl
  · simp only [measurePixel, if_neg hclassified]

variable {F : Type} {earlier later : SequenceFrame F} {points : List (Nat × Nat)}

/-- The classifier marks the pixel at the point as changed. -/
def isChanged (classifier : PixelClassifier) (earlier later : SequenceFrame F) (point : Nat × Nat) : Bool :=
  (classifier.classify (earlier.pixel point.1 point.2) (later.pixel point.1 point.2)).changed

/-- The totals with one more changed point. -/
def recordPoint (earlier later : SequenceFrame F) (width : Nat) (totals : Totals) (point : Nat × Nat) : Totals :=
  totals.record width point.1 point.2 (earlier.pixel point.1 point.2) (later.pixel point.1 point.2)

theorem foldlM_measurePixel (hpoints : ∀ point ∈ points, point.1 < dimensions.width ∧ point.2 < dimensions.height)
    (h : totals.Bounded count) (hcount : count + points.length ≤ 2 ^ 64)
    (hbits : ∀ bits ∈ totals.changeBits, dimensions.height * dimensions.width ≤ 8 * bits.length) (change : Nat × Nat → Option Bool) :
    points.foldlM (fun totals point => measurePixel classifier dimensions.width totals point.1 point.2 (change point)
        (earlier.pixel point.1 point.2) (later.pixel point.1 point.2)) totals =
      .ok ((points.filter (isChanged classifier earlier later)).foldl (recordPoint earlier later dimensions.width) totals) := by
  induction points generalizing totals count with
  | nil => rfl
  | cons point points ih =>
    obtain ⟨⟨hx, hy⟩, hrest⟩ := List.forall_mem_cons.1 hpoints
    rw [List.length_cons] at hcount
    have hbefore := pixel_le earlier point.1 point.2
    have hafter := pixel_le later point.1 point.2
    have hstep : measurePixel classifier dimensions.width totals point.1 point.2 (change point) (earlier.pixel point.1 point.2)
        (later.pixel point.1 point.2) = .ok (if isChanged classifier earlier later point then
          recordPoint earlier later dimensions.width totals point else totals) := measurePixel_eq h (by omega) hx hy hbits hbefore hafter
    rw [List.foldlM_cons, hstep, ok_bind, List.filter_cons]
    by_cases hchanged : isChanged classifier earlier later point = true
    · rw [if_pos hchanged, if_pos hchanged, List.foldl_cons]
      refine ih hrest (h.record hbefore hafter) (by omega) fun bits hsome => ?_
      obtain ⟨before, hbefore, rfl⟩ := Option.map_eq_some_iff.1 hsome
      rw [length_setBit]
      exact hbits before hbefore
    · rw [if_neg hchanged, if_neg hchanged]
      exact ih hrest (h.mono (Nat.le_succ _)) (by omega) hbits

theorem foldl_recordPoint (width : Nat) (points : List (Nat × Nat)) (totals : Totals) :
    points.foldl (recordPoint earlier later width) totals =
      { changed := totals.changed + points.length
        absoluteSum := totals.absoluteSum +
          (points.map fun point => channelDifference (earlier.pixel point.1 point.2) (later.pixel point.1 point.2)).sum
        luminanceSum := totals.luminanceSum + (points.map fun point =>
          absDiff (luminance (earlier.pixel point.1 point.2)) (luminance (later.pixel point.1 point.2))).sum
        weightedSquareSum := totals.weightedSquareSum +
          (points.map fun point => weightedSquare (earlier.pixel point.1 point.2) (later.pixel point.1 point.2)).sum
        minX := points.foldl (fun low point => min low point.1) totals.minX
        minY := points.foldl (fun low point => min low point.2) totals.minY
        maxX := points.foldl (fun high point => max high point.1) totals.maxX
        maxY := points.foldl (fun high point => max high point.2) totals.maxY
        changeBits := totals.changeBits.map fun bits =>
          points.foldl (fun bits point => setBit bits (point.2 * width + point.1)) bits } := by
  induction points generalizing totals with
  | nil => simp
  | cons point points ih =>
    rw [List.foldl_cons, ih]
    simp only [recordPoint, Totals.record, List.length_cons, List.map_cons, List.sum_cons, List.foldl_cons, Option.map_map]
    rw [Totals.mk.injEq]
    exact ⟨by omega, Nat.add_assoc _ _ _, Nat.add_assoc _ _ _, Nat.add_assoc _ _ _, rfl, rfl, rfl, rfl, rfl⟩

theorem foldl_min_le {α : Type} (f : α → Nat) (l : List α) (low : Nat) :
    (l.foldl (fun low a => min low (f a)) low ≤ low ∧ ∀ a ∈ l, l.foldl (fun low a => min low (f a)) low ≤ f a) ∧
      (l.foldl (fun low a => min low (f a)) low = low ∨ ∃ a ∈ l, f a = l.foldl (fun low a => min low (f a)) low) := by
  induction l generalizing low with
  | nil => simp
  | cons b l ih =>
    obtain ⟨⟨hle, hall⟩, hattained⟩ := ih (min low (f b))
    rw [List.foldl_cons]
    refine ⟨⟨hle.trans (min_le_left _ _), List.forall_mem_cons.2 ⟨hle.trans (min_le_right _ _), hall⟩⟩, ?_⟩
    rcases hattained with heq | ⟨a, ha, heq⟩
    · rcases min_choice low (f b) with hmin | hmin
      · exact .inl (heq.trans hmin)
      · exact .inr ⟨b, List.mem_cons_self, (heq.trans hmin).symm⟩
    · exact .inr ⟨a, List.mem_cons_of_mem b ha, heq⟩

theorem le_foldl_max {α : Type} (f : α → Nat) (l : List α) (high : Nat) :
    (high ≤ l.foldl (fun high a => max high (f a)) high ∧ ∀ a ∈ l, f a ≤ l.foldl (fun high a => max high (f a)) high) ∧
      (l.foldl (fun high a => max high (f a)) high = high ∨ ∃ a ∈ l, f a = l.foldl (fun high a => max high (f a)) high) := by
  induction l generalizing high with
  | nil => simp
  | cons b l ih =>
    obtain ⟨⟨hle, hall⟩, hattained⟩ := ih (max high (f b))
    rw [List.foldl_cons]
    refine ⟨⟨(le_max_left _ _).trans hle, List.forall_mem_cons.2 ⟨(le_max_right _ _).trans hle, hall⟩⟩, ?_⟩
    rcases hattained with heq | ⟨a, ha, heq⟩
    · rcases max_choice high (f b) with hmax | hmax
      · exact .inl (heq.trans hmax)
      · exact .inr ⟨b, List.mem_cons_self, (heq.trans hmax).symm⟩
    · exact .inr ⟨a, List.mem_cons_of_mem b ha, heq⟩

theorem length_foldl_setBit (width : Nat) (points : List (Nat × Nat)) (bits : List UInt8) :
    (points.foldl (fun bits point => setBit bits (point.2 * width + point.1)) bits).length = bits.length := by
  rw [← List.foldl_map, length_setBits]

theorem bit_foldl_setBit {width index : Nat} {bits : List UInt8}
    (h : ∀ point ∈ points, (point.2 * width + point.1) / 8 < bits.length) :
    bit (points.foldl (fun bits point => setBit bits (point.2 * width + point.1)) bits) index =
      (bit bits index || decide (∃ point ∈ points, point.2 * width + point.1 = index)) := by
  induction points generalizing bits with
  | nil => simp
  | cons point points ih =>
    obtain ⟨hpoint, hrest⟩ := List.forall_mem_cons.1 h
    rw [List.foldl_cons, ih fun other hother => by rw [length_setBit]; exact hrest other hother, bit_setBit hpoint, Bool.or_assoc,
      ← Bool.decide_or]
    simp only [List.exists_mem_cons_iff]

theorem bounded_foldl {width : Nat} (h : totals.Bounded count) :
    (points.foldl (recordPoint earlier later width) totals).Bounded (count + points.length) := by
  induction points generalizing totals count with
  | nil => exact h
  | cons point points ih =>
    rw [List.foldl_cons, List.length_cons, Nat.add_comm points.length, ← Nat.add_assoc]
    exact ih (h.record (pixel_le earlier point.1 point.2) (pixel_le later point.1 point.2))

end Loop

section Means

variable {totals : Totals} {compared : Nat}

/-- The quotient, rounded half up. -/
def roundedMean (sum count : Nat) : Nat := (sum + count / 2) / count

theorem toU16_of_le {value : Nat} (h : value ≤ 65535) : toU16 value = .ok value := by
  rw [toU16, if_pos h]
  rfl

theorem roundRatio_eq {sum count : Nat} (hsum : sum ≤ count * 65535) (hpos : 0 < count) (hcount : count ≤ 2 ^ 66) :
    roundRatio sum count = .ok (roundedMean sum count) ∧ roundedMean sum count ≤ 65535 := by
  have hlt : sum + count / 2 < 2 ^ 128 := lt_of_le_of_lt (show sum + count / 2 ≤ 2 ^ 127 by omega) (by norm_num)
  have hmean : roundedMean sum count ≤ 65535 := by
    unfold roundedMean
    rw [Nat.div_le_iff_le_mul_add_pred hpos]
    have := Nat.mul_comm count 65535
    omega
  rw [roundRatio, checked128_of_lt hlt, orOverflow_some, ok_bind, divide, if_neg hpos.ne']
  exact ⟨rfl, hmean⟩

theorem perceptual_eq {sum : Nat} (hsum : sum ≤ compared * (65536 * (65535 * 65535))) (hpos : 0 < compared) :
    divide sum (weightSum * compared) = .ok (sum / (weightSum * compared)) ∧
      integerSqrt (sum / (weightSum * compared)) = Nat.sqrt (sum / (weightSum * compared)) ∧
      Nat.sqrt (sum / (weightSum * compared)) ≤ 65535 := by
  have hdivisor : 0 < weightSum * compared := Nat.mul_pos (by decide) hpos
  have hmean : sum / (weightSum * compared) ≤ 65535 * 65535 := by
    refine (Nat.div_le_div_right hsum).trans ?_
    rw [show compared * (65536 * (65535 * 65535)) = weightSum * compared * (65535 * 65535) by unfold weightSum; ring,
      Nat.mul_div_cancel_left _ hdivisor]
  refine ⟨if_neg hdivisor.ne', integerSqrt_eq (hmean.trans_lt (by norm_num)), ?_⟩
  exact (Nat.sqrt_le_sqrt hmean).trans (Nat.sqrt_eq 65535).le

theorem summarize_eq {region : Option PixelRect} (h : totals.Bounded compared) (hpos : 0 < compared) (hcount : compared ≤ 2 ^ 63)
    (hregion : changedRegion totals = .ok region) :
    summarize totals compared =
      if totals.absoluteSum ≤ u64Max then
        .ok { absolutePixelDifference := totals.absoluteSum
              changedPixelProportion := ⟨totals.changed, compared, hpos.ne', h.changed⟩
              changedRegionBounds := region
              meanLuminanceDifference := roundedMean totals.luminanceSum compared
              meanColorDifference := roundedMean totals.absoluteSum (compared * 3)
              perceptualFrameDistance := Nat.sqrt (totals.weightedSquareSum / (weightSum * compared)) }
      else .error (.error measurementOverflow) := by
  obtain ⟨hchanged, habsolute, hluminance, hweighted⟩ := h
  have hmax : u64Max = 2 ^ 64 - 1 := rfl
  have hsmall (value : Nat) (hvalue : value ≤ 2 ^ 80) : value < 2 ^ 128 := hvalue.trans_lt (by norm_num)
  have hchangedU64 : toU64 totals.changed = .ok totals.changed := by
    rw [toU64, if_pos (by omega)]
    rfl
  obtain ⟨hluminanceRatio, hluminanceMean⟩ := roundRatio_eq hluminance hpos (by omega)
  have habsoluteColor : totals.absoluteSum ≤ compared * 3 * 65535 := by
    rw [Nat.mul_assoc]
    exact habsolute
  obtain ⟨hcolorRatio, hcolorMean⟩ := roundRatio_eq habsoluteColor (Nat.mul_pos hpos (by decide)) (by omega)
  obtain ⟨hdivide, hroot, hdistance⟩ := perceptual_eq hweighted hpos
  have hcolorDivisor := checked128_of_lt (hsmall (compared * 3) (by omega))
  have hweight : weightSum * compared ≤ 2 ^ 80 := by
    rw [weightSum]
    omega
  have hperceptualDivisor := checked128_of_lt (hsmall (weightSum * compared) hweight)
  have hproportion : ChangedPixelProportion.new totals.changed compared = .ok ⟨totals.changed, compared, hpos.ne', hchanged⟩ :=
    dif_pos ⟨hpos.ne', hchanged⟩
  rw [summarize, hchangedU64, ok_bind, hregion, ok_bind, hluminanceRatio, ok_bind, toU16_of_le hluminanceMean,
    ok_bind, hcolorDivisor, orOverflow_some, ok_bind, hcolorRatio, ok_bind, toU16_of_le hcolorMean,
    ok_bind, hperceptualDivisor, orOverflow_some, ok_bind, hdivide, ok_bind, hroot, toU16_of_le hdistance,
    ok_bind, hproportion]
  by_cases hfits : totals.absoluteSum ≤ u64Max
  · rw [if_pos hfits, toU64, if_pos hfits, orOverflow_some, ok_bind]
    rfl
  · rw [if_neg hfits, toU64, if_neg hfits]
    rfl

end Means

/-! ### The specification -/

section Specification

variable {F : Type} {earlier later : SequenceFrame F} {dimensions : PixelDimensions} {mask : Option BinaryMask}
  {classifier : PixelClassifier}

def Covers (rect : PixelRect) (point : Nat × Nat) : Prop :=
  (rect.x ≤ point.1 ∧ point.1 < rect.x + rect.width) ∧ rect.y ≤ point.2 ∧ point.2 < rect.y + rect.height

/-- The rectangle covers the points, and lies in every rectangle that does. -/
def SmallestCover (rect : PixelRect) (points : List (Nat × Nat)) : Prop :=
  (∀ point ∈ points, Covers rect point) ∧
    ∀ other, (∀ point ∈ points, Covers other point) → ∀ point, Covers rect point → Covers other point

/-- The included points that the classifier marks as changed. -/
def changedPoints (classifier : PixelClassifier) (earlier later : SequenceFrame F) (mask : Option BinaryMask)
    (dimensions : PixelDimensions) : List (Nat × Nat) :=
  (includedPoints mask dimensions).filter (isChanged classifier earlier later)

/-- The sum of a difference over some points. -/
def differenceSum (difference : Rgb16 → Rgb16 → Nat) (earlier later : SequenceFrame F) (points : List (Nat × Nat)) : Nat :=
  (points.map fun point => difference (earlier.pixel point.1 point.2) (later.pixel point.1 point.2)).sum

/-- What a measurement says of the changed points, among so many compared ones. -/
structure Measured (earlier later : SequenceFrame F) (points : List (Nat × Nat)) (count : Nat) (vector : MeasurementVector) : Prop where
  changed : vector.changedPixelProportion.changed = points.length
  compared : vector.changedPixelProportion.compared = count
  bounds : match vector.changedRegionBounds with
    | none => points = []
    | some rect => points ≠ [] ∧ SmallestCover rect points
  absolute : vector.absolutePixelDifference = differenceSum channelDifference earlier later points
  luminance : vector.meanLuminanceDifference =
    roundedMean (differenceSum (fun before after => absDiff (luminance before) (luminance after)) earlier later points) count
  color : vector.meanColorDifference = roundedMean (differenceSum channelDifference earlier later points) (count * 3)
  perceptual : vector.perceptualFrameDistance = Nat.sqrt (differenceSum weightedSquare earlier later points / (weightSum * count))

theorem mem_includedPoints {point : Nat × Nat} : point ∈ includedPoints mask dimensions ↔
    (point.1 < dimensions.width ∧ point.2 < dimensions.height) ∧ included mask dimensions point = true := by
  simp only [includedPoints, raster, List.mem_filter, List.mem_flatMap, List.mem_map, List.mem_range]
  refine and_congr_left fun _ => ⟨?_, fun h => ⟨point.2, h.2, point.1, h.1, rfl⟩⟩
  rintro ⟨y, hy, x, hx, rfl⟩
  exact ⟨hx, hy⟩

theorem length_includedPoints_le (mask : Option BinaryMask) (dimensions : PixelDimensions) :
    (includedPoints mask dimensions).length ≤ 2 ^ 62 := by
  have hbytes := dimensions.bytes_le
  have hmax : u64Max = 2 ^ 64 - 1 := rfl
  have hle := List.length_filter_le (included mask dimensions) (raster dimensions.width dimensions.height Prod.mk)
  rw [length_raster, Nat.mul_comm dimensions.height] at hle
  exact hle.trans (by omega)

theorem changedRegion_eq {points : List (Nat × Nat)} {changeBits : Option (List UInt8)}
    (h : ∀ point ∈ points, point.1 < dimensions.width ∧ point.2 < dimensions.height) :
    ∃ region, changedRegion (points.foldl (recordPoint earlier later dimensions.width) (.empty changeBits)) = .ok region ∧
      match region with
      | none => points = []
      | some rect => points ≠ [] ∧ SmallestCover rect points := by
  have hwidth := dimensions.width_le
  have hheight := dimensions.height_le
  rw [foldl_recordPoint]
  simp only [changedRegion, Totals.empty, Nat.zero_add]
  by_cases hnil : points = []
  · exact ⟨none, if_pos (by simp [hnil]), hnil⟩
  · rw [if_neg (by simpa using hnil)]
    obtain ⟨⟨-, hlowX⟩, hminX⟩ := foldl_min_le (fun point : Nat × Nat => point.1) points u32Max
    obtain ⟨⟨-, hlowY⟩, hminY⟩ := foldl_min_le (fun point : Nat × Nat => point.2) points u32Max
    obtain ⟨⟨-, hhighX⟩, hmaxX⟩ := le_foldl_max (fun point : Nat × Nat => point.1) points 0
    obtain ⟨⟨-, hhighY⟩, hmaxY⟩ := le_foldl_max (fun point : Nat × Nat => point.2) points 0
    generalize points.foldl (fun low point => min low point.1) u32Max = minX at *
    generalize points.foldl (fun low point => min low point.2) u32Max = minY at *
    generalize points.foldl (fun high point => max high point.1) 0 = maxX at *
    generalize points.foldl (fun high point => max high point.2) 0 = maxY at *
    obtain ⟨witness, hwitness⟩ := List.exists_mem_of_ne_nil _ hnil
    have hinside := h witness hwitness
    have hcolumn := hlowX witness hwitness
    have hrow := hlowY witness hwitness
    have hlastColumn := hhighX witness hwitness
    have hlastRow := hhighY witness hwitness
    -- each bound is that of a point
    have hleft : ∃ point ∈ points, point.1 = minX := hminX.resolve_left (by omega)
    have htop : ∃ point ∈ points, point.2 = minY := hminY.resolve_left (by omega)
    have hright : ∃ point ∈ points, point.1 = maxX := hmaxX.elim (fun hzero => ⟨witness, hwitness, by omega⟩) id
    have hbottom : ∃ point ∈ points, point.2 = maxY := hmaxY.elim (fun hzero => ⟨witness, hwitness, by omega⟩) id
    obtain ⟨left, hleftMem, rfl⟩ := hleft
    obtain ⟨top, htopMem, rfl⟩ := htop
    obtain ⟨right, hrightMem, rfl⟩ := hright
    obtain ⟨bottom, hbottomMem, rfl⟩ := hbottom
    have hrightInside := h right hrightMem
    have hbottomInside := h bottom hbottomMem
    have hextent {low high : Nat} (hle : low ≤ high) (hlt : high < u32Max) : extent low high = .ok (high - low + 1) := by
      rw [extent, if_pos hle, if_pos (by omega)]
      rfl
    have hrect : pixelRect left.1 top.2 (right.1 - left.1 + 1) (bottom.2 - top.2 + 1) =
        .ok ⟨left.1, top.2, right.1 - left.1 + 1, bottom.2 - top.2 + 1⟩ := by
      rw [pixelRect, if_neg (by omega), if_neg (by omega)]
    refine ⟨some ⟨left.1, top.2, right.1 - left.1 + 1, bottom.2 - top.2 + 1⟩, ?_, hnil, fun point hpoint => ?_, fun other hother point hcovers => ?_⟩
    · rw [hextent (by omega) (by omega), ok_bind, hextent (by omega) (by omega), ok_bind, hrect]
      rfl
    · have hcolumns := hlowX point hpoint
      have hrows := hlowY point hpoint
      have hlastColumns := hhighX point hpoint
      have hlastRows := hhighY point hpoint
      exact ⟨⟨hcolumns, by dsimp only; omega⟩, hrows, by dsimp only; omega⟩
    · obtain ⟨⟨hcoverLeft, -⟩, -⟩ := hother left hleftMem
      obtain ⟨-, hcoverTop, -⟩ := hother top htopMem
      obtain ⟨⟨-, hcoverRight⟩, -⟩ := hother right hrightMem
      obtain ⟨-, -, hcoverBottom⟩ := hother bottom hbottomMem
      obtain ⟨⟨hx, hx'⟩, hy, hy'⟩ := hcovers
      dsimp only at hx hx' hy hy'
      exact ⟨⟨by omega, by omega⟩, by omega, by omega⟩

/-- Measurement counts, bounds and sums the changed pixels among the included ones, and is refused where the sum of their absolute
differences is above the greatest `u64`. -/
theorem measurement_exact (earlier later : SequenceFrame F) (mask : Option BinaryMask) (classifier : PixelClassifier)
    (changeBits : Option (List UInt8)) (hsize : later.dimensions = earlier.dimensions)
    (hmask : ∀ bitmap ∈ mask, bitmap.dimensions = earlier.dimensions) (hincluded : includedPoints mask earlier.dimensions ≠ [])
    (hbits : ∀ bits ∈ changeBits, earlier.dimensions.height * earlier.dimensions.width ≤ 8 * bits.length) :
    let changed := changedPoints classifier earlier later mask earlier.dimensions
    let compared := (includedPoints mask earlier.dimensions).length
    let run := measurePixelsWithClassifier earlier.linearRgb16 later.linearRgb16 earlier.dimensions compared mask classifier changeBits
    (differenceSum channelDifference earlier later changed ≤ u64Max →
      ∃ vector changeBits', run = .ok (vector, changeBits') ∧ Measured earlier later changed compared vector ∧
        (∀ bits ∈ changeBits, ∃ bits' ∈ changeBits', bits'.length = bits.length ∧ ∀ index, bit bits' index =
          (bit bits index || decide (∃ point ∈ changed, point.2 * earlier.dimensions.width + point.1 = index)))) ∧
    (u64Max < differenceSum channelDifference earlier later changed → run = .error (.error measurementOverflow)) := by
  have hinside : ∀ point ∈ includedPoints mask earlier.dimensions,
      point.1 < earlier.dimensions.width ∧ point.2 < earlier.dimensions.height := fun point hpoint => (mem_includedPoints.1 hpoint).1
  have hcount := length_includedPoints_le mask earlier.dimensions
  have hchanged : ∀ point ∈ changedPoints classifier earlier later mask earlier.dimensions,
      point.1 < earlier.dimensions.width ∧ point.2 < earlier.dimensions.height :=
    fun point hpoint => hinside point (List.mem_of_mem_filter hpoint)
  have hfewer : (changedPoints classifier earlier later mask earlier.dimensions).length ≤ (includedPoints mask earlier.dimensions).length :=
    List.length_filter_le _ _
  have hempty : (Totals.empty changeBits).Bounded 0 := ⟨le_rfl, le_rfl, le_rfl, le_rfl⟩
  obtain ⟨totals, htotals⟩ : ∃ totals, totals = (changedPoints classifier earlier later mask earlier.dimensions).foldl
      (recordPoint earlier later earlier.dimensions.width) (.empty changeBits) := ⟨_, rfl⟩
  have hloop : sweepPixels measurementOverflow (measurePixel classifier earlier.dimensions.width) earlier.dimensions earlier.linearRgb16
      later.linearRgb16 mask none (.empty changeBits) = .ok totals := by
    rw [sweepPixels_eq rfl hsize hmask (by simp), foldlM_measurePixel hinside hempty (by omega) hbits, htotals]
    rfl
  have hbounded : totals.Bounded (includedPoints mask earlier.dimensions).length := by
    rw [htotals]
    exact (bounded_foldl hempty).mono (by omega)
  obtain ⟨region, hregion, hcover⟩ : ∃ region, changedRegion totals = .ok region ∧ _ := htotals ▸ changedRegion_eq hchanged
  have hsummary := summarize_eq hbounded (List.length_pos_iff.2 hincluded) (by omega) hregion
  -- the sums that the loop leaves
  rw [foldl_recordPoint] at htotals
  have hcounted : totals.changed = (changedPoints classifier earlier later mask earlier.dimensions).length :=
    (congrArg Totals.changed htotals).trans (Nat.zero_add _)
  have hsum (difference : Rgb16 → Rgb16 → Nat) (sum : Nat) (h : sum = 0 + differenceSum difference earlier later
      (changedPoints classifier earlier later mask earlier.dimensions)) : sum = _ := h.trans (Nat.zero_add _)
  have habsolute := hsum channelDifference _ (congrArg Totals.absoluteSum htotals)
  have hluminance := hsum (fun before after => absDiff (luminance before) (luminance after)) _ (congrArg Totals.luminanceSum htotals)
  have hweighted := hsum weightedSquare _ (congrArg Totals.weightedSquareSum htotals)
  have hset := congrArg Totals.changeBits htotals
  intro changed compared run
  have hrun : run = (do return (← summarize totals compared, totals.changeBits)) := by
    simp only [run, measurePixelsWithClassifier, hloop, ok_bind]
  rw [hsummary, habsolute] at hrun
  refine ⟨fun hfits => ?_, fun hover => ?_⟩
  · rw [if_pos hfits, ok_bind] at hrun
    refine ⟨_, _, hrun, ⟨hcounted, rfl, hcover, rfl, congrArg (roundedMean · compared) hluminance, rfl,
      congrArg (fun sum => Nat.sqrt (sum / (weightSum * compared))) hweighted⟩, fun bits hsome => ?_⟩
    · obtain rfl := hsome
      refine ⟨changed.foldl (fun bits point => setBit bits (point.2 * earlier.dimensions.width + point.1)) bits, ?_, ?_, fun index => ?_⟩
      · rw [hset]
        rfl
      · exact length_foldl_setBit earlier.dimensions.width changed bits
      · refine bit_foldl_setBit fun point hpoint => ?_
        obtain ⟨hx, hy⟩ := hchanged point hpoint
        have hlength := hbits bits rfl
        have hrow : (point.2 + 1) * earlier.dimensions.width ≤ earlier.dimensions.height * earlier.dimensions.width :=
          Nat.mul_le_mul_right _ hy
        rw [Nat.succ_mul] at hrow
        omega
  · rw [if_neg (not_le.2 hover)] at hrun
    exact hrun

end Specification

def line : PixelDimensions := .sized 3 1 (by decide)

/-- Three pixels of one gray. -/
def grayLine (channel : Nat) (h : channel ≤ 65535) : SequenceFrame Unit where
  id := ()
  timestamp := 0
  dimensions := line
  linearRgb16 := List.replicate 9 channel
  timestamp_le := Nat.zero_le _
  length_linearRgb16 := rfl
  channel_le := by simpa using h

/-- The first and the last pixel. -/
def endsMask : BinaryMask := ⟨line, [0xa0], rfl⟩

/-- Two of the three pixels are compared, and both have changed. -/
theorem measurement_exact_ends : ∃ vector changeBits,
    measurePixelsWithClassifier (grayLine 0 (by decide)).linearRgb16 (grayLine 600 (by decide)).linearRgb16 line 2 (some endsMask) ⟨0⟩
      none = .ok (vector, changeBits) ∧
    Measured (grayLine 0 (by decide)) (grayLine 600 (by decide)) [(0, 0), (2, 0)] 2 vector := by
  obtain ⟨vector, changeBits, hrun, hmeasured, -⟩ := (measurement_exact (grayLine 0 (by decide)) (grayLine 600 (by decide)) (some endsMask)
    ⟨0⟩ none rfl (by simp [endsMask, grayLine]) (by decide) (by simp)).1 (by decide)
  exact ⟨vector, changeBits, hrun, hmeasured⟩

def defaultParameters : MeasurementParameters := ⟨512, by decide⟩

/-- A difference below the noise floor is in no sum. -/
theorem below_floor_left_out : ∃ classifier vector, PixelClassifier.new defaultParameters = .ok classifier ∧
    measurePixelsWithClassifier (grayLine 0 (by decide)).linearRgb16 (grayLine 1 (by decide)).linearRgb16 line 3 none classifier none =
      .ok (vector, none) ∧
    vector.absolutePixelDifference = 0 ∧
    differenceSum channelDifference (grayLine 0 (by decide)) (grayLine 1 (by decide)) (includedPoints none line) = 9 :=
  ⟨_, _, rfl, rfl, rfl, by decide⟩

end Krometrail.Vision.Measure
