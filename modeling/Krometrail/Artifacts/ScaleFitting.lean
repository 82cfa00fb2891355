import Krometrail.Artifacts.BoundedPlans

/-!
# Fitting the analysis scale

A request takes the frames that its generator may analyse, and a scale that is left open becomes the least reduction with
which the normalized frames fit in what the decoded frames and the outputs leave of the memory.
-/

namespace Krometrail.ScaleFitting

open Epochs Results

/-! ### Limits and requests -/

/-- The `ArtifactWorkLimits` with the frames that a generator may analyse. -/
structure WorkLimits extends ArtifactWorkLimits where
  maxSourceFrames : Nat

/-- `limit_exceeded`, without a suggestion. -/
def limitExceeded (subject actual limit recovery : String) : KrometrailError :=
  (KrometrailError.new .resourceLimitExceeded s!"{subject}: {actual} exceeds limit {limit}").withRecovery recovery

inductive FrameSelector
  | first | last
  | frame (id : FrameId)

inductive ArtifactSampling
  | exhaustive | uniformBounded

inductive FrequencyMode
  | count | magnitude | normalizedFrequency
  deriving DecidableEq

/-- An `ArtifactGeneratorRequest` with what planning reads of it. -/
inductive GeneratorRequest
  | storyboard (anchor : SessionTime) (tileLimit : Nat) (normalization : NormalizationRequest) (noiseFloor : Nat)
      (includeOrientation : Bool) (output : OutputLimitsRequest)
  | differenceMap (sampling : ArtifactSampling) (frequencyMode : FrequencyMode) (reference : FrameSelector)
      (normalization : NormalizationRequest) (noiseFloor : Nat) (output : OutputLimitsRequest)
  | regionFilmstrip (anchor : SessionTime) (tileLimit : Nat) (locator : Option FrameId) (displayScale : AnalysisScale)
      (output : OutputLimitsRequest)
  | motionHistory (sampling : ArtifactSampling) (reference : FrameSelector) (decayHalfLifeRanks : Nat)
      (normalization : NormalizationRequest) (noiseFloor : Nat) (output : OutputLimitsRequest)

namespace GeneratorRequest

/-- The request as its demand of memory is estimated. -/
def demand : GeneratorRequest → ArtifactGeneratorRequest
  | storyboard _ _ normalization noiseFloor includeOrientation output =>
    .storyboard normalization noiseFloor includeOrientation output
  | differenceMap _ _ _ normalization noiseFloor output => .differenceMap normalization noiseFloor output
  | regionFilmstrip _ _ _ _ output => .regionFilmstrip output
  | motionHistory _ _ _ normalization noiseFloor output => .motionHistory normalization noiseFloor output

def withNormalization (normalization : NormalizationRequest) : GeneratorRequest → GeneratorRequest
  | storyboard anchor tileLimit _ noiseFloor includeOrientation output =>
    .storyboard anchor tileLimit normalization noiseFloor includeOrientation output
  | differenceMap sampling frequencyMode reference _ noiseFloor output =>
    .differenceMap sampling frequencyMode reference normalization noiseFloor output
  | regionFilmstrip anchor tileLimit locator displayScale output => .regionFilmstrip anchor tileLimit locator displayScale output
  | motionHistory sampling reference decayHalfLifeRanks _ noiseFloor output =>
    .motionHistory sampling reference decayHalfLifeRanks normalization noiseFloor output

end GeneratorRequest

def validateScale : AnalysisScale → Result Unit
  | .identity | .fitLimits => .ok ()
  | .down factor =>
    refuse (¬ (2 ≤ factor ∧ factor ≤ 8)) (invalid "analysis downscale factor must be between two and eight")

def validateSelector (range : ResolvedRange) : FrameSelector → Result Unit
  | .first | .last => .ok ()
  | .frame id => refuse (id ∉ range.frameIds) (invalid "artifact reference frame is outside the resolved range")

/-- The checks of a request, but that of a filmstrip's mask. -/
def GeneratorRequest.validate (range : ResolvedRange) : GeneratorRequest → Result Unit
  | .storyboard anchor tileLimit normalization _ _ _ => do
    refuse (¬ (3 ≤ tileLimit ∧ tileLimit ≤ 12)) (invalid "storyboard tile limit must be between three and twelve")
    refuse (anchor ∉ range.resolvedRange) (invalid "storyboard anchor is outside the resolved range")
    validateScale normalization.scale
  | .differenceMap _ _ reference normalization _ _ => do
    validateSelector range reference
    validateScale normalization.scale
  | .regionFilmstrip anchor tileLimit locator displayScale _ => do
    refuse (¬ (1 ≤ tileLimit ∧ tileLimit ≤ 24)) (invalid "filmstrip tile limit must be between one and twenty-four")
    refuse (anchor ∉ range.resolvedRange) (invalid "filmstrip anchor is outside the resolved range")
    refuse (∃ id ∈ locator, id ∉ range.frameIds) (invalid "filmstrip locator frame is outside the resolved range")
    validateScale displayScale
    refuse (displayScale = .fitLimits) (invalid "filmstrip display scale must be explicit")
  | .motionHistory _ reference decayHalfLifeRanks normalization _ _ => do
    validateSelector range reference
    validateScale normalization.scale
    refuse (decayHalfLifeRanks = 0) (invalid "motion-history half-life ranks must be non-zero")

def analysisEffectiveMaxFrames (plan : SourcePlan) (limits : WorkLimits) : Result Nat := do
  let perFrame ← plan.frames.foldlM (fun maximum frame => do return max maximum (← decodedLen frame)) 0
  return max (min limits.maxSourceFrames (limits.maxDecodedBytes / max perFrame 1)) 1

def explicitReferenceFrame : FrameSelector → Option FrameId
  | .frame id => some id
  | .first | .last => none

def planForAnalysisSampling (sampling : ArtifactSampling) (plan : SourcePlan) (limits : WorkLimits) (effectiveMaxFrames : Nat)
    (includeFrameId : Option FrameId) : Result SourcePlan :=
  match sampling with
  | .exhaustive =>
    if plan.frames.length > effectiveMaxFrames then
      .error (limitExceeded "exhaustive analysis source plan"
        s!"{plan.frames.length} frames and {plan.decodedBytes} decoded bytes"
        s!"{limits.maxSourceFrames} frames and {limits.maxDecodedBytes} decoded bytes"
        s!"narrow the resolved range so at most {limits.maxSourceFrames} frames fall inside it, or use uniform_bounded sampling which analyzes a bounded subset of any range")
    else .ok plan
  | .uniformBounded => plan.bounded effectiveMaxFrames includeFrameId

def generatorPlan (generator : GeneratorRequest) (plan : SourcePlan) (limits : WorkLimits) : Result SourcePlan :=
  match generator with
  | .storyboard _ tileLimit _ _ _ _ => plan.bounded tileLimit none
  | .regionFilmstrip _ tileLimit locator _ _ => plan.bounded tileLimit locator
  | .differenceMap sampling frequencyMode reference _ _ _ => do
    let effectiveMaxFrames ← analysisEffectiveMaxFrames plan limits
    if (frequencyMode = .count ∨ frequencyMode = .magnitude) ∧ plan.frames.length > effectiveMaxFrames then
      .error (limitExceeded "count-mode and magnitude-mode difference map source frames" s!"{plan.frames.length}"
        s!"{effectiveMaxFrames}" "narrow the range, or switch to frequency_mode normalized_frequency")
    else planForAnalysisSampling sampling plan limits effectiveMaxFrames (explicitReferenceFrame reference)
  | .motionHistory sampling reference _ _ _ _ => do
    let effectiveMaxFrames ← analysisEffectiveMaxFrames plan limits
    planForAnalysisSampling sampling plan limits effectiveMaxFrames (explicitReferenceFrame reference)

def planForGenerator (generator : GeneratorRequest) (plan : SourcePlan) (limits : WorkLimits) : Result SourcePlan := do
  let bounded ← generatorPlan generator plan limits
  if bounded.decodedBytes > limits.maxDecodedBytes then
    .error (limitExceeded "decoded source-frame bytes" s!"{bounded.decodedBytes}" s!"{limits.maxDecodedBytes}"
      "narrow the range; normalization.scale does not reduce this limit because source frames are decoded at their original dimensions before normalization")
  else .ok bounded

def saturatingMul (a b : Nat) : Nat := min (a * b) u64Max

def admissibleDownscaleFactors (width height : Nat) : List Nat := (commonDownscaleFactors width height).filter (· ≤ 8)

/-- The scale that a factor stands for. -/
def scaleOf (factor : Nat) : AnalysisScale := if factor = 1 then .identity else .down factor

section Fitting

variable (request : NormalizationRequest) (plan : SourcePlan) (limits : WorkLimits)

def validateNormalizedLimitWithBudget (normalizedBudget : Nat) : Result Unit := do
  let (width, height) ← normalizedDimensions request plan.descriptor.image.width.toNat plan.descriptor.image.height.toNat
  let retained ← okOr ((checkedMul (width * height) 6).bind fun bytes => checkedMul bytes plan.frames.length)
    (limitError "normalized retained bytes overflow")
  if width * height > limits.maxPixelsPerFrame ∨ retained > normalizedBudget then
    .error (limitError "normalized sequence exceeds configured pixel or byte limits")
  else .ok ()

/-- What the decoded frames and the outputs leave for the normalized frames. -/
def normalizedBudget (reservedOutputBytes : Nat) : Option Nat :=
  (((checkedSub limits.maxCombinedRequestBytes plan.decodedBytes).bind fun remaining =>
    checkedSub remaining reservedOutputBytes)).map fun remaining => min remaining limits.maxNormalizedBytes

def fitScale (reservedOutputBytes : Nat) : Result AnalysisScale := do
  let budget ← okOr (normalizedBudget plan limits reservedOutputBytes)
    (limitError "decoded frames and bounded output exceed the combined memory limit")
  let (width, height) := cropAdjustedDimensions request plan.descriptor.image.width.toNat plan.descriptor.image.height.toNat
  let factors := admissibleDownscaleFactors width height
  match (1 :: factors).find? fun factor =>
      (validateNormalizedLimitWithBudget { request with scale := scaleOf factor } plan limits budget).isOk with
  | some factor => .ok (scaleOf factor)
  | none =>
    let fallback := factors.getLast?.getD 1
    let pixels := saturatingMul (width / fallback) (height / fallback)
    let retained := saturatingMul (saturatingMul pixels 6) plan.frames.length
    .error (limitExceeded "normalized analysis" s!"{plan.frames.length} frames require {retained} bytes" s!"{budget} bytes"
      "narrow the range, crop the analysis region, or pass an explicit smaller normalization.scale")

end Fitting

def clampTime (value start stop : SessionTime) : SessionTime := max start (min value stop)

def materializeEpochAnchor (generator : GeneratorRequest) (anchorWasDefaulted : Bool) (plan : SourcePlan) :
    Result GeneratorRequest :=
  match plan.frames.head?, plan.frames.getLast? with
  | some first, some last =>
    match generator with
    | .storyboard anchor tileLimit normalization noiseFloor includeOrientation output =>
      .ok (.storyboard (if anchorWasDefaulted then time first else clampTime anchor (time first) (time last)) tileLimit normalization
        noiseFloor includeOrientation output)
    | .regionFilmstrip anchor tileLimit locator displayScale output =>
      let located := (locator.bind fun id => plan.frames.find? fun frame => decide (frame.metadata.id = id)).getD first
      .ok (.regionFilmstrip (if anchorWasDefaulted then time located else anchor) tileLimit locator displayScale output)
    | generator => .ok generator
  | _, _ => .error (generationError "artifact visual epoch has no source frames")

/-- The scale of a request, fitted where it is open. -/
def effectiveScale (normalization : NormalizationRequest) (plan : SourcePlan) (limits : WorkLimits) (reservedOutputBytes : Nat) :
    Result AnalysisScale :=
  if normalization.scale = .fitLimits then fitScale normalization plan limits reservedOutputBytes else .ok normalization.scale

def materializeEffectiveScales (generator : GeneratorRequest) (plan : SourcePlan) (limits : WorkLimits) :
    Result GeneratorRequest := do
  let reserved ← reservedOutputBytes generator.demand limits.toArtifactWorkLimits
  match generator.demand.normalizationRequest with
  | none => return generator
  | some normalization => do
    let scale ← effectiveScale normalization plan limits reserved
    validateNormalizedLimitWithBudget { normalization with scale } plan limits limits.maxNormalizedBytes
    return generator.withNormalization { normalization with scale }

/-- `prepare_generator`, without the canonical parameters of the outputs. -/
def prepareGenerator (generator : GeneratorRequest) (anchorWasDefaulted : Bool) (plan : SourcePlan) (limits : WorkLimits) :
    Result GeneratorRequest := do
  let anchored ← materializeEpochAnchor generator anchorWasDefaulted plan
  let scaled ← materializeEffectiveScales anchored plan limits
  validateOutputLimits scaled.demand limits.toArtifactWorkLimits
  return scaled

theorem isOk_iff {result : Result Unit} : result.isOk = true ↔ result = .ok () := by
  rcases result with _ | ⟨⟩ <;> simp [Except.isOk, Except.toBool]

/-! ### The least factor that fits -/

section Least

/-- Both sides can be divided by the factor, which is one or a factor of requests. -/
def Admissible (width height factor : Nat) : Prop := (1 ≤ factor ∧ factor ≤ 8) ∧ factor ∣ width ∧ factor ∣ height

/-- The reduced frames keep to a limit of pixels and to a budget of bytes. -/
def Fits (width height frameCount maxPixels budget factor : Nat) : Prop :=
  width / factor * (height / factor) ≤ maxPixels ∧ width / factor * (height / factor) * 6 * frameCount ≤ budget

variable {width height factor : Nat}

theorem mem_factors : factor ∈ 1 :: admissibleDownscaleFactors width height ↔ Admissible width height factor := by
  simp only [admissibleDownscaleFactors, commonDownscaleFactors, List.mem_cons, List.mem_filter, List.mem_range, Bool.and_eq_true,
    decide_eq_true_eq, beq_iff_eq, ← Nat.dvd_iff_mod_eq_zero, Nat.dvd_gcd_iff, Admissible]
  constructor
  · rintro (rfl | ⟨⟨-, hlow, hdvd⟩, hhigh⟩)
    · exact ⟨⟨le_rfl, by omega⟩, one_dvd _, one_dvd _⟩
    · exact ⟨⟨by omega, hhigh⟩, hdvd⟩
  · rintro ⟨⟨hlow, hhigh⟩, hdvd⟩
    by_cases hone : factor = 1
    · exact .inl hone
    · exact .inr ⟨⟨by omega, by omega, hdvd⟩, hhigh⟩

theorem pairwise_factors (width height : Nat) : (1 :: admissibleDownscaleFactors width height).Pairwise (· < ·) := by
  refine List.pairwise_cons.2 ⟨fun factor hfactor => ?_, (List.pairwise_lt_range.filter _).filter _⟩
  simp only [admissibleDownscaleFactors, commonDownscaleFactors, List.mem_filter, Bool.and_eq_true, decide_eq_true_eq] at hfactor
  omega

variable {request : NormalizationRequest} {plan : SourcePlan} {limits : WorkLimits} {budget : Nat}

/-- The sides of the frames that are normalized. -/
def croppedWidth (request : NormalizationRequest) (plan : SourcePlan) : Nat :=
  (cropAdjustedDimensions request plan.descriptor.image.width.toNat plan.descriptor.image.height.toNat).1

def croppedHeight (request : NormalizationRequest) (plan : SourcePlan) : Nat :=
  (cropAdjustedDimensions request plan.descriptor.image.width.toNat plan.descriptor.image.height.toNat).2

theorem normalizedDimensions_scaleOf (h : Admissible (croppedWidth request plan) (croppedHeight request plan) factor) :
    normalizedDimensions { request with scale := scaleOf factor } plan.descriptor.image.width.toNat plan.descriptor.image.height.toNat =
      .ok (croppedWidth request plan / factor, croppedHeight request plan / factor) := by
  obtain ⟨-, hwidth, hheight⟩ := h
  unfold normalizedDimensions scaleOf
  by_cases hone : factor = 1
  · subst hone
    simp [croppedWidth, croppedHeight, cropAdjustedDimensions]
  · rw [if_neg hone]
    exact if_pos ⟨Nat.mod_eq_zero_of_dvd hwidth, Nat.mod_eq_zero_of_dvd hheight⟩

theorem validateNormalizedLimitWithBudget_eq_ok : validateNormalizedLimitWithBudget request plan limits budget = .ok () ↔
    ∃ width height, normalizedDimensions request plan.descriptor.image.width.toNat plan.descriptor.image.height.toNat = .ok (width, height) ∧
      width * height * 6 * plan.frames.length ≤ u64Max ∧ width * height * 6 ≤ u64Max ∧ width * height ≤ limits.maxPixelsPerFrame ∧
      width * height * 6 * plan.frames.length ≤ budget := by
  simp only [validateNormalizedLimitWithBudget, bind_eq_ok, okOr_eq_ok, Option.bind_eq_some_iff, checkedMul_eq_some, Prod.exists]
  refine exists₂_congr fun width height => and_congr_right fun _ => ?_
  constructor
  · rintro ⟨retained, ⟨_, ⟨hframe, rfl⟩, hall, rfl⟩, h⟩
    split at h
    · cases h
    · next hin => exact ⟨hall, hframe, by omega, by omega⟩
  · rintro ⟨hall, hframe, hpixels, hbudget⟩
    exact ⟨_, ⟨_, ⟨hframe, rfl⟩, hall, rfl⟩, if_neg (by omega)⟩

theorem validate_scaleOf (h : Admissible (croppedWidth request plan) (croppedHeight request plan) factor) (hframes : plan.frames ≠ [])
    (hbudget : budget ≤ u64Max) :
    (validateNormalizedLimitWithBudget { request with scale := scaleOf factor } plan limits budget).isOk = true ↔
      Fits (croppedWidth request plan) (croppedHeight request plan) plan.frames.length limits.maxPixelsPerFrame budget factor := by
  have hlength := List.length_pos_iff.2 hframes
  rw [isOk_iff]
  simp only [validateNormalizedLimitWithBudget_eq_ok, normalizedDimensions_scaleOf h, Except.ok.injEq, Prod.mk.injEq]
  constructor
  · rintro ⟨width, height, ⟨rfl, rfl⟩, -, -, hpixels, hfits⟩
    exact ⟨hpixels, hfits⟩
  · rintro ⟨hpixels, hfits⟩
    have hframe := Nat.le_mul_of_pos_right (croppedWidth request plan / factor * (croppedHeight request plan / factor) * 6) hlength
    exact ⟨_, _, ⟨rfl, rfl⟩, hfits.trans hbudget, (hframe.trans hfits).trans hbudget, hpixels, hfits⟩

variable {reserved : Nat}

theorem normalizedBudget_eq_some : normalizedBudget plan limits reserved = some budget ↔
    plan.decodedBytes + reserved ≤ limits.maxCombinedRequestBytes ∧
      budget = min (limits.maxCombinedRequestBytes - plan.decodedBytes - reserved) limits.maxNormalizedBytes := by
  simp only [normalizedBudget, Option.map_eq_some_iff, Option.bind_eq_some_iff, checkedSub_eq_some]
  constructor
  · rintro ⟨_, ⟨_, ⟨hdecoded, rfl⟩, hreserved, rfl⟩, rfl⟩
    exact ⟨by omega, rfl⟩
  · rintro ⟨hroom, rfl⟩
    exact ⟨_, ⟨_, ⟨by omega, rfl⟩, by omega, rfl⟩, rfl⟩

/-- The factors that a request may be fitted with. -/
def fittingFactors (request : NormalizationRequest) (plan : SourcePlan) (limits : WorkLimits) (budget : Nat) : Set Nat :=
  {factor | Admissible (croppedWidth request plan) (croppedHeight request plan) factor ∧
    Fits (croppedWidth request plan) (croppedHeight request plan) plan.frames.length limits.maxPixelsPerFrame budget factor}

theorem fitScale_of_budget (hframes : plan.frames ≠ []) (hlimit : limits.maxNormalizedBytes ≤ u64Max)
    (hbudget : normalizedBudget plan limits reserved = some budget) :
    (∃ factor, IsLeast (fittingFactors request plan limits budget) factor ∧
      fitScale request plan limits reserved = .ok (scaleOf factor)) ∨
    fittingFactors request plan limits budget = ∅ ∧
      ∃ error, fitScale request plan limits reserved = .error error ∧ error.code = .resourceLimitExceeded := by
  have hle : budget ≤ u64Max := by
    rw [(normalizedBudget_eq_some.1 hbudget).2]
    exact (min_le_right _ _).trans hlimit
  have hmem (factor : Nat) : factor ∈ fittingFactors request plan limits budget ↔
      factor ∈ 1 :: admissibleDownscaleFactors (croppedWidth request plan) (croppedHeight request plan) ∧
        (validateNormalizedLimitWithBudget { request with scale := scaleOf factor } plan limits budget).isOk = true :=
    (and_congr_right fun hadmissible => (validate_scaleOf hadmissible hframes hle).symm).trans
      (and_congr_left fun _ => mem_factors.symm)
  simp only [fitScale, hbudget, okOr_some, ok_bind]
  cases hfound : (1 :: admissibleDownscaleFactors (croppedWidth request plan) (croppedHeight request plan)).find? fun factor =>
      (validateNormalizedLimitWithBudget { request with scale := scaleOf factor } plan limits budget).isOk with
  | some factor =>
    refine .inl ⟨factor, ?_, ?_⟩
    · rw [show fittingFactors request plan limits budget = _ from Set.ext hmem]
      exact Sorting.isLeast_of_find? (pairwise_factors _ _) hfound
    · simp only [croppedWidth, croppedHeight] at hfound
      rw [hfound]
  | none =>
    refine .inr ⟨Set.eq_empty_iff_forall_notMem.2 fun factor hfactor => ?_, ?_⟩
    · obtain ⟨hlisted, hok⟩ := (hmem factor).1 hfactor
      exact List.find?_eq_none.1 hfound factor hlisted hok
    · simp only [croppedWidth, croppedHeight] at hfound
      rw [hfound]
      exact ⟨_, rfl, rfl⟩

end Least

section Prepared

variable {generator prepared : GeneratorRequest} {plan bounded : SourcePlan} {limits : WorkLimits} {range : ResolvedRange}
  {normalization : NormalizationRequest} {anchorWasDefaulted : Bool}

theorem length_bounded {maxFrames : Nat} {includeFrameId : Option FrameId} (hplan : plan.WellFormed) (hpos : 1 ≤ maxFrames)
    (h : plan.bounded maxFrames includeFrameId = .ok bounded) : bounded.frames.length ≤ maxFrames := by
  by_cases hmore : maxFrames < plan.frames.length
  · obtain ⟨indices, bounded', hrun, hsampled, hto⟩ := bounded_spec includeFrameId hplan hpos hmore
    obtain rfl : bounded' = bounded := Except.ok.inj (hrun.symm.trans h)
    rw [hto.frames, Picks.length_pick hsampled.lt, hsampled.length]
  · rw [SourcePlan.bounded, if_pos (not_lt.1 hmore)] at h
    exact Except.ok.inj h ▸ not_lt.1 hmore

theorem length_planForAnalysisSampling {sampling : ArtifactSampling} {effectiveMaxFrames : Nat} {includeFrameId : Option FrameId}
    (hplan : plan.WellFormed) (hpos : 1 ≤ effectiveMaxFrames)
    (h : planForAnalysisSampling sampling plan limits effectiveMaxFrames includeFrameId = .ok bounded) :
    bounded.frames.length ≤ effectiveMaxFrames := by
  cases sampling with
  | exhaustive =>
    simp only [planForAnalysisSampling] at h
    split at h
    · cases h
    · next hin => exact Except.ok.inj h ▸ not_lt.1 hin
  | uniformBounded => exact length_bounded hplan hpos h

theorem analysisEffectiveMaxFrames_le {effectiveMaxFrames : Nat} (hlimit : 1 ≤ limits.maxSourceFrames)
    (h : analysisEffectiveMaxFrames plan limits = .ok effectiveMaxFrames) :
    1 ≤ effectiveMaxFrames ∧ effectiveMaxFrames ≤ limits.maxSourceFrames := by
  simp only [analysisEffectiveMaxFrames, bind_eq_ok, pure_eq_ok] at h
  obtain ⟨perFrame, -, rfl⟩ := h
  exact ⟨le_max_right _ _, max_le (min_le_left _ _) hlimit⟩

theorem length_planForGenerator (hplan : plan.WellFormed) (hlimit : 12 ≤ limits.maxSourceFrames)
    (hvalid : generator.validate range = .ok ()) (hnormalizes : generator.demand.normalizationRequest ≠ none)
    (h : planForGenerator generator plan limits = .ok bounded) : bounded.frames.length ≤ limits.maxSourceFrames := by
  simp only [planForGenerator, bind_eq_ok] at h
  obtain ⟨made, hmade, h⟩ := h
  split at h
  · cases h
  cases h
  cases generator with
  | storyboard anchor tileLimit normalization noiseFloor includeOrientation output =>
    simp only [GeneratorRequest.validate, bind_eq_ok, refuse_eq_ok, not_not] at hvalid
    obtain ⟨-, ⟨hlow, hhigh⟩, -⟩ := hvalid
    exact (length_bounded hplan (by omega) hmade).trans (by omega)
  | differenceMap sampling frequencyMode reference normalization noiseFloor output =>
    simp only [generatorPlan, bind_eq_ok] at hmade
    obtain ⟨effectiveMaxFrames, heffective, hmade⟩ := hmade
    obtain ⟨hpos, hle⟩ := analysisEffectiveMaxFrames_le (by omega) heffective
    split at hmade
    · cases hmade
    · exact (length_planForAnalysisSampling hplan hpos hmade).trans hle
  | regionFilmstrip => exact absurd rfl hnormalizes
  | motionHistory sampling reference decayHalfLifeRanks normalization noiseFloor output =>
    simp only [generatorPlan, bind_eq_ok] at hmade
    obtain ⟨effectiveMaxFrames, heffective, hmade⟩ := hmade
    obtain ⟨hpos, hle⟩ := analysisEffectiveMaxFrames_le (by omega) heffective
    exact (length_planForAnalysisSampling hplan hpos hmade).trans hle

theorem demand_materializeEpochAnchor {anchored : GeneratorRequest}
    (h : materializeEpochAnchor generator anchorWasDefaulted plan = .ok anchored) : anchored.demand = generator.demand := by
  unfold materializeEpochAnchor at h
  split at h
  · cases generator <;> exact Except.ok.inj h ▸ rfl
  · cases h

theorem demand_withNormalization (h : generator.demand.normalizationRequest ≠ none) :
    (generator.withNormalization normalization).demand.normalizationRequest = some normalization := by
  cases generator with
  | regionFilmstrip => exact absurd rfl h
  | storyboard | differenceMap | motionHistory => rfl

theorem prepareGenerator_normalization (h : prepareGenerator generator anchorWasDefaulted plan limits = .ok prepared)
    (hnormalization : prepared.demand.normalizationRequest = some normalization) :
    generator.demand.normalizationRequest ≠ none ∧
      validateNormalizedLimitWithBudget normalization plan limits limits.maxNormalizedBytes = .ok () := by
  simp only [prepareGenerator, materializeEffectiveScales, bind_eq_ok, pure_eq_ok] at h
  obtain ⟨anchored, hanchored, scaled, ⟨reserved, -, hscaled⟩, -, -, rfl⟩ := h
  rw [← demand_materializeEpochAnchor hanchored]
  split at hscaled
  · next hnone =>
    obtain rfl := pure_eq_ok.1 hscaled
    cases hnone.symm.trans hnormalization
  · next requested hrequested =>
    simp only [bind_eq_ok, pure_eq_ok] at hscaled
    obtain ⟨scale, -, ⟨⟩, hlimit, rfl⟩ := hscaled
    have hne : anchored.demand.normalizationRequest ≠ none := by simp [hrequested]
    rw [demand_withNormalization hne] at hnormalization
    exact ⟨hne, Option.some.inj hnormalization ▸ hlimit⟩

theorem prepareGenerator_fitted (h : prepareGenerator generator anchorWasDefaulted plan limits = .ok prepared)
    (hnormalization : generator.demand.normalizationRequest = some normalization) (hopen : normalization.scale = .fitLimits) :
    ∃ reserved scale, reservedOutputBytes generator.demand limits.toArtifactWorkLimits = .ok reserved ∧
      fitScale normalization plan limits reserved = .ok scale ∧
      prepared.demand.normalizationRequest = some { normalization with scale } := by
  simp only [prepareGenerator, materializeEffectiveScales, bind_eq_ok, pure_eq_ok] at h
  obtain ⟨anchored, hanchored, scaled, ⟨reserved, hreserved, hscaled⟩, -, -, rfl⟩ := h
  have hdemand := demand_materializeEpochAnchor hanchored
  rw [hdemand] at hreserved
  simp only [hdemand, hnormalization, effectiveScale, if_pos hopen, bind_eq_ok, pure_eq_ok] at hscaled
  obtain ⟨scale, hfitted, -, -, rfl⟩ := hscaled
  refine ⟨reserved, scale, hreserved, hfitted, demand_withNormalization ?_⟩
  rw [hdemand, hnormalization]
  exact Option.some_ne_none _

end Prepared

end Krometrail.ScaleFitting
