import Krometrail.Artifacts.ScaleFitting
import Krometrail.Vision.Scaling

/-!
# The limits of normalization

Normalization checks frames, pixels and bytes again, with sums of its own.  It never refuses what was prepared: the frames of
a plan have the size of its epoch, and the sums are those of the preparation.
-/

namespace Krometrail.ScaleFitting

open Epochs Results

/-! ### Normalization -/

structure ProcessingLimits where
  maxFrames : Nat
  maxPixelsPerFrame : Nat
  maxRetainedBytes : Nat

structure NormalizationParameters where
  background : Rgb8
  crop : Option PixelRect
  scale : Vision.Scaling.IntegerScale
  limits : ProcessingLimits

/-- `vision_error` of the generators. -/
def generatorVisionError (error : Vision.VisionError) : KrometrailError :=
  let message := "temporal visual generation failed: " ++ error.message
  if error.code = .resourceLimitExceeded then
    (KrometrailError.new .resourceLimitExceeded message).withRecovery
      "select fewer source frames, crop the analysis region, or reduce the requested output dimensions"
  else .new .artifactGenerationFailed message

def integerScale : AnalysisScale → Result Vision.Scaling.IntegerScale
  | .identity => .ok .identity
  | .down factor =>
    if h : 0 < factor then (Vision.Scaling.IntegerScale.new .down factor h).mapError generatorVisionError
    else .error (generationError "analysis scale is zero")
  | .fitLimits => .error (generationError "fit-limits scale was not materialized")

def toNormalization (request : NormalizationRequest) (limits : WorkLimits) : Result NormalizationParameters := do
  let scale ← integerScale request.scale
  return { background := request.background, crop := request.crop, scale,
           limits := ⟨limits.maxSourceFrames, limits.maxPixelsPerFrame, limits.maxNormalizedBytes⟩ }

def normalizationParameters (prepared : GeneratorRequest) (limits : WorkLimits) : Result (Option NormalizationParameters) :=
  match prepared.demand.normalizationRequest with
  | none => .ok none
  | some request => (toNormalization request limits).map some

def sizedResourceLimitError (subject : String) (actual limit : Nat) : Vision.VisionError :=
  ⟨.resourceLimitExceeded, s!"{subject}: {actual} exceeds limit {limit}"⟩

def addressSpaceError : Vision.VisionError :=
  ⟨.resourceLimitExceeded, "normalization processing exceeded the supported address space"⟩

/-- `ok_or_else(resource_limit_error)`. -/
def orAddressSpace (value : Option Nat) : Vision.Result Nat := value.elim (.error addressSpaceError) .ok

def validateResourceLimits (frameCount outputPixels : Nat) (restrictedDomain : Bool) (limits : ProcessingLimits) :
    Vision.Result Unit :=
  if frameCount > limits.maxFrames then .error (sizedResourceLimitError "normalized frame count" frameCount limits.maxFrames)
  else if outputPixels > limits.maxPixelsPerFrame then
    .error (sizedResourceLimitError "normalized pixels per frame" outputPixels limits.maxPixelsPerFrame)
  else do
    let valuesPerFrame ← orAddressSpace (checkedMul outputPixels 3)
    let bytesPerFrame ← orAddressSpace (checkedMul valuesPerFrame 2)
    let frameBytes ← orAddressSpace (checkedMul bytesPerFrame frameCount)
    let maskBytes ← if restrictedDomain then (orAddressSpace (checkedAdd outputPixels 7)).map (· / 8) else .ok 0
    let retainedBytes ← orAddressSpace (checkedAdd frameBytes maskBytes)
    if retainedBytes > limits.maxRetainedBytes then
      .error (sizedResourceLimitError "normalized retained bytes" retainedBytes limits.maxRetainedBytes)
    else .ok ()

def normalizationCrop (crop : Option PixelRect) (source : Vision.PixelDimensions) : Vision.Result PixelRect :=
  match crop with
  | some crop =>
    if Vision.fitsWithin crop source then .ok crop
    else .error ⟨.invalidRegion, "normalization crop lies outside the source-frame dimensions"⟩
  | none => Vision.pixelRect 0 0 source.width source.height

/-- `normalize_sequence` up to its first frame, of a sequence without a region and a mask. -/
def normalizedShape (source : Vision.PixelDimensions) (frameCount : Nat) (parameters : NormalizationParameters) :
    Vision.Result Vision.PixelDimensions := do
  let crop ← normalizationCrop parameters.crop source
  let dimensions ← Vision.Scaling.scaledDimensions crop parameters.scale
  validateResourceLimits frameCount (dimensions.width * dimensions.height) false parameters.limits
  return dimensions

/-! ### The limits of normalization -/

section Limits

variable {parameters : NormalizationParameters} {source : Vision.PixelDimensions}

theorem validateResourceLimits_ok {frameCount outputPixels : Nat} {limits : ProcessingLimits} (hframes : frameCount ≤ limits.maxFrames)
    (hpixels : outputPixels ≤ limits.maxPixelsPerFrame) (hframe : outputPixels * 6 ≤ u64Max) (hall : outputPixels * 6 * frameCount ≤ u64Max)
    (hbytes : outputPixels * 6 * frameCount ≤ limits.maxRetainedBytes) : validateResourceLimits frameCount outputPixels false limits = .ok () := by
  have hvalues : checkedMul outputPixels 3 = some (outputPixels * 3) := checkedMul_eq_some.2 ⟨by omega, rfl⟩
  have hperFrame : checkedMul (outputPixels * 3) 2 = some (outputPixels * 6) := checkedMul_eq_some.2 ⟨by omega, by omega⟩
  have htotal : checkedMul (outputPixels * 6) frameCount = some (outputPixels * 6 * frameCount) := checkedMul_eq_some.2 ⟨hall, rfl⟩
  have hsum : checkedAdd (outputPixels * 6 * frameCount) 0 = some (outputPixels * 6 * frameCount) := checkedAdd_eq_some.2 ⟨hall, rfl⟩
  rw [validateResourceLimits, if_neg (by omega), if_neg (by omega)]
  simp only [hvalues, hperFrame, htotal, hsum, orAddressSpace, Option.elim_some, ok_bind, Bool.false_eq_true, if_false]
  exact if_neg (by omega)

variable {request : NormalizationRequest} {height width : Nat}

theorem scaledDimensions_eq {crop : PixelRect} {scale : Vision.Scaling.IntegerScale} {sourceWidth sourceHeight : Nat}
    (hscale : integerScale request.scale = .ok scale)
    (hdimensions : normalizedDimensions request sourceWidth sourceHeight = .ok (width, height))
    (hcrop : cropAdjustedDimensions request sourceWidth sourceHeight = (crop.width, crop.height)) :
    Vision.Scaling.scaledDimensions crop scale = (Vision.PixelDimensions.new width height).mapError fun _ =>
      ⟨.invalidScale, "scaled dimensions exceed the supported address space"⟩ := by
  simp only [normalizedDimensions, hcrop] at hdimensions
  cases hrequest : request.scale with
  | fitLimits =>
    rw [hrequest] at hscale
    cases hscale
  | identity =>
    rw [hrequest] at hscale hdimensions
    cases hdimensions
    cases hscale
    rfl
  | down factor =>
    rw [hrequest] at hscale hdimensions
    simp only [integerScale] at hscale
    dsimp only at hdimensions
    split at hdimensions
    case isFalse => cases hdimensions
    next hdvd =>
    cases hdimensions
    split at hscale
    case isFalse => cases hscale
    next hpos =>
    rw [mapError_eq_ok, Vision.Scaling.IntegerScale.new] at hscale
    split at hscale
    · cases hscale
    · split at hscale
      · next hone =>
        cases hscale
        subst hone
        simp [Vision.Scaling.scaledDimensions, Vision.Scaling.IntegerScale.identity]
      · cases hscale
        have hnot : ¬ (¬ factor ∣ crop.width ∨ ¬ factor ∣ crop.height) := by
          rw [not_or, not_not, not_not]
          exact ⟨Nat.dvd_of_mod_eq_zero hdvd.1, Nat.dvd_of_mod_eq_zero hdvd.2⟩
        simp only [Vision.Scaling.scaledDimensions, if_neg hnot, ok_bind]

/-- The errors of normalization that are left once a request is prepared. -/
def IsGeometryError (error : Vision.VisionError) : Prop := error.code = .invalidRegion ∨ error.code = .invalidScale

/-- A rectangle of source pixels. -/
def CropInside (crop : PixelRect) (source : Vision.PixelDimensions) : Prop :=
  (0 < crop.width ∧ 0 < crop.height) ∧ Vision.fitsWithin crop source

theorem pixelRect_source (source : Vision.PixelDimensions) :
    Vision.pixelRect 0 0 source.width source.height = .ok ⟨0, 0, source.width, source.height⟩ := by
  have := source.width_pos
  have := source.height_pos
  have := source.width_le
  have := source.height_le
  rw [Vision.pixelRect, if_neg (by omega), if_neg (by omega)]

theorem cropInside_source (source : Vision.PixelDimensions) : CropInside ⟨0, 0, source.width, source.height⟩ source :=
  ⟨⟨source.width_pos, source.height_pos⟩, by simp [Vision.fitsWithin]⟩

theorem pixelDimensions_ok {crop : PixelRect} (h : CropInside crop source) (hwidth : width ∣ crop.width)
    (hheight : height ∣ crop.height) : ∃ dimensions, Vision.PixelDimensions.new width height = .ok dimensions := by
  obtain ⟨⟨hwidthPos, hheightPos⟩, hinside⟩ := h
  simp only [Vision.fitsWithin] at hinside
  have hwidthLe : width ≤ source.width := (Nat.le_of_dvd hwidthPos hwidth).trans (by omega)
  have hheightLe : height ≤ source.height := (Nat.le_of_dvd hheightPos hheight).trans (by omega)
  have hbytes : width * height * 4 ≤ u64Max :=
    (Nat.mul_le_mul_right 4 (Nat.mul_le_mul hwidthLe hheightLe)).trans source.bytes_le
  have hvalid : (0 < width ∧ 0 < height) ∧ (width ≤ Vision.u32Max ∧ height ≤ Vision.u32Max) ∧ width * height * 4 ≤ u64Max :=
    ⟨⟨Nat.pos_of_dvd_of_pos hwidth hwidthPos, Nat.pos_of_dvd_of_pos hheight hheightPos⟩,
      ⟨hwidthLe.trans source.width_le, hheightLe.trans source.height_le⟩, hbytes⟩
  exact ⟨_, dif_pos hvalid⟩

theorem normalizedDimensions_dvd {sourceWidth sourceHeight : Nat}
    (h : normalizedDimensions request sourceWidth sourceHeight = .ok (width, height)) :
    width ∣ (cropAdjustedDimensions request sourceWidth sourceHeight).1 ∧
      height ∣ (cropAdjustedDimensions request sourceWidth sourceHeight).2 := by
  simp only [normalizedDimensions] at h
  split at h
  · cases h
    exact ⟨dvd_rfl, dvd_rfl⟩
  · split at h
    · next hdvd =>
      cases h
      exact ⟨Nat.div_dvd_of_dvd (Nat.dvd_of_mod_eq_zero hdvd.1), Nat.div_dvd_of_dvd (Nat.dvd_of_mod_eq_zero hdvd.2)⟩
    · cases h
  · cases h

theorem normalizedShape_spec {plan : SourcePlan} {limits : WorkLimits}
    (hwidth : plan.descriptor.image.width.toNat = source.width) (hheight : plan.descriptor.image.height.toNat = source.height)
    (hframes : plan.frames.length ≤ limits.maxSourceFrames)
    (hlimit : validateNormalizedLimitWithBudget request plan limits limits.maxNormalizedBytes = .ok ())
    (hparameters : toNormalization request limits = .ok parameters) :
    (∀ error, normalizedShape source plan.frames.length parameters = .error error → IsGeometryError error) ∧
      ((∀ crop ∈ request.crop, CropInside crop source) →
        ∃ dimensions, normalizedShape source plan.frames.length parameters = .ok dimensions) := by
  simp only [toNormalization, bind_eq_ok, pure_eq_ok] at hparameters
  obtain ⟨scale, hscale, rfl⟩ := hparameters
  obtain ⟨width, height, hdimensions, hall, hframe, hpixels, hbytes⟩ := validateNormalizedLimitWithBudget_eq_ok.1 hlimit
  rw [hwidth, hheight] at hdimensions
  unfold normalizedShape
  cases hcrop : normalizationCrop request.crop source with
  | error error =>
    -- a crop that lies outside
    have herror : error.code = .invalidRegion ∧ ∃ crop ∈ request.crop, ¬ Vision.fitsWithin crop source := by
      unfold normalizationCrop at hcrop
      split at hcrop
      · next crop hsome =>
        split at hcrop
        · cases hcrop
        · next hout => exact ⟨Except.error.inj hcrop ▸ rfl, crop, hsome, hout⟩
      · cases (pixelRect_source source).symm.trans hcrop
    obtain ⟨hcode, crop, hmem, hout⟩ := herror
    exact ⟨fun _ h => Except.error.inj h ▸ .inl hcode, fun hinside => absurd (hinside crop hmem).2 hout⟩
  | ok crop =>
    have hadjusted : cropAdjustedDimensions request source.width source.height = (crop.width, crop.height) ∧
        ((∀ crop ∈ request.crop, CropInside crop source) → CropInside crop source) := by
      unfold normalizationCrop at hcrop
      split at hcrop
      · next requested hsome =>
        split at hcrop
        · cases hcrop
          exact ⟨by simp [cropAdjustedDimensions, hsome], fun hinside => hinside _ hsome⟩
        · cases hcrop
      · next hnone =>
        obtain rfl := Except.ok.inj ((pixelRect_source source).symm.trans hcrop)
        exact ⟨by simp [cropAdjustedDimensions, hnone], fun _ => cropInside_source source⟩
    obtain ⟨hdimensionsCrop, hcropInside⟩ := hadjusted
    have hdvd := normalizedDimensions_dvd hdimensions
    rw [hdimensionsCrop] at hdvd
    rw [ok_bind, scaledDimensions_eq hscale hdimensions hdimensionsCrop]
    -- the sums of the dimensions that are left
    cases hnew : Vision.PixelDimensions.new width height with
    | error error =>
      refine ⟨fun _ h => Except.error.inj h ▸ .inr rfl, fun hinside => ?_⟩
      obtain ⟨dimensions, hok⟩ := pixelDimensions_ok (hcropInside hinside) hdvd.1 hdvd.2
      cases hnew.symm.trans hok
    | ok dimensions =>
      have hsides : dimensions.width = width ∧ dimensions.height = height := by
        unfold Vision.PixelDimensions.new at hnew
        split at hnew
        · exact Except.ok.inj hnew ▸ ⟨rfl, rfl⟩
        · split at hnew <;> cases hnew
      have hresources : validateResourceLimits plan.frames.length (dimensions.width * dimensions.height) false
          ⟨limits.maxSourceFrames, limits.maxPixelsPerFrame, limits.maxNormalizedBytes⟩ = .ok () := by
        rw [hsides.1, hsides.2]
        exact validateResourceLimits_ok hframes hpixels hframe hall hbytes
      have hok : (do
          validateResourceLimits plan.frames.length (dimensions.width * dimensions.height) false
            ⟨limits.maxSourceFrames, limits.maxPixelsPerFrame, limits.maxNormalizedBytes⟩
          return dimensions : Vision.Result Vision.PixelDimensions) = .ok dimensions := by
        rw [hresources]
        rfl
      exact ⟨fun _ h => (by cases hok.symm.trans h), fun _ => ⟨dimensions, hok⟩⟩

end Limits

section Images

variable {sha256 : List UInt8 → Cache.Sha256Digest} {plan : SourcePlan}

theorem images_span {frames : List EncodedFrame} {span : Span} (h : span ∈ spans frames) :
    ∀ frame ∈ span.frames, frame.metadata.image = (span.frames.head span.frames_ne_nil).metadata.image := by
  have hmem : span.frames ∈ frames.splitBy sameEpoch := map_frames_spans frames ▸ List.mem_map_of_mem h
  have hchain : span.frames.IsChain fun a b => b.metadata.image = a.metadata.image :=
    (List.isChain_of_mem_splitBy hmem).imp fun a b hab => (of_decide_eq_true hab).1.symm
  have : IsTrans EncodedFrame fun a b => b.metadata.image = a.metadata.image := ⟨fun _ _ _ hab hbc => hbc.trans hab⟩
  have hpairwise := List.isChain_iff_pairwise.1 hchain
  intro frame hframe
  rw [← List.cons_head_tail span.frames_ne_nil] at hframe hpairwise
  rcases List.mem_cons.1 hframe with rfl | hframe
  · rfl
  · exact List.rel_of_pairwise_cons hpairwise hframe

theorem images_planned (h : Planned sha256 plan) : ∀ frame ∈ plan.frames, frame.metadata.image = plan.descriptor.image := by
  induction h with
  | planned hplans hepoch hplan =>
    obtain ⟨-, -, -, hmade⟩ := validateAndPlan_eq_ok hplans
    obtain ⟨k, hk⟩ := List.mem_iff_getElem?.1 hepoch
    obtain ⟨span, positions, hspan, -, hplanned⟩ := hmade k _ hk
    have hframes := (planEpoch_eq_ok hplanned).2.1
    obtain ⟨first, hfirst, rfl⟩ := Option.map_eq_some_iff.1 hplan
    dsimp only
    rw [hframes, List.head?_eq_some_head span.frames_ne_nil] at hfirst
    rw [hframes, ← Option.some.inj hfirst]
    exact images_span (List.mem_of_getElem? hspan)
  | @bounded plan bounded maxFrames includeFrameId hplanned hbudget hbounded ih =>
    by_cases hmore : maxFrames < plan.frames.length
    · obtain ⟨indices, bounded', hrun, hsampled, hto⟩ := bounded_spec includeFrameId hplanned.wellFormed hbudget hmore
      obtain rfl : bounded' = bounded := Except.ok.inj (hrun.symm.trans hbounded)
      rw [hto.frames, hto.source.1]
      exact fun frame hframe => ih frame ((Picks.pick_sublist hsampled.increasing).subset hframe)
    · rw [SourcePlan.bounded, if_pos (not_lt.1 hmore)] at hbounded
      exact Except.ok.inj hbounded ▸ ih

theorem planned_planForGenerator {generator : GeneratorRequest} {bounded : SourcePlan} {limits : WorkLimits} {range : ResolvedRange}
    (hplan : Planned sha256 plan) (hlimit : 12 ≤ limits.maxSourceFrames) (hvalid : generator.validate range = .ok ())
    (h : planForGenerator generator plan limits = .ok bounded) : Planned sha256 bounded := by
  have hsampling {sampling : ArtifactSampling} {effectiveMaxFrames : Nat} {includeFrameId : Option FrameId} {made : SourcePlan}
      (hpos : 1 ≤ effectiveMaxFrames) (hmade : planForAnalysisSampling sampling plan limits effectiveMaxFrames includeFrameId = .ok made) :
      Planned sha256 made := by
    cases sampling with
    | exhaustive =>
      simp only [planForAnalysisSampling] at hmade
      split at hmade
      · cases hmade
      · exact Except.ok.inj hmade ▸ hplan
    | uniformBounded => exact hplan.bounded hpos hmade
  simp only [planForGenerator, bind_eq_ok] at h
  obtain ⟨made, hmade, h⟩ := h
  split at h
  · cases h
  cases h
  cases generator with
  | storyboard anchor tileLimit normalization noiseFloor includeOrientation output =>
    simp only [GeneratorRequest.validate, bind_eq_ok, refuse_eq_ok, not_not] at hvalid
    obtain ⟨-, ⟨hlow, -⟩, -⟩ := hvalid
    exact hplan.bounded (by omega) hmade
  | regionFilmstrip anchor tileLimit locator displayScale output =>
    simp only [GeneratorRequest.validate, bind_eq_ok, refuse_eq_ok, not_not] at hvalid
    obtain ⟨-, ⟨hlow, -⟩, -⟩ := hvalid
    exact hplan.bounded hlow hmade
  | differenceMap sampling frequencyMode reference normalization noiseFloor output =>
    simp only [generatorPlan, bind_eq_ok] at hmade
    obtain ⟨effectiveMaxFrames, heffective, hmade⟩ := hmade
    have hpos := (analysisEffectiveMaxFrames_le (by omega) heffective).1
    split at hmade
    · cases hmade
    · exact hsampling hpos hmade
  | motionHistory sampling reference decayHalfLifeRanks normalization noiseFloor output =>
    simp only [generatorPlan, bind_eq_ok] at hmade
    obtain ⟨effectiveMaxFrames, heffective, hmade⟩ := hmade
    exact hsampling (analysisEffectiveMaxFrames_le (by omega) heffective).1 hmade

theorem decodePlan_shape {pixels : EncodedFrame → Result (List UInt8)} {sequence : FrameSequence} (hplan : Planned sha256 plan)
    (h : decodePlan pixels plan = .ok sequence) : sequence.frames.length = plan.frames.length ∧
      ∃ first, sequence.frames.head? = some first ∧ first.dimensions = plan.descriptor.image := by
  obtain ⟨decoded, hdecoded, hbuilt⟩ := bind_eq_ok.1 h
  obtain ⟨assembled, hassembled, hdeclared⟩ := bind_eq_ok.1 hbuilt
  have hrelated := mapM_eq_ok hdecoded
  have hframes : sequence.frames = decoded := by
    simp only [FrameSequence.withSourceProvenance, bind_eq_ok, pure_eq_ok] at hdeclared
    obtain ⟨-, -, -, -, -, -, rfl⟩ := hdeclared
    unfold FrameSequence.new at hassembled
    split at hassembled
    · simp only [bind_eq_ok, pure_eq_ok] at hassembled
      obtain ⟨-, -, -, -, -, -, -, -, rfl⟩ := hassembled
      rfl
    · cases hassembled
  rw [hframes]
  obtain ⟨first, hhead, hfirst⟩ := forall₂_head hrelated (List.head?_eq_some_head hplan.wellFormed.frames_ne_nil)
  simp only [decodeFrame, bind_eq_ok, pure_eq_ok] at hfirst
  obtain ⟨rgba, -, rfl⟩ := hfirst
  exact ⟨hrelated.length_eq.symm, _, hhead, images_planned hplan _ (List.head_mem _)⟩

theorem pixelDimensions_planned (h : Planned sha256 plan) : ∃ source,
    Vision.PixelDimensions.new plan.descriptor.image.width.toNat plan.descriptor.image.height.toNat = .ok source ∧
      source.width = plan.descriptor.image.width.toNat ∧ source.height = plan.descriptor.image.height.toNat := by
  obtain ⟨frame, hframe⟩ := List.exists_mem_of_ne_nil _ h.wellFormed.frames_ne_nil
  have hbytes : plan.descriptor.image.width.toNat * plan.descriptor.image.height.toNat * 4 ≤ u64Max := by
    rw [← images_planned h frame hframe]
    exact (List.single_le_sum (fun _ _ => Nat.zero_le _) _ (List.mem_map_of_mem hframe)).trans h.wellFormed.decoded
  have hpos (n : UInt32) (hne : n ≠ 0) : 0 < n.toNat := Nat.pos_of_ne_zero fun hzero => hne (UInt32.toNat_inj.1 hzero)
  have hle (n : UInt32) : n.toNat ≤ Vision.u32Max := Nat.le_pred_of_lt n.toNat_lt
  exact ⟨_, dif_pos ⟨⟨hpos _ plan.descriptor.image.width_ne_zero, hpos _ plan.descriptor.image.height_ne_zero⟩,
    ⟨hle _, hle _⟩, hbytes⟩, rfl, rfl⟩

end Images

theorem maxNormalizedBytes_le {limits : WorkLimits} (h : limits.toArtifactWorkLimits.validate = .ok limits.toArtifactWorkLimits) :
    limits.maxNormalizedBytes ≤ u64Max := by
  have hmax : 2 ^ 32 - 1 ≤ u64Max := by decide
  unfold ArtifactWorkLimits.validate at h
  split at h
  · cases h
  split at h
  · cases h
  omega

/-- A scale is fitted by the least factor whose frames keep to the limits, and what is prepared keeps to the limits of
normalization: only a crop outside the source or an empty one is refused. -/
theorem scale_fitting_agrees (limits : WorkLimits)
    (hlimits : limits.toArtifactWorkLimits.validate = .ok limits.toArtifactWorkLimits) (hframes : 12 ≤ limits.maxSourceFrames) :
    (∀ sha256 plan request reserved, Planned sha256 plan →
      (limits.maxCombinedRequestBytes < plan.decodedBytes + reserved → fitScale request plan limits reserved =
        .error (limitError "decoded frames and bounded output exceed the combined memory limit")) ∧
      ∀ budget, plan.decodedBytes + reserved ≤ limits.maxCombinedRequestBytes →
        budget = min (limits.maxCombinedRequestBytes - plan.decodedBytes - reserved) limits.maxNormalizedBytes →
        (∃ factor, IsLeast (fittingFactors request plan limits budget) factor ∧
          fitScale request plan limits reserved = .ok (scaleOf factor)) ∨
        fittingFactors request plan limits budget = ∅ ∧
          ∃ error, fitScale request plan limits reserved = .error error ∧ error.code = .resourceLimitExceeded) ∧
    ∀ sha256 plan range generator bounded anchorWasDefaulted prepared, Planned sha256 plan → generator.validate range = .ok () →
      planForGenerator generator plan limits = .ok bounded → prepareGenerator generator anchorWasDefaulted bounded limits = .ok prepared →
      (∀ normalization, generator.demand.normalizationRequest = some normalization → normalization.scale = .fitLimits →
        ∃ reserved scale, reservedOutputBytes generator.demand limits.toArtifactWorkLimits = .ok reserved ∧
          fitScale normalization bounded limits reserved = .ok scale ∧
          prepared.demand.normalizationRequest = some { normalization with scale }) ∧
      ∀ pixels sequence parameters, decodePlan pixels bounded = .ok sequence →
        normalizationParameters prepared limits = .ok (some parameters) →
        ∃ first source, sequence.frames.head? = some first ∧
          Vision.PixelDimensions.new first.dimensions.width.toNat first.dimensions.height.toNat = .ok source ∧
          (∀ error, normalizedShape source sequence.frames.length parameters = .error error → IsGeometryError error) ∧
          ((∀ crop ∈ parameters.crop, CropInside crop source) →
            ∃ dimensions, normalizedShape source sequence.frames.length parameters = .ok dimensions) := by
  have hbytes := maxNormalizedBytes_le hlimits
  refine ⟨fun sha256 plan request reserved hplan => ⟨fun hover => ?_, fun budget hroom hbudget => ?_⟩,
    fun sha256 plan range generator bounded anchorWasDefaulted prepared hplan hvalid hbounded hprepared =>
      ⟨fun normalization => prepareGenerator_fitted hprepared, fun pixels sequence parameters hdecoded hparameters => ?_⟩⟩
  · have hnone : normalizedBudget plan limits reserved = none := by
      refine Option.eq_none_iff_forall_ne_some.2 fun budget hbudget => ?_
      exact absurd (normalizedBudget_eq_some.1 hbudget).1 (not_le.2 hover)
    simp only [fitScale, hnone]
    rfl
  · exact fitScale_of_budget hplan.wellFormed.frames_ne_nil hbytes (normalizedBudget_eq_some.2 ⟨hroom, hbudget⟩)
  · have hplanned := planned_planForGenerator hplan hframes hvalid hbounded
    obtain ⟨hlength, first, hfirst, hsize⟩ := decodePlan_shape hplanned hdecoded
    obtain ⟨source, hsource, hwidth, hheight⟩ := pixelDimensions_planned hplanned
    unfold normalizationParameters at hparameters
    split at hparameters
    · cases hparameters
    next request hrequest =>
    cases hmade : toNormalization request limits with
    | error error =>
      rw [hmade] at hparameters
      cases hparameters
    | ok made =>
    rw [hmade] at hparameters
    obtain rfl := Option.some.inj (Except.ok.inj hparameters)
    obtain ⟨hnormalizes, hlimit⟩ := prepareGenerator_normalization hprepared hrequest
    have hcount := length_planForGenerator hplan.wellFormed hframes hvalid hnormalizes hbounded
    have hshape := normalizedShape_spec hwidth.symm hheight.symm hcount hlimit hmade
    have hcrop : made.crop = request.crop := by
      simp only [toNormalization, bind_eq_ok, pure_eq_ok] at hmade
      obtain ⟨scale, -, rfl⟩ := hmade
      rfl
    rw [← hsize] at hsource
    rw [hlength, hcrop]
    exact ⟨first, source, hfirst, hsource, hshape⟩

/-- The limits of production, `ArtifactWorkLimits::default`. -/
def defaultLimits : WorkLimits where
  maxDimension := 8192
  maxPixelsPerFrame := 16777216
  maxDecodedBytes := 1536 * 1024 * 1024
  maxNormalizedBytes := 512 * 1024 * 1024
  maxCombinedRequestBytes := 2 * 1024 * 1024 * 1024
  maxOutputs := 16
  maxOutputBytesEach := 64 * 1024 * 1024
  maxOutputBytesTotal := 256 * 1024 * 1024
  maxSourceFrames := 240

/-- A storyboard of at most three frames, its scale left open. -/
def fittedStoryboard : GeneratorRequest :=
  .storyboard ⟨15⟩ 3 ⟨none, ⟨0, 0, 0⟩, .fitLimits⟩ 8 false ⟨1024, 1024, 1024⟩

/-- Under the limits of production two frames of one pixel are fitted as they are, and normalized. -/
theorem scale_fitting_agrees_default : ∃ plan bounded prepared sequence source dimensions, Planned anySha256 plan ∧
    planForGenerator fittedStoryboard plan defaultLimits = .ok bounded ∧
    prepareGenerator fittedStoryboard false bounded defaultLimits = .ok prepared ∧
    decodePlan blackPixels bounded = .ok sequence ∧ sequence.frames.length = 2 ∧
    ∃ parameters, normalizationParameters prepared defaultLimits = .ok (some parameters) ∧
      normalizedShape source sequence.frames.length parameters = .ok dimensions := by
  have hplans : validateAndPlan resizedRange resizedFrames [] adaptationLimits = .ok _ := rfl
  have hplanned : Planned anySha256 _ := .planned hplans List.mem_cons_self rfl
  obtain ⟨-, hprepared⟩ := scale_fitting_agrees defaultLimits rfl (by decide)
  obtain ⟨-, hnormalized⟩ := hprepared anySha256 _ resizedRange fittedStoryboard _ false _ hplanned rfl rfl rfl
  obtain ⟨first, source, -, -, -, hok⟩ := hnormalized blackPixels _ _ rfl rfl
  obtain ⟨dimensions, hdimensions⟩ := hok nofun
  exact ⟨_, _, _, _, source, dimensions, hplanned, rfl, rfl, rfl, rfl, _, rfl, hdimensions⟩

end Krometrail.ScaleFitting
