import Krometrail.Core.Frames

/-!
# The memory demand of an artifact group

The missing outputs of one generator on one epoch form a group.  A group needs its decoded frames, its normalized
sequence and a bound of its outputs; groups of one cohort share an adjacent analysis, whose change masks are estimated
apart.
-/

namespace Krometrail

/-- `usize::checked_mul`, on 64 bits. -/
def checkedMul (a b : Nat) : Option Nat := if a * b ≤ u64Max then some (a * b) else none

@[simp] theorem checkedMul_eq_some {a b c : Nat} : checkedMul a b = some c ↔ a * b ≤ u64Max ∧ a * b = c := by
  unfold checkedMul
  split <;> simp_all

def limitError (message : String) : KrometrailError :=
  (KrometrailError.new .resourceLimitExceeded message).withRecovery
    "narrow the source range or reduce the artifact scope"

def generationError (message : String) : KrometrailError := .new .artifactGenerationFailed message

structure ArtifactWorkLimits where
  maxDimension : Nat
  maxPixelsPerFrame : Nat
  maxDecodedBytes : Nat
  maxNormalizedBytes : Nat
  maxCombinedRequestBytes : Nat
  maxOutputs : Nat
  maxOutputBytesEach : Nat
  maxOutputBytesTotal : Nat

def ArtifactWorkLimits.validate (self : ArtifactWorkLimits) : Result ArtifactWorkLimits :=
  if self.maxDecodedBytes > self.maxCombinedRequestBytes ∨ self.maxNormalizedBytes > self.maxCombinedRequestBytes ∨
      self.maxOutputBytesTotal > self.maxCombinedRequestBytes ∨ self.maxOutputBytesEach > self.maxOutputBytesTotal then
    .error (limitError "artifact memory and output limits are internally inconsistent")
  else if self.maxCombinedRequestBytes > 2 ^ 32 - 1 then
    .error (limitError "artifact combined memory limit exceeds scheduler capacity")
  else .ok self

structure PixelRect where
  x : Nat
  y : Nat
  width : Nat
  height : Nat
  deriving DecidableEq

structure Rgb8 where
  red : UInt8
  green : UInt8
  blue : UInt8
  deriving DecidableEq

inductive AnalysisScale
  | identity
  | down (factor : Nat)
  | fitLimits
  deriving DecidableEq

structure NormalizationRequest where
  crop : Option PixelRect
  background : Rgb8
  scale : AnalysisScale
  deriving DecidableEq

structure OutputLimitsRequest where
  maxWidth : Nat
  maxHeight : Nat
  maxEncodedBytes : Nat

inductive ArtifactGeneratorRequest
  | storyboard (normalization : NormalizationRequest) (noiseFloor : Nat) (includeOrientation : Bool)
      (output : OutputLimitsRequest)
  | differenceMap (normalization : NormalizationRequest) (noiseFloor : Nat) (output : OutputLimitsRequest)
  | motionHistory (normalization : NormalizationRequest) (noiseFloor : Nat) (output : OutputLimitsRequest)
  | regionFilmstrip (output : OutputLimitsRequest)

namespace ArtifactGeneratorRequest

/-- The length of `output_kinds`. -/
def outputKinds : ArtifactGeneratorRequest → Nat
  | storyboard _ _ includeOrientation _ => if includeOrientation then 2 else 1
  | differenceMap .. | motionHistory .. | regionFilmstrip _ => 1

def outputLimits : ArtifactGeneratorRequest → OutputLimitsRequest
  | storyboard _ _ _ output | differenceMap _ _ output | motionHistory _ _ output | regionFilmstrip output => output

def normalizationRequest : ArtifactGeneratorRequest → Option NormalizationRequest
  | storyboard normalization .. | differenceMap normalization .. | motionHistory normalization .. => some normalization
  | regionFilmstrip _ => none

def analysisNoiseFloor : ArtifactGeneratorRequest → Option Nat
  | storyboard _ noiseFloor .. | differenceMap _ noiseFloor _ | motionHistory _ noiseFloor _ => some noiseFloor
  | regionFilmstrip _ => none

def needsChangeMasks : ArtifactGeneratorRequest → Bool
  | differenceMap .. | motionHistory .. => true
  | storyboard .. | regionFilmstrip _ => false

end ArtifactGeneratorRequest

/-- The plan of a generator on an epoch; a frame goes with its source index. -/
structure EpochPlan (F : Type*) where
  frames : List (F × Nat)
  decodedBytes : Nat

/-- The missing slots of one generator on one epoch. -/
structure WorkGroup (F : Type*) where
  epochIndex : Nat
  request : ArtifactGeneratorRequest
  plan : EpochPlan F

def commonDownscaleFactors (width height : Nat) : List Nat :=
  (List.range 256).filter fun factor => decide (2 ≤ factor) && Nat.gcd width height % factor == 0

def cropAdjustedDimensions (request : NormalizationRequest) (width height : Nat) : Nat × Nat :=
  match request.crop with
  | some crop => (crop.width, crop.height)
  | none => (width, height)

def normalizedDimensions (request : NormalizationRequest) (sourceWidth sourceHeight : Nat) : Result (Nat × Nat) :=
  let (width, height) := cropAdjustedDimensions request sourceWidth sourceHeight
  match request.scale with
  | .identity => .ok (width, height)
  | .down factor =>
    if width % factor = 0 ∧ height % factor = 0 then .ok (width / factor, height / factor)
    else
      let common := commonDownscaleFactors width height
      let divide := s!"analysis downscale factor {factor} must exactly divide both dimensions {width}x{height}; "
      .error (generationError (if common.isEmpty then
        divide ++ "no common integer downscale factor exists, so crop the analysis region"
      else divide ++ s!"common factors representable by analysis.scale are {common}; requests are limited to factors 2..=8"))
  | .fitLimits => .error (generationError "fit-limits scale was not materialized")

variable {F : Type*}

def estimatedNormalizedBytes (request : ArtifactGeneratorRequest) (image : PixelDimensions) (plan : EpochPlan F) :
    Result Nat :=
  match request.normalizationRequest with
  | none => .ok 0
  | some normalization => do
    let (width, height) ← normalizedDimensions normalization image.width.toNat image.height.toNat
    okOr ((checkedMul (width * height) 6).bind fun perFrame => checkedMul perFrame plan.frames.length)
      (limitError "normalized sequence byte estimate overflows")

/-- `output_reservation`. -/
def reservedOutputBytes (request : ArtifactGeneratorRequest) (limits : ArtifactWorkLimits) : Result Nat :=
  let perOutput := min request.outputLimits.maxEncodedBytes limits.maxOutputBytesEach
  okOr ((checkedMul perOutput request.outputKinds).map fun bytes => min bytes limits.maxOutputBytesTotal)
    (limitError "bounded output reservation overflows")

def estimatedChangeMaskBytes (image : PixelDimensions) (plan : EpochPlan F) : Result Nat :=
  let overflow := limitError "change-mask byte estimate overflows"
  do
    let pixels ← okOr (checkedMul image.width.toNat image.height.toNat) overflow
    let padded ← okOr (checkedAdd pixels 7) overflow
    okOr (checkedMul (plan.frames.length - 1) (padded / 8)) overflow

def validateNormalizedLimit (request : NormalizationRequest) (image : PixelDimensions) (plan : EpochPlan F)
    (limits : ArtifactWorkLimits) : Result Unit := do
  let (width, height) ← normalizedDimensions request image.width.toNat image.height.toNat
  let retained ← okOr ((checkedMul (width * height) 6).bind fun bytes => checkedMul bytes plan.frames.length)
    (limitError "normalized retained bytes overflow")
  if width * height > limits.maxPixelsPerFrame ∨ retained > limits.maxNormalizedBytes then
    .error (limitError "normalized sequence exceeds configured pixel or byte limits")
  else .ok ()

def validateOutputLimits (request : ArtifactGeneratorRequest) (limits : ArtifactWorkLimits) : Result Unit :=
  let output := request.outputLimits
  if output.maxWidth > limits.maxDimension ∨ output.maxHeight > limits.maxDimension ∨
      output.maxEncodedBytes > limits.maxOutputBytesEach then
    .error (limitError "requested artifact output limits exceed runtime caps")
  else .ok ()

/-- What the service checks of a group before the flight: the decoded bytes (`plan_for_generator`), the normalized
sequence and the output limits (`prepare_generator`). -/
def WorkGroup.admitted (image : PixelDimensions) (limits : ArtifactWorkLimits) (group : WorkGroup F) : Bool :=
  decide (group.plan.decodedBytes ≤ limits.maxDecodedBytes) &&
    (match group.request.normalizationRequest with
      | some normalization => (validateNormalizedLimit normalization image group.plan limits).isOk
      | none => true) &&
    (validateOutputLimits group.request limits).isOk

/-- A request that the service takes up, with every output missing. -/
def admitted (images : Nat → PixelDimensions) (limits : ArtifactWorkLimits) (groups : List (WorkGroup F)) : Bool :=
  limits.validate.isOk && decide ((groups.map (·.request.outputKinds)).sum ≤ limits.maxOutputs) &&
    groups.all fun group => group.admitted (images group.epochIndex) limits

end Krometrail
