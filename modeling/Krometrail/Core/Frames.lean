import Krometrail.Core.Error
import Krometrail.Core.Values

/-!
# Captured frames

The frame values of the core crate.  Each checked type carries what its constructor checks as a field, so that a
`PixelDimensions` is never empty, a `DeviceScaleFactor` is finite and positive, a `CaptureOrdinal` is not zero, a
frame is not normalized to a later time than it was observed at, and an encoded payload is not empty.
-/

namespace Krometrail

inductive ImageFormat where
  | jpeg | png
  deriving DecidableEq

structure PixelDimensions where
  width : UInt32
  height : UInt32
  width_ne_zero : width ≠ 0
  height_ne_zero : height ≠ 0
  deriving DecidableEq

def PixelDimensions.new (width height : UInt32) : Result PixelDimensions :=
  if h : width ≠ 0 ∧ height ≠ 0 then .ok ⟨width, height, h.1, h.2⟩
  else .error (invalid "pixel dimensions must have non-zero width and height")

def PixelDimensions.unit : PixelDimensions := ⟨1, 1, by decide, by decide⟩

def PixelDimensions.pair : PixelDimensions := ⟨2, 1, by decide, by decide⟩

/-- The bit patterns of the finite and positive numbers of `f64`. -/
def IsFinitePositive (bits : UInt64) : Prop := bits ≠ 0 ∧ bits < 0x7ff0000000000000

instance (bits : UInt64) : Decidable (IsFinitePositive bits) := inferInstanceAs (Decidable (_ ∧ _))

/-- `DeviceScaleFactor(f64)`, by the bits of the number. -/
structure DeviceScaleFactor where
  bits : UInt64
  finitePositive : IsFinitePositive bits
  deriving DecidableEq

def DeviceScaleFactor.new (bits : UInt64) : Result DeviceScaleFactor :=
  if h : IsFinitePositive bits then .ok ⟨bits, h⟩
  else .error (invalid "device scale factor must be finite and positive")

def DeviceScaleFactor.one : DeviceScaleFactor := ⟨0x3ff0000000000000, by decide⟩

theorem ordinal_one : (1 : UInt64) ≠ 0 := by decide

theorem ordinal_two : (2 : UInt64) ≠ 0 := by decide

theorem ordinal_three : (3 : UInt64) ≠ 0 := by decide

theorem ordinal_four : (4 : UInt64) ≠ 0 := by decide

structure CaptureOrdinal where
  value : UInt64
  value_ne_zero : value ≠ 0
  deriving DecidableEq

def CaptureOrdinal.new (value : UInt64) : Result CaptureOrdinal :=
  if h : value ≠ 0 then .ok ⟨value, h⟩ else .error (invalid "capture ordinal must be non-zero")

inductive CaptureWarning where
  | missingSourceTime | sourceTimestampRounded | viewportMetadataIncomplete
  deriving DecidableEq

structure CapturedFrame where
  id : FrameId
  sessionId : SessionId
  targetId : TargetId
  captureOrdinal : CaptureOrdinal
  sourceTime : Option SourceTime
  observedTime : ObservedTime
  sessionTime : SessionTime
  format : ImageFormat
  image : PixelDimensions
  viewport : PixelDimensions
  deviceScaleFactor : DeviceScaleFactor
  warnings : List CaptureWarning
  sessionTime_le : sessionTime.nanos ≤ observedTime.nanos
  deriving DecidableEq

def CapturedFrame.new (id : FrameId) (sessionId : SessionId) (targetId : TargetId) (captureOrdinal : CaptureOrdinal)
    (sourceTime : Option SourceTime) (observedTime : ObservedTime) (sessionTime : SessionTime) (format : ImageFormat)
    (image viewport : PixelDimensions) (deviceScaleFactor : DeviceScaleFactor) (warnings : List CaptureWarning) :
    Result CapturedFrame :=
  if h : sessionTime.nanos ≤ observedTime.nanos then
    .ok ⟨id, sessionId, targetId, captureOrdinal, sourceTime, observedTime, sessionTime, format, image, viewport,
      deviceScaleFactor, warnings, h⟩
  else .error (invalid "frame session time must not exceed observed time")

structure EncodedFrame where
  metadata : CapturedFrame
  bytes : List UInt8
  bytes_ne_nil : bytes ≠ []
  deriving DecidableEq

def EncodedFrame.new (metadata : CapturedFrame) (bytes : List UInt8) : Result EncodedFrame :=
  if h : bytes ≠ [] then .ok ⟨metadata, bytes, h⟩
  else .error (invalid "encoded frame payload must not be empty")

/-- `FrameAddress`: a segment and an absolute byte offset in its file. -/
structure FrameAddress where
  segmentId : SegmentId
  byteOffset : Nat

@[simp] theorem PixelDimensions.new_self (dimensions : PixelDimensions) :
    PixelDimensions.new dimensions.width dimensions.height = .ok dimensions :=
  dif_pos ⟨dimensions.width_ne_zero, dimensions.height_ne_zero⟩

@[simp] theorem DeviceScaleFactor.new_self (factor : DeviceScaleFactor) : DeviceScaleFactor.new factor.bits = .ok factor :=
  dif_pos factor.finitePositive

@[simp] theorem CaptureOrdinal.new_self (ordinal : CaptureOrdinal) : CaptureOrdinal.new ordinal.value = .ok ordinal :=
  dif_pos ordinal.value_ne_zero

@[simp] theorem CapturedFrame.new_self (frame : CapturedFrame) :
    CapturedFrame.new frame.id frame.sessionId frame.targetId frame.captureOrdinal frame.sourceTime frame.observedTime
      frame.sessionTime frame.format frame.image frame.viewport frame.deviceScaleFactor frame.warnings = .ok frame :=
  dif_pos frame.sessionTime_le

@[simp] theorem EncodedFrame.new_self (frame : EncodedFrame) : EncodedFrame.new frame.metadata frame.bytes = .ok frame :=
  dif_pos frame.bytes_ne_nil

end Krometrail
