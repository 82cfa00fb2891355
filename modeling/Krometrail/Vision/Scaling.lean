import Krometrail.Vision.Filmstrip

/-!
# Normalization at every scale

A frame as the bytes of its pixels, and the two paths of `normalize_frame` over them: the general one composites every
source pixel onto a background, the opaque one converts the rows of the crop or averages its boxes directly.  A computation
goes wrong with an error or by a slice out of bounds (`Fault`).
-/

namespace Krometrail.Vision.Scaling

/-- A `Frame` with the bytes of its pixels, four for each. -/
structure ByteFrame where
  dimensions : PixelDimensions
  pixels : List UInt8
  length_pixels : pixels.length = dimensions.height * dimensions.width * 4

inductive ScaleDirection
  | identity | up | down
  deriving DecidableEq

structure IntegerScale where
  direction : ScaleDirection
  factor : Nat
  factor_pos : 0 < factor
  factor_le : factor ≤ 8

def IntegerScale.identity : IntegerScale := ⟨.identity, 1, Nat.one_pos, by decide⟩

/-- `IntegerScale::new` of a factor that is not zero. -/
def IntegerScale.new (direction : ScaleDirection) (factor : Nat) (hpos : 0 < factor) : Result IntegerScale :=
  if hle : 8 < factor then .error ⟨.invalidScale, "integer scale factor must be between one and eight"⟩
  else if factor = 1 then .ok .identity
  else .ok ⟨direction, factor, hpos, not_lt.1 hle⟩

/-- `u32::checked_mul`. -/
def checkedMul32 (a b : Nat) : Option Nat := if a * b ≤ u32Max then some (a * b) else none

/-- `u32::checked_add`. -/
def checkedAdd32 (a b : Nat) : Option Nat := if a + b ≤ u32Max then some (a + b) else none

/-- A sum or a product of coordinates wraps around. -/
def wrap32 (n : Nat) : Nat := n % 2 ^ 32

def scaledDimensions (crop : PixelRect) (scale : IntegerScale) : Result PixelDimensions := do
  let (width, height) ← match scale.direction with
    | .identity => Except.ok (crop.width, crop.height)
    | .up =>
      match checkedMul32 crop.width scale.factor, checkedMul32 crop.height scale.factor with
      | none, _ => .error ⟨.invalidScale, "scaled width exceeds the coordinate space"⟩
      | some _, none => .error ⟨.invalidScale, "scaled height exceeds the coordinate space"⟩
      | some width, some height => .ok (width, height)
    | .down =>
      if ¬ scale.factor ∣ crop.width ∨ ¬ scale.factor ∣ crop.height then
        .error ⟨.invalidScale, "downscale factor must exactly divide both cropped dimensions"⟩
      else .ok (crop.width / scale.factor, crop.height / scale.factor)
  (PixelDimensions.new width height).mapError fun _ => ⟨.invalidScale, "scaled dimensions exceed the supported address space"⟩

def resourceLimitError : Fault :=
  .error ⟨.resourceLimitExceeded, "normalization processing exceeded the supported address space"⟩

/-- `ok_or_else(resource_limit_error)`. -/
def orLimit {α : Type} (value : Option α) : Except Fault α := value.elim (.error resourceLimitError) .ok

/-- `bytes[start..stop]`. -/
def slice (bytes : List UInt8) (start stop : Nat) : Except Fault (List UInt8) :=
  if start ≤ stop ∧ stop ≤ bytes.length then .ok ((bytes.drop start).take (stop - start)) else .error .outOfBounds

/-- `chunks_exact(4)`. -/
def chunksExact4 : List UInt8 → List Rgba8
  | red :: green :: blue :: alpha :: rest => ⟨red, green, blue, alpha⟩ :: chunksExact4 rest
  | _ => []

/-- The four bytes at an offset. -/
def pixelAt (bytes : List UInt8) (offset : Nat) : Except Fault Rgba8 := do
  match ← slice bytes offset (offset + 4) with
  | [red, green, blue, alpha] => return ⟨red, green, blue, alpha⟩
  | _ => .error .outOfBounds

def linearPixel (rgba : Rgba8) : Rgb16 := ⟨linearChannel rgba.red, linearChannel rgba.green, linearChannel rgba.blue⟩

def channels (pixel : Rgb16) : List Nat := [pixel.red, pixel.green, pixel.blue]

/-- `u16::try_from`. -/
def toU16 (value : Nat) : Option Nat := if value < 2 ^ 16 then some value else none

/-- A loop that extends its output in every turn. -/
def collect (n : Nat) (f : Nat → Except Fault (List Nat)) : Except Fault (List Nat) := ((List.range n).mapM f).map List.flatten

/-- `sums[channel].checked_add(..)` of the three channels. -/
def addChannels (sums pixel : Rgb16) : Except Fault Rgb16 := do
  let red ← orLimit (checkedAdd sums.red pixel.red)
  let green ← orLimit (checkedAdd sums.green pixel.green)
  let blue ← orLimit (checkedAdd sums.blue pixel.blue)
  return ⟨red, green, blue⟩

/-- The mean of one channel, rounded half up. -/
def roundedMean (count sum : Nat) : Except Fault Nat := do
  let rounded ← orLimit (checkedAdd sum (count / 2))
  orLimit (toU16 (rounded / count))

def meanPixel (count : Nat) (sums : Rgb16) : Except Fault Rgb16 := do
  let red ← roundedMean count sums.red
  let green ← roundedMean count sums.green
  let blue ← roundedMean count sums.blue
  return ⟨red, green, blue⟩

structure LinearFrame where
  dimensions : PixelDimensions
  linearRgb16 : List Nat

section General

variable (frame : ByteFrame)

/-- One channel of `composited_pixel`. -/
def compositedValue (source : UInt8) (backdrop alpha : Nat) : Except Fault Nat := do
  let value ← orLimit <| ((checkedMul32 (linearChannel source) alpha).bind fun value =>
    checkedAdd32 value (backdrop * (255 - alpha))).bind fun value => checkedAdd32 value 127
  orLimit (toU16 (value / 255))

def compositedPixel (x y : Nat) (background : Rgb16) : Except Fault Rgb16 := do
  let index ← orLimit <| ((checkedMul y frame.dimensions.width).bind fun row => checkedAdd row x).bind fun pixel =>
    checkedMul pixel 4
  let rgba ← pixelAt frame.pixels index
  let red ← compositedValue rgba.red background.red rgba.alpha.toNat
  let green ← compositedValue rgba.green background.green rgba.alpha.toNat
  let blue ← compositedValue rgba.blue background.blue rgba.alpha.toNat
  return ⟨red, green, blue⟩

def downscaledPixel (sourceX sourceY factor : Nat) (background : Rgb16) : Except Fault Rgb16 := do
  let sums ← (List.range factor).foldlM (fun sums dy =>
    (List.range factor).foldlM (fun sums dx => do
      let pixel ← compositedPixel frame (wrap32 (sourceX + dx)) (wrap32 (sourceY + dy)) background
      addChannels sums pixel) sums) ⟨0, 0, 0⟩
  meanPixel (factor * factor) sums

variable (crop : PixelRect) (dimensions : PixelDimensions) (scale : IntegerScale) (background : Rgb16)

/-- The pixel of the result at a point. -/
def generalPixel (x y : Nat) : Except Fault Rgb16 :=
  match scale.direction with
  | .identity => compositedPixel frame (wrap32 (crop.x + x)) (wrap32 (crop.y + y)) background
  | .up => compositedPixel frame (wrap32 (crop.x + x / scale.factor)) (wrap32 (crop.y + y / scale.factor)) background
  | .down =>
    downscaledPixel frame (wrap32 (crop.x + wrap32 (x * scale.factor))) (wrap32 (crop.y + wrap32 (y * scale.factor))) scale.factor
      background

def normalizeFrameGeneral : Except Fault LinearFrame := do
  let output ← collect dimensions.height fun y => collect dimensions.width fun x =>
    (generalPixel frame crop scale background x y).map channels
  return ⟨dimensions, output⟩

end General

section Opaque

variable (frame : ByteFrame) (crop : PixelRect) (dimensions : PixelDimensions) (scale : IntegerScale)

/-- The row that begins at `crop.y + y`, as it stands in the crop. -/
def opaqueRow (y : Nat) : Except Fault (List Nat) := do
  let row ← orLimit <| (((checkedAdd crop.y y).bind fun row => checkedMul row frame.dimensions.width).bind fun row =>
    checkedAdd row crop.x).bind fun pixel => checkedMul pixel 4
  let bytes ← slice frame.pixels row (row + crop.width * 4)
  return (chunksExact4 bytes).flatMap fun rgba => channels (linearPixel rgba)

def normalizeOpaqueIdentity : Except Fault LinearFrame := do
  let output ← collect crop.height (opaqueRow frame crop)
  return ⟨dimensions, output⟩

/-- The sums over a box, from the offsets in bytes of its first row and column. -/
def boxSums (factor sourceRowBytes sourceRow sourceColumn : Nat) : Except Fault Rgb16 :=
  (List.range factor).foldlM (fun sums row => do
    let rowOffset ← orLimit <| (checkedMul row sourceRowBytes).bind fun offset => checkedAdd sourceRow offset
    (List.range factor).foldlM (fun sums column => do
      let offset ← orLimit <| ((checkedMul column 4).bind fun offset => checkedAdd sourceColumn offset).bind fun offset =>
        checkedAdd rowOffset offset
      let rgba ← pixelAt frame.pixels offset
      addChannels sums (linearPixel rgba)) sums) ⟨0, 0, 0⟩

def normalizeOpaqueDownscale : Except Fault LinearFrame := do
  let sourceRowBytes ← orLimit (checkedMul frame.dimensions.width 4)
  let count ← orLimit (checkedMul scale.factor scale.factor)
  let output ← collect dimensions.height fun outputY => do
    let sourceRow ← orLimit <| ((checkedMul outputY scale.factor).bind fun row => checkedAdd crop.y row).bind fun row =>
      checkedMul row sourceRowBytes
    collect dimensions.width fun outputX => do
      let sourceColumn ← orLimit <| ((checkedMul outputX scale.factor).bind fun column => checkedAdd crop.x column).bind
        fun column => checkedMul column 4
      let sums ← boxSums frame scale.factor sourceRowBytes sourceRow sourceColumn
      (meanPixel count sums).map channels
  return ⟨dimensions, output⟩

/-- `normalize_opaque_crop`; an upscaling is unreachable. -/
def normalizeOpaqueCrop : Except Fault LinearFrame :=
  match scale.direction with
  | .identity => normalizeOpaqueIdentity frame crop dimensions
  | .down => normalizeOpaqueDownscale frame crop dimensions scale
  | .up => .error .outOfBounds

def canUseOpaqueFullFrameFastPath (allowOpaqueCropFastPath : Bool) : Bool :=
  allowOpaqueCropFastPath && scale.direction != .up &&
    (match scaledDimensions crop scale with
      | .ok expected => decide (dimensions = expected)
      | .error _ => false) &&
    (chunksExact4 frame.pixels).all fun rgba => rgba.alpha == 255

/-- `normalize_frame`; `allowOpaqueCropFastPath` says that the sequence has neither a region nor a mask. -/
def normalizeFrame (background : Rgb16) (allowOpaqueCropFastPath : Bool) : Except Fault LinearFrame := do
  let _ ← orLimit (checkedMul (dimensions.width * dimensions.height) 3)
  if canUseOpaqueFullFrameFastPath frame crop dimensions scale allowOpaqueCropFastPath then
    normalizeOpaqueCrop frame crop dimensions scale
  else normalizeFrameGeneral frame crop dimensions scale background

end Opaque

end Krometrail.Vision.Scaling
