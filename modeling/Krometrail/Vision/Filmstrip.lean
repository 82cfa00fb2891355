import Krometrail.Vision.Frames

/-!
# Region filmstrips

A region is resolved to source pixels and clipped to the source, the selected frames are normalized on a crop, and each
tile pixel is looked up in the normalized crop.  The crop is that of the declared rectangle, which for a viewport region
is not the resolved one.
-/

namespace Krometrail.Vision

def i64Min : Int := -(2 ^ 63)

def i64Max : Int := 2 ^ 63 - 1

/-- `i64::try_from`. -/
def toI64 (value : Int) (error : VisionError) : Result Int :=
  if i64Min ≤ value ∧ value ≤ i64Max then .ok value else .error error

/-- `u32::try_from`. -/
def toU32 (value : Int) (error : VisionError) : Result Nat :=
  if 0 ≤ value ∧ value ≤ u32Max then .ok value.toNat else .error error

/-- The wrapping difference of two `i64`. -/
def wrappingSub (a b : Int) : Int := Int.bmod (a - b) (2 ^ 64)

/-- A `SignedPixelRect`; its far edges are in the coordinate space. -/
structure SignedPixelRect where
  x : Int
  y : Int
  width : Nat
  height : Nat
  width_pos : 0 < width
  height_pos : 0 < height
  width_le : width ≤ u32Max
  height_le : height ≤ u32Max
  x_ge : i64Min ≤ x
  y_ge : i64Min ≤ y
  right_le : x + width ≤ i64Max
  bottom_le : y + height ≤ i64Max

/-- `SignedPixelRect::new`, for a position in the coordinate space and `NonZeroU32` sides. -/
def SignedPixelRect.new (x y : Int) (width height : Nat) : Result SignedPixelRect :=
  if h : ((0 < width ∧ 0 < height) ∧ (width ≤ u32Max ∧ height ≤ u32Max)) ∧ (i64Min ≤ x ∧ i64Min ≤ y) ∧
      x + width ≤ i64Max ∧ y + height ≤ i64Max then
    .ok ⟨x, y, width, height, h.1.1.1, h.1.1.2, h.1.2.1, h.1.2.2, h.2.1.1, h.2.1.2, h.2.2.1, h.2.2.2⟩
  else .error ⟨.invalidRegion, "signed region exceeds the coordinate space"⟩

structure RationalScale where
  numerator : Nat
  denominator : Nat
  numerator_pos : 0 < numerator
  denominator_pos : 0 < denominator

structure ViewportMapping where
  viewportDimensions : PixelDimensions
  scaleX : RationalScale
  scaleY : RationalScale

inductive RegionDefinition
  | fixedSourceImage (rect : SignedPixelRect)
  | fixedViewport (rect : SignedPixelRect) (mapping : ViewportMapping)

def RegionDefinition.rect : RegionDefinition → SignedPixelRect
  | fixedSourceImage rect | fixedViewport rect _ => rect

def invalidScaleError : VisionError :=
  ⟨.invalidScale, "viewport scale conversion exceeds the supported coordinate space"⟩

def scaleFloor (value : Int) (scale : RationalScale) : Result Int :=
  toI64 (value * scale.numerator / scale.denominator) invalidScaleError

def scaleCeil (value : Int) (scale : RationalScale) : Result Int :=
  toI64 (-(-(value * scale.numerator) / scale.denominator)) invalidScaleError

def validateViewportMapping (mapping : ViewportMapping) (source : PixelDimensions) : Result Unit := do
  let mappedWidth ← scaleCeil mapping.viewportDimensions.width mapping.scaleX
  let mappedHeight ← scaleCeil mapping.viewportDimensions.height mapping.scaleY
  if mappedWidth ≠ source.width ∨ mappedHeight ≠ source.height then
    .error ⟨.invalidScale, "viewport mapping dimensions contradict the source-frame dimensions"⟩
  else .ok ()

def resolveRegion (region : RegionDefinition) (source : PixelDimensions) : Result SignedPixelRect :=
  match region with
  | .fixedSourceImage rect => .ok rect
  | .fixedViewport rect mapping => do
    validateViewportMapping mapping source
    let left ← scaleFloor rect.x mapping.scaleX
    let top ← scaleFloor rect.y mapping.scaleY
    let right ← scaleCeil (rect.x + rect.width) mapping.scaleX
    let bottom ← scaleCeil (rect.y + rect.height) mapping.scaleY
    let width ← toU32 (right - left) invalidScaleError
    let height ← toU32 (bottom - top) invalidScaleError
    if width = 0 ∨ height = 0 then .error invalidScaleError else SignedPixelRect.new left top width height

structure PaddingInsets where
  left : Nat
  top : Nat
  right : Nat
  bottom : Nat

def clamp (value low high : Int) : Int := if value < low then low else if high < value then high else value

def invalidRegionError : VisionError :=
  ⟨.invalidRegion, "filmstrip region intersection exceeds supported limits"⟩

/-- The padding before the source along one axis. -/
def leadingPadding (edge origin : Int) (size : Nat) : Result Nat :=
  toU32 (clamp (wrappingSub edge origin) 0 size) invalidRegionError

/-- The padding behind the source along one axis. -/
def trailingPadding (edge origin : Int) (size : Nat) : Result Nat := do
  let covered ← toU32 (clamp (wrappingSub edge origin) 0 size) invalidRegionError
  if covered ≤ size then .ok (size - covered) else .error invalidRegionError

def intersectRegion (region : SignedPixelRect) (dimensions : PixelDimensions) :
    Result (Option PixelRect × PaddingInsets) := do
  let left := clamp region.x 0 dimensions.width
  let top := clamp region.y 0 dimensions.height
  let clippedRight := clamp (region.x + region.width) 0 dimensions.width
  let clippedBottom := clamp (region.y + region.height) 0 dimensions.height
  let visibleWidth ← toU32 (clippedRight - left) ⟨.invalidRegion, "filmstrip intersection exceeds limits"⟩
  let visibleHeight ← toU32 (clippedBottom - top) ⟨.invalidRegion, "filmstrip intersection exceeds limits"⟩
  let padding : PaddingInsets :=
    { left := ← leadingPadding left region.x region.width
      top := ← leadingPadding top region.y region.height
      right := ← trailingPadding clippedRight region.x region.width
      bottom := ← trailingPadding clippedBottom region.y region.height }
  if visibleWidth = 0 ∨ visibleHeight = 0 then return (none, padding)
  else do
    let x ← toU32 left invalidRegionError
    let y ← toU32 top invalidRegionError
    let rect ← pixelRect x y visibleWidth visibleHeight
    return (some rect, padding)

def roundRatioTiesDown (numerator denominator : Nat) : Nat :=
  let remainder := numerator % denominator
  numerator / denominator + if remainder > denominator - remainder then 1 else 0

def selectIndices (frameCount limit : Nat) : List Nat :=
  if frameCount ≤ limit then List.range frameCount
  else if limit = 1 then [0]
  else (List.range limit).map fun slot => roundRatioTiesDown (slot * (frameCount - 1)) (limit - 1)

structure FilmstripTilePlan where
  frameIndex : Nat
  sourceRect : Option PixelRect
  padding : PaddingInsets

structure RegionFilmstripPlan where
  tiles : List FilmstripTilePlan
  tileSourceDimensions : PixelDimensions

/-- The frames of one epoch, all of the same dimensions. -/
structure FrameSequence where
  dimensions : PixelDimensions
  frames : List Frame
  restricted : Bool
  frames_ne_nil : frames ≠ []
  common : ∀ frame ∈ frames, frame.dimensions = dimensions

def planRegionFilmstrip (source : FrameSequence) (region : RegionDefinition) (tileLimit : Nat) :
    Result RegionFilmstripPlan := do
  let resolved ← resolveRegion region source.dimensions
  let tileSourceDimensions ← (PixelDimensions.new resolved.width resolved.height).mapError fun _ =>
    ⟨.resourceLimitExceeded, "resolved filmstrip region exceeds supported dimensions"⟩
  let tiles ← (selectIndices source.frames.length tileLimit).mapM fun frameIndex => do
    let (sourceRect, padding) ← intersectRegion resolved source.dimensions
    return { frameIndex, sourceRect, padding }
  return { tiles, tileSourceDimensions }

structure RegionFilmstripParameters where
  region : RegionDefinition
  background : Rgb8
  paddingColor : Srgb8
  tileLimit : Nat

/-- A filmstrip before drawing: its plan, the crop, and the normalized frames of its tiles. -/
structure RegionFilmstrip where
  plan : RegionFilmstripPlan
  crop : PixelRect
  normalized : List NormalizedFrame
  paddingColor : Srgb8

def generateRegionFilmstrip (source : FrameSequence) (parameters : RegionFilmstripParameters) :
    Result RegionFilmstrip := do
  let plan ← planRegionFilmstrip source parameters.region parameters.tileLimit
  -- the crop is clipped from the declared rectangle
  let clipped ← intersectRegion parameters.region.rect source.dimensions
  let whole ← pixelRect 0 0 1 1
  let crop := clipped.1.getD whole
  let normalized ← normalizeSequence (plan.tiles.filterMap fun tile => source.frames[tile.frameIndex]?)
    source.dimensions crop parameters.background source.restricted
  return { plan, crop, normalized, paddingColor := parameters.paddingColor }

/-- How a pixel lookup goes wrong: it fails, or the slice is out of bounds and the process panics. -/
inductive Fault
  | error (error : VisionError)
  | outOfBounds

def canvasLimitError : VisionError := 
  ⟨.resourceLimitExceeded, "artifact raster exceeds configured layout or canvas limits"⟩

/-- The place of a source position in a crop of the width; the first of its three channels is addressed. -/
def cropPlace (width : Nat) (crop : PixelRect) (sourceX sourceY : Nat) : Option Nat :=
  ((checkedMul (sourceY - crop.y) width).bind fun row => checkedAdd row (sourceX - crop.x)).bind fun pixel =>
    (checkedMul pixel 3).map fun _ => pixel

/-- The lookup in the normalized crop. -/
def cropPixel (frame : NormalizedFrame) (crop : PixelRect) (sourceX sourceY : Nat) : Except Fault Rgb16 :=
  match cropPlace frame.dimensions.width crop sourceX sourceY with
  | none => .error (.error canvasLimitError)
  | some pixel =>
    match frame.linearRgb16[pixel]? with
    | none => .error .outOfBounds
    | some linear => .ok linear

/-- `region_pixel`, without a mask: the color of a tile pixel, and whether it is padding. -/
def regionPixel (frame : NormalizedFrame) (tile : FilmstripTilePlan) (paddingColor : Srgb8) (crop : PixelRect)
    (x y : Nat) : Except Fault (Srgb8 × Bool) :=
  match tile.sourceRect with
  | none => .ok (paddingColor, true)
  | some sourceRect =>
    if x < tile.padding.left ∨ sourceRect.width ≤ x - tile.padding.left ∨ y < tile.padding.top ∨
        sourceRect.height ≤ y - tile.padding.top then .ok (paddingColor, true)
    else do
      let linear ← cropPixel frame crop (sourceRect.x + (x - tile.padding.left)) (sourceRect.y + (y - tile.padding.top))
      return (linear.toSrgb8, false)

def RegionFilmstrip.pixel (strip : RegionFilmstrip) (index x y : Nat) : Option (Except Fault (Srgb8 × Bool)) := do
  let tile ← strip.plan.tiles[index]?
  let frame ← strip.normalized[index]?
  return regionPixel frame tile strip.paddingColor strip.crop x y

end Krometrail.Vision
