import Krometrail.Artifacts.Demand
import Krometrail.Lib.Raster
import Krometrail.Lib.Results

/-!
# Source frames and their normalization

A frame is a row-major list of straight-alpha pixels.  Normalization crops it and composites it onto a background in
linear light; opaque frames are converted row by row instead, with the same result (`normalizeFrame_eq`).
-/

namespace Krometrail.Vision

inductive ErrorCode
  | invalidDimensions | invalidRegion | invalidScale | invalidParameter | resourceLimitExceeded | emptySequence
  | incompatibleFrame | outOfOrder
  deriving DecidableEq

structure VisionError where
  code : ErrorCode
  message : String

abbrev Result (α : Type) := Except VisionError α

def u32Max : Nat := 2 ^ 32 - 1

/-- The dimensions of an image whose bytes can be addressed. -/
structure PixelDimensions where
  width : Nat
  height : Nat
  width_pos : 0 < width
  height_pos : 0 < height
  width_le : width ≤ u32Max
  height_le : height ≤ u32Max
  bytes_le : width * height * 4 ≤ u64Max
  deriving DecidableEq

def PixelDimensions.sized (width height : Nat)
    (h : (0 < width ∧ 0 < height) ∧ (width ≤ u32Max ∧ height ≤ u32Max) ∧ width * height * 4 ≤ u64Max) : PixelDimensions :=
  ⟨width, height, h.1.1, h.1.2, h.2.1.1, h.2.1.2, h.2.2⟩

def PixelDimensions.new (width height : Nat) : Result PixelDimensions :=
  if h : (0 < width ∧ 0 < height) ∧ (width ≤ u32Max ∧ height ≤ u32Max) ∧ width * height * 4 ≤ u64Max then
    .ok ⟨width, height, h.1.1, h.1.2, h.2.1.1, h.2.1.2, h.2.2⟩
  else if 0 < width ∧ 0 < height then
    .error ⟨.invalidDimensions, "RGBA8 payload length exceeds the supported address space"⟩
  else .error ⟨.invalidDimensions, "pixel dimensions must be non-zero"⟩

def pixelRect (x y width height : Nat) : Result PixelRect :=
  if width = 0 ∨ height = 0 then .error ⟨.invalidRegion, "pixel rectangle dimensions must be non-zero"⟩
  else if x + width > u32Max ∨ y + height > u32Max then
    .error ⟨.invalidRegion, "pixel rectangle exceeds the coordinate space"⟩
  else .ok { x, y, width, height }

def fitsWithin (rect : PixelRect) (dimensions : PixelDimensions) : Prop :=
  rect.x + rect.width ≤ dimensions.width ∧ rect.y + rect.height ≤ dimensions.height

instance (rect : PixelRect) (dimensions : PixelDimensions) : Decidable (fitsWithin rect dimensions) :=
  inferInstanceAs (Decidable (_ ∧ _))

/-- One pixel of `PixelFormat::Rgba8SrgbStraight`. -/
structure Rgba8 where
  red : UInt8
  green : UInt8
  blue : UInt8
  alpha : UInt8
  deriving DecidableEq

structure Frame where
  dimensions : PixelDimensions
  pixels : List Rgba8
  length_pixels : pixels.length = dimensions.height * dimensions.width

def Frame.pixel (frame : Frame) (x y : Nat) : Rgba8 :=
  frame.pixels.getD (y * frame.dimensions.width + x) ⟨0, 0, 0, 0⟩

/-- `SRGB8_TO_LINEAR16`. -/
def srgb8ToLinear16 : List Nat := [
  0, 20, 40, 60, 80, 99, 119, 139, 159, 179, 199, 219, 241, 264, 288, 313, 340, 367, 396, 427, 458, 491, 526,
  562, 599, 637, 677, 718, 761, 805, 851, 898, 947, 997, 1048, 1101, 1156, 1212, 1270, 1330, 1391, 1453, 1517,
  1583, 1651, 1720, 1790, 1863, 1937, 2013, 2090, 2170, 2250, 2333, 2418, 2504, 2592, 2681, 2773, 2866, 2961,
  3058, 3157, 3258, 3360, 3464, 3570, 3678, 3788, 3900, 4014, 4129, 4247, 4366, 4488, 4611, 4736, 4864, 4993,
  5124, 5257, 5392, 5530, 5669, 5810, 5953, 6099, 6246, 6395, 6547, 6700, 6856, 7014, 7174, 7335, 7500, 7666,
  7834, 8004, 8177, 8352, 8528, 8708, 8889, 9072, 9258, 9445, 9635, 9828, 10022, 10219, 10417, 10619, 10822,
  11028, 11235, 11446, 11658, 11873, 12090, 12309, 12530, 12754, 12980, 13209, 13440, 13673, 13909, 14146,
  14387, 14629, 14874, 15122, 15371, 15623, 15878, 16135, 16394, 16656, 16920, 17187, 17456, 17727, 18001,
  18277, 18556, 18837, 19121, 19407, 19696, 19987, 20281, 20577, 20876, 21177, 21481, 21787, 22096, 22407,
  22721, 23038, 23357, 23678, 24002, 24329, 24658, 24990, 25325, 25662, 26001, 26344, 26688, 27036, 27386,
  27739, 28094, 28452, 28813, 29176, 29542, 29911, 30282, 30656, 31033, 31412, 31794, 32179, 32567, 32957,
  33350, 33745, 34143, 34544, 34948, 35355, 35764, 36176, 36591, 37008, 37429, 37852, 38278, 38706, 39138,
  39572, 40009, 40449, 40891, 41337, 41785, 42236, 42690, 43147, 43606, 44069, 44534, 45002, 45473, 45947,
  46423, 46903, 47385, 47871, 48359, 48850, 49344, 49841, 50341, 50844, 51349, 51858, 52369, 52884, 53401,
  53921, 54445, 54971, 55500, 56032, 56567, 57105, 57646, 58190, 58737, 59287, 59840, 60396, 60955, 61517,
  62082, 62650, 63221, 63795, 64372, 64952, 65535]

def linearChannel (value : UInt8) : Nat := srgb8ToLinear16.getD value.toNat 0

/-- `linear16_to_srgb8`: the entry, or the nearest one, the lower of two equally near ones. -/
def linear16ToSrgb8 (value : Nat) : Nat :=
  let upper := srgb8ToLinear16.findIdx fun entry => decide (value ≤ entry)
  if srgb8ToLinear16[upper]? = some value then upper
  else if upper = 0 then 0
  else if upper = 256 then 255
  else
    let lower := upper - 1
    if value - srgb8ToLinear16.getD lower 0 ≤ srgb8ToLinear16.getD upper 0 - value then lower else upper

/-- A pixel in three linear channels. -/
structure Rgb16 where
  red : Nat
  green : Nat
  blue : Nat
  deriving DecidableEq

/-- A pixel in three encoded channels. -/
structure Srgb8 where
  red : Nat
  green : Nat
  blue : Nat
  deriving DecidableEq

/-- The display color of a normalized pixel. -/
def Rgb16.toSrgb8 (pixel : Rgb16) : Srgb8 :=
  ⟨linear16ToSrgb8 pixel.red, linear16ToSrgb8 pixel.green, linear16ToSrgb8 pixel.blue⟩

def linearBackground (background : Rgb8) : Rgb16 :=
  ⟨linearChannel background.red, linearChannel background.green, linearChannel background.blue⟩

/-- One channel of `composited_pixel`. -/
def compositedChannel (source : UInt8) (backdrop alpha : Nat) : Nat :=
  (linearChannel source * alpha + backdrop * (255 - alpha) + 127) / 255

def compositedPixel (frame : Frame) (x y : Nat) (background : Rgb16) : Rgb16 :=
  let rgba := frame.pixel x y
  let alpha := rgba.alpha.toNat
  ⟨compositedChannel rgba.red background.red alpha, compositedChannel rgba.green background.green alpha,
    compositedChannel rgba.blue background.blue alpha⟩

structure NormalizedFrame where
  dimensions : PixelDimensions
  linearRgb16 : List Rgb16

/-- `normalize_frame_general`, at identity scale. -/
def normalizeFrameGeneral (frame : Frame) (crop : PixelRect) (dimensions : PixelDimensions) (background : Rgb16) :
    NormalizedFrame :=
  { dimensions, linearRgb16 := Raster.raster dimensions.width dimensions.height fun x y =>
      compositedPixel frame (crop.x + x) (crop.y + y) background }

def normalizeOpaqueIdentity (frame : Frame) (crop : PixelRect) (dimensions : PixelDimensions) : NormalizedFrame :=
  { dimensions, linearRgb16 := (List.range crop.height).flatMap fun y =>
      ((frame.pixels.drop ((crop.y + y) * frame.dimensions.width + crop.x)).take crop.width).map fun rgba =>
        ⟨linearChannel rgba.red, linearChannel rgba.green, linearChannel rgba.blue⟩ }

/-- `normalize_frame`, at identity scale; `restricted` is whether the sequence has a region or a mask. -/
def normalizeFrame (frame : Frame) (crop : PixelRect) (dimensions : PixelDimensions) (background : Rgb16)
    (restricted : Bool) : NormalizedFrame :=
  if !restricted && frame.pixels.all (fun rgba => rgba.alpha == 255) then normalizeOpaqueIdentity frame crop dimensions
  else normalizeFrameGeneral frame crop dimensions background

/-- The frames of `normalize_sequence`, at identity scale. -/
def normalizeSequence (frames : List Frame) (source : PixelDimensions) (crop : PixelRect) (background : Rgb8)
    (restricted : Bool) : Result (List NormalizedFrame) := do
  if fitsWithin crop source then do
    let dimensions ← PixelDimensions.new crop.width crop.height
    return frames.map fun frame => normalizeFrame frame crop dimensions (linearBackground background) restricted
  else .error ⟨.invalidRegion, "normalization crop lies outside the source-frame dimensions"⟩

theorem Frame.pixel_eq (frame : Frame) {x y : Nat} (hx : x < frame.dimensions.width) (hy : y < frame.dimensions.height) :
    frame.pixels[y * frame.dimensions.width + x]? = some (frame.pixel x y) := by
  have hrow : (y + 1) * frame.dimensions.width ≤ frame.dimensions.height * frame.dimensions.width :=
    Nat.mul_le_mul_right _ hy
  rw [Nat.succ_mul] at hrow
  have hlength := frame.length_pixels
  unfold Frame.pixel
  rw [List.getD_eq_getElem?_getD, List.getElem?_eq_getElem (by omega)]
  rfl

theorem compositedChannel_opaque (source : UInt8) (backdrop : Nat) :
    compositedChannel source backdrop 255 = linearChannel source := by
  unfold compositedChannel
  omega

theorem normalizeFrame_eq (frame : Frame) (crop : PixelRect) (dimensions : PixelDimensions) (background : Rgb16)
    (restricted : Bool) (hcrop : fitsWithin crop frame.dimensions) (hwidth : dimensions.width = crop.width)
    (hheight : dimensions.height = crop.height) :
    normalizeFrame frame crop dimensions background restricted = normalizeFrameGeneral frame crop dimensions background := by
  unfold normalizeFrame
  split
  · rename_i hopaque
    simp only [Bool.and_eq_true, List.all_eq_true, beq_iff_eq] at hopaque
    unfold normalizeOpaqueIdentity normalizeFrameGeneral Raster.raster
    rw [hwidth, hheight]
    congr 1
    refine List.flatMap_congr fun y hy => ?_
    have hy := List.mem_range.1 hy
    refine List.ext_getElem? fun x => ?_
    rw [List.getElem?_map, List.getElem?_take, List.getElem?_map, List.getElem?_drop]
    by_cases hx : x < crop.width
    · have hpixel := frame.pixel_eq (x := crop.x + x) (y := crop.y + y) (by have := hcrop.1; omega)
        (by have := hcrop.2; omega)
      rw [← Nat.add_assoc] at hpixel
      have halpha := hopaque.2 _ (List.mem_of_getElem? hpixel)
      rw [if_pos hx, hpixel, List.getElem?_range hx]
      simp [compositedPixel, halpha, compositedChannel_opaque]
    · rw [if_neg hx, List.getElem?_eq_none (by simpa using hx)]
      rfl
  · rfl

theorem linearRgb16_normalizeFrame (frame : Frame) (crop : PixelRect) (dimensions : PixelDimensions) (background : Rgb16)
    (restricted : Bool) (hcrop : fitsWithin crop frame.dimensions) (hwidth : dimensions.width = crop.width)
    (hheight : dimensions.height = crop.height) :
    (normalizeFrame frame crop dimensions background restricted).linearRgb16 =
      Raster.raster crop.width crop.height fun x y => compositedPixel frame (crop.x + x) (crop.y + y) background := by
  rw [normalizeFrame_eq frame crop dimensions background restricted hcrop hwidth hheight]
  unfold normalizeFrameGeneral
  rw [hwidth, hheight]

@[simp] theorem dimensions_normalizeFrame (frame : Frame) (crop : PixelRect) (dimensions : PixelDimensions)
    (background : Rgb16) (restricted : Bool) :
    (normalizeFrame frame crop dimensions background restricted).dimensions = dimensions := by
  unfold normalizeFrame
  split <;> rfl

end Krometrail.Vision
