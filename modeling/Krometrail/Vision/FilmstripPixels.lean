import Krometrail.Vision.Filmstrip

/-!
# The pixels of a region filmstrip

A tile shows the source exactly when the crop of the declared rectangle takes in what the resolved region has of the
source.  Elsewhere the lookup leaves the normalized crop, or reads another pixel of it.
-/

namespace Krometrail.Vision

open Results

def InSource (dimensions : PixelDimensions) (px py : Int) : Prop :=
  (0 ≤ px ∧ px < dimensions.width) ∧ 0 ≤ py ∧ py < dimensions.height

instance (dimensions : PixelDimensions) (px py : Int) : Decidable (InSource dimensions px py) :=
  inferInstanceAs (Decidable (_ ∧ _))

def SignedPixelRect.Contains (rect : SignedPixelRect) (px py : Int) : Prop :=
  (rect.x ≤ px ∧ px < rect.x + rect.width) ∧ rect.y ≤ py ∧ py < rect.y + rect.height

/-- The point is one of the rectangle. -/
def InPixelRect (rect : PixelRect) (px py : Int) : Prop :=
  ((rect.x : Int) ≤ px ∧ px < rect.x + rect.width) ∧ (rect.y : Int) ≤ py ∧ py < rect.y + rect.height

/-- What a tile shows at a source position. -/
def shownPixel (frame : Frame) (background : Rgb8) (paddingColor : Srgb8) (px py : Int) : Srgb8 × Bool :=
  if InSource frame.dimensions px py then
    ((compositedPixel frame px.toNat py.toNat (linearBackground background)).toSrgb8, false)
  else (paddingColor, true)

/-- Each tile pixel shows the source position that it is resolved to. -/
def RegionFilmstrip.Right (strip : RegionFilmstrip) (source : FrameSequence) (parameters : RegionFilmstripParameters)
    (resolved : SignedPixelRect) : Prop :=
  ∀ index tile, strip.plan.tiles[index]? = some tile → ∃ frame, source.frames[tile.frameIndex]? = some frame ∧
    ∀ x < resolved.width, ∀ y < resolved.height, strip.pixel index x y =
      some (.ok (shownPixel frame parameters.background parameters.paddingColor (resolved.x + x) (resolved.y + y)))

/-- Every source position of the resolved region is in the declared rectangle; where that one misses the source, it is
the first pixel. -/
def CropCovers (region : RegionDefinition) (resolved : SignedPixelRect) (dimensions : PixelDimensions) : Prop :=
  ∀ px py, InSource dimensions px py → resolved.Contains px py →
    region.rect.Contains px py ∨ (∀ qx qy, InSource dimensions qx qy → ¬ region.rect.Contains qx qy) ∧ px = 0 ∧ py = 0

/-! ### Clipping -/

variable {dimensions : PixelDimensions} {region : SignedPixelRect}

theorem toU32_eq_ok {value : Int} {error : VisionError} {n : Nat} : toU32 value error = .ok n ↔
    (0 ≤ value ∧ value ≤ u32Max) ∧ value.toNat = n := by
  unfold toU32
  split
  · rename_i h
    exact ⟨fun heq => ⟨h, Except.ok.inj heq⟩, fun heq => congrArg _ heq.2⟩
  · rename_i h
    exact ⟨nofun, fun heq => absurd heq.1 h⟩

theorem clamp_eq (value : Int) (size : Nat) : clamp value 0 size = max 0 (min value size) := by
  unfold clamp
  split
  · omega
  · split <;> omega

theorem clamp_mem (value : Int) (size : Nat) : 0 ≤ clamp value 0 size ∧ clamp value 0 size ≤ size := by
  rw [clamp_eq]
  omega

theorem wrappingSub_eq {a b : Int} (hlow : -(2 ^ 63) ≤ a - b) (hhigh : a - b < 2 ^ 63) : wrappingSub a b = a - b := by
  unfold wrappingSub
  exact Int.bmod_eq_of_le (by omega) (by omega)

variable {size : Nat}

theorem toU32_clamp (edge : Int) (hsize : size ≤ u32Max) (error : VisionError) :
    toU32 (clamp edge 0 size) error = .ok (clamp edge 0 size).toNat := by
  have := clamp_mem edge size
  exact toU32_eq_ok.2 ⟨by omega, rfl⟩

theorem leadingPadding_ok (edge origin : Int) (hsize : size ≤ u32Max) :
    leadingPadding edge origin size = .ok (clamp (wrappingSub edge origin) 0 size).toNat :=
  toU32_clamp _ hsize _

theorem trailingPadding_ok (edge origin : Int) (hsize : size ≤ u32Max) :
    ∃ padding, trailingPadding edge origin size = .ok padding := by
  have := clamp_mem (wrappingSub edge origin) size
  refine ⟨size - (clamp (wrappingSub edge origin) 0 size).toNat, ?_⟩
  unfold trailingPadding
  rw [toU32_clamp _ hsize, ok_bind, if_pos (by omega)]

/-! Along one axis, the source is `0, .., size - 1` and the rectangle `origin, .., origin + extent - 1`. -/

theorem toU32_visible (origin : Int) (extent : Nat) (hsize : size ≤ u32Max) (error : VisionError) :
    toU32 (clamp (origin + extent) 0 size - clamp origin 0 size) error =
      .ok (clamp (origin + extent) 0 size - clamp origin 0 size).toNat := by
  refine toU32_eq_ok.2 ⟨?_, rfl⟩
  rw [clamp_eq, clamp_eq]
  omega

theorem mem_visible {origin p : Int} {extent : Nat} :
    ((clamp origin 0 size).toNat : Int) ≤ p ∧
      p < (clamp origin 0 size).toNat + (clamp (origin + extent) 0 size - clamp origin 0 size).toNat ↔
    (0 ≤ p ∧ p < size) ∧ origin ≤ p ∧ p < origin + extent := by
  rw [clamp_eq, clamp_eq]
  omega

theorem visible_le (origin : Int) (extent size : Nat) :
    (clamp origin 0 size).toNat + (clamp (origin + extent) 0 size - clamp origin 0 size).toNat ≤ size := by
  rw [clamp_eq, clamp_eq]
  omega

theorem leading_eq {origin : Int} {extent : Nat} (hextent : extent ≤ u32Max) (hsize : size ≤ u32Max) (hlow : i64Min ≤ origin)
    (hhigh : origin + extent ≤ i64Max) (hvisible : (clamp (origin + extent) 0 size - clamp origin 0 size).toNat ≠ 0) :
    ((clamp (wrappingSub (clamp origin 0 size) origin) 0 extent).toNat : Int) = (clamp origin 0 size).toNat - origin := by
  unfold u32Max at hextent hsize
  unfold i64Min at hlow
  unfold i64Max at hhigh
  rw [clamp_eq, clamp_eq] at hvisible
  rw [clamp_eq origin, wrappingSub_eq (by omega) (by omega), clamp_eq]
  omega

theorem pixelRect_ok (x y width height : Nat) (hempty : ¬(width = 0 ∨ height = 0))
    (hspace : ¬(x + width > u32Max ∨ y + height > u32Max)) : pixelRect x y width height = .ok { x, y, width, height } := by
  unfold pixelRect
  rw [if_neg hempty, if_neg hspace]

/-- What clipping gives: nothing where the rectangle misses the source, else the points that they share. -/
def Clips (region : SignedPixelRect) (dimensions : PixelDimensions) (padding : PaddingInsets) : Option PixelRect → Prop
  | none => ∀ px py, InSource dimensions px py → ¬ region.Contains px py
  | some rect => (0 < rect.width ∧ 0 < rect.height) ∧ fitsWithin rect dimensions ∧
      (∀ px py, InPixelRect rect px py ↔ InSource dimensions px py ∧ region.Contains px py) ∧
      (padding.left : Int) = rect.x - region.x ∧ (padding.top : Int) = rect.y - region.y

theorem intersectRegion_spec (region : SignedPixelRect) (dimensions : PixelDimensions) :
    ∃ clip padding, intersectRegion region dimensions = .ok (clip, padding) ∧ Clips region dimensions padding clip := by
  obtain ⟨rightPadding, hright⟩ := trailingPadding_ok (clamp (region.x + region.width) 0 dimensions.width) region.x
    region.width_le
  obtain ⟨bottomPadding, hbottom⟩ := trailingPadding_ok (clamp (region.y + region.height) 0 dimensions.height) region.y
    region.height_le
  have hfitsWidth := visible_le region.x region.width dimensions.width
  have hfitsHeight := visible_le region.y region.height dimensions.height
  have hwidth := dimensions.width_le
  have hheight := dimensions.height_le
  simp only [intersectRegion, toU32_visible _ _ hwidth, toU32_visible _ _ hheight, ok_bind,
    leadingPadding_ok _ _ region.width_le, leadingPadding_ok _ _ region.height_le, hright, hbottom]
  split
  · rename_i hempty
    refine ⟨none, _, rfl, fun px py hin hcontains => ?_⟩
    have hcolumn := (mem_visible (p := px)).2 ⟨hin.1, hcontains.1⟩
    have hrow := (mem_visible (p := py)).2 ⟨hin.2, hcontains.2⟩
    omega
  · rename_i hvisible
    have hrect := pixelRect_ok (clamp region.x 0 dimensions.width).toNat (clamp region.y 0 dimensions.height).toNat
      (clamp (region.x + region.width) 0 dimensions.width - clamp region.x 0 dimensions.width).toNat
      (clamp (region.y + region.height) 0 dimensions.height - clamp region.y 0 dimensions.height).toNat hvisible (by omega)
    simp only [toU32_clamp _ hwidth, toU32_clamp _ hheight, ok_bind, hrect]
    obtain ⟨hcolumns, hrows⟩ := not_or.1 hvisible
    refine ⟨some _, _, rfl, ⟨Nat.pos_of_ne_zero hcolumns, Nat.pos_of_ne_zero hrows⟩, ⟨hfitsWidth, hfitsHeight⟩,
      fun px py => ?_, leading_eq region.width_le hwidth region.x_ge region.right_le hcolumns,
      leading_eq region.height_le hheight region.y_ge region.bottom_le hrows⟩
    exact (and_congr mem_visible mem_visible).trans and_and_and_comm

theorem bytes_le_of_fits {rect : PixelRect} (hfits : fitsWithin rect dimensions) :
    rect.width * rect.height * 4 ≤ u64Max := by
  have hwidth : rect.width ≤ dimensions.width := by
    have := hfits.1
    omega
  have hheight : rect.height ≤ dimensions.height := by
    have := hfits.2
    omega
  have := Nat.mul_le_mul hwidth hheight
  have := dimensions.bytes_le
  omega

theorem PixelDimensions.new_crop {rect : PixelRect} (hpos : 0 < rect.width ∧ 0 < rect.height)
    (hfits : fitsWithin rect dimensions) :
    ∃ crop, PixelDimensions.new rect.width rect.height = .ok crop ∧ crop.width = rect.width ∧ crop.height = rect.height := by
  have hwidth := dimensions.width_le
  have hheight := dimensions.height_le
  obtain ⟨hx, hy⟩ := hfits
  have hbytes := bytes_le_of_fits (show fitsWithin rect dimensions from ⟨hx, hy⟩)
  unfold PixelDimensions.new
  rw [dif_pos ⟨hpos, ⟨by omega, by omega⟩, hbytes⟩]
  exact ⟨_, rfl, rfl, rfl⟩

variable {frame : Frame} {crop : PixelRect} {cropped : PixelDimensions} {background : Rgb8} {restricted : Bool}
  {sx sy : Nat}

theorem cropPixel_inside (hfits : fitsWithin crop frame.dimensions) (hwidth : cropped.width = crop.width)
    (hheight : cropped.height = crop.height) (hin : InPixelRect crop sx sy) :
    cropPixel (normalizeFrame frame crop cropped (linearBackground background) restricted) crop sx sy =
      .ok (compositedPixel frame sx sy (linearBackground background)) := by
  obtain ⟨⟨hx0, hx1⟩, hy0, hy1⟩ := hin
  have hcolumn : sx - crop.x < crop.width := by omega
  have hrow : sy - crop.y < crop.height := by omega
  -- the place is in the buffer, whose channels can be addressed
  have hplace : (sy - crop.y) * crop.width + (sx - crop.x) < crop.height * crop.width := by
    have := Nat.mul_le_mul_right crop.width (Nat.succ_le_of_lt hrow)
    rw [Nat.succ_mul] at this
    omega
  have hbytes := bytes_le_of_fits hfits
  rw [Nat.mul_comm crop.width] at hbytes
  have hlinear := Raster.getElem?_raster hcolumn hrow fun x y =>
    compositedPixel frame (crop.x + x) (crop.y + y) (linearBackground background)
  rw [Nat.add_sub_cancel' (by omega), Nat.add_sub_cancel' (by omega)] at hlinear
  have haddressed : cropPlace crop.width crop sx sy = some ((sy - crop.y) * crop.width + (sx - crop.x)) := by
    unfold cropPlace checkedMul checkedAdd
    rw [if_pos (by omega), Option.bind_some, if_pos (by omega), Option.bind_some, if_pos (by omega), Option.map_some]
  unfold cropPixel
  rw [dimensions_normalizeFrame, hwidth, haddressed,
    linearRgb16_normalizeFrame frame crop cropped _ restricted hfits hwidth hheight]
  simp only [hlinear]

theorem cropPixel_ok (hfits : fitsWithin crop frame.dimensions) (hwidth : cropped.width = crop.width)
    (hheight : cropped.height = crop.height) {linear : Rgb16}
    (h : cropPixel (normalizeFrame frame crop cropped (linearBackground background) restricted) crop sx sy = .ok linear) :
    ∃ qx qy : Nat, InPixelRect crop qx qy ∧ linear = compositedPixel frame qx qy (linearBackground background) := by
  unfold cropPixel at h
  rw [linearRgb16_normalizeFrame frame crop cropped _ restricted hfits hwidth hheight] at h
  split at h
  · cases h
  · rename_i place _
    split at h
    · cases h
    · rename_i found hfound
      cases h
      have hplace : place < crop.height * crop.width := by
        by_contra hover
        rw [List.getElem?_eq_none (by rw [Raster.length_raster]; omega)] at hfound
        cases hfound
      rw [Raster.getElem?_raster_place hplace] at hfound
      have hpos : 0 < crop.width := Nat.pos_of_ne_zero fun hzero => by simp [hzero] at hplace
      have hcolumn := Nat.mod_lt place hpos
      have hrow : place / crop.width < crop.height := Nat.div_lt_of_lt_mul (by rwa [Nat.mul_comm])
      generalize place / crop.width = row at hrow hfound
      generalize place % crop.width = column at hcolumn hfound
      exact ⟨crop.x + column, crop.y + row, ⟨⟨by omega, by omega⟩, by omega, by omega⟩, (Option.some.inj hfound).symm⟩

theorem regionPixel_eq {resolved : SignedPixelRect} {padding : PaddingInsets} {clip : Option PixelRect}
    (hclip : Clips resolved dimensions padding clip) (normalized : NormalizedFrame) (index x y : Nat)
    (paddingColor : Srgb8) (hx : x < resolved.width) (hy : y < resolved.height) :
    regionPixel normalized ⟨index, clip, padding⟩ paddingColor crop x y =
      if InSource dimensions (resolved.x + x) (resolved.y + y) then
        (cropPixel normalized crop (resolved.x + x).toNat (resolved.y + y).toNat).map fun linear => (linear.toSrgb8, false)
      else .ok (paddingColor, true) := by
  have hcontains : resolved.Contains (resolved.x + x) (resolved.y + y) := by
    unfold SignedPixelRect.Contains
    omega
  cases clip with
  | none => rw [if_neg fun hin => hclip _ _ hin hcontains, regionPixel]
  | some rect =>
    obtain ⟨-, hfits, hpoints, hleft, htop⟩ := hclip
    have hpoint := hpoints (resolved.x + x) (resolved.y + y)
    unfold regionPixel
    by_cases hin : InSource dimensions (resolved.x + x) (resolved.y + y)
    · obtain ⟨⟨hx0, hx1⟩, hy0, hy1⟩ := hpoint.2 ⟨hin, hcontains⟩
      have hsx : rect.x + (x - padding.left) = (resolved.x + x).toNat := by omega
      have hsy : rect.y + (y - padding.top) = (resolved.y + y).toNat := by omega
      rw [if_pos hin]
      dsimp only
      rw [if_neg (by omega), hsx, hsy]
      cases cropPixel normalized crop (resolved.x + x).toNat (resolved.y + y).toNat <;> rfl
    · rw [if_neg hin]
      dsimp only
      rw [if_pos]
      by_contra hvisible
      refine hin (hpoint.1 ⟨⟨?_, ?_⟩, ?_, ?_⟩).1 <;> omega

section Filmstrip

variable {source : FrameSequence} {parameters : RegionFilmstripParameters} {strip : RegionFilmstrip}
  {resolved : SignedPixelRect} {tileDimensions : PixelDimensions}

theorem roundRatioTiesDown_le (slot span denominator : Nat) (hpos : 0 < denominator) (hslot : slot ≤ denominator) :
    roundRatioTiesDown (slot * span) denominator ≤ span := by
  have hmul : slot * span ≤ denominator * span := Nat.mul_le_mul_right span hslot
  have hdivmod := Nat.div_add_mod (slot * span) denominator
  have hmod := Nat.mod_lt (slot * span) hpos
  unfold roundRatioTiesDown
  dsimp only
  have hquotient : slot * span / denominator ≤ span := Nat.div_le_of_le_mul hmul
  split
  · rename_i hround
    -- rounding up needs a remainder, so that the quotient is below the span
    rcases Nat.lt_or_ge (slot * span / denominator) span with hlt | hge
    · omega
    · have hquotient' : slot * span / denominator = span := le_antisymm hquotient hge
      rw [hquotient'] at hdivmod
      omega
  · omega

theorem selectIndices_lt {frameCount limit index : Nat} (hne : 0 < frameCount) (h : index ∈ selectIndices frameCount limit) :
    index < frameCount := by
  unfold selectIndices at h
  split at h
  · exact List.mem_range.1 h
  · split at h
    · rw [List.mem_singleton.1 h]
      exact hne
    · rename_i hone
      obtain ⟨slot, hslot, rfl⟩ := List.mem_map.1 h
      have hslot := List.mem_range.1 hslot
      have := roundRatioTiesDown_le slot (frameCount - 1) (limit - 1) (by omega) (by omega)
      omega

theorem getElem?_filterMap_of_some {α β : Type} {f : α → Option β} {l : List α} (h : ∀ a ∈ l, (f a).isSome = true)
    (i : Nat) : (l.filterMap f)[i]? = l[i]?.bind f := by
  induction l generalizing i with
  | nil => simp
  | cons a l ih =>
    obtain ⟨b, hb⟩ := Option.isSome_iff_exists.1 (h a List.mem_cons_self)
    rw [List.filterMap_cons_some hb]
    cases i with
    | zero => simp [hb]
    | succ i => simpa using ih (fun a ha => h a (List.mem_cons_of_mem _ ha)) i

/-- The points of the crop: those of the declared rectangle in the source, or the first pixel where there are none. -/
def CropOf (rect : SignedPixelRect) (dimensions : PixelDimensions) (crop : PixelRect) : Prop :=
  fitsWithin crop dimensions ∧ ∀ px py, InPixelRect crop px py ↔ (InSource dimensions px py ∧ rect.Contains px py) ∨
    (∀ qx qy, InSource dimensions qx qy → ¬ rect.Contains qx qy) ∧ px = 0 ∧ py = 0

theorem declaredCrop_spec {rect : SignedPixelRect} {padding : PaddingInsets} {clip : Option PixelRect}
    (hclip : Clips rect dimensions padding clip) :
    CropOf rect dimensions (clip.getD ⟨0, 0, 1, 1⟩) ∧
      ∃ cropped, PixelDimensions.new (clip.getD ⟨0, 0, 1, 1⟩).width (clip.getD ⟨0, 0, 1, 1⟩).height = .ok cropped ∧
        cropped.width = (clip.getD ⟨0, 0, 1, 1⟩).width ∧ cropped.height = (clip.getD ⟨0, 0, 1, 1⟩).height := by
  cases clip with
  | none =>
    have hfits : fitsWithin ⟨0, 0, 1, 1⟩ dimensions := ⟨dimensions.width_pos, dimensions.height_pos⟩
    refine ⟨⟨hfits, fun px py => ?_⟩, PixelDimensions.new_crop ⟨by decide, by decide⟩ hfits⟩
    constructor
    · rintro ⟨⟨hx0, hx1⟩, hy0, hy1⟩
      dsimp only [Option.getD_none] at hx0 hx1 hy0 hy1
      exact .inr ⟨hclip, by omega, by omega⟩
    · rintro (⟨hin, hcontains⟩ | ⟨-, rfl, rfl⟩)
      · exact absurd hcontains (hclip px py hin)
      · exact ⟨⟨by simp, by simp⟩, by simp, by simp⟩
  | some rect' =>
    obtain ⟨hpos, hfits, hpoints, -, -⟩ := hclip
    refine ⟨⟨hfits, fun px py => (hpoints px py).trans ⟨.inl, ?_⟩⟩, PixelDimensions.new_crop hpos hfits⟩
    rintro (hshared | ⟨hnone, -, -⟩)
    · exact hshared
    · obtain ⟨hin, hcontains⟩ := (hpoints rect'.x rect'.y).1 ⟨⟨le_rfl, by omega⟩, le_rfl, by omega⟩
      exact absurd hcontains (hnone _ _ hin)

theorem generateRegionFilmstrip_eq (hresolved : resolveRegion parameters.region source.dimensions = .ok resolved)
    (htile : PixelDimensions.new resolved.width resolved.height = .ok tileDimensions) :
    ∃ clip padding crop cropped, Clips resolved source.dimensions padding clip ∧
      CropOf parameters.region.rect source.dimensions crop ∧ cropped.width = crop.width ∧ cropped.height = crop.height ∧
      generateRegionFilmstrip source parameters = .ok
        { plan :=
            { tiles := (selectIndices source.frames.length parameters.tileLimit).map fun index => ⟨index, clip, padding⟩,
              tileSourceDimensions := tileDimensions },
          crop,
          normalized := ((selectIndices source.frames.length parameters.tileLimit).filterMap (source.frames[·]?)).map
            fun frame => normalizeFrame frame crop cropped (linearBackground parameters.background) source.restricted,
          paddingColor := parameters.paddingColor } := by
  obtain ⟨clip, padding, hclipped, hclip⟩ := intersectRegion_spec resolved source.dimensions
  obtain ⟨declared, declaredPadding, hdeclared, hdeclaredClip⟩ :=
    intersectRegion_spec parameters.region.rect source.dimensions
  obtain ⟨hcrop, cropped, hcropped, hwidth, hheight⟩ := declaredCrop_spec hdeclaredClip
  refine ⟨clip, padding, _, cropped, hclip, hcrop, hwidth, hheight, ?_⟩
  have hwhole : pixelRect 0 0 1 1 = .ok ⟨0, 0, 1, 1⟩ := rfl
  simp only [generateRegionFilmstrip, planRegionFilmstrip, hresolved, htile, Except.mapError, ok_bind, hclipped, List.mapM_pure,
    hdeclared, hwhole]
  simp only [pure_bind, normalizeSequence, if_pos hcrop.1, hcropped, ok_bind, List.filterMap_map]
  rfl

theorem RegionFilmstrip.pixel_eq (hresolved : resolveRegion parameters.region source.dimensions = .ok resolved)
    (htile : PixelDimensions.new resolved.width resolved.height = .ok tileDimensions)
    (hgenerated : generateRegionFilmstrip source parameters = .ok strip) :
    ∃ crop cropped, CropOf parameters.region.rect source.dimensions crop ∧ cropped.width = crop.width ∧
      cropped.height = crop.height ∧
      strip.plan.tiles.map (·.frameIndex) = selectIndices source.frames.length parameters.tileLimit ∧
      ∀ index tile, strip.plan.tiles[index]? = some tile → ∃ frame, source.frames[tile.frameIndex]? = some frame ∧
        ∀ x < resolved.width, ∀ y < resolved.height, strip.pixel index x y = some
          (if InSource source.dimensions (resolved.x + x) (resolved.y + y) then
            (cropPixel (normalizeFrame frame crop cropped (linearBackground parameters.background) source.restricted) crop
              (resolved.x + x).toNat (resolved.y + y).toNat).map fun linear => (linear.toSrgb8, false)
          else .ok (parameters.paddingColor, true)) := by
  obtain ⟨clip, padding, crop, cropped, hclip, hcrop, hwidth, hheight, heq⟩ := generateRegionFilmstrip_eq hresolved htile
  obtain rfl := Except.ok.inj (heq.symm.trans hgenerated)
  refine ⟨crop, cropped, hcrop, hwidth, hheight, by simp [Function.comp_def], fun index tile htileAt => ?_⟩
  rw [List.getElem?_map] at htileAt
  obtain ⟨frameIndex, hindex, rfl⟩ := Option.map_eq_some_iff.1 htileAt
  -- the selected indices are those of frames
  have hlookup : ∀ i ∈ selectIndices source.frames.length parameters.tileLimit, (source.frames[i]?).isSome = true := by
    intro i hi
    have := selectIndices_lt (List.length_pos_iff.2 source.frames_ne_nil) hi
    simp [this]
  obtain ⟨frame, hframe⟩ := Option.isSome_iff_exists.1 (hlookup frameIndex (List.mem_of_getElem? hindex))
  refine ⟨frame, hframe, fun x hx y hy => ?_⟩
  have hnormalized := getElem?_filterMap_of_some hlookup index
  rw [hindex, Option.bind_some, hframe] at hnormalized
  simp only [RegionFilmstrip.pixel, List.getElem?_map, hindex, hnormalized, Option.map_some, Option.bind_eq_bind,
    Option.bind_some]
  exact congrArg some (regionPixel_eq hclip _ _ x y _ hx hy)

theorem right_of_covers (hresolved : resolveRegion parameters.region source.dimensions = .ok resolved)
    (htile : PixelDimensions.new resolved.width resolved.height = .ok tileDimensions)
    (hcovers : CropCovers parameters.region resolved source.dimensions)
    (hgenerated : generateRegionFilmstrip source parameters = .ok strip) : strip.Right source parameters resolved := by
  obtain ⟨crop, cropped, hcrop, hwidth, hheight, -, hpixels⟩ := RegionFilmstrip.pixel_eq hresolved htile hgenerated
  intro index tile htileAt
  obtain ⟨frame, hframe, hshown⟩ := hpixels index tile htileAt
  refine ⟨frame, hframe, fun x hx y hy => ?_⟩
  have hdimensions := source.common frame (List.mem_of_getElem? hframe)
  rw [hshown x hx y hy, shownPixel, hdimensions]
  split
  · rename_i hin
    have hcontains : resolved.Contains (resolved.x + x) (resolved.y + y) := by
      unfold SignedPixelRect.Contains
      omega
    have hcropped : InPixelRect crop (resolved.x + x) (resolved.y + y) := by
      refine (hcrop.2 _ _).2 ?_
      rcases hcovers _ _ hin hcontains with hdeclared | hfirst
      · exact .inl ⟨hin, hdeclared⟩
      · exact .inr hfirst
    obtain ⟨⟨hx0, -⟩, hy0, -⟩ := hin
    rw [← Int.toNat_of_nonneg hx0, ← Int.toNat_of_nonneg hy0] at hcropped
    rw [cropPixel_inside (by rw [hdimensions]; exact hcrop.1) hwidth hheight hcropped]
    rfl
  · rfl

/-! ### A white spot -/

def white : Rgba8 := ⟨255, 255, 255, 255⟩

def black : Rgba8 := ⟨0, 0, 0, 255⟩

/-- A black frame with one white pixel. -/
def spotFrame (dimensions : PixelDimensions) (sx sy : Nat) : Frame :=
  { dimensions, pixels := Raster.raster dimensions.width dimensions.height fun x y => if x = sx ∧ y = sy then white else black,
    length_pixels := Raster.length_raster _ _ _ }

theorem pixel_spotFrame {x y : Nat} (hx : x < dimensions.width) (hy : y < dimensions.height) (sx sy : Nat) :
    (spotFrame dimensions sx sy).pixel x y = if x = sx ∧ y = sy then white else black := by
  have hpixel := (spotFrame dimensions sx sy).pixel_eq hx hy
  rw [show (spotFrame dimensions sx sy).pixels = Raster.raster dimensions.width dimensions.height _ from rfl,
    show (spotFrame dimensions sx sy).dimensions = dimensions from rfl, Raster.getElem?_raster hx hy] at hpixel
  exact (Option.some.inj hpixel).symm

theorem composited_spot {x y : Nat} (hx : x < dimensions.width) (hy : y < dimensions.height) (sx sy : Nat) :
    (compositedPixel (spotFrame dimensions sx sy) x y (linearBackground ⟨0, 0, 0⟩)).toSrgb8 = ⟨255, 255, 255⟩ ↔
      x = sx ∧ y = sy := by
  unfold compositedPixel
  rw [pixel_spotFrame hx hy]
  by_cases hspot : x = sx ∧ y = sy
  · rw [if_pos hspot]
    exact ⟨fun _ => hspot, fun _ => by decide +kernel⟩
  · rw [if_neg hspot]
    exact ⟨fun heq => absurd heq (by decide +kernel), fun h => absurd h hspot⟩

def spotSource (dimensions : PixelDimensions) (sx sy : Nat) : FrameSequence :=
  { dimensions, frames := [spotFrame dimensions sx sy], restricted := false, frames_ne_nil := List.cons_ne_nil _ _,
    common := by simp [spotFrame] }

def spotParameters (region : RegionDefinition) : RegionFilmstripParameters :=
  { region, background := ⟨0, 0, 0⟩, paddingColor := ⟨0, 0, 0⟩, tileLimit := 1 }

theorem covers_of_right {region : RegionDefinition} (hresolved : resolveRegion region dimensions = .ok resolved)
    (htile : PixelDimensions.new resolved.width resolved.height = .ok tileDimensions)
    (hright : ∀ sx sy strip, generateRegionFilmstrip (spotSource dimensions sx sy) (spotParameters region) = .ok strip →
      strip.Right (spotSource dimensions sx sy) (spotParameters region) resolved) :
    CropCovers region resolved dimensions := by
  intro px py hin hcontains
  obtain ⟨⟨hx0, hx1⟩, hy0, hy1⟩ := hin
  obtain ⟨sx, rfl⟩ := Int.eq_ofNat_of_zero_le hx0
  obtain ⟨sy, rfl⟩ := Int.eq_ofNat_of_zero_le hy0
  have hspot : resolveRegion (spotParameters region).region (spotSource dimensions sx sy).dimensions = .ok resolved :=
    hresolved
  obtain ⟨clip, padding, crop₀, cropped₀, -, -, -, -, hgenerated⟩ := generateRegionFilmstrip_eq hspot htile
  obtain ⟨crop, cropped, hcrop, hwidth, hheight, -, hpixels⟩ := RegionFilmstrip.pixel_eq hspot htile hgenerated
  have hshows := hright sx sy _ hgenerated
  -- the tile pixel of the spot
  have hat : ∃ x y : Nat, (resolved.x + x = sx ∧ x < resolved.width) ∧ resolved.y + y = sy ∧ y < resolved.height := by
    obtain ⟨⟨hx2, hx3⟩, hy2, hy3⟩ := hcontains
    exact ⟨(sx - resolved.x).toNat, (sy - resolved.y).toNat, by omega, by omega⟩
  obtain ⟨x, y, ⟨hx, hxw⟩, hy, hyh⟩ := hat
  have htile0 : (selectIndices (spotSource dimensions sx sy).frames.length (spotParameters region).tileLimit) = [0] := rfl
  obtain ⟨frame, hframe, hlookup⟩ := hpixels 0 ⟨0, clip, padding⟩ (by rw [htile0]; rfl)
  obtain ⟨frame', hframe', hshown⟩ := hshows 0 ⟨0, clip, padding⟩ (by rw [htile0]; rfl)
  obtain rfl : frame = spotFrame dimensions sx sy := (Option.some.inj hframe).symm
  obtain rfl : frame' = spotFrame dimensions sx sy := (Option.some.inj hframe').symm
  have heq := (hlookup x hxw y hyh).symm.trans (hshown x hxw y hyh)
  have hinside : InSource dimensions sx sy := ⟨⟨hx0, hx1⟩, hy0, hy1⟩
  rw [hx, hy, shownPixel, if_pos (show InSource (spotSource dimensions sx sy).dimensions sx sy from hinside),
    if_pos (show InSource (spotFrame dimensions sx sy).dimensions sx sy from hinside)] at heq
  -- a lookup that finds the white spot has it in the crop
  have hfound := Option.some.inj heq
  cases hlinear : cropPixel (normalizeFrame (spotFrame dimensions sx sy) crop cropped
      (linearBackground (spotParameters region).background) (spotSource dimensions sx sy).restricted) crop
      (sx : Int).toNat (sy : Int).toNat with
  | error fault =>
    rw [hlinear] at hfound
    cases hfound
  | ok linear =>
    rw [hlinear] at hfound
    have hcolor := congrArg Prod.fst (Except.ok.inj hfound)
    obtain ⟨qx, qy, hq, rfl⟩ := cropPixel_ok hcrop.1 hwidth hheight hlinear
    have hqx : qx < dimensions.width := by
      have := hq.1.2
      have : crop.x + crop.width ≤ dimensions.width := hcrop.1.1
      omega
    have hqy : qy < dimensions.height := by
      have := hq.2.2
      have : crop.y + crop.height ≤ dimensions.height := hcrop.1.2
      omega
    have hwhite := (composited_spot (by omega : sx < dimensions.width) (by omega : sy < dimensions.height) sx sy).2 ⟨rfl, rfl⟩
    obtain ⟨rfl, rfl⟩ := (composited_spot hqx hqy sx sy).1 (hcolor.trans hwhite)
    rcases (hcrop.2 _ _).1 hq with ⟨-, hdeclared⟩ | hfirst
    · exact .inl hdeclared
    · exact .inr hfirst

/-- **A region filmstrip is right exactly when its crop covers it.**  For an accepted region, each tile pixel of every
filmstrip shows the source at its resolved position, or padding outside the source, if and only if what the resolved
region has of the source is in the declared rectangle, on whose clip the frames are normalized. -/
theorem region_filmstrip_right_iff {region : RegionDefinition}
    (hresolved : resolveRegion region dimensions = .ok resolved)
    (htile : PixelDimensions.new resolved.width resolved.height = .ok tileDimensions) :
    (∀ source parameters strip, source.dimensions = dimensions → parameters.region = region →
        generateRegionFilmstrip source parameters = .ok strip → strip.Right source parameters resolved) ↔
      CropCovers region resolved dimensions := by
  constructor
  · intro hright
    exact covers_of_right hresolved htile fun sx sy strip hgenerated => hright _ _ strip rfl rfl hgenerated
  · rintro hcovers source parameters strip rfl rfl hgenerated
    exact right_of_covers hresolved htile hcovers hgenerated

/-! ### A viewport of half the size -/

/-- A source of 4 by 2 pixels, seen through a viewport of 2 by 1. -/
def smallSource : PixelDimensions := .sized 4 2 (by decide)

def smallViewport : PixelDimensions := .sized 2 1 (by decide)

def oneUnit (x : Int) (h : i64Min ≤ x ∧ x + 1 ≤ i64Max) : SignedPixelRect :=
  ⟨x, 0, 1, 1, Nat.one_pos, Nat.one_pos, by decide, by decide, h.1, by decide, h.2, by decide⟩

/-- The right half of the viewport, which is the right half of the source. -/
def rightHalf : RegionDefinition :=
  .fixedViewport (oneUnit 1 (by decide)) ⟨smallViewport, ⟨2, 1, by decide, Nat.one_pos⟩, ⟨2, 1, by decide, Nat.one_pos⟩⟩

def resolvedHalf : SignedPixelRect :=
  ⟨2, 0, 2, 2, by decide, by decide, by decide, by decide, by decide, by decide, by decide, by decide⟩

/-- The left unit of a viewport of the size of the source. -/
def leftUnit : RegionDefinition :=
  .fixedViewport (oneUnit 0 (by decide)) ⟨smallSource, ⟨1, 1, Nat.one_pos, Nat.one_pos⟩, ⟨1, 1, Nat.one_pos, Nat.one_pos⟩⟩

theorem region_filmstrip_right_leftUnit :
    (∀ source parameters strip, source.dimensions = smallSource → parameters.region = leftUnit →
        generateRegionFilmstrip source parameters = .ok strip → strip.Right source parameters (oneUnit 0 (by decide))) ↔
      CropCovers leftUnit (oneUnit 0 (by decide)) smallSource :=
  region_filmstrip_right_iff (show resolveRegion leftUnit smallSource = .ok (oneUnit 0 (by decide)) from rfl)
    (show PixelDimensions.new 1 1 = .ok ⟨1, 1, by decide, by decide, by decide, by decide, by decide⟩ from rfl)

theorem not_right_of_fault {fault : Fault} {tile : FilmstripTilePlan} (htile : strip.plan.tiles[0]? = some tile)
    (hfault : strip.pixel 0 0 0 = some (.error fault)) : ¬ strip.Right source parameters resolved := by
  intro hright
  obtain ⟨frame, -, hshown⟩ := hright 0 tile htile
  cases hfault.symm.trans (hshown 0 resolved.width_pos 0 resolved.height_pos)

/-- The lookup of the right half leaves the crop, which is that of the left one. -/
theorem viewport_lookup_out_of_bounds :
    ∃ source parameters strip, parameters.region = rightHalf ∧ generateRegionFilmstrip source parameters = .ok strip ∧
      resolveRegion rightHalf source.dimensions = .ok resolvedHalf ∧ strip.pixel 0 0 0 = some (.error .outOfBounds) ∧
      ¬ strip.Right source parameters resolvedHalf := by
  refine ⟨spotSource smallSource 0 0, spotParameters rightHalf, _, rfl, rfl, rfl, ?_⟩
  exact ⟨rfl, not_right_of_fault rfl rfl⟩

end Filmstrip

end Krometrail.Vision
