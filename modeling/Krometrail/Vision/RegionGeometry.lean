import Krometrail.Vision.FilmstripPixels

/-!
# Region geometry

What resolving and clipping make of a signed rectangle.  A viewport rectangle is resolved to the least integer rectangle
around its exact image.  Clipping counts, along each axis, what lies before the source, in it and behind it; in a build that
checks arithmetic it stops where a distance to the origin is not an `i64`.
-/

namespace Krometrail.Vision

open Results

/-- How clipping goes wrong in a build that checks arithmetic: it fails, or a difference overflows and the process panics. -/
inductive Trap
  | error (error : VisionError)
  | overflow

/-- The difference of two `i64`. -/
def subI64 (a b : Int) : Except Trap Int :=
  if i64Min ≤ a - b ∧ a - b ≤ i64Max then .ok (a - b) else .error .overflow

def leadingPaddingChecked (edge origin : Int) (size : Nat) : Except Trap Nat := do
  let distance ← subI64 edge origin
  (toU32 (clamp distance 0 size) invalidRegionError).mapError .error

def trailingPaddingChecked (edge origin : Int) (size : Nat) : Except Trap Nat := do
  let distance ← subI64 edge origin
  let covered ← (toU32 (clamp distance 0 size) invalidRegionError).mapError .error
  if covered ≤ size then .ok (size - covered) else .error (.error invalidRegionError)

/-- `intersect_region` with its four plain subtractions checked. -/
def intersectRegionChecked (region : SignedPixelRect) (dimensions : PixelDimensions) :
    Except Trap (Option PixelRect × PaddingInsets) := do
  let left := clamp region.x 0 dimensions.width
  let top := clamp region.y 0 dimensions.height
  let clippedRight := clamp (region.x + region.width) 0 dimensions.width
  let clippedBottom := clamp (region.y + region.height) 0 dimensions.height
  let visibleWidth ← (toU32 (clippedRight - left) ⟨.invalidRegion, "filmstrip intersection exceeds limits"⟩).mapError .error
  let visibleHeight ← (toU32 (clippedBottom - top) ⟨.invalidRegion, "filmstrip intersection exceeds limits"⟩).mapError .error
  let padding : PaddingInsets :=
    { left := ← leadingPaddingChecked left region.x region.width
      top := ← leadingPaddingChecked top region.y region.height
      right := ← trailingPaddingChecked clippedRight region.x region.width
      bottom := ← trailingPaddingChecked clippedBottom region.y region.height }
  if visibleWidth = 0 ∨ visibleHeight = 0 then return (none, padding)
  else do
    let x ← (toU32 left invalidRegionError).mapError .error
    let y ← (toU32 top invalidRegionError).mapError .error
    let rect ← (pixelRect x y visibleWidth visibleHeight).mapError .error
    return (some rect, padding)

def RationalScale.factor (scale : RationalScale) : ℚ := scale.numerator / scale.denominator

/-- The points of the plane that a viewport rectangle is scaled to. -/
def imagePoints (rect : SignedPixelRect) (mapping : ViewportMapping) : Set (ℚ × ℚ) :=
  Set.Ico (rect.x * mapping.scaleX.factor) ((rect.x + rect.width) * mapping.scaleX.factor) ×ˢ
    Set.Ico (rect.y * mapping.scaleY.factor) ((rect.y + rect.height) * mapping.scaleY.factor)

def integerPoints (left top right bottom : ℤ) : Set (ℚ × ℚ) :=
  Set.Ico (left : ℚ) right ×ˢ Set.Ico (top : ℚ) bottom

def SignedPixelRect.points (rect : SignedPixelRect) : Set (ℚ × ℚ) :=
  integerPoints rect.x rect.y (rect.x + rect.width) (rect.y + rect.height)

/-- The rectangle is the least of the integer rectangles around the image. -/
structure SmallestImage (rect : SignedPixelRect) (mapping : ViewportMapping) (resolved : SignedPixelRect) : Prop where
  contains : imagePoints rect mapping ⊆ resolved.points
  least : ∀ left top right bottom, imagePoints rect mapping ⊆ integerPoints left top right bottom →
    resolved.points ⊆ integerPoints left top right bottom

/-- The scaled viewport has the dimensions of the source. -/
def ValidMapping (mapping : ViewportMapping) (source : PixelDimensions) : Prop :=
  ⌈mapping.viewportDimensions.width * mapping.scaleX.factor⌉ = source.width ∧
    ⌈mapping.viewportDimensions.height * mapping.scaleY.factor⌉ = source.height

def FullViewport (rect : SignedPixelRect) (mapping : ViewportMapping) : Prop :=
  (rect.x = 0 ∧ rect.y = 0) ∧ rect.width = mapping.viewportDimensions.width ∧ rect.height = mapping.viewportDimensions.height

theorem RationalScale.factor_pos (scale : RationalScale) : 0 < scale.factor :=
  div_pos (Nat.cast_pos.2 scale.numerator_pos) (Nat.cast_pos.2 scale.denominator_pos)

theorem floor_scaled (value : Int) (scale : RationalScale) :
    value * scale.numerator / scale.denominator = ⌊value * scale.factor⌋ := by
  rw [← Rat.floor_intCast_div_natCast]
  push_cast
  rw [mul_div_assoc]
  rfl

theorem ceil_scaled (value : Int) (scale : RationalScale) :
    -(-(value * scale.numerator) / scale.denominator) = ⌈value * scale.factor⌉ := by
  rw [← Rat.ceil_intCast_div_natCast]
  push_cast
  rw [mul_div_assoc]
  rfl

theorem toI64_eq_ok {value n : Int} {error : VisionError} :
    toI64 value error = .ok n ↔ (i64Min ≤ value ∧ value ≤ i64Max) ∧ value = n := by
  unfold toI64
  split
  · rename_i h
    exact ⟨fun heq => ⟨h, Except.ok.inj heq⟩, fun heq => congrArg _ heq.2⟩
  · rename_i h
    exact ⟨nofun, fun heq => absurd heq.1 h⟩

theorem scaleFloor_eq_ok {value n : Int} {scale : RationalScale} :
    scaleFloor value scale = .ok n ↔ (i64Min ≤ n ∧ n ≤ i64Max) ∧ ⌊value * scale.factor⌋ = n := by
  rw [scaleFloor, toI64_eq_ok, floor_scaled]
  constructor
  · rintro ⟨h, rfl⟩
    exact ⟨h, rfl⟩
  · rintro ⟨h, rfl⟩
    exact ⟨h, rfl⟩

theorem scaleCeil_eq_ok {value n : Int} {scale : RationalScale} :
    scaleCeil value scale = .ok n ↔ (i64Min ≤ n ∧ n ≤ i64Max) ∧ ⌈value * scale.factor⌉ = n := by
  rw [scaleCeil, toI64_eq_ok, ceil_scaled]
  constructor
  · rintro ⟨h, rfl⟩
    exact ⟨h, rfl⟩
  · rintro ⟨h, rfl⟩
    exact ⟨h, rfl⟩

variable {mapping : ViewportMapping} {source : PixelDimensions} {rect resolved : SignedPixelRect}

theorem validateViewportMapping_eq_ok : validateViewportMapping mapping source = .ok () ↔ ValidMapping mapping source := by
  have hwidth := source.width_le
  have hheight := source.height_le
  unfold u32Max at hwidth hheight
  simp only [validateViewportMapping, bind_eq_ok, scaleCeil_eq_ok, ValidMapping, Int.cast_natCast]
  constructor
  · rintro ⟨mappedWidth, ⟨-, hmappedWidth⟩, mappedHeight, ⟨-, hmappedHeight⟩, hchecked⟩
    split at hchecked
    · cases hchecked
    · rename_i hsame
      rw [hmappedWidth, hmappedHeight]
      exact ⟨not_not.1 (not_or.1 hsame).1, not_not.1 (not_or.1 hsame).2⟩
  · rintro ⟨hmappedWidth, hmappedHeight⟩
    refine ⟨_, ⟨?_, hmappedWidth⟩, _, ⟨?_, hmappedHeight⟩, if_neg (by simp)⟩
    · unfold i64Min i64Max
      omega
    · unfold i64Min i64Max
      omega

theorem SignedPixelRect.new_eq_ok {x y : Int} {width height : Nat} :
    SignedPixelRect.new x y width height = .ok resolved ↔
      resolved.x = x ∧ resolved.y = y ∧ resolved.width = width ∧ resolved.height = height := by
  unfold SignedPixelRect.new
  constructor
  · intro h
    split at h
    · cases h
      exact ⟨rfl, rfl, rfl, rfl⟩
    · cases h
  · rintro ⟨rfl, rfl, rfl, rfl⟩
    exact dif_pos ⟨⟨⟨resolved.width_pos, resolved.height_pos⟩, resolved.width_le, resolved.height_le⟩,
      ⟨resolved.x_ge, resolved.y_ge⟩, resolved.right_le, resolved.bottom_le⟩

theorem lt_scaled (origin : Int) {extent : Nat} (scale : RationalScale) (h : 0 < extent) :
    (origin : ℚ) * scale.factor < (origin + extent) * scale.factor :=
  mul_lt_mul_of_pos_right (lt_add_of_pos_right _ (Nat.cast_pos.2 h)) scale.factor_pos

theorem Ico_prod_subset {a b c d left right top bottom : ℚ} (hcolumns : a < b) (hrows : c < d) :
    Set.Ico a b ×ˢ Set.Ico c d ⊆ Set.Ico left right ×ˢ Set.Ico top bottom ↔
      (left ≤ a ∧ b ≤ right) ∧ top ≤ c ∧ d ≤ bottom := by
  rw [Set.prod_subset_prod_iff, Set.Ico_subset_Ico_iff hcolumns, Set.Ico_subset_Ico_iff hrows]
  refine or_iff_left ?_
  rintro (hempty | hempty)
  · exact (Set.nonempty_Ico.2 hcolumns).ne_empty hempty
  · exact (Set.nonempty_Ico.2 hrows).ne_empty hempty

theorem imagePoints_subset {left top right bottom : ℤ} :
    imagePoints rect mapping ⊆ integerPoints left top right bottom ↔
      (left ≤ ⌊rect.x * mapping.scaleX.factor⌋ ∧ ⌈(rect.x + rect.width) * mapping.scaleX.factor⌉ ≤ right) ∧
      top ≤ ⌊rect.y * mapping.scaleY.factor⌋ ∧ ⌈(rect.y + rect.height) * mapping.scaleY.factor⌉ ≤ bottom := by
  have hcolumns := lt_scaled rect.x mapping.scaleX rect.width_pos
  have hrows := lt_scaled rect.y mapping.scaleY rect.height_pos
  rw [imagePoints, integerPoints, Ico_prod_subset hcolumns hrows, Int.le_floor, Int.le_floor, Int.ceil_le, Int.ceil_le]

theorem SignedPixelRect.points_subset {left top right bottom : ℤ} :
    resolved.points ⊆ integerPoints left top right bottom ↔
      (left ≤ resolved.x ∧ resolved.x + resolved.width ≤ right) ∧ top ≤ resolved.y ∧ resolved.y + resolved.height ≤ bottom := by
  have hcolumns : (resolved.x : ℚ) < (resolved.x + resolved.width : ℤ) := by
    have := resolved.width_pos
    exact Int.cast_lt.2 (by omega)
  have hrows : (resolved.y : ℚ) < (resolved.y + resolved.height : ℤ) := by
    have := resolved.height_pos
    exact Int.cast_lt.2 (by omega)
  rw [SignedPixelRect.points, integerPoints, integerPoints, Ico_prod_subset hcolumns hrows, Int.cast_le, Int.cast_le,
    Int.cast_le, Int.cast_le]

theorem smallestImage_iff : SmallestImage rect mapping resolved ↔
    (resolved.x = ⌊rect.x * mapping.scaleX.factor⌋ ∧
      resolved.x + resolved.width = ⌈(rect.x + rect.width) * mapping.scaleX.factor⌉) ∧
    resolved.y = ⌊rect.y * mapping.scaleY.factor⌋ ∧
      resolved.y + resolved.height = ⌈(rect.y + rect.height) * mapping.scaleY.factor⌉ := by
  constructor
  · rintro ⟨hcontains, hleast⟩
    obtain ⟨⟨hleft, hright⟩, htop, hbottom⟩ := imagePoints_subset.1 hcontains
    obtain ⟨⟨hleft', hright'⟩, htop', hbottom'⟩ :=
      SignedPixelRect.points_subset.1 (hleast _ _ _ _ (imagePoints_subset.2 ⟨⟨le_rfl, le_rfl⟩, le_rfl, le_rfl⟩))
    exact ⟨⟨hleft.antisymm hleft', hright'.antisymm hright⟩, htop.antisymm htop', hbottom'.antisymm hbottom⟩
  · rintro ⟨⟨hleft, hright⟩, htop, hbottom⟩
    refine ⟨imagePoints_subset.2 ⟨⟨hleft.le, hright.ge⟩, htop.le, hbottom.ge⟩, fun left top right bottom hsubset => ?_⟩
    obtain ⟨⟨hleft', hright'⟩, htop', hbottom'⟩ := imagePoints_subset.1 hsubset
    exact SignedPixelRect.points_subset.2 ⟨⟨hleft'.trans hleft.ge, hright.le.trans hright'⟩,
      htop'.trans htop.ge, hbottom.le.trans hbottom'⟩

/-- A viewport rectangle is resolved to the smallest rectangle around its image, if the mapping is valid and there is one. -/
theorem resolveRegion_eq_ok : resolveRegion (.fixedViewport rect mapping) source = .ok resolved ↔
    ValidMapping mapping source ∧ SmallestImage rect mapping resolved := by
  simp only [resolveRegion, bind_eq_ok, scaleFloor_eq_ok, scaleCeil_eq_ok, toU32_eq_ok, smallestImage_iff]
  constructor
  · rintro ⟨_, hvalid, left, ⟨-, hleft⟩, top, ⟨-, htop⟩, right, ⟨-, hright⟩, bottom, ⟨-, hbottom⟩, width, ⟨hwidth, rfl⟩,
      height, ⟨hheight, rfl⟩, hnew⟩
    split at hnew
    · cases hnew
    · obtain ⟨hx, hy, hw, hh⟩ := SignedPixelRect.new_eq_ok.1 hnew
      push_cast at hright hbottom
      refine ⟨validateViewportMapping_eq_ok.1 hvalid, ⟨by omega, ?_⟩, by omega, ?_⟩
      · rw [hright]
        omega
      · rw [hbottom]
        omega
  · rintro ⟨hvalid, ⟨hx, hright⟩, hy, hbottom⟩
    have hx_ge := resolved.x_ge
    have hy_ge := resolved.y_ge
    have hright_le := resolved.right_le
    have hbottom_le := resolved.bottom_le
    have hwidth := resolved.width_le
    have hheight := resolved.height_le
    have hwidth_pos := resolved.width_pos
    have hheight_pos := resolved.height_pos
    refine ⟨(), validateViewportMapping_eq_ok.2 hvalid, resolved.x, ⟨by omega, hx.symm⟩, resolved.y, ⟨by omega, hy.symm⟩,
      resolved.x + resolved.width, ⟨by omega, by push_cast; exact hright.symm⟩,
      resolved.y + resolved.height, ⟨by omega, by push_cast; exact hbottom.symm⟩,
      resolved.width, ⟨by omega, by omega⟩, resolved.height, ⟨by omega, by omega⟩, ?_⟩
    rw [if_neg (by omega)]
    exact SignedPixelRect.new_eq_ok.2 ⟨rfl, rfl, rfl, rfl⟩

theorem resolveRegion_full (hvalid : ValidMapping mapping source) (hfull : FullViewport rect mapping) :
    ∃ resolved, resolveRegion (.fixedViewport rect mapping) source = .ok resolved ∧
      (resolved.x = 0 ∧ resolved.y = 0) ∧ resolved.width = source.width ∧ resolved.height = source.height := by
  have hwidth := source.width_le
  have hheight := source.height_le
  have hedge : u32Max ≤ i64Max := by decide
  refine ⟨⟨0, 0, source.width, source.height, source.width_pos, source.height_pos, hwidth, hheight, by decide, by decide, by omega,
    by omega⟩, resolveRegion_eq_ok.2 ⟨hvalid, smallestImage_iff.2 ?_⟩, ⟨rfl, rfl⟩, rfl, rfl⟩
  obtain ⟨⟨hx, hy⟩, hw, hh⟩ := hfull
  rw [hx, hy, hw, hh]
  simpa using And.intro hvalid.1.symm hvalid.2.symm

/-- The loop of Euclid's algorithm. -/
def gcd (left right : Nat) : Nat :=
  if right = 0 then left else gcd right (left % right)
termination_by right
decreasing_by exact Nat.mod_lt _ (Nat.pos_of_ne_zero ‹_›)

theorem gcd_eq (left right : Nat) : gcd left right = Nat.gcd left right := by
  fun_induction gcd left right with
  | case1 left => exact (Nat.gcd_zero_right left).symm
  | case2 left right _ ih => rw [ih, Nat.gcd_comm left right, Nat.gcd_rec right left, Nat.gcd_comm]

def reduced (numerator denominator : Nat) (hn : 0 < numerator) (hd : 0 < denominator) : RationalScale where
  numerator := numerator / gcd numerator denominator
  denominator := denominator / gcd numerator denominator
  numerator_pos := by
    rw [gcd_eq]
    exact Nat.div_pos (Nat.le_of_dvd hn (Nat.gcd_dvd_left _ _)) (Nat.gcd_pos_of_pos_left _ hn)
  denominator_pos := by
    rw [gcd_eq]
    exact Nat.div_pos (Nat.le_of_dvd hd (Nat.gcd_dvd_right _ _)) (Nat.gcd_pos_of_pos_left _ hn)

def ViewportMapping.forSource (viewport source : PixelDimensions) : ViewportMapping where
  viewportDimensions := viewport
  scaleX := reduced source.width viewport.width source.width_pos viewport.width_pos
  scaleY := reduced source.height viewport.height source.height_pos viewport.height_pos

theorem factor_reduced {numerator denominator : Nat} (hn : 0 < numerator) (hd : 0 < denominator) :
    (reduced numerator denominator hn hd).factor = numerator / denominator := by
  have hpos : ((Nat.gcd numerator denominator : ℕ) : ℚ) ≠ 0 := Nat.cast_ne_zero.2 (Nat.gcd_pos_of_pos_left _ hn).ne'
  simp only [RationalScale.factor, reduced, gcd_eq]
  rw [Nat.cast_div (Nat.gcd_dvd_left _ _) hpos, Nat.cast_div (Nat.gcd_dvd_right _ _) hpos, div_div_div_cancel_right₀ hpos]

theorem validMapping_forSource (viewport source : PixelDimensions) : ValidMapping (.forSource viewport source) source := by
  have hwidth : (viewport.width : ℚ) ≠ 0 := Nat.cast_ne_zero.2 viewport.width_pos.ne'
  have hheight : (viewport.height : ℚ) ≠ 0 := Nat.cast_ne_zero.2 viewport.height_pos.ne'
  simp only [ValidMapping, ViewportMapping.forSource, factor_reduced, mul_div_cancel₀ _ hwidth, mul_div_cancel₀ _ hheight,
    Int.ceil_natCast, and_self]

/-! ### Clipping along one axis -/

/-- How many positions of a side are in the source. -/
noncomputable def visibleLength (origin : Int) (extent size : Nat) : Nat := (Finset.Ico origin (origin + extent) ∩ Finset.Ico 0 (size : Int)).card

/-- How many are before it. -/
noncomputable def lengthBefore (origin : Int) (extent : Nat) : Nat := ((Finset.Ico origin (origin + extent)).filter (· < 0)).card

/-- How many are behind it. -/
noncomputable def lengthBehind (origin : Int) (extent size : Nat) : Nat :=
  ((Finset.Ico origin (origin + extent)).filter ((size : Int) ≤ ·)).card

section Axis

variable {origin : Int} {extent size : Nat}

theorem visibleLength_eq : visibleLength origin extent size =
    (clamp (origin + extent) 0 size - clamp origin 0 size).toNat := by
  rw [visibleLength, Finset.Ico_inter_Ico, Int.card_Ico, clamp_eq, clamp_eq]
  omega

theorem lengthBefore_eq : lengthBefore origin extent = (min (origin + extent) 0 - origin).toNat := by
  rw [lengthBefore, Finset.Ico_filter_lt, Int.card_Ico]

theorem lengthBehind_eq : lengthBehind origin extent size = (origin + extent - max origin size).toNat := by
  rw [lengthBehind, Finset.Ico_filter_le, Int.card_Ico]

theorem length_parts (origin : Int) (extent size : Nat) :
    lengthBefore origin extent + visibleLength origin extent size + lengthBehind origin extent size = extent := by
  rw [lengthBefore_eq, visibleLength_eq, lengthBehind_eq, clamp_eq, clamp_eq]
  omega

theorem subI64_clamp {edge : Int} (hedge : origin ≤ edge ∧ edge ≤ i64Max) (hnear : edge ≤ origin + u32Max)
    (hlow : i64Min ≤ origin) :
    subI64 (clamp edge 0 size) origin =
      if origin = i64Min then .error .overflow else .ok (clamp edge 0 size - origin) := by
  have hclamp := clamp_eq edge size
  unfold subI64
  unfold i64Min i64Max u32Max at *
  by_cases hne : origin = -2 ^ 63
  · rw [if_pos hne, if_neg]
    omega
  · rw [if_neg hne, if_pos]
    omega

theorem leadingPaddingChecked_eq (hextent : extent ≤ u32Max) (hlow : i64Min ≤ origin)
    (hhigh : origin + extent ≤ i64Max) :
    leadingPaddingChecked (clamp origin 0 size) origin extent =
      if origin = i64Min then .error .overflow else .ok (lengthBefore origin extent) := by
  rw [leadingPaddingChecked, subI64_clamp ⟨le_rfl, by omega⟩ (by omega) hlow]
  split
  · rfl
  · rw [ok_bind, toU32_clamp _ hextent, lengthBefore_eq, clamp_eq, clamp_eq]
    exact congrArg Except.ok (by omega)

theorem trailingPaddingChecked_eq (hextent : extent ≤ u32Max) (hlow : i64Min ≤ origin)
    (hhigh : origin + extent ≤ i64Max) :
    trailingPaddingChecked (clamp (origin + extent) 0 size) origin extent =
      if origin = i64Min then .error .overflow else .ok (lengthBehind origin extent size) := by
  rw [trailingPaddingChecked, subI64_clamp ⟨by omega, hhigh⟩ (by omega) hlow]
  split
  · rfl
  · have hmem := clamp_mem (clamp (origin + extent) 0 size - origin) extent
    rw [ok_bind, toU32_clamp _ hextent, Except.mapError, ok_bind, if_pos (by omega), lengthBehind_eq]
    rw [clamp_eq, clamp_eq] at hmem ⊢
    exact congrArg Except.ok (by omega)

end Axis

/-! ### Clipping -/

/-- Along each axis the paddings count what is outside the source, and the visible rectangle is what is inside. -/
structure ClipsExactly (region : SignedPixelRect) (dimensions : PixelDimensions) (clip : Option PixelRect)
    (padding : PaddingInsets) : Prop where
  columns : padding.left + visibleLength region.x region.width dimensions.width + padding.right = region.width
  rows : padding.top + visibleLength region.y region.height dimensions.height + padding.bottom = region.height
  leading : padding.left = lengthBefore region.x region.width ∧ padding.top = lengthBefore region.y region.height
  trailing : padding.right = lengthBehind region.x region.width dimensions.width ∧
    padding.bottom = lengthBehind region.y region.height dimensions.height
  visible : match clip with
    | none => visibleLength region.x region.width dimensions.width = 0 ∨ visibleLength region.y region.height dimensions.height = 0
    | some rect => rect.width = visibleLength region.x region.width dimensions.width ∧
        rect.height = visibleLength region.y region.height dimensions.height ∧ fitsWithin rect dimensions ∧
        ∀ px py, InPixelRect rect px py ↔ InSource dimensions px py ∧ region.Contains px py

variable {region : SignedPixelRect} {dimensions : PixelDimensions}

theorem intersectRegionChecked_overflow (h : region.x = i64Min ∨ region.y = i64Min) :
    intersectRegionChecked region dimensions = .error .overflow := by
  simp only [intersectRegionChecked, toU32_visible _ _ dimensions.width_le, toU32_visible _ _ dimensions.height_le,
    Except.mapError, ok_bind, leadingPaddingChecked_eq region.width_le region.x_ge region.right_le,
    leadingPaddingChecked_eq region.height_le region.y_ge region.bottom_le]
  by_cases hx : region.x = i64Min
  · rw [if_pos hx]
    rfl
  · rw [if_neg hx, if_pos (h.resolve_left hx)]
    rfl

theorem intersectRegionChecked_exact (hx : region.x ≠ i64Min) (hy : region.y ≠ i64Min) :
    ∃ clip padding, intersectRegionChecked region dimensions = .ok (clip, padding) ∧
      ClipsExactly region dimensions clip padding := by
  have hwidth := dimensions.width_le
  have hheight := dimensions.height_le
  simp only [intersectRegionChecked, toU32_visible _ _ hwidth, toU32_visible _ _ hheight, Except.mapError, ok_bind,
    leadingPaddingChecked_eq region.width_le region.x_ge region.right_le,
    leadingPaddingChecked_eq region.height_le region.y_ge region.bottom_le,
    trailingPaddingChecked_eq region.width_le region.x_ge region.right_le,
    trailingPaddingChecked_eq region.height_le region.y_ge region.bottom_le, if_neg hx, if_neg hy]
  split
  · rename_i hempty
    refine ⟨none, _, rfl, length_parts _ _ _, length_parts _ _ _, ⟨rfl, rfl⟩, ⟨rfl, rfl⟩, ?_⟩
    rw [visibleLength_eq, visibleLength_eq]
    exact hempty
  · rename_i hvisible
    have hfitsWidth := visible_le region.x region.width dimensions.width
    have hfitsHeight := visible_le region.y region.height dimensions.height
    have hrect := pixelRect_ok (clamp region.x 0 dimensions.width).toNat (clamp region.y 0 dimensions.height).toNat
      (clamp (region.x + region.width) 0 dimensions.width - clamp region.x 0 dimensions.width).toNat
      (clamp (region.y + region.height) 0 dimensions.height - clamp region.y 0 dimensions.height).toNat hvisible (by omega)
    simp only [toU32_clamp _ hwidth, toU32_clamp _ hheight, ok_bind, hrect]
    refine ⟨some _, _, rfl, length_parts _ _ _, length_parts _ _ _, ⟨rfl, rfl⟩, ⟨rfl, rfl⟩, visibleLength_eq.symm,
      visibleLength_eq.symm, ⟨hfitsWidth, hfitsHeight⟩, fun px py => ?_⟩
    exact (and_congr mem_visible mem_visible).trans and_and_and_comm

theorem subI64_eq_ok {a b n : Int} (h : subI64 a b = .ok n) : n = wrappingSub a b := by
  unfold subI64 at h
  split at h
  · rename_i hfits
    unfold i64Min i64Max at hfits
    rw [wrappingSub_eq (by omega) (by omega)]
    exact (Except.ok.inj h).symm
  · cases h

theorem leadingPadding_of_checked {edge origin : Int} {size padding : Nat} (h : leadingPaddingChecked edge origin size = .ok padding) :
    leadingPadding edge origin size = .ok padding := by
  simp only [leadingPaddingChecked, bind_eq_ok, mapError_eq_ok] at h
  obtain ⟨distance, hdistance, hpadding⟩ := h
  rwa [subI64_eq_ok hdistance] at hpadding

theorem trailingPadding_of_checked {edge origin : Int} {size padding : Nat} (h : trailingPaddingChecked edge origin size = .ok padding) :
    trailingPadding edge origin size = .ok padding := by
  simp only [trailingPaddingChecked, bind_eq_ok, mapError_eq_ok] at h
  obtain ⟨distance, hdistance, covered, hcovered, hpadding⟩ := h
  rw [subI64_eq_ok hdistance] at hcovered
  rw [trailingPadding, hcovered, ok_bind]
  split at hpadding
  · rename_i hle
    rw [if_pos hle, Except.ok.inj hpadding]
  · cases hpadding

theorem intersectRegion_of_checked {result : Option PixelRect × PaddingInsets}
    (h : intersectRegionChecked region dimensions = .ok result) : intersectRegion region dimensions = .ok result := by
  simp only [intersectRegionChecked, bind_eq_ok, mapError_eq_ok] at h
  obtain ⟨visibleWidth, hwidth, visibleHeight, hheight, left, hleft, top, htop, right, hright, bottom, hbottom, hclip⟩ := h
  simp only [intersectRegion, hwidth, hheight, leadingPadding_of_checked hleft, leadingPadding_of_checked htop,
    trailingPadding_of_checked hright, trailingPadding_of_checked hbottom, ok_bind]
  split at hclip
  · rename_i hempty
    rw [if_pos hempty]
    exact congrArg Except.ok (Except.ok.inj hclip)
  · rename_i hvisible
    simp only [bind_eq_ok, mapError_eq_ok] at hclip
    obtain ⟨x, hx, y, hy, rect, hrect, hclip⟩ := hclip
    rw [if_neg hvisible]
    simp only [hx, hy, hrect, ok_bind]
    exact congrArg Except.ok (Except.ok.inj hclip)

/-- **Region geometry is exact away from the least origins.**  Clipping succeeds exactly where neither origin is `i64::MIN`; there
padding and visible rectangle are exact.  A viewport rectangle is resolved to the smallest rectangle around its image, all
of the viewport to all of the source. -/
theorem region_geometry_exact_iff (region : SignedPixelRect) (dimensions : PixelDimensions) :
    ((∃ clip padding, intersectRegionChecked region dimensions = .ok (clip, padding) ∧
        ClipsExactly region dimensions clip padding) ∧
      (∀ mapping resolved, resolveRegion (.fixedViewport region mapping) dimensions = .ok resolved ↔
        ValidMapping mapping dimensions ∧ SmallestImage region mapping resolved) ∧
      ∀ mapping, ValidMapping mapping dimensions → FullViewport region mapping →
        ∃ resolved, resolveRegion (.fixedViewport region mapping) dimensions = .ok resolved ∧
          (resolved.x = 0 ∧ resolved.y = 0) ∧ resolved.width = dimensions.width ∧ resolved.height = dimensions.height) ↔
      region.x ≠ i64Min ∧ region.y ≠ i64Min := by
  constructor
  · rintro ⟨⟨clip, padding, hclipped, -⟩, -, -⟩
    by_contra hleast
    rw [intersectRegionChecked_overflow (by tauto)] at hclipped
    cases hclipped
  · rintro ⟨hx, hy⟩
    exact ⟨intersectRegionChecked_exact hx hy, fun _ _ => resolveRegion_eq_ok, fun _ => resolveRegion_full⟩

/-- One pixel at the least origin. -/
def leastUnit : SignedPixelRect := oneUnit i64Min (by decide)

theorem clipping_overflows : SignedPixelRect.new i64Min 0 1 1 = .ok leastUnit ∧
    intersectRegionChecked leastUnit smallSource = .error .overflow ∧
    ¬ ∀ region dimensions, ∃ clip padding, intersectRegionChecked region dimensions = .ok (clip, padding) := by
  have hoverflow : intersectRegionChecked leastUnit smallSource = .error .overflow := intersectRegionChecked_overflow (.inl rfl)
  refine ⟨rfl, hoverflow, fun hnever => ?_⟩
  obtain ⟨clip, padding, hclipped⟩ := hnever leastUnit smallSource
  cases hclipped.symm.trans hoverflow

end Krometrail.Vision
