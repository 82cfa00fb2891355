import Krometrail.Vision.Scaling

/-!
# The opaque path is exact

Where the opaque path is chosen, both paths succeed and give the same frame.  Every read of either path is that of a pixel
of the crop, and an opaque pixel is composited to its linear value, so that the two loops go through the same values in the
same order.
-/

namespace Krometrail.Vision.Scaling

open Results

variable {α β : Type} {frame : ByteFrame} {crop : PixelRect} {dimensions : PixelDimensions} {scale : IntegerScale}
  {background : Rgb16} {x y : Nat}

/-- Both computations succeed, with the same value. -/
def Agree (a b : Except Fault α) : Prop := ∃ value, a = .ok value ∧ b = .ok value

theorem Agree.bind {a b : Except Fault α} {f g : α → Except Fault β} (h : Agree a b) (hnext : ∀ value, Agree (f value) (g value)) :
    Agree (a >>= f) (b >>= g) := by
  obtain ⟨value, rfl, rfl⟩ := h
  exact hnext value

theorem Agree.refl_ok (value : α) : Agree (.ok value) (.ok value) := ⟨value, rfl, rfl⟩

theorem collect_agree {n : Nat} {f g : Nat → Except Fault (List Nat)} (h : ∀ i < n, Agree (f i) (g i)) :
    Agree (collect n f) (collect n g) := by
  have hmap : ∀ l : List Nat, (∀ i ∈ l, Agree (f i) (g i)) → Agree (l.mapM f) (l.mapM g) := by
    intro l hl
    induction l with
    | nil => exact .refl_ok []
    | cons i l ih =>
      rw [List.mapM_cons, List.mapM_cons]
      exact (hl i (by simp)).bind fun value => (ih fun j hj => hl j (by simp [hj])).bind fun rest => .refl_ok _
  obtain ⟨lists, hf, hg⟩ := hmap (List.range n) fun i hi => h i (List.mem_range.1 hi)
  refine ⟨lists.flatten, ?_, ?_⟩
  · rw [collect, hf]
    rfl
  · rw [collect, hg]
    rfl

theorem collect_ok {n : Nat} {f : Nat → Except Fault (List Nat)} {g : Nat → List Nat} (h : ∀ i < n, f i = .ok (g i)) :
    collect n f = .ok ((List.range n).flatMap g) := by
  have hmap : ∀ l : List Nat, (∀ i ∈ l, f i = .ok (g i)) → l.mapM f = .ok (l.map g) := by
    intro l hl
    induction l with
    | nil => rfl
    | cons i l ih =>
      rw [List.mapM_cons, hl i (by simp), ih fun j hj => hl j (by simp [hj])]
      rfl
  rw [collect, hmap _ fun i hi => h i (List.mem_range.1 hi), List.flatMap_def]
  rfl

/-- The pixel at a place. -/
def ByteFrame.rgba (frame : ByteFrame) (place : Nat) : Rgba8 :=
  (chunksExact4 frame.pixels).getD place ⟨0, 0, 0, 0⟩

/-- The linear value of the pixel at a point. -/
def ByteFrame.linearAt (frame : ByteFrame) (x y : Nat) : Rgb16 := linearPixel (frame.rgba (y * frame.dimensions.width + x))

/-- Every pixel is opaque. -/
def ByteFrame.Opaque (frame : ByteFrame) : Prop := ∀ rgba ∈ chunksExact4 frame.pixels, rgba.alpha = 255

theorem chunksExact4_drop (n : Nat) (bytes : List UInt8) : chunksExact4 (bytes.drop (n * 4)) = (chunksExact4 bytes).drop n := by
  induction n generalizing bytes with
  | zero => simp
  | succ n ih =>
    match bytes with
    | red :: green :: blue :: alpha :: rest =>
      rw [show (n + 1) * 4 = n * 4 + 4 by omega]
      exact ih rest
    | [] | [_] | [_, _] | [_, _, _] =>
      rw [List.drop_eq_nil_of_le (by simp only [List.length_cons, List.length_nil]; omega)]
      simp [chunksExact4]

theorem chunksExact4_take (n : Nat) (bytes : List UInt8) : chunksExact4 (bytes.take (n * 4)) = (chunksExact4 bytes).take n := by
  induction n generalizing bytes with
  | zero => simp [chunksExact4]
  | succ n ih =>
    match bytes with
    | red :: green :: blue :: alpha :: rest =>
      rw [show (n + 1) * 4 = n * 4 + 4 by omega]
      simp only [List.take_succ_cons, chunksExact4, ih]
    | [] | [_] | [_, _] | [_, _, _] =>
      rw [List.take_of_length_le (by simp only [List.length_cons, List.length_nil]; omega)]
      simp [chunksExact4]

theorem length_chunksExact4 (bytes : List UInt8) : (chunksExact4 bytes).length = bytes.length / 4 := by
  induction bytes using chunksExact4.induct with
  | case1 red green blue alpha rest ih =>
    rw [chunksExact4, List.length_cons, ih]
    simp only [List.length_cons]
    omega
  | case2 bytes hshort =>
    match bytes with
    | red :: green :: blue :: alpha :: rest => exact absurd rfl (hshort red green blue alpha rest)
    | [] | [_] | [_, _] | [_, _, _] => simp [chunksExact4]

theorem pixelAt_eq {place : Nat} (h : place < frame.dimensions.height * frame.dimensions.width) :
    pixelAt frame.pixels (place * 4) = .ok (frame.rgba place) := by
  have hlength := frame.length_pixels
  have hslice : slice frame.pixels (place * 4) (place * 4 + 4) = .ok ((frame.pixels.drop (place * 4)).take 4) := by
    rw [slice, if_pos (by omega), Nat.add_sub_cancel_left]
  have hchunk : (chunksExact4 frame.pixels).drop place = chunksExact4 (frame.pixels.drop (place * 4)) :=
    (chunksExact4_drop place frame.pixels).symm
  have hrgba : frame.rgba place = (chunksExact4 (frame.pixels.drop (place * 4))).getD 0 ⟨0, 0, 0, 0⟩ := by
    rw [ByteFrame.rgba, ← hchunk]
    simp [List.getD_eq_getElem?_getD]
  have hdrop : 4 ≤ (frame.pixels.drop (place * 4)).length := by
    rw [List.length_drop]
    omega
  rw [pixelAt, hslice, hrgba]
  match frame.pixels.drop (place * 4), hdrop with
  | red :: green :: blue :: alpha :: rest, _ => rfl

theorem place_lt (hx : x < frame.dimensions.width) (hy : y < frame.dimensions.height) :
    y * frame.dimensions.width + x < frame.dimensions.height * frame.dimensions.width ∧
      frame.dimensions.height * frame.dimensions.width * 4 ≤ u64Max := by
  have hrow : (y + 1) * frame.dimensions.width ≤ frame.dimensions.height * frame.dimensions.width :=
    Nat.mul_le_mul_right _ hy
  rw [Nat.succ_mul] at hrow
  have hbytes := frame.dimensions.bytes_le
  rw [Nat.mul_comm frame.dimensions.width] at hbytes
  exact ⟨by omega, hbytes⟩

theorem linearChannel_le (value : UInt8) : linearChannel value ≤ 65535 := by
  have hentries : ∀ entry ∈ srgb8ToLinear16, entry ≤ 65535 := by decide +kernel
  unfold linearChannel
  rw [List.getD_eq_getElem?_getD]
  cases hentry : srgb8ToLinear16[value.toNat]? with
  | none => exact Nat.zero_le _
  | some entry => exact hentries entry (List.mem_of_getElem? hentry)

theorem compositedValue_opaque (source : UInt8) (backdrop : Nat) : compositedValue source backdrop 255 = .ok (linearChannel source) := by
  have hle := linearChannel_le source
  have hmul : checkedMul32 (linearChannel source) 255 = some (linearChannel source * 255) :=
    if_pos (by unfold u32Max; omega)
  have hadd : checkedAdd32 (linearChannel source * 255) (backdrop * (255 - 255)) = some (linearChannel source * 255) := by
    rw [Nat.sub_self, Nat.mul_zero, checkedAdd32, Nat.add_zero, if_pos (by unfold u32Max; omega)]
  have hround : checkedAdd32 (linearChannel source * 255) 127 = some (linearChannel source * 255 + 127) :=
    if_pos (by unfold u32Max; omega)
  have hvalue : (linearChannel source * 255 + 127) / 255 = linearChannel source := by omega
  have hnarrow : toU16 (linearChannel source) = some (linearChannel source) := if_pos (by omega)
  rw [compositedValue, hmul, Option.bind_some, hadd, Option.bind_some, hround]
  show orLimit (toU16 ((linearChannel source * 255 + 127) / 255)) = _
  rw [hvalue, hnarrow]
  rfl

theorem compositedPixel_opaque (hsolid : frame.Opaque) (hx : x < frame.dimensions.width) (hy : y < frame.dimensions.height) :
    compositedPixel frame x y background = .ok (frame.linearAt x y) := by
  obtain ⟨hplace, hbytes⟩ := place_lt hx hy
  have hmul : checkedMul y frame.dimensions.width = some (y * frame.dimensions.width) := if_pos (by omega)
  have hadd : checkedAdd (y * frame.dimensions.width) x = some (y * frame.dimensions.width + x) := if_pos (by omega)
  have hoffset : checkedMul (y * frame.dimensions.width + x) 4 = some ((y * frame.dimensions.width + x) * 4) :=
    if_pos (by omega)
  have halpha : (frame.rgba (y * frame.dimensions.width + x)).alpha.toNat = 255 := by
    have hlength : y * frame.dimensions.width + x < (chunksExact4 frame.pixels).length := by
      rw [length_chunksExact4, frame.length_pixels]
      omega
    rw [ByteFrame.rgba, List.getD_eq_getElem?_getD, List.getElem?_eq_getElem hlength, Option.getD_some,
      hsolid _ (List.getElem_mem hlength)]
    rfl
  rw [compositedPixel, hmul, Option.bind_some, hadd, Option.bind_some, hoffset]
  show (pixelAt frame.pixels ((y * frame.dimensions.width + x) * 4) >>= _) = _
  rw [pixelAt_eq hplace, ok_bind, halpha, compositedValue_opaque, compositedValue_opaque, compositedValue_opaque]
  rfl

/-! ### Sums over a box -/

/-- The three channels are bounded. -/
def Within (pixel : Rgb16) (bound : Nat) : Prop := pixel.red ≤ bound ∧ pixel.green ≤ bound ∧ pixel.blue ≤ bound

theorem linearPixel_within (rgba : Rgba8) : Within (linearPixel rgba) 65535 :=
  ⟨linearChannel_le _, linearChannel_le _, linearChannel_le _⟩

theorem addChannels_within {sums pixel : Rgb16} {bound step : Nat} (hsums : Within sums bound) (hpixel : Within pixel step)
    (hbound : bound + step ≤ u64Max) : ∃ next, addChannels sums pixel = .ok next ∧ Within next (bound + step) := by
  obtain ⟨hred, hgreen, hblue⟩ := hsums
  obtain ⟨hred', hgreen', hblue'⟩ := hpixel
  have hadd {a b : Nat} (ha : a ≤ bound) (hb : b ≤ step) : orLimit (checkedAdd a b) = .ok (a + b) := by
    rw [checkedAdd, if_pos (by omega)]
    rfl
  refine ⟨⟨sums.red + pixel.red, sums.green + pixel.green, sums.blue + pixel.blue⟩, ?_, Nat.add_le_add hred hred',
    Nat.add_le_add hgreen hgreen', Nat.add_le_add hblue hblue'⟩
  rw [addChannels, hadd hred hred', hadd hgreen hgreen', hadd hblue hblue']
  rfl

theorem foldlM_agree {f g : Rgb16 → Nat → Except Fault Rgb16} {n step : Nat}
    (hturn : ∀ i < n, ∀ sums bound, Within sums bound → bound + step ≤ u64Max →
      ∃ next, (f sums i = .ok next ∧ g sums i = .ok next) ∧ Within next (bound + step))
    {sums : Rgb16} {bound : Nat} (hsums : Within sums bound) (hbound : bound + n * step ≤ u64Max) :
    ∃ next, ((List.range n).foldlM f sums = .ok next ∧ (List.range n).foldlM g sums = .ok next) ∧
      Within next (bound + n * step) := by
  induction n with
  | zero => exact ⟨sums, ⟨rfl, rfl⟩, by simpa using hsums⟩
  | succ n ih =>
    rw [Nat.succ_mul] at hbound ⊢
    obtain ⟨next, ⟨hf, hg⟩, hnext⟩ := ih (fun i hi => hturn i (by omega)) (by omega)
    obtain ⟨last, ⟨hlastF, hlastG⟩, hlast⟩ := hturn n (by omega) next _ hnext (by omega)
    refine ⟨last, ⟨?_, ?_⟩, by rwa [← Nat.add_assoc]⟩
    · rw [List.range_succ, List.foldlM_append, hf, ok_bind, List.foldlM_cons, hlastF]
      rfl
    · rw [List.range_succ, List.foldlM_append, hg, ok_bind, List.foldlM_cons, hlastG]
      rfl

theorem meanPixel_ok {sums : Rgb16} {count : Nat} (hcount : 0 < count) (hle : count ≤ 64) (hsums : Within sums (count * 65535)) :
    ∃ pixel, meanPixel count sums = .ok pixel := by
  have hmean {sum : Nat} (hsum : sum ≤ count * 65535) : roundedMean count sum = .ok ((sum + count / 2) / count) := by
    have hadd : orLimit (checkedAdd sum (count / 2)) = .ok (sum + count / 2) := by
      rw [checkedAdd, if_pos (by unfold u64Max; omega)]
      rfl
    have hlt : (sum + count / 2) / count < 2 ^ 16 := by
      rw [Nat.div_lt_iff_lt_mul hcount]
      omega
    rw [roundedMean, hadd, ok_bind, toU16, if_pos hlt]
    rfl
  refine ⟨⟨(sums.red + count / 2) / count, (sums.green + count / 2) / count, (sums.blue + count / 2) / count⟩, ?_⟩
  rw [meanPixel, hmean hsums.1, hmean hsums.2.1, hmean hsums.2.2]
  rfl

theorem wrap32_eq {n : Nat} (h : n ≤ u32Max) : wrap32 n = n := Nat.mod_eq_of_lt (by unfold u32Max at h; omega)

section Box

variable {sourceX sourceY factor : Nat} (background : Rgb16) (hsolid : frame.Opaque)
  (hx : sourceX + factor ≤ frame.dimensions.width) (hy : sourceY + factor ≤ frame.dimensions.height)
include hsolid hx hy

theorem boxPixel_eq {dx dy : Nat} (hdx : dx < factor) (hdy : dy < factor) :
    (orLimit ((checkedMul dy (frame.dimensions.width * 4)).bind fun offset =>
        checkedAdd (sourceY * (frame.dimensions.width * 4)) offset)) = .ok ((sourceY + dy) * frame.dimensions.width * 4) ∧
    (orLimit (((checkedMul dx 4).bind fun offset => checkedAdd (sourceX * 4) offset).bind fun offset =>
        checkedAdd ((sourceY + dy) * frame.dimensions.width * 4) offset)) =
      .ok (((sourceY + dy) * frame.dimensions.width + (sourceX + dx)) * 4) ∧
    pixelAt frame.pixels (((sourceY + dy) * frame.dimensions.width + (sourceX + dx)) * 4) =
      .ok (frame.rgba ((sourceY + dy) * frame.dimensions.width + (sourceX + dx))) ∧
    compositedPixel frame (wrap32 (sourceX + dx)) (wrap32 (sourceY + dy)) background =
      .ok (linearPixel (frame.rgba ((sourceY + dy) * frame.dimensions.width + (sourceX + dx)))) := by
  have hcolumn : sourceX + dx < frame.dimensions.width := by omega
  have hline : sourceY + dy < frame.dimensions.height := by omega
  obtain ⟨hplace, hbytes⟩ := place_lt hcolumn hline
  have hrow : dy * (frame.dimensions.width * 4) + sourceY * (frame.dimensions.width * 4) =
      (sourceY + dy) * frame.dimensions.width * 4 := by ring
  refine ⟨?_, ?_, pixelAt_eq hplace, ?_⟩
  · rw [checkedMul, if_pos (by omega), Option.bind_some, checkedAdd, if_pos (by omega), Nat.add_comm, hrow]
    rfl
  · rw [checkedMul, if_pos (by omega), Option.bind_some, checkedAdd, if_pos (by omega), Option.bind_some, checkedAdd,
      if_pos (by omega)]
    show Except.ok _ = Except.ok _
    congr 1
    ring
  · have hwidth := frame.dimensions.width_le
    have hheight := frame.dimensions.height_le
    rw [wrap32_eq (by omega), wrap32_eq (by omega)]
    exact compositedPixel_opaque hsolid hcolumn hline

theorem boxSums_agree (hfactor : factor ≤ 8) : ∃ sums,
    (boxSums frame factor (frame.dimensions.width * 4) (sourceY * (frame.dimensions.width * 4)) (sourceX * 4) = .ok sums ∧
      (List.range factor).foldlM (fun sums dy => (List.range factor).foldlM (fun sums dx => do
        let pixel ← compositedPixel frame (wrap32 (sourceX + dx)) (wrap32 (sourceY + dy)) background
        addChannels sums pixel) sums) ⟨0, 0, 0⟩ = .ok sums) ∧
    Within sums (factor * factor * 65535) := by
  have hlimit : factor * (factor * 65535) ≤ u64Max := by
    have hinner : factor * (factor * 65535) ≤ 8 * (8 * 65535) := Nat.mul_le_mul hfactor (Nat.mul_le_mul_right _ hfactor)
    exact hinner.trans (by decide)
  have hzero : Within ⟨0, 0, 0⟩ 0 := ⟨le_rfl, le_rfl, le_rfl⟩
  unfold boxSums
  rw [Nat.mul_assoc, ← Nat.zero_add (factor * (factor * 65535))]
  refine foldlM_agree (fun dy hdy sums bound hsums hbound => ?_) hzero (by omega)
  rw [(boxPixel_eq background hsolid hx hy (Nat.zero_lt_of_lt hdy) hdy).1, ok_bind]
  refine foldlM_agree (fun dx hdx sums bound hsums hbound => ?_) hsums hbound
  obtain ⟨-, hoffset, hread, hcomposited⟩ := boxPixel_eq background hsolid hx hy hdx hdy
  obtain ⟨next, hnext, hwithin⟩ := addChannels_within hsums (linearPixel_within _) hbound
  refine ⟨next, ⟨?_, ?_⟩, hwithin⟩
  · rw [hoffset, ok_bind, hread, ok_bind]
    exact hnext
  · rw [hcomposited, ok_bind]
    exact hnext

theorem box_agree (hpos : 0 < factor) (hfactor : factor ≤ 8) : Agree
    (boxSums frame factor (frame.dimensions.width * 4) (sourceY * (frame.dimensions.width * 4)) (sourceX * 4) >>=
      fun sums => (meanPixel (factor * factor) sums).map channels)
    ((downscaledPixel frame sourceX sourceY factor background).map channels) := by
  obtain ⟨sums, ⟨hbox, hdown⟩, hwithin⟩ := boxSums_agree background hsolid hx hy hfactor
  obtain ⟨pixel, hpixel⟩ := meanPixel_ok (Nat.mul_pos hpos hpos) (Nat.mul_le_mul hfactor hfactor) hwithin
  refine ⟨channels pixel, ?_, ?_⟩
  · rw [hbox, ok_bind, hpixel]
    rfl
  · rw [downscaledPixel, hdown, ok_bind, hpixel]
    rfl

end Box

/-! ### The paths -/

theorem take_drop_chunks {place n : Nat} (h : place + n ≤ frame.dimensions.height * frame.dimensions.width) :
    ((chunksExact4 frame.pixels).drop place).take n = (List.range n).map fun x => frame.rgba (place + x) := by
  have hlength : (chunksExact4 frame.pixels).length = frame.dimensions.height * frame.dimensions.width := by
    rw [length_chunksExact4, frame.length_pixels, Nat.mul_div_cancel _ (by decide)]
  refine List.ext_getElem? fun x => ?_
  rw [List.getElem?_take, List.getElem?_drop, List.getElem?_map]
  by_cases hx : x < n
  · rw [if_pos hx, List.getElem?_range hx, Option.map_some, ByteFrame.rgba, List.getD_eq_getElem?_getD,
      List.getElem?_eq_getElem (by omega), Option.getD_some]
  · rw [if_neg hx, List.getElem?_eq_none (by simpa using hx)]
    rfl

section Paths

variable (background : Rgb16) (hsolid : frame.Opaque) (hfits : fitsWithin crop frame.dimensions)
include hsolid hfits

theorem opaqueRow_agree (hdirection : scale.direction = .identity) (hy : y < crop.height) :
    Agree (opaqueRow frame crop y) (collect crop.width fun x => (generalPixel frame crop scale background x y).map channels) := by
  have hwidth := hfits.1
  have hheight := hfits.2
  have hwidthLe := frame.dimensions.width_le
  have hheightLe := frame.dimensions.height_le
  have hline : crop.y + y < frame.dimensions.height := by omega
  refine ⟨(List.range crop.width).flatMap fun x => channels (frame.linearAt (crop.x + x) (crop.y + y)), ?_, ?_⟩
  · obtain ⟨place, hplace⟩ : ∃ place, place = (crop.y + y) * frame.dimensions.width + crop.x := ⟨_, rfl⟩
    have hbytes := frame.dimensions.bytes_le
    rw [Nat.mul_comm frame.dimensions.width] at hbytes
    have hrow : (crop.y + y + 1) * frame.dimensions.width ≤ frame.dimensions.height * frame.dimensions.width :=
      Nat.mul_le_mul_right _ hline
    rw [Nat.succ_mul] at hrow
    have hoffset : orLimit ((((checkedAdd crop.y y).bind fun row => checkedMul row frame.dimensions.width).bind fun row =>
        checkedAdd row crop.x).bind fun pixel => checkedMul pixel 4) = .ok (place * 4) := by
      have hu32 : u32Max ≤ u64Max := by decide
      rw [checkedAdd, if_pos (by omega), Option.bind_some, checkedMul, if_pos (by omega), Option.bind_some, checkedAdd,
        if_pos (by omega), Option.bind_some, checkedMul, if_pos (by omega), hplace]
      rfl
    have hslice : slice frame.pixels (place * 4) (place * 4 + crop.width * 4) =
        .ok ((frame.pixels.drop (place * 4)).take (crop.width * 4)) := by
      have hlength := frame.length_pixels
      rw [slice, if_pos (by omega), Nat.add_sub_cancel_left]
    rw [opaqueRow, hoffset, ok_bind, hslice, ok_bind, chunksExact4_take, chunksExact4_drop,
      take_drop_chunks (by omega), List.flatMap_map]
    show Except.ok _ = Except.ok _
    congr 1
    refine List.flatMap_congr fun x _ => ?_
    rw [ByteFrame.linearAt, hplace, Nat.add_assoc]
  · refine collect_ok fun x hx => ?_
    rw [generalPixel, hdirection]
    dsimp only
    rw [wrap32_eq (by omega), wrap32_eq (by omega), compositedPixel_opaque hsolid (by omega) hline]
    rfl

theorem identity_agree (hdirection : scale.direction = .identity) (hwidth : dimensions.width = crop.width)
    (hheight : dimensions.height = crop.height) :
    Agree (normalizeOpaqueIdentity frame crop dimensions) (normalizeFrameGeneral frame crop dimensions scale background) := by
  unfold normalizeOpaqueIdentity normalizeFrameGeneral
  rw [hwidth, hheight]
  exact (collect_agree fun y hy => opaqueRow_agree background hsolid hfits hdirection hy).bind fun output => .refl_ok _

theorem downscale_agree (hdirection : scale.direction = .down) (hwidth : dimensions.width * scale.factor = crop.width)
    (hheight : dimensions.height * scale.factor = crop.height) :
    Agree (normalizeOpaqueDownscale frame crop dimensions scale)
      (normalizeFrameGeneral frame crop dimensions scale background) := by
  have hcropWidth := hfits.1
  have hcropHeight := hfits.2
  have hwidthLe := frame.dimensions.width_le
  have hheightLe := frame.dimensions.height_le
  have hu32 : u32Max * 4 ≤ u64Max := by decide
  have hbytes := frame.dimensions.bytes_le
  rw [Nat.mul_comm frame.dimensions.width] at hbytes
  have hcount : checkedMul scale.factor scale.factor = some (scale.factor * scale.factor) := by
    have hle := Nat.mul_le_mul scale.factor_le scale.factor_le
    exact if_pos (hle.trans (by decide))
  have hrowBytes : checkedMul frame.dimensions.width 4 = some (frame.dimensions.width * 4) := if_pos (by omega)
  unfold normalizeOpaqueDownscale normalizeFrameGeneral
  rw [hrowBytes, hcount]
  refine (collect_agree fun y hy => ?_).bind fun output => .refl_ok _
  -- the first row of the boxes
  have hyEnd : y * scale.factor + scale.factor ≤ crop.height := by
    rw [← Nat.succ_mul, ← hheight]
    exact Nat.mul_le_mul_right _ hy
  have hline : (crop.y + y * scale.factor) * frame.dimensions.width ≤ frame.dimensions.height * frame.dimensions.width :=
    Nat.mul_le_mul_right _ (by omega)
  have hsourceRow : orLimit (((checkedMul y scale.factor).bind fun row => checkedAdd crop.y row).bind fun row =>
      checkedMul row (frame.dimensions.width * 4)) = .ok ((crop.y + y * scale.factor) * (frame.dimensions.width * 4)) := by
    rw [checkedMul, if_pos (by omega), Option.bind_some, checkedAdd, if_pos (by omega), Option.bind_some, checkedMul,
      if_pos (by rw [← Nat.mul_assoc]; omega)]
    rfl
  rw [hsourceRow, ok_bind]
  refine collect_agree fun x hx => ?_
  have hxEnd : x * scale.factor + scale.factor ≤ crop.width := by
    rw [← Nat.succ_mul, ← hwidth]
    exact Nat.mul_le_mul_right _ hx
  have hsourceColumn : orLimit (((checkedMul x scale.factor).bind fun column => checkedAdd crop.x column).bind
      fun column => checkedMul column 4) = .ok ((crop.x + x * scale.factor) * 4) := by
    rw [checkedMul, if_pos (by omega), Option.bind_some, checkedAdd, if_pos (by omega), Option.bind_some, checkedMul,
      if_pos (by omega)]
    rfl
  rw [hsourceColumn, ok_bind, generalPixel, hdirection]
  dsimp only
  have hpos := scale.factor_pos
  rw [wrap32_eq (n := x * scale.factor) (by omega), wrap32_eq (n := y * scale.factor) (by omega),
    wrap32_eq (n := crop.x + x * scale.factor) (by omega), wrap32_eq (n := crop.y + y * scale.factor) (by omega)]
  exact box_agree background hsolid (by omega) (by omega) scale.factor_pos scale.factor_le

end Paths

theorem PixelDimensions.new_eq_ok {width height : Nat} (h : PixelDimensions.new width height = .ok dimensions) :
    dimensions.width = width ∧ dimensions.height = height := by
  unfold PixelDimensions.new at h
  split at h
  · cases h
    exact ⟨rfl, rfl⟩
  · split at h <;> cases h

theorem scaledDimensions_identity (hdirection : scale.direction = .identity)
    (h : scaledDimensions crop scale = .ok dimensions) : dimensions.width = crop.width ∧ dimensions.height = crop.height := by
  rw [scaledDimensions, hdirection] at h
  exact PixelDimensions.new_eq_ok (mapError_eq_ok.1 h)

theorem scaledDimensions_down (hdirection : scale.direction = .down) (h : scaledDimensions crop scale = .ok dimensions) :
    dimensions.width * scale.factor = crop.width ∧ dimensions.height * scale.factor = crop.height := by
  rw [scaledDimensions, hdirection] at h
  dsimp only at h
  by_cases hdivides : ¬ scale.factor ∣ crop.width ∨ ¬ scale.factor ∣ crop.height
  · rw [if_pos hdivides] at h
    cases h
  · rw [if_neg hdivides] at h
    obtain ⟨hwidth, hheight⟩ := PixelDimensions.new_eq_ok (mapError_eq_ok.1 h)
    rw [not_or, not_not, not_not] at hdivides
    rw [hwidth, hheight]
    exact ⟨Nat.div_mul_cancel hdivides.1, Nat.div_mul_cancel hdivides.2⟩

theorem canUse_eq_true {allow : Bool} (h : canUseOpaqueFullFrameFastPath frame crop dimensions scale allow = true) :
    frame.Opaque ∧ (scale.direction = .identity ∧ dimensions.width = crop.width ∧ dimensions.height = crop.height ∨
      scale.direction = .down ∧ dimensions.width * scale.factor = crop.width ∧
        dimensions.height * scale.factor = crop.height) := by
  simp only [canUseOpaqueFullFrameFastPath, Bool.and_eq_true, bne_iff_ne, List.all_eq_true, beq_iff_eq] at h
  obtain ⟨⟨⟨-, hup⟩, hdimensions⟩, hsolid⟩ := h
  refine ⟨hsolid, ?_⟩
  split at hdimensions
  case h_2 => cases hdimensions
  case h_1 expected hexpected =>
    obtain rfl := of_decide_eq_true hdimensions
    cases hdirection : scale.direction with
    | identity => exact .inl ⟨rfl, scaledDimensions_identity hdirection hexpected⟩
    | down => exact .inr ⟨rfl, scaledDimensions_down hdirection hexpected⟩
    | up => exact absurd hdirection hup

/-- Where the opaque path is chosen, it gives the frame that the general path gives. -/
theorem opaque_path_exact (frame : ByteFrame) (crop : PixelRect) (dimensions : PixelDimensions) (scale : IntegerScale)
    (background : Rgb16) (allow : Bool) (hfits : fitsWithin crop frame.dimensions)
    (hchosen : canUseOpaqueFullFrameFastPath frame crop dimensions scale allow = true) : ∃ normalized,
    normalizeFrame frame crop dimensions scale background allow = .ok normalized ∧
      normalizeFrameGeneral frame crop dimensions scale background = .ok normalized := by
  have hcapacity : checkedMul (dimensions.width * dimensions.height) 3 = some (dimensions.width * dimensions.height * 3) := by
    have hbytes := dimensions.bytes_le
    exact if_pos (by omega)
  have hpath : Agree (normalizeOpaqueCrop frame crop dimensions scale)
      (normalizeFrameGeneral frame crop dimensions scale background) := by
    obtain ⟨hsolid, ⟨hdirection, hwidth, hheight⟩ | ⟨hdirection, hwidth, hheight⟩⟩ := canUse_eq_true hchosen
    · rw [normalizeOpaqueCrop, hdirection]
      exact identity_agree background hsolid hfits hdirection hwidth hheight
    · rw [normalizeOpaqueCrop, hdirection]
      exact downscale_agree background hsolid hfits hdirection hwidth hheight
  have hchoice : normalizeFrame frame crop dimensions scale background allow = normalizeOpaqueCrop frame crop dimensions scale := by
    rw [normalizeFrame, hcapacity]
    exact if_pos hchosen
  rw [hchoice]
  exact hpath

/-- The frame of the pixels that the bytes are. -/
def ByteFrame.toFrame (frame : ByteFrame) : Frame where
  dimensions := frame.dimensions
  pixels := chunksExact4 frame.pixels
  length_pixels := by rw [length_chunksExact4, frame.length_pixels, Nat.mul_div_cancel _ (by decide)]

theorem compositedValue_eq (source : UInt8) {backdrop alpha : Nat} (hbackdrop : backdrop ≤ 65535) (halpha : alpha ≤ 255) :
    compositedValue source backdrop alpha = .ok (compositedChannel source backdrop alpha) := by
  have hsource : linearChannel source * alpha ≤ 65535 * alpha := Nat.mul_le_mul_right _ (linearChannel_le source)
  have hback : backdrop * (255 - alpha) ≤ 65535 * (255 - alpha) := Nat.mul_le_mul_right _ hbackdrop
  have hmul : checkedMul32 (linearChannel source) alpha = some (linearChannel source * alpha) :=
    if_pos (by unfold u32Max; omega)
  have hadd : checkedAdd32 (linearChannel source * alpha) (backdrop * (255 - alpha)) =
      some (linearChannel source * alpha + backdrop * (255 - alpha)) := if_pos (by unfold u32Max; omega)
  have hround : checkedAdd32 (linearChannel source * alpha + backdrop * (255 - alpha)) 127 =
      some (linearChannel source * alpha + backdrop * (255 - alpha) + 127) := if_pos (by unfold u32Max; omega)
  have hnarrow : toU16 (compositedChannel source backdrop alpha) = some (compositedChannel source backdrop alpha) :=
    if_pos (by unfold compositedChannel; omega)
  rw [compositedValue, hmul, Option.bind_some, hadd, Option.bind_some, hround]
  show orLimit (toU16 (compositedChannel source backdrop alpha)) = _
  rw [hnarrow]
  rfl

theorem compositedPixel_toFrame (hred : background.red ≤ 65535) (hgreen : background.green ≤ 65535)
    (hblue : background.blue ≤ 65535) (hx : x < frame.dimensions.width) (hy : y < frame.dimensions.height) :
    compositedPixel frame x y background = .ok (Vision.compositedPixel frame.toFrame x y background) := by
  obtain ⟨hplace, hbytes⟩ := place_lt hx hy
  have hmul : checkedMul y frame.dimensions.width = some (y * frame.dimensions.width) := if_pos (by omega)
  have hadd : checkedAdd (y * frame.dimensions.width) x = some (y * frame.dimensions.width + x) := if_pos (by omega)
  have hoffset : checkedMul (y * frame.dimensions.width + x) 4 = some ((y * frame.dimensions.width + x) * 4) :=
    if_pos (by omega)
  have halpha := Nat.le_of_lt_succ (frame.rgba (y * frame.dimensions.width + x)).alpha.toNat_lt
  rw [compositedPixel, hmul, Option.bind_some, hadd, Option.bind_some, hoffset]
  show (pixelAt frame.pixels ((y * frame.dimensions.width + x) * 4) >>= _) = _
  rw [pixelAt_eq hplace, ok_bind, compositedValue_eq _ hred halpha, compositedValue_eq _ hgreen halpha,
    compositedValue_eq _ hblue halpha]
  rfl

/-- At identity scale the bytes are normalized to the channels of the normalized pixels. -/
theorem normalizeFrameGeneral_toFrame (hdirection : scale.direction = .identity) (hfits : fitsWithin crop frame.dimensions)
    (hwidth : dimensions.width = crop.width) (hheight : dimensions.height = crop.height) (background : Rgb8) :
    normalizeFrameGeneral frame crop dimensions scale (linearBackground background) = .ok ⟨dimensions,
      (Vision.normalizeFrameGeneral frame.toFrame crop dimensions (linearBackground background)).linearRgb16.flatMap channels⟩ := by
  have hcropWidth := hfits.1
  have hcropHeight := hfits.2
  have hwidthLe := frame.dimensions.width_le
  have hheightLe := frame.dimensions.height_le
  have hrows : (collect dimensions.height fun y => collect dimensions.width fun x =>
      (generalPixel frame crop scale (linearBackground background) x y).map channels) =
      .ok ((List.range dimensions.height).flatMap fun y => (List.range dimensions.width).flatMap fun x =>
        channels (Vision.compositedPixel frame.toFrame (crop.x + x) (crop.y + y) (linearBackground background))) := by
    refine collect_ok fun y hy => collect_ok fun x hx => ?_
    rw [generalPixel, hdirection]
    dsimp only
    rw [wrap32_eq (by omega), wrap32_eq (by omega),
      compositedPixel_toFrame (linearChannel_le _) (linearChannel_le _) (linearChannel_le _) (by omega) (by omega)]
    rfl
  rw [normalizeFrameGeneral, hrows, Vision.normalizeFrameGeneral, Raster.raster]
  simp only [ok_bind, List.flatMap_assoc, List.flatMap_map]
  rfl

/-- A frame of two rows of three opaque pixels. -/
def smallFrame : ByteFrame :=
  ⟨.sized 3 2 (by decide),
    [1, 2, 3, 255, 4, 5, 6, 255, 7, 8, 9, 255, 10, 20, 30, 255, 40, 50, 60, 255, 70, 80, 90, 255], rfl⟩

theorem normalizeFrameGeneral_toFrame_small :
    normalizeFrameGeneral smallFrame ⟨1, 0, 2, 2⟩ (.sized 2 2 (by decide)) ⟨.identity, 1, by decide, by decide⟩
      (linearBackground ⟨0, 0, 0⟩) = .ok ⟨.sized 2 2 (by decide), (Vision.normalizeFrameGeneral smallFrame.toFrame ⟨1, 0, 2, 2⟩
        (.sized 2 2 (by decide)) (linearBackground ⟨0, 0, 0⟩)).linearRgb16.flatMap channels⟩ :=
  normalizeFrameGeneral_toFrame rfl (by decide) rfl rfl _

/-- The mean of the four pixels on the right. -/
theorem opaque_path_exact_box : ∃ normalized,
    normalizeFrame smallFrame ⟨1, 0, 2, 2⟩ ⟨1, 1, by decide, by decide, by decide, by decide, by decide⟩
      ⟨.down, 2, by decide, by decide⟩ ⟨0, 0, 0⟩ true = .ok normalized ∧
    normalizeFrameGeneral smallFrame ⟨1, 0, 2, 2⟩ ⟨1, 1, by decide, by decide, by decide, by decide, by decide⟩
      ⟨.down, 2, by decide, by decide⟩ ⟨0, 0, 0⟩ = .ok normalized :=
  opaque_path_exact _ _ _ _ _ _ (by decide) (by decide)

end Krometrail.Vision.Scaling
