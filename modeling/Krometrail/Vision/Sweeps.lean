import Krometrail.Lib.PackedBits
import Krometrail.Vision.Filmstrip

/-!
# Sweeps over a pair of frames

Measurement, difference maps and motion histories go through the pixels of two normalized frames in one loop: row by row, with
one cursor in the packed inclusion mask and one in the packed changes of an earlier analysis.  Such a sweep visits the
included pixels, row by row, each with its own bits (`sweepPixels_eq`).
-/

namespace Krometrail.Vision.Sweeps

open PackedBits Raster Results

/-- A `BinaryMask`; that the bits behind its last pixel are clear is not used. -/
structure BinaryMask where
  dimensions : PixelDimensions
  bits : List UInt8
  length_bits : bits.length = (dimensions.height * dimensions.width + 7) / 8

def BinaryMask.includes (mask : BinaryMask) (x y : Nat) : Option Bool :=
  if mask.dimensions.width ≤ x ∨ mask.dimensions.height ≤ y then none
  else some (bit mask.bits (y * mask.dimensions.width + x))

/-- `list[start..stop]`. -/
def sliceOf {α : Type} (l : List α) (start stop : Nat) : Except Fault (List α) :=
  if start ≤ stop ∧ stop ≤ l.length then .ok ((l.drop start).take (stop - start)) else .error .outOfBounds

/-- The bytes of a row and the place of its first bit. -/
def BinaryMask.rowBits (mask : BinaryMask) (y : Nat) : Except Fault (Option (List UInt8 × Nat)) :=
  if mask.dimensions.height ≤ y then .ok none
  else match checkedMul y mask.dimensions.width with
  | none => .ok none
  | some startBit =>
    match checkedAdd (startBit % 8 + mask.dimensions.width) 7 with
    | none => .ok none
    | some padded => do
      let row ← sliceOf mask.bits (startBit / 8) (startBit / 8 + padded / 8)
      return some (row, startBit % 8)

/-- A `NormalizedFrame` of a sequence; a channel is a `u16`. -/
structure SequenceFrame (F : Type) where
  id : F
  timestamp : Nat
  dimensions : PixelDimensions
  linearRgb16 : List Nat
  timestamp_le : timestamp ≤ u64Max
  length_linearRgb16 : linearRgb16.length = dimensions.height * dimensions.width * 3
  channel_le : ∀ channel ∈ linearRgb16, channel ≤ 65535

/-- `chunks_exact(3)`. -/
def chunksExact3 : List Nat → List Rgb16
  | red :: green :: blue :: rest => ⟨red, green, blue⟩ :: chunksExact3 rest
  | _ => []

variable {F : Type}

def SequenceFrame.pixel (frame : SequenceFrame F) (x y : Nat) : Rgb16 :=
  (chunksExact3 frame.linearRgb16).getD (y * frame.dimensions.width + x) ⟨0, 0, 0⟩

section Sweep

variable {σ : Type} (overflow : VisionError) (visit : σ → Nat → Nat → Option Bool → Rgb16 → Rgb16 → Except Fault σ)

/-- `ok_or_else(overflow)`. -/
def orError (value : Option Nat) : Except Fault Nat := value.elim (.error (.error overflow)) .ok

/-- The bit under a cursor, if there is one, and the cursor behind it. -/
def readBit : Option Cursor → Except Fault (Option Bool × Option Cursor)
  | none => .ok (none, none)
  | some cursor =>
    match cursor.read with
    | none => .error .outOfBounds
    | some (value, next) => .ok (some value, some next)

/-- The loop over a row, from the column `x`. -/
def sweepRow (y : Nat) : Nat → List (Rgb16 × Rgb16) → Option Cursor → Option Cursor → σ → Except Fault σ
  | _, [], _, _, state => .ok state
  | x, (before, after) :: rest, change, mask, state => do
    let (changed, change) ← readBit change
    let (included, mask) ← readBit mask
    let state ← if included = some false then .ok state else visit state x y changed before after
    sweepRow y (x + 1) rest change mask state

/-- The cursor at the begin of a row; a mask of other dimensions panics. -/
def maskCursor (mask : Option BinaryMask) (y : Nat) : Except Fault (Option Cursor) :=
  match mask with
  | none => .ok none
  | some mask => do
    match ← mask.rowBits y with
    | none => .error .outOfBounds
    | some (bits, offset) => return some ⟨bits, 0, 0x80 >>> UInt8.ofNat offset⟩

/-- The loop over the rows. -/
def sweepPixels (dimensions : PixelDimensions) (earlier later : List Nat) (mask : Option BinaryMask) (changeBits : Option (List UInt8))
    (state : σ) : Except Fault σ := do
  let rowStride ← orError overflow (checkedMul dimensions.width 3)
  (List.range dimensions.height).foldlM (fun state y => do
    let row ← orError overflow (checkedMul y rowStride)
    let stop ← orError overflow (checkedAdd row rowStride)
    let earlierRow ← sliceOf earlier row stop
    let laterRow ← sliceOf later row stop
    let mask ← maskCursor mask y
    let changeStart ← orError overflow (checkedMul y dimensions.width)
    sweepRow visit y 0 ((chunksExact3 earlierRow).zip (chunksExact3 laterRow)) (changeBits.map (Cursor.at · changeStart)) mask state)
    state

end Sweep

def included (mask : Option BinaryMask) (dimensions : PixelDimensions) (point : Nat × Nat) : Bool :=
  (mask.map fun mask => bit mask.bits (point.2 * dimensions.width + point.1)).getD true

/-- The included points, row by row. -/
def includedPoints (mask : Option BinaryMask) (dimensions : PixelDimensions) : List (Nat × Nat) :=
  (raster dimensions.width dimensions.height Prod.mk).filter (included mask dimensions)

section Rows

variable {σ : Type}

theorem readBit_at {bits : Option (List UInt8)} {index : Nat} (h : ∀ bytes ∈ bits, index / 8 < bytes.length) :
    readBit (bits.map (Cursor.at · index)) = .ok (bits.map (bit · index), bits.map (Cursor.at · (index + 1))) := by
  cases bits with
  | none => rfl
  | some bytes => simp [readBit, read_at (h bytes rfl)]

theorem sweepRow_eq (visit : σ → Nat → Nat → Option Bool → Rgb16 → Rgb16 → Except Fault σ) (y : Nat) {base offset count x : Nat}
    {changeBits maskBits : Option (List UInt8)} (pixels : Nat → Rgb16 × Rgb16)
    (hchange : ∀ bits ∈ changeBits, base + x + count ≤ 8 * bits.length) (hmask : ∀ bits ∈ maskBits, offset + x + count ≤ 8 * bits.length)
    (state : σ) :
    sweepRow visit y x ((List.range' x count).map pixels) (changeBits.map (Cursor.at · (base + x))) (maskBits.map (Cursor.at · (offset + x)))
      state =
      ((List.range' x count).filter fun x => (maskBits.map (bit · (offset + x))).getD true).foldlM
        (fun state x => visit state x y (changeBits.map (bit · (base + x))) (pixels x).1 (pixels x).2) state := by
  induction count generalizing x state with
  | zero => rfl
  | succ count ih =>
    have hchange' : ∀ bits ∈ changeBits, (base + x) / 8 < bits.length := fun bits hbits => by
      have := hchange bits hbits
      omega
    have hmask' : ∀ bits ∈ maskBits, (offset + x) / 8 < bits.length := fun bits hbits => by
      have := hmask bits hbits
      omega
    rw [List.range'_succ, List.map_cons, List.filter_cons]
    simp only [sweepRow, readBit_at hchange', readBit_at hmask', ok_bind]
    have hrest (state : σ) := ih (x := x + 1) (fun bits hbits => by have := hchange bits hbits; omega)
      (fun bits hbits => by have := hmask bits hbits; omega) state
    simp only [← Nat.add_assoc] at hrest
    by_cases hin : (maskBits.map (bit · (offset + x))).getD true = true
    · have hvisit : maskBits.map (bit · (offset + x)) ≠ some false := fun hout => by simp [hout] at hin
      rw [if_neg hvisit, if_pos hin, List.foldlM_cons]
      exact bind_congr_ok fun state' _ => hrest state'
    · have hout : maskBits.map (bit · (offset + x)) = some false := by
        cases hbits : maskBits.map (bit · (offset + x)) with
        | none => simp [hbits] at hin
        | some value => simpa [hbits] using hin
      rw [if_pos hout, if_neg hin]
      exact hrest state

end Rows

section Chunks

theorem chunksExact3_drop (n : Nat) (l : List Nat) : chunksExact3 (l.drop (n * 3)) = (chunksExact3 l).drop n := by
  induction n generalizing l with
  | zero => simp
  | succ n ih =>
    match l with
    | red :: green :: blue :: rest =>
      rw [show (n + 1) * 3 = n * 3 + 3 by omega]
      exact ih rest
    | [] | [_] | [_, _] =>
      rw [List.drop_eq_nil_of_le (by simp only [List.length_cons, List.length_nil]; omega)]
      simp [chunksExact3]

theorem chunksExact3_take (n : Nat) (l : List Nat) : chunksExact3 (l.take (n * 3)) = (chunksExact3 l).take n := by
  induction n generalizing l with
  | zero => simp [chunksExact3]
  | succ n ih =>
    match l with
    | red :: green :: blue :: rest =>
      rw [show (n + 1) * 3 = n * 3 + 3 by omega]
      simp only [List.take_succ_cons, chunksExact3, ih]
    | [] | [_] | [_, _] =>
      rw [List.take_of_length_le (by simp only [List.length_cons, List.length_nil]; omega)]
      simp [chunksExact3]

theorem length_chunksExact3 (l : List Nat) : (chunksExact3 l).length = l.length / 3 := by
  induction l using chunksExact3.induct with
  | case1 red green blue rest ih =>
    rw [chunksExact3, List.length_cons, ih]
    simp only [List.length_cons]
    omega
  | case2 l hshort =>
    match l with
    | red :: green :: blue :: rest => exact absurd rfl (hshort red green blue rest)
    | [] | [_] | [_, _] => simp [chunksExact3]

theorem channels_mem {l : List Nat} {pixel : Rgb16} (h : pixel ∈ chunksExact3 l) : pixel.red ∈ l ∧ pixel.green ∈ l ∧ pixel.blue ∈ l := by
  induction l using chunksExact3.induct with
  | case1 red green blue rest ih =>
    rw [chunksExact3] at h
    rcases List.mem_cons.1 h with rfl | h
    · simp
    · obtain ⟨hred, hgreen, hblue⟩ := ih h
      exact ⟨by simp [hred], by simp [hgreen], by simp [hblue]⟩
  | case2 l hshort =>
    match l with
    | red :: green :: blue :: rest => exact absurd rfl (hshort red green blue rest)
    | [] | [_] | [_, _] => simp [chunksExact3] at h

theorem length_pixels (frame : SequenceFrame F) :
    (chunksExact3 frame.linearRgb16).length = frame.dimensions.height * frame.dimensions.width := by
  rw [length_chunksExact3, frame.length_linearRgb16, Nat.mul_div_cancel _ (by decide)]

/-- No channel is above the greatest `u16`. -/
theorem pixel_le (frame : SequenceFrame F) (x y : Nat) :
    (frame.pixel x y).red ≤ 65535 ∧ (frame.pixel x y).green ≤ 65535 ∧ (frame.pixel x y).blue ≤ 65535 := by
  rw [SequenceFrame.pixel, List.getD_eq_getElem?_getD]
  cases hpixel : (chunksExact3 frame.linearRgb16)[y * frame.dimensions.width + x]? with
  | none => simp
  | some pixel =>
    obtain ⟨hred, hgreen, hblue⟩ := channels_mem (List.mem_of_getElem? hpixel)
    exact ⟨frame.channel_le _ hred, frame.channel_le _ hgreen, frame.channel_le _ hblue⟩

theorem chunksExact3_row (frame : SequenceFrame F) {y : Nat} (hy : y < frame.dimensions.height) :
    chunksExact3 ((frame.linearRgb16.drop (y * (frame.dimensions.width * 3))).take (frame.dimensions.width * 3)) =
      (List.range' 0 frame.dimensions.width).map (frame.pixel · y) := by
  have hrow : (y + 1) * frame.dimensions.width ≤ frame.dimensions.height * frame.dimensions.width := Nat.mul_le_mul_right _ hy
  rw [Nat.succ_mul] at hrow
  rw [← Nat.mul_assoc, chunksExact3_take, chunksExact3_drop]
  refine List.ext_getElem? fun x => ?_
  by_cases hx : x < frame.dimensions.width
  · have hin : y * frame.dimensions.width + x < (chunksExact3 frame.linearRgb16).length := by
      rw [length_pixels]
      omega
    rw [List.getElem?_take_of_lt hx, List.getElem?_drop, List.getElem?_map, List.getElem?_range' hx, Option.map_some, Nat.zero_add,
      Nat.one_mul, SequenceFrame.pixel, List.getD_eq_getElem?_getD, List.getElem?_eq_getElem hin, Option.getD_some]
  · simp [hx]

end Chunks

section Spec

variable {σ : Type} {overflow : VisionError} {visit : σ → Nat → Nat → Option Bool → Rgb16 → Rgb16 → Except Fault σ}

theorem orError_some (value : Nat) : orError overflow (some value) = .ok value := rfl

theorem orError_eq_ok {value : Option Nat} {a : Nat} (h : orError overflow value = .ok a) : value = some a := by
  cases value with
  | none => exact absurd h (by simp [orError])
  | some b => exact congrArg some (Except.ok.inj h)

theorem checkedMul_of_le {a b : Nat} (h : a * b ≤ u64Max) : checkedMul a b = some (a * b) := checkedMul_eq_some.2 ⟨h, rfl⟩

theorem checkedAdd_of_le {a b : Nat} (h : a + b ≤ u64Max) : checkedAdd a b = some (a + b) := checkedAdd_eq_some.2 ⟨h, rfl⟩

theorem maskCursor_eq {mask : Option BinaryMask} {dimensions : PixelDimensions} {y : Nat}
    (hmask : ∀ bitmap ∈ mask, bitmap.dimensions = dimensions) (hy : y < dimensions.height) :
    ∃ row : Option (List UInt8), ∃ offset,
      maskCursor mask y = .ok (row.map (Cursor.at · (offset + 0))) ∧ (∀ bits ∈ row, offset + 0 + dimensions.width ≤ 8 * bits.length) ∧
      ∀ x < dimensions.width, (row.map (bit · (offset + x))).getD true = included mask dimensions (x, y) := by
  cases mask with
  | none => exact ⟨none, 0, rfl, by simp, fun _ _ => rfl⟩
  | some mask =>
    obtain rfl := hmask mask rfl
    have hlength := mask.length_bits
    have hbytes := mask.dimensions.bytes_le
    have hrow : (y + 1) * mask.dimensions.width ≤ mask.dimensions.height * mask.dimensions.width := Nat.mul_le_mul_right _ hy
    rw [Nat.succ_mul] at hrow
    rw [Nat.mul_comm mask.dimensions.width] at hbytes
    have hmax : u64Max = 2 ^ 64 - 1 := rfl
    have hwidth : mask.dimensions.width ≤ 2 ^ 32 - 1 := mask.dimensions.width_le
    have hstart := checkedMul_of_le (a := y) (b := mask.dimensions.width) (by omega)
    have hpadded := checkedAdd_of_le (a := y * mask.dimensions.width % 8 + mask.dimensions.width) (b := 7) (by omega)
    -- the bytes from the first bit to the last one
    obtain ⟨bits, hbits⟩ : ∃ bits, bits = (mask.bits.drop (y * mask.dimensions.width / 8)).take
        ((y * mask.dimensions.width % 8 + mask.dimensions.width + 7) / 8) := ⟨_, rfl⟩
    have hslice : sliceOf mask.bits (y * mask.dimensions.width / 8)
        (y * mask.dimensions.width / 8 + (y * mask.dimensions.width % 8 + mask.dimensions.width + 7) / 8) = .ok bits := by
      rw [sliceOf, if_pos (by omega), Nat.add_sub_cancel_left, hbits]
    have hrowBits : mask.rowBits y = .ok (some (bits, y * mask.dimensions.width % 8)) := by
      rw [BinaryMask.rowBits, if_neg (by omega), hstart]
      dsimp only
      rw [hpadded]
      dsimp only
      rw [hslice, ok_bind]
      rfl
    refine ⟨some bits, y * mask.dimensions.width % 8, ?_, fun bytes hbytes => ?_, fun x hx => ?_⟩
    · rw [maskCursor, hrowBits, ok_bind, Option.map_some, Nat.add_zero, Cursor.at, Nat.div_eq_of_lt (Nat.mod_lt _ (by decide)),
        maskOf, Nat.mod_mod]
      rfl
    · cases hbytes
      rw [hbits, List.length_take, List.length_drop]
      omega
    · rw [Option.map_some, Option.getD_some, hbits, bit_slice (by omega)]
      simp only [included, Option.map_some, Option.getD_some]
      congr 1
      omega

theorem foldlM_flatMap {α β : Type} {f : σ → β → Except Fault σ} (g : α → List β) (l : List α) (state : σ) :
    (l.flatMap g).foldlM f state = l.foldlM (fun state a => (g a).foldlM f state) state := by
  induction l generalizing state with
  | nil => rfl
  | cons a l ih =>
    rw [List.flatMap_cons, List.foldlM_append, List.foldlM_cons]
    exact bind_congr_ok fun state' _ => ih state'

theorem sweepPixels_eq {earlier later : SequenceFrame F} {dimensions : PixelDimensions} {mask : Option BinaryMask}
    {changeBits : Option (List UInt8)} (hearlier : earlier.dimensions = dimensions) (hlater : later.dimensions = dimensions)
    (hmask : ∀ bitmap ∈ mask, bitmap.dimensions = dimensions)
    (hchange : ∀ bits ∈ changeBits, dimensions.height * dimensions.width ≤ 8 * bits.length) (state : σ) :
    sweepPixels overflow visit dimensions earlier.linearRgb16 later.linearRgb16 mask changeBits state =
      (includedPoints mask dimensions).foldlM (fun state point =>
        visit state point.1 point.2 (changeBits.map (bit · (point.2 * dimensions.width + point.1)))
          (earlier.pixel point.1 point.2) (later.pixel point.1 point.2)) state := by
  have hbytes := dimensions.bytes_le
  have hmax : u64Max = 2 ^ 64 - 1 := rfl
  have hwidth : dimensions.width ≤ 2 ^ 32 - 1 := dimensions.width_le
  have hstride := checkedMul_of_le (a := dimensions.width) (b := 3) (by omega)
  unfold sweepPixels includedPoints raster
  rw [hstride, orError_some, ok_bind, List.filter_flatMap, foldlM_flatMap]
  refine foldlM_congr (P := fun _ => True) (fun y hy state _ => ⟨?_, fun _ _ => trivial⟩) trivial
  have hy' : y < dimensions.height := List.mem_range.1 hy
  have hrows : (y + 1) * dimensions.width ≤ dimensions.height * dimensions.width := Nat.mul_le_mul_right _ hy'
  rw [Nat.succ_mul] at hrows
  rw [Nat.mul_comm dimensions.width] at hbytes
  have htriple : y * (dimensions.width * 3) = y * dimensions.width * 3 := (Nat.mul_assoc _ _ _).symm
  have hrow := checkedMul_of_le (a := y) (b := dimensions.width * 3) (by omega)
  have hstop := checkedAdd_of_le (a := y * (dimensions.width * 3)) (b := dimensions.width * 3) (by omega)
  have hstart := checkedMul_of_le (a := y) (b := dimensions.width) (by omega)
  have hslice {frame : SequenceFrame F} (h : frame.dimensions = dimensions) :
      sliceOf frame.linearRgb16 (y * (dimensions.width * 3)) (y * (dimensions.width * 3) + dimensions.width * 3) =
        .ok ((frame.linearRgb16.drop (y * (dimensions.width * 3))).take (dimensions.width * 3)) := by
    have hlength := frame.length_linearRgb16
    rw [h] at hlength
    rw [sliceOf, if_pos (by omega), Nat.add_sub_cancel_left]
  obtain ⟨row, offset, hcursor, hreach, hincluded⟩ := maskCursor_eq hmask hy'
  rw [hrow, orError_some, ok_bind, hstop, orError_some, ok_bind, hslice hearlier, ok_bind, hslice hlater,
    ok_bind, hcursor, ok_bind, hstart, orError_some, ok_bind]
  have hpixels : (chunksExact3 ((earlier.linearRgb16.drop (y * (dimensions.width * 3))).take (dimensions.width * 3))).zip
      (chunksExact3 ((later.linearRgb16.drop (y * (dimensions.width * 3))).take (dimensions.width * 3))) =
      (List.range' 0 dimensions.width).map fun x => (earlier.pixel x y, later.pixel x y) := by
    have hfirst := chunksExact3_row earlier (hearlier.symm ▸ hy')
    have hsecond := chunksExact3_row later (hlater.symm ▸ hy')
    rw [hearlier] at hfirst
    rw [hlater] at hsecond
    rw [hfirst, hsecond, List.zip_map']
  have hreachChange : ∀ bits ∈ changeBits, y * dimensions.width + 0 + dimensions.width ≤ 8 * bits.length := fun bits hbits => by
    have := hchange bits hbits
    omega
  have hsweep := sweepRow_eq visit y (fun x => (earlier.pixel x y, later.pixel x y)) hreachChange hreach state
  rw [hpixels]
  simp only [Nat.add_zero] at hsweep ⊢
  rw [hsweep, List.filter_map, List.foldlM_map, List.range_eq_range']
  refine congrArg (List.foldlM _ state) (List.filter_congr fun x hx => ?_)
  exact hincluded x (List.mem_range.1 (List.range_eq_range' ▸ hx))

end Spec

end Krometrail.Vision.Sweeps
