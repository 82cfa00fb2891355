import Mathlib

/-!
# Row-major rasters

The list of the values of a function at the points of a rectangle, row by row.  The value at a point stands at the row
times the width plus the column (`getElem?_raster`), and each place of the list is that of one point (`getElem?_raster_place`).
-/

namespace Raster

universe u

variable {α : Type u} {width height x y i : Nat} {f : Nat → Nat → α}

/-- The values of `f x y` at the points of a rectangle. -/
def raster (width height : Nat) (f : Nat → Nat → α) : List α :=
  (List.range height).flatMap fun y => (List.range width).map fun x => f x y

theorem raster_succ (width height : Nat) (f : Nat → Nat → α) :
    raster width (height + 1) f = raster width height f ++ (List.range width).map fun x => f x height := by
  simp [raster, List.range_succ]

@[simp] theorem length_raster (width height : Nat) (f : Nat → Nat → α) :
    (raster width height f).length = height * width := by
  induction height with
  | zero => simp [raster]
  | succ height ih => rw [raster_succ, List.length_append, ih, List.length_map, List.length_range, Nat.succ_mul]

theorem getElem?_raster (hx : x < width) (hy : y < height) (f : Nat → Nat → α) :
    (raster width height f)[y * width + x]? = some (f x y) := by
  induction height with
  | zero => exact absurd hy (Nat.not_lt_zero y)
  | succ height ih =>
    rw [raster_succ]
    rcases Nat.lt_succ_iff_lt_or_eq.1 hy with hlt | rfl
    · have hrow : (y + 1) * width ≤ height * width := Nat.mul_le_mul_right width hlt
      rw [Nat.succ_mul] at hrow
      rw [List.getElem?_append_left (by rw [length_raster]; omega), ih hlt]
    · rw [List.getElem?_append_right (by rw [length_raster]; omega), length_raster, Nat.add_sub_cancel_left]
      simp [hx]

theorem getElem?_raster_place (hi : i < height * width) (f : Nat → Nat → α) :
    (raster width height f)[i]? = some (f (i % width) (i / width)) := by
  have hwidth : 0 < width := by
    rcases Nat.eq_zero_or_pos width with rfl | hpos
    · simp at hi
    · exact hpos
  have hplace : i / width * width + i % width = i := Nat.div_add_mod' i width
  have := getElem?_raster (Nat.mod_lt i hwidth) (Nat.div_lt_of_lt_mul (by rwa [Nat.mul_comm])) f
  rwa [hplace] at this

end Raster
