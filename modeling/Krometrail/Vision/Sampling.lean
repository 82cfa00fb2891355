import Krometrail.Vision.Filmstrip

/-!
# Evenly spaced indices

The places of a bounded sample: each is the nearest index to its share of the span, ties down.  Since the shares are more
than one apart, no index is taken twice.
-/

namespace Krometrail.Vision

variable {numerator denominator : Nat}

theorem roundRatioTiesDown_bounds (numerator : Nat) (h : 0 < denominator) :
    2 * numerator ≤ 2 * (denominator * roundRatioTiesDown numerator denominator) + denominator ∧
      2 * (denominator * roundRatioTiesDown numerator denominator) < 2 * numerator + denominator := by
  have hdivmod := Nat.div_add_mod numerator denominator
  have hmod := Nat.mod_lt numerator h
  unfold roundRatioTiesDown
  simp only
  split
  · rw [Nat.mul_add]
    omega
  · rw [Nat.add_zero]
    omega

theorem roundRatioTiesDown_lt {span : Nat} (h : 0 < denominator) (hspan : denominator < span) (numerator : Nat) :
    roundRatioTiesDown numerator denominator < roundRatioTiesDown (numerator + span) denominator := by
  obtain ⟨-, hbelow⟩ := roundRatioTiesDown_bounds numerator h
  obtain ⟨habove, -⟩ := roundRatioTiesDown_bounds (numerator + span) h
  refine lt_of_mul_lt_mul_left ?_ (Nat.zero_le denominator)
  omega

theorem roundRatioTiesDown_mul (k : Nat) (h : 0 < denominator) : roundRatioTiesDown (denominator * k) denominator = k := by
  unfold roundRatioTiesDown
  rw [Nat.mul_div_cancel_left k h, Nat.mul_mod_right]
  simp

/-- The exact place of a slot. -/
def share (frameCount limit slot : Nat) : ℚ := slot * ((frameCount - 1 : Nat) : ℚ) / ((min frameCount limit - 1 : Nat) : ℚ)

/-- What `select_indices` promises. -/
structure EvenlySpaced (frameCount limit : Nat) (indices : List Nat) : Prop where
  length : indices.length = min frameCount limit
  increasing : indices.Pairwise (· < ·)
  lt : ∀ index ∈ indices, index < frameCount
  endpoints : 2 ≤ limit → 0 ∈ indices ∧ frameCount - 1 ∈ indices
  nearest : ∀ slot index : Nat, indices[slot]? = some index → |(index : ℚ) - share frameCount limit slot| ≤ 1 / 2

variable {frameCount limit : Nat}

theorem evenlySpaced_range (h : 1 ≤ frameCount) (hle : frameCount ≤ limit) : EvenlySpaced frameCount limit (List.range frameCount) where
  length := by rw [List.length_range, min_eq_left hle]
  increasing := List.pairwise_lt_range
  lt := fun index hindex => List.mem_range.1 hindex
  endpoints := fun _ => ⟨List.mem_range.2 (by omega), List.mem_range.2 (by omega)⟩
  nearest := by
    intro slot index hslot
    obtain ⟨hlt, rfl⟩ := List.getElem?_eq_some_iff.1 hslot
    rw [List.length_range] at hlt
    rw [List.getElem_range, share, min_eq_left hle]
    by_cases hone : frameCount = 1
    · obtain rfl : slot = 0 := by omega
      norm_num
    · have hne : ((frameCount - 1 : Nat) : ℚ) ≠ 0 := Nat.cast_ne_zero.2 (by omega)
      rw [mul_div_cancel_right₀ _ hne, sub_self, abs_zero]
      norm_num

theorem evenlySpaced_one (h : 1 < frameCount) : EvenlySpaced frameCount 1 [0] where
  length := by rw [List.length_singleton, min_eq_right h.le]
  increasing := List.pairwise_singleton _ _
  lt := fun index hindex => by
    rw [List.mem_singleton.1 hindex]
    omega
  endpoints := fun htwo => absurd htwo (by omega)
  nearest := by
    intro slot index hslot
    obtain ⟨hlt, rfl⟩ := List.getElem?_eq_some_iff.1 hslot
    obtain rfl : slot = 0 := by simpa using hlt
    norm_num [share]

theorem evenlySpaced_shares (hlimit : 2 ≤ limit) (h : limit < frameCount) :
    EvenlySpaced frameCount limit ((List.range limit).map fun slot => roundRatioTiesDown (slot * (frameCount - 1)) (limit - 1)) where
  length := by rw [List.length_map, List.length_range, min_eq_right h.le]
  increasing := by
    rw [← List.isChain_iff_pairwise, List.isChain_map]
    refine List.isChain_iff_getElem.2 fun slot hslot => ?_
    rw [List.length_range] at hslot
    rw [List.getElem_range, List.getElem_range, Nat.succ_mul]
    exact roundRatioTiesDown_lt (by omega) (by omega) _
  lt := by
    intro index hindex
    obtain ⟨slot, hslot, rfl⟩ := List.mem_map.1 hindex
    rw [List.mem_range] at hslot
    obtain ⟨-, hbelow⟩ := roundRatioTiesDown_bounds (slot * (frameCount - 1)) (show 0 < limit - 1 by omega)
    have hshare : slot * (frameCount - 1) ≤ (limit - 1) * (frameCount - 1) := Nat.mul_le_mul_right _ (by omega)
    refine lt_of_mul_lt_mul_left (a := limit - 1) ?_ (Nat.zero_le _)
    have hsplit : (limit - 1) * frameCount = (limit - 1) * (frameCount - 1) + (limit - 1) := by
      rw [← Nat.mul_succ]
      congr 1
      omega
    omega
  endpoints := fun _ => by
    constructor
    · refine List.mem_map.2 ⟨0, List.mem_range.2 (by omega), ?_⟩
      simpa using roundRatioTiesDown_mul 0 (show 0 < limit - 1 by omega)
    · exact List.mem_map.2 ⟨limit - 1, List.mem_range.2 (by omega), roundRatioTiesDown_mul _ (by omega)⟩
  nearest := by
    intro slot index hslot
    rw [List.getElem?_map] at hslot
    obtain ⟨slot', hslot', rfl⟩ := Option.map_eq_some_iff.1 hslot
    obtain ⟨-, rfl⟩ := List.getElem?_eq_some_iff.1 hslot'
    rw [List.getElem_range, share, min_eq_right h.le]
    obtain ⟨hlow, hhigh⟩ := roundRatioTiesDown_bounds (slot * (frameCount - 1)) (show 0 < limit - 1 by omega)
    have hpos : (0 : ℚ) < ((limit - 1 : Nat) : ℚ) := Nat.cast_pos.2 (by omega)
    generalize roundRatioTiesDown (slot * (frameCount - 1)) (limit - 1) = index at hlow hhigh ⊢
    have hlow' : (2 : ℚ) * (slot * ((frameCount - 1 : Nat) : ℚ)) ≤ 2 * (((limit - 1 : Nat) : ℚ) * index) + ((limit - 1 : Nat) : ℚ) := by
      exact_mod_cast hlow
    have hhigh' : (2 : ℚ) * (((limit - 1 : Nat) : ℚ) * index) < 2 * (slot * ((frameCount - 1 : Nat) : ℚ)) + ((limit - 1 : Nat) : ℚ) := by
      exact_mod_cast hhigh
    rw [abs_le, sub_le_iff_le_add, neg_le_sub_iff_le_add, div_le_iff₀ hpos, ← sub_le_iff_le_add', le_div_iff₀ hpos]
    constructor <;> nlinarith

theorem evenlySpaced_selectIndices (hcount : 1 ≤ frameCount) (hlimit : 1 ≤ limit) :
    EvenlySpaced frameCount limit (selectIndices frameCount limit) := by
  unfold selectIndices
  split
  · rename_i hle
    exact evenlySpaced_range hcount hle
  · rename_i hmore
    split
    · rename_i hone
      subst hone
      exact evenlySpaced_one (by omega)
    · exact evenlySpaced_shares (by omega) (by omega)

end Krometrail.Vision
