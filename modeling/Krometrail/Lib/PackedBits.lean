import Mathlib

/-!
# Packed bits

Bits in a list of bytes, the most significant bit of a byte first.  A cursor that steps bit by bit reads the bits in order
(`read_at`), and setting a bit changes no other one (`bit_setBit`).
-/

namespace PackedBits

/-- The mask of a bit in its byte. -/
def maskOf (index : Nat) : UInt8 := 0x80 >>> UInt8.ofNat (index % 8)

/-- The bit of an index; behind the bytes every bit is clear. -/
def bit (bits : List UInt8) (index : Nat) : Bool := bits.getD (index / 8) 0 &&& maskOf index != 0

def setBit (bits : List UInt8) (index : Nat) : List UInt8 := bits.modify (index / 8) (· ||| maskOf index)

@[simp] theorem length_setBit (bits : List UInt8) (index : Nat) : (setBit bits index).length = bits.length :=
  List.length_modify _ _ _

theorem maskOf_add_mul (a n : Nat) : maskOf (8 * a + n) = maskOf n := by
  rw [maskOf, Nat.mul_add_mod, maskOf]

theorem and_maskOf (i j : Nat) : maskOf i &&& maskOf j ≠ 0 ↔ i % 8 = j % 8 := by
  have H : ∀ i j : Fin 8, (0x80 : UInt8) >>> UInt8.ofNat i.val &&& 0x80 >>> UInt8.ofNat j.val ≠ 0 ↔ i.val = j.val := by decide
  exact H ⟨i % 8, Nat.mod_lt _ (by decide)⟩ ⟨j % 8, Nat.mod_lt _ (by decide)⟩

theorem or_and_maskOf (byte : UInt8) (i j : Nat) :
    (byte ||| maskOf i) &&& maskOf j ≠ 0 ↔ byte &&& maskOf j ≠ 0 ∨ i % 8 = j % 8 := by
  have hdistrib : (byte ||| maskOf i) &&& maskOf j = byte &&& maskOf j ||| maskOf i &&& maskOf j :=
    UInt8.toBitVec_inj.1 (by ext k; simp [Bool.and_or_distrib_right])
  rw [← and_maskOf i j, hdistrib, ne_eq, UInt8.or_eq_zero_iff, not_and_or]

theorem bit_setBit {bits : List UInt8} {i : Nat} (h : i / 8 < bits.length) (j : Nat) :
    bit (setBit bits i) j = (bit bits j || decide (i = j)) := by
  unfold bit setBit
  rw [List.getD_eq_getElem?_getD, List.getD_eq_getElem?_getD, List.getElem?_modify, Bool.eq_iff_iff]
  by_cases hbyte : i / 8 = j / 8
  · have hj : j / 8 < bits.length := hbyte ▸ h
    have hsame : i % 8 = j % 8 ↔ i = j := ⟨fun hmod => by omega, fun heq => heq ▸ rfl⟩
    simp only [hbyte, if_true, List.getElem?_eq_getElem hj, Option.map_eq_map, Option.map_some, Option.getD_some, bne_iff_ne,
      Bool.or_eq_true, decide_eq_true_eq, or_and_maskOf, hsame]
  · have hne : i ≠ j := fun heq => hbyte (heq ▸ rfl)
    simp [hbyte, hne]

theorem bit_slice {bits : List UInt8} {start count index : Nat} (h : index / 8 < count) :
    bit ((bits.drop start).take count) index = bit bits (8 * start + index) := by
  have hbyte : (8 * start + index) / 8 = start + index / 8 := by omega
  rw [bit, bit, maskOf_add_mul, hbyte, List.getD_eq_getElem?_getD, List.getD_eq_getElem?_getD, List.getElem?_take_of_lt h,
    List.getElem?_drop]

/-- The bits set in either of two lists of one length. -/
def union (a b : List UInt8) : List UInt8 := List.zipWith (· ||| ·) a b

@[simp] theorem length_union (a b : List UInt8) : (union a b).length = min a.length b.length := List.length_zipWith

theorem union_setBit (a b : List UInt8) (index : Nat) : union a (setBit b index) = setBit (union a b) index := by
  refine List.ext_getElem? fun k => ?_
  simp only [union, setBit, List.getElem?_zipWith, List.getElem?_modify]
  cases ha : a[k]? with
  | none => simp
  | some x =>
    cases hb : b[k]? with
    | none => simp
    | some y =>
      by_cases hk : index / 8 = k
      · simp [hk, UInt8.or_assoc]
      · simp [hk]

theorem union_zero {a : List UInt8} {count : Nat} (h : a.length = count) : union a (List.replicate count 0) = a := by
  subst h
  refine List.ext_getElem (by simp) fun k hk hk' => ?_
  simp [union]

theorem union_foldl_setBit {α : Type*} (place : α → Nat) (l : List α) (a b : List UInt8) :
    union a (l.foldl (fun bits x => setBit bits (place x)) b) = l.foldl (fun bits x => setBit bits (place x)) (union a b) := by
  induction l generalizing b with
  | nil => rfl
  | cons x l ih => rw [List.foldl_cons, List.foldl_cons, ih, union_setBit]

theorem length_setBits {α : Type*} (place : α → Nat) (l : List α) (bits : List UInt8) :
    (l.foldl (fun bits x => setBit bits (place x)) bits).length = bits.length := by
  induction l generalizing bits with
  | nil => rfl
  | cons x l ih => rw [List.foldl_cons, ih, length_setBit]

/-- A place in bytes, as the index of a byte and the mask of a bit. -/
structure Cursor where
  bits : List UInt8
  byte : Nat
  mask : UInt8

def Cursor.at (bits : List UInt8) (index : Nat) : Cursor := ⟨bits, index / 8, maskOf index⟩

/-- The bit under the cursor, and the cursor behind it. -/
def Cursor.read (cursor : Cursor) : Option (Bool × Cursor) :=
  cursor.bits[cursor.byte]?.map fun byte =>
    let next := cursor.mask >>> (1 : UInt8)
    (byte &&& cursor.mask != 0, if next = 0 then { cursor with byte := cursor.byte + 1, mask := 0x80 } else { cursor with mask := next })

theorem maskOf_succ (index : Nat) :
    maskOf (index + 1) = if maskOf index >>> (1 : UInt8) = 0 then 0x80 else maskOf index >>> (1 : UInt8) := by
  have H : ∀ k : Fin 8, (0x80 : UInt8) >>> UInt8.ofNat ((k.val + 1) % 8) =
      if (0x80 : UInt8) >>> UInt8.ofNat k.val >>> (1 : UInt8) = 0 then 0x80
      else (0x80 : UInt8) >>> UInt8.ofNat k.val >>> (1 : UInt8) := by decide
  have := H ⟨index % 8, Nat.mod_lt _ (by decide)⟩
  rwa [Nat.mod_add_mod] at this

theorem shift_maskOf_eq_zero (index : Nat) : maskOf index >>> (1 : UInt8) = 0 ↔ index % 8 = 7 := by
  have H : ∀ k : Fin 8, (0x80 : UInt8) >>> UInt8.ofNat k.val >>> (1 : UInt8) = 0 ↔ k.val = 7 := by decide
  exact H ⟨index % 8, Nat.mod_lt _ (by decide)⟩

theorem next_at (bits : List UInt8) (index : Nat) :
    (if maskOf index >>> (1 : UInt8) = 0 then ⟨bits, index / 8 + 1, 0x80⟩ else ⟨bits, index / 8, maskOf index >>> (1 : UInt8)⟩) =
      Cursor.at bits (index + 1) := by
  rw [Cursor.at, maskOf_succ]
  by_cases hend : maskOf index >>> (1 : UInt8) = 0
  · have hlast := (shift_maskOf_eq_zero index).1 hend
    rw [if_pos hend, if_pos hend, show (index + 1) / 8 = index / 8 + 1 by omega]
  · have hlast := mt (shift_maskOf_eq_zero index).2 hend
    rw [if_neg hend, if_neg hend, show (index + 1) / 8 = index / 8 by omega]

theorem read_at {bits : List UInt8} {index : Nat} (h : index / 8 < bits.length) :
    (Cursor.at bits index).read = some (bit bits index, Cursor.at bits (index + 1)) := by
  have hbyte : bits.getD (index / 8) 0 = bits[index / 8] := by
    rw [List.getD_eq_getElem?_getD, List.getElem?_eq_getElem h, Option.getD_some]
  have hread : (Cursor.at bits index).read = bits[index / 8]?.map fun byte => (byte &&& maskOf index != 0,
      if maskOf index >>> (1 : UInt8) = 0 then ⟨bits, index / 8 + 1, 0x80⟩ else ⟨bits, index / 8, maskOf index >>> (1 : UInt8)⟩) := rfl
  rw [hread, next_at, List.getElem?_eq_getElem h, Option.map_some, bit, hbyte]

end PackedBits
