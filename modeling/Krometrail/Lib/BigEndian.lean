import Mathlib

/-!
# Big-endian fixed-width numbers

The big-endian encoding of a natural number in `width` bytes and its inverse.  Encoding and reading back give the
number modulo `256 ^ width` (`ofBytes_toBytes`), and reading and encoding give the bytes back
(`toBytes_ofBytes`).
-/

namespace BigEndian

/-- The `width` low bytes of `value`, most significant byte first. -/
def toBytes : Nat → Nat → List UInt8
  | 0, _ => []
  | width + 1, value => toBytes width (value / 256) ++ [UInt8.ofNat value]

/-- The number that a byte string spells, most significant byte first. -/
def ofBytes (bytes : List UInt8) : Nat := bytes.foldl (fun value byte => value * 256 + byte.toNat) 0

@[simp] theorem length_toBytes (width value : Nat) : (toBytes width value).length = width := by
  induction width generalizing value with
  | zero => rfl
  | succ width ih => simp [toBytes, ih]

@[simp] theorem ofBytes_append_singleton (bytes : List UInt8) (byte : UInt8) :
    ofBytes (bytes ++ [byte]) = ofBytes bytes * 256 + byte.toNat := by
  simp [ofBytes]

theorem ofBytes_toBytes (width value : Nat) : ofBytes (toBytes width value) = value % 256 ^ width := by
  induction width generalizing value with
  | zero => simp [toBytes, ofBytes, Nat.mod_one]
  | succ width ih =>
    rw [toBytes, ofBytes_append_singleton, ih, pow_succ', Nat.mod_mul, UInt8.toNat_ofNat']
    omega

theorem ofBytes_toBytes_of_lt {width value : Nat} (h : value < 256 ^ width) :
    ofBytes (toBytes width value) = value := by
  rw [ofBytes_toBytes, Nat.mod_eq_of_lt h]

theorem ofBytes_lt (bytes : List UInt8) : ofBytes bytes < 256 ^ bytes.length := by
  induction bytes using List.reverseRecOn with
  | nil => simp [ofBytes]
  | append_singleton bytes byte ih =>
    have hbyte : byte.toNat < 256 := byte.toNat_lt
    rw [ofBytes_append_singleton, List.length_append, List.length_singleton, pow_succ]
    omega

theorem toBytes_ofBytes (bytes : List UInt8) : toBytes bytes.length (ofBytes bytes) = bytes := by
  induction bytes using List.reverseRecOn with
  | nil => rfl
  | append_singleton bytes byte ih =>
    have hbyte : byte.toNat < 256 := byte.toNat_lt
    have hhigh : (ofBytes bytes * 256 + byte.toNat) / 256 = ofBytes bytes := by omega
    have hlow : UInt8.ofNat (ofBytes bytes * 256 + byte.toNat) = byte := by
      apply UInt8.toNat_inj.1
      rw [UInt8.toNat_ofNat']
      omega
    rw [List.length_append, List.length_singleton, ofBytes_append_singleton, toBytes, hhigh, hlow, ih]

end BigEndian

/-!
## The order of byte strings

Byte strings are compared byte by byte.  For strings of one length this is the order of the numbers that they spell, the first
byte being the most significant one.
-/

namespace BigEndian

theorem ofBytes_cons (byte : UInt8) (bytes : List UInt8) :
    ofBytes (byte :: bytes) = byte.toNat * 256 ^ bytes.length + ofBytes bytes := by
  induction bytes using List.reverseRecOn with
  | nil => simp [ofBytes]
  | append_singleton bytes last ih =>
    rw [← List.cons_append, ofBytes_append_singleton, ih, ofBytes_append_singleton, List.length_append, List.length_singleton,
      Nat.pow_succ]
    ring

theorem lt_iff_ofBytes_lt {a b : List UInt8} (h : a.length = b.length) : a < b ↔ ofBytes a < ofBytes b := by
  induction a generalizing b with
  | nil =>
    obtain rfl := List.length_eq_zero_iff.1 h.symm
    exact iff_of_false (by simp) (lt_irrefl _)
  | cons x a ih =>
    cases b with
    | nil => exact absurd h (by simp)
    | cons y b =>
      have hlength : a.length = b.length := Nat.succ.inj h
      have ha := ofBytes_lt a
      have hb := ofBytes_lt b
      rw [hlength] at ha
      rw [List.cons_lt_cons_iff, ih hlength, ofBytes_cons, ofBytes_cons, hlength, UInt8.lt_iff_toNat_lt]
      constructor
      · rintro (hlt | ⟨rfl, hlt⟩)
        · have hstep : (x.toNat + 1) * 256 ^ b.length ≤ y.toNat * 256 ^ b.length := Nat.mul_le_mul_right _ hlt
          rw [Nat.succ_mul] at hstep
          omega
        · omega
      · intro hlt
        rcases Nat.lt_trichotomy x.toNat y.toNat with hxy | hxy | hxy
        · exact .inl hxy
        · exact .inr ⟨UInt8.toNat_inj.1 hxy, by rw [hxy] at hlt; omega⟩
        · have hstep : (y.toNat + 1) * 256 ^ b.length ≤ x.toNat * 256 ^ b.length := Nat.mul_le_mul_right _ hxy
          rw [Nat.succ_mul] at hstep
          omega

theorem toBytes_lt_iff {width m n : Nat} (hm : m < 256 ^ width) (hn : n < 256 ^ width) :
    toBytes width m < toBytes width n ↔ m < n := by
  rw [lt_iff_ofBytes_lt (by simp), ofBytes_toBytes_of_lt hm, ofBytes_toBytes_of_lt hn]

theorem toBytes_inj {width m n : Nat} (hm : m < 256 ^ width) (hn : n < 256 ^ width) :
    toBytes width m = toBytes width n ↔ m = n :=
  ⟨fun h => by rw [← ofBytes_toBytes_of_lt hm, h, ofBytes_toBytes_of_lt hn], congrArg _⟩

theorem toBytes_le_iff {width m n : Nat} (hm : m < 256 ^ width) (hn : n < 256 ^ width) :
    toBytes width m ≤ toBytes width n ↔ m ≤ n := by
  rw [← List.not_lt, toBytes_lt_iff hn hm, not_lt]

end BigEndian
