import Krometrail.Lib.BigEndian

/-!
# Length-prefixed framing

Byte strings written one after the other, each behind its length in eight bytes.  The strings are read back from what
is written when their lengths fit (`frames_inj`), so that what is framed never depends on where a string ends.
-/

namespace Framing

variable {α β : Type}

def frame (bytes : List UInt8) : List UInt8 := BigEndian.toBytes 8 bytes.length ++ bytes

def frames (fields : List (List UInt8)) : List UInt8 := fields.flatMap frame

/-- The length of a string fits its prefix. -/
def Fits (bytes : List UInt8) : Prop := bytes.length < 256 ^ 8

@[simp] theorem frames_nil : frames [] = [] := rfl

@[simp] theorem frames_cons (field : List UInt8) (fields : List (List UInt8)) :
    frames (field :: fields) = frame field ++ frames fields := rfl

@[simp] theorem frames_append (fields rest : List (List UInt8)) : frames (fields ++ rest) = frames fields ++ frames rest :=
  List.flatMap_append

theorem frame_append_inj {a b s t : List UInt8} (ha : Fits a) (hb : Fits b) (h : frame a ++ s = frame b ++ t) :
    a = b ∧ s = t := by
  unfold frame at h
  rw [List.append_assoc, List.append_assoc] at h
  obtain ⟨hhead, hrest⟩ := List.append_inj h (by simp)
  have hlength : a.length = b.length := by
    rw [← BigEndian.ofBytes_toBytes_of_lt ha, hhead, BigEndian.ofBytes_toBytes_of_lt hb]
  exact List.append_inj hrest hlength

theorem frame_ne_nil (bytes : List UInt8) : frame bytes ≠ [] := by
  intro h
  have := congrArg List.length h
  simp [frame] at this

theorem frames_inj {fields other : List (List UInt8)} (hfields : ∀ field ∈ fields, Fits field)
    (hother : ∀ field ∈ other, Fits field) (h : frames fields = frames other) : fields = other := by
  induction fields generalizing other with
  | nil =>
    cases other with
    | nil => rfl
    | cons field rest => exact absurd (List.append_eq_nil_iff.1 h.symm).1 (frame_ne_nil field)
  | cons field fields ih =>
    cases other with
    | nil => exact absurd (List.append_eq_nil_iff.1 h).1 (frame_ne_nil field)
    | cons field' rest =>
      rw [List.forall_mem_cons] at hfields hother
      obtain ⟨rfl, hrest⟩ := frame_append_inj hfields.1 hother.1 h
      rw [ih hfields.2 hother.2 hrest]

theorem flatMap_inj {f : α → List β} {n : Nat} (hf : Function.Injective f) (hlength : ∀ a, (f a).length = n + 1)
    {l m : List α} (h : l.flatMap f = m.flatMap f) : l = m := by
  induction l generalizing m with
  | nil =>
    cases m with
    | nil => rfl
    | cons a m =>
      have := congrArg List.length h
      simp only [List.flatMap_nil, List.length_nil, List.flatMap_cons, List.length_append, hlength] at this
      omega
  | cons a l ih =>
    cases m with
    | nil =>
      have := congrArg List.length h
      simp only [List.flatMap_nil, List.length_nil, List.flatMap_cons, List.length_append, hlength] at this
      omega
    | cons b m =>
      obtain ⟨hblock, hrest⟩ := List.append_inj h ((hlength a).trans (hlength b).symm)
      rw [hf hblock, ih hrest]

end Framing
