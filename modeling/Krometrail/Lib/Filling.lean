import Mathlib

/-!
# Filling within bounds

A pass over a list takes each entry that fits beside what it has taken, until it has taken as many as it may.  An entry that
does not fit is skipped, and later ones may still be taken.
-/

namespace Filling

variable {α : Type*}

def fill (fits : List α → Bool) : Nat → List α → List α
  | 0, _ => []
  | _ + 1, [] => []
  | limit + 1, x :: offered =>
    if fits [x] then x :: fill (fun taken => fits (x :: taken)) limit offered else fill fits (limit + 1) offered

/-- What is taken of the entries offered.  At its turn, when `first` is taken, an entry is taken unless `first` has reached
the limit or the entry does not fit beside it. -/
structure Filled (fits : List α → Bool) (limit : Nat) (offered taken : List α) : Prop where
  sublist : taken.Sublist offered
  length_le : taken.length ≤ limit
  fits_of_ne_nil : taken ≠ [] → fits taken = true
  turns : ∀ before x after, offered = before ++ x :: after → ∃ first rest, taken = first ++ rest ∧ first.Sublist before ∧
    ((∃ later, rest = x :: later ∧ later.Sublist after) ∨
      rest.Sublist after ∧ (first.length = limit ∨ fits (first ++ [x]) = false))

theorem filled_fill (fits : List α → Bool) (limit : Nat) (offered : List α) :
    Filled fits limit offered (fill fits limit offered) := by
  fun_induction fill fits limit offered with
  | case1 fits offered =>
    exact ⟨List.nil_sublist _, le_rfl, fun h => absurd rfl h, fun before x after _ =>
      ⟨[], [], rfl, List.nil_sublist _, .inr ⟨List.nil_sublist _, .inl rfl⟩⟩⟩
  | case2 fits limit => exact ⟨.slnil, Nat.zero_le _, fun h => absurd rfl h, by simp⟩
  | case3 fits limit x offered hfits ih =>
    refine ⟨ih.sublist.cons_cons x, Nat.succ_le_succ ih.length_le, fun _ => ?_, fun before y after heq => ?_⟩
    · by_cases hnil : fill (fun taken => fits (x :: taken)) limit offered = []
      · rw [hnil]
        exact hfits
      · exact ih.fits_of_ne_nil hnil
    · rcases List.cons_eq_append_iff.1 heq with ⟨rfl, h⟩ | ⟨before, rfl, h⟩
      · cases h
        exact ⟨[], _, rfl, .slnil, .inl ⟨_, rfl, ih.sublist⟩⟩
      · obtain ⟨first, rest, htaken, hfirst, hturn⟩ := ih.turns before y after h
        refine ⟨x :: first, rest, by rw [htaken, List.cons_append], hfirst.cons_cons x, hturn.imp_right ?_⟩
        rintro ⟨hrest, hlimit | hover⟩
        · exact ⟨hrest, .inl (congrArg (· + 1) hlimit)⟩
        · exact ⟨hrest, .inr hover⟩
  | case4 fits limit x offered hfits ih =>
    refine ⟨ih.sublist.cons x, ih.length_le, ih.fits_of_ne_nil, fun before y after heq => ?_⟩
    rcases List.cons_eq_append_iff.1 heq with ⟨rfl, h⟩ | ⟨before, rfl, h⟩
    · cases h
      exact ⟨[], _, rfl, .slnil, .inr ⟨ih.sublist, .inr (Bool.not_eq_true _ ▸ hfits)⟩⟩
    · obtain ⟨first, rest, htaken, hfirst, hturn⟩ := ih.turns before y after h
      exact ⟨first, rest, htaken, hfirst.cons x, hturn⟩

theorem Filled.fits {fits : List α → Bool} {limit : Nat} {offered taken : List α} (h : Filled fits limit offered taken)
    (hnil : fits [] = true) : fits taken = true := by
  by_cases heq : taken = []
  · rw [heq, hnil]
  · exact h.fits_of_ne_nil heq

end Filling
