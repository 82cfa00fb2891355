import Krometrail.Lib.Results

/-!
# Tables of accumulators

A table holds one accumulator for each place below a bound, and a loop updates one of them at each turn.  Where every update fails
with one error as soon as its result does not fit, and what fits stays so backwards, the whole loop fails with this error exactly
where the result of the loop without the checks does not fit (`foldlM_updateAt`); each entry has seen the turns at its place.
-/

namespace Accumulators

open Results

universe u

variable {σ α : Type} {ε : Type} {Fits : σ → Prop} [DecidablePred Fits] {e : ε}

/-- A result, refused where it does not fit. -/
def checked (Fits : σ → Prop) [DecidablePred Fits] (e : ε) (s : σ) : Except ε σ := if Fits s then .ok s else .error e

theorem checked_of_fits {s : σ} (h : Fits s) : checked Fits e s = .ok s := if_pos h

theorem checked_of_not {s : σ} (h : ¬ Fits s) : checked Fits e s = .error e := if_neg h

theorem checked_eq_ok {s s' : σ} (h : checked Fits e s = .ok s') : Fits s ∧ s' = s := by
  unfold checked at h
  split at h
  next hfits => exact ⟨hfits, (Except.ok.inj h).symm⟩
  · exact absurd h (by simp)

/-- Every entry fits. -/
def AllFit (Fits : σ → Prop) (t : List σ) : Prop := ∀ s ∈ t, Fits s

instance : DecidablePred (AllFit Fits) := fun t => inferInstanceAs (Decidable (∀ s ∈ t, Fits s))

omit [DecidablePred Fits] in
theorem allFit_cons {s : σ} {t : List σ} : AllFit Fits (s :: t) ↔ Fits s ∧ AllFit Fits t := List.forall_mem_cons

theorem mapM_checked {f : α → Except ε σ} {g : α → σ} {l : List α} (h : ∀ a ∈ l, f a = checked Fits e (g a)) :
    l.mapM f = checked (AllFit Fits) e (l.map g) := by
  induction l with
  | nil => exact (checked_of_fits (by simp [AllFit])).symm
  | cons a l ih =>
    rw [List.mapM_cons, h a List.mem_cons_self, ih fun b hb => h b (List.mem_cons_of_mem _ hb), List.map_cons]
    by_cases ha : Fits (g a)
    · rw [checked_of_fits ha, ok_bind]
      by_cases hl : AllFit Fits (l.map g)
      · rw [checked_of_fits hl, checked_of_fits (allFit_cons.2 ⟨ha, hl⟩)]
        rfl
      · rw [checked_of_not hl, checked_of_not fun hall => hl (allFit_cons.1 hall).2]
        rfl
    · rw [checked_of_not ha, checked_of_not fun hall => ha (allFit_cons.1 hall).1]
      rfl

section Table

variable {n : Nat} {f : Nat → σ}

def table (n : Nat) (f : Nat → σ) : List σ := (List.range n).map f

theorem getElem?_table {place : Nat} (h : place < n) : (table n f)[place]? = some (f place) := by
  rw [table, List.getElem?_map, List.getElem?_range h, Option.map_some]

theorem set_table {place : Nat} (value : σ) : (table n f).set place value = table n (Function.update f place value) := by
  refine List.ext_getElem (by simp [table]) fun k hk _ => ?_
  simp only [table, List.getElem_set, List.getElem_map, List.getElem_range, Function.update_apply, eq_comm]

omit [DecidablePred Fits] in
theorem allFit_table : AllFit Fits (table n f) ↔ ∀ place < n, Fits (f place) := by
  simp [AllFit, table]

theorem zip_table {τ : Type} {g : Nat → τ} : (table n f).zip (table n g) = table n fun place => (f place, g place) :=
  List.zip_map'

theorem map_table {τ : Type} (g : σ → τ) : (table n f).map g = table n fun place => g (f place) := List.map_map

theorem zipWith_table {τ υ : Type} {g : Nat → τ} (h : σ → τ → υ) :
    List.zipWith h (table n f) (table n g) = table n fun place => h (f place) (g place) := by
  rw [← List.map_uncurry_zip_eq_zipWith, zip_table, map_table]
  rfl

theorem table_congr {g : Nat → σ} (h : ∀ place < n, f place = g place) : table n f = table n g :=
  List.map_congr_left fun place hplace => h place (List.mem_range.1 hplace)

end Table

/-- One entry updated; a place outside the table is an error of its own. -/
def updateAt (outside : ε) (t : List σ) (place : Nat) (step : σ → Except ε σ) : Except ε (List σ) :=
  match t[place]? with
  | none => .error outside
  | some s => do return t.set place (← step s)

/-- What the turns at a place make of its entry. -/
def seen (place : α → Nat) (next : α → σ → σ) (l : List α) (f : Nat → σ) (q : Nat) : σ :=
  (l.filter fun a => place a = q).foldl (fun s a => next a s) (f q)

section Loop

variable {n : Nat} {place : α → Nat} {next : α → σ → σ} {f : Nat → σ} {l : List α} {a : α}

theorem seen_cons : seen place next (a :: l) f = seen place next l (Function.update f (place a) (next a (f (place a)))) := by
  funext q
  unfold seen
  by_cases hq : place a = q
  · subst hq
    simp
  · rw [List.filter_cons_of_neg (by simpa using hq), Function.update_of_ne (Ne.symm hq)]

omit [DecidablePred Fits] in
theorem fits_of_seen (hmono : ∀ a ∈ l, ∀ s, Fits (next a s) → Fits s) {q : Nat} (h : Fits (seen place next l f q)) : Fits (f q) := by
  induction l generalizing f with
  | nil => exact h
  | cons a l ih =>
    rw [seen_cons] at h
    have hupdate := ih (fun b hb => hmono b (List.mem_cons_of_mem _ hb)) h
    by_cases hq : place a = q
    · subst hq
      rw [Function.update_self] at hupdate
      exact hmono a List.mem_cons_self _ hupdate
    · rwa [Function.update_of_ne (Ne.symm hq)] at hupdate

theorem updateAt_table {outside : ε} {q : Nat} {step : σ → Except ε σ} {s : σ} (h : q < n) (hstep : step (f q) = .ok s) :
    updateAt outside (table n f) q step = .ok (table n (Function.update f q s)) := by
  rw [updateAt, getElem?_table h]
  dsimp only
  rw [hstep, ok_bind, set_table]
  rfl

theorem foldlM_updateAt {outside : ε} {step : α → σ → Except ε σ} (hplace : ∀ a ∈ l, place a < n)
    (hstep : ∀ a ∈ l, ∀ s, Fits s → step a s = checked Fits e (next a s)) (hmono : ∀ a ∈ l, ∀ s, Fits (next a s) → Fits s)
    (hf : ∀ q < n, Fits (f q)) :
    l.foldlM (fun t a => updateAt outside t (place a) (step a)) (table n f) =
      checked (AllFit Fits) e (table n (seen place next l f)) := by
  induction l generalizing f with
  | nil => exact (checked_of_fits (allFit_table.2 hf)).symm
  | cons a l ih =>
    have hlt := hplace a List.mem_cons_self
    have ha := hstep a List.mem_cons_self (f (place a)) (hf _ hlt)
    rw [List.foldlM_cons, seen_cons]
    by_cases hfits : Fits (next a (f (place a)))
    · rw [updateAt_table hlt (ha.trans (checked_of_fits hfits)), ok_bind]
      refine ih (fun b hb => hplace b (List.mem_cons_of_mem _ hb)) (fun b hb => hstep b (List.mem_cons_of_mem _ hb))
        (fun b hb => hmono b (List.mem_cons_of_mem _ hb)) fun q hq => ?_
      by_cases hsame : q = place a
      · rw [hsame, Function.update_self]
        exact hfits
      · rw [Function.update_of_ne hsame]
        exact hf q hq
    · have hnot : ¬ AllFit Fits (table n (seen place next l (Function.update f (place a) (next a (f (place a)))))) := fun hall => by
        have hlast := fits_of_seen (fun b hb => hmono b (List.mem_cons_of_mem _ hb)) (allFit_table.1 hall _ hlt)
        rw [Function.update_self] at hlast
        exact hfits hlast
      rw [checked_of_not hnot, updateAt, getElem?_table hlt]
      dsimp only
      rw [ha, checked_of_not hfits]
      rfl

end Loop

end Accumulators
