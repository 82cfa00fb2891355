import Krometrail.Privacy.Segments

/-!
# Structured tokens

What a structured token keeps of its state up to a quote followed by brackets. Neither a run of placeholders nor a value
that is replaced whole reaches past enough closing brackets: after these, the scan is back at the top of the token.
-/

namespace Krometrail.Privacy

theorem quote_not_mem_placeholder : ∀ placeholder ∈ redactionPlaceholders, '"' ∉ placeholder := by decide

theorem length_le_of_isPrefixOf {part before after : Str} {c : Char} (hc : c ∉ part)
    (hstart : part.isPrefixOf (before ++ c :: after)) : part.length ≤ before.length := by
  obtain ⟨rest, hrest⟩ := List.isPrefixOf_iff_prefix.mp hstart
  by_contra hlonger
  have hget : part[before.length]? = some c := by
    have hwhole : (part ++ rest)[before.length]? = some c := by simp [hrest]
    rwa [List.getElem?_append_left (by omega)] at hwhole
  exact hc (List.mem_of_getElem? hget)

theorem placeholderRunFrom_le (fuel : Nat) (before after : Str) :
    placeholderRunFrom fuel (before ++ '"' :: after) ≤ before.length := by
  induction fuel generalizing before with
  | zero => simp [placeholderRunFrom]
  | succ fuel ih =>
    rw [placeholderRunFrom]
    split
    · rename_i placeholder hfound
      have hmem : placeholder ∈ redactionPlaceholders := List.mem_of_find?_eq_some hfound
      have hstart : placeholder.isPrefixOf (before ++ '"' :: after) := by simpa using List.find?_some hfound
      have hle := length_le_of_isPrefixOf (quote_not_mem_placeholder placeholder hmem) hstart
      have hrest := ih (before.drop placeholder.length)
      rw [List.drop_append_of_le_length hle]
      simp only [List.length_drop] at hrest
      omega
    · omega

theorem redactedPlaceholderRun_le {before after : Str} {run : Nat}
    (h : redactedPlaceholderRun (before ++ '"' :: after) = some run) : run ≤ before.length := by
  have hle := placeholderRunFrom_le (before ++ '"' :: after).length before after
  simp only [redactedPlaceholderRun] at h
  split at h
  · cases h
    exact hle
  · simp at h

theorem findIdx?_le {p : Char → Bool} (before after : Str) {c : Char} (hc : p c = true) (fallback : Nat) :
    ((before ++ c :: after).findIdx? p).getD fallback ≤ before.length := by
  induction before with
  | nil => simp [List.findIdx?_cons, hc]
  | cons d before ih =>
    rw [List.cons_append, List.findIdx?_cons]
    by_cases hd : p d
    · simp [hd]
    · cases hfound : (before ++ c :: after).findIdx? p with
      | none => simp [List.findIdx?_eq_none_iff] at hfound; simp [hc] at hfound
      | some i =>
        have hle : i ≤ before.length := by simpa [hfound] using ih
        simpa [hd, hfound] using hle

namespace StructuredScan

/-- What holds before a quote with a bracket after it: the scan skips no more than the quote, and a value it is
swallowing has opened no more levels than the characters read. -/
structure Bounded (s : StructuredScan) (length remaining : Nat) : Prop where
  skip : s.skip ≤ remaining + 1
  depth : s.depth + remaining ≤ length
  opened : ∀ openedAt, s.redactedValueDepth = some openedAt → openedAt < s.depth

theorem Bounded.swallow {s : StructuredScan} {length remaining openedAt : Nat} (h : s.Bounded length (remaining + 1))
    (hskip : s.skip = 0) (hopened : s.redactedValueDepth = some openedAt) (c : Char) :
    (s.swallow openedAt c).Bounded length remaining := by
  have hdepth := h.depth
  have hlt := h.opened openedAt hopened
  unfold StructuredScan.swallow
  split
  · refine ⟨by simp [hskip], by simp only; omega, fun other hother => ?_⟩
    obtain rfl := Option.some.inj (hopened.symm.trans hother)
    simp only
    omega
  · split
    · split
      · exact ⟨by simp [hskip], by simp only; omega, nofun⟩
      · refine ⟨by simp [hskip], by simp only; omega, fun other hother => ?_⟩
        obtain rfl := Option.some.inj (hopened.symm.trans hother)
        simp only
        omega
    · exact ⟨by omega, by omega, h.opened⟩

theorem Bounded.openSensitive {s : StructuredScan} {length : Nat} {c bracket : Char} {rest after : Str}
    (h : s.Bounded length (rest.length + 1)) (hskip : s.skip = 0) (hnone : s.redactedValueDepth = none)
    (hbracket : isStructuralDelimiter bracket = true) :
    (s.openSensitive c (rest ++ '"' :: bracket :: after)).Bounded length rest.length := by
  have hdepth := h.depth
  unfold StructuredScan.openSensitive
  split
  · rename_i run hrun
    rw [← List.cons_append] at hrun ⊢
    have hle := redactedPlaceholderRun_le hrun
    have htrailing := findIdx?_le ((c :: rest).drop run ++ ['"']) after hbracket
      (((c :: rest) ++ '"' :: bracket :: after).drop run).length
    rw [List.drop_append_of_le_length hle]
    rw [List.append_assoc, List.singleton_append, List.drop_append_of_le_length hle] at htrailing
    simp only [List.length_append, List.length_drop, List.length_cons, List.length_nil] at hle htrailing ⊢
    refine ⟨by simp only; omega, by simp only; omega, fun _ hother => ?_⟩
    simp [hnone] at hother
  · refine ⟨by simp [hskip], by simp only; omega, fun other hother => ?_⟩
    cases hother
    simp

theorem Bounded.closeFragment {s : StructuredScan} {length remaining : Nat} (h : s.Bounded length (remaining + 1))
    (hskip : s.skip = 0) (hnone : s.redactedValueDepth = none) (c : Char) :
    (s.closeFragment c).Bounded length remaining := by
  have hdepth := h.depth
  refine ⟨by simp [StructuredScan.closeFragment, hskip], ?_, fun other hother => ?_⟩
  · simp only [StructuredScan.closeFragment]
    split
    · omega
    · split <;> omega
  · simp [StructuredScan.closeFragment, hnone] at hother

theorem Bounded.step {s : StructuredScan} {length : Nat} {c bracket : Char} {rest after : Str}
    (h : s.Bounded length (rest.length + 1)) (hbracket : isStructuralDelimiter bracket = true) :
    (s.step c (rest ++ '"' :: bracket :: after)).Bounded length rest.length := by
  have hdepth := h.depth
  have hskip := h.skip
  unfold StructuredScan.step
  split
  · exact ⟨by simp only; omega, by simp only; omega, h.opened⟩
  · have hzero : s.skip = 0 := by omega
    split
    · rename_i openedAt hopened
      exact h.swallow hzero hopened c
    · rename_i hnone
      split
      · exact ⟨by simp [hzero], by simp only; omega, h.opened⟩
      · split
        · exact h.openSensitive hzero hnone hbracket
        · exact h.closeFragment hzero hnone c

theorem Bounded.run {s : StructuredScan} {length : Nat} {text : Str} {bracket : Char}
    (h : s.Bounded length text.length) (after : Str) (hbracket : isStructuralDelimiter bracket = true) :
    ∃ s' : StructuredScan, s.run (text ++ '"' :: bracket :: after) = s'.run ('"' :: bracket :: after) ∧
      s'.Bounded length 0 := by
  induction text generalizing s with
  | nil => exact ⟨s, rfl, h⟩
  | cons c rest ih =>
    have hstep : (s.step c (rest ++ '"' :: bracket :: after)).Bounded length rest.length := h.step hbracket
    exact ih hstep

/-- Outside any skipped text, with a swallowed value at most `levels` levels deep. -/
structure Closing (s : StructuredScan) (levels : Nat) : Prop where
  skip : s.skip = 0
  opened : ∀ openedAt, s.redactedValueDepth = some openedAt → openedAt < s.depth ∧ s.depth ≤ openedAt + levels

theorem Bounded.quote {s : StructuredScan} {length : Nat} (h : s.Bounded length 0) (rest : Str) :
    (s.step '"' rest).Closing length := by
  have hskip := h.skip
  have hdepth := h.depth
  have hopened : ∀ openedAt, s.redactedValueDepth = some openedAt →
      openedAt < s.depth ∧ s.depth ≤ openedAt + length := fun openedAt ho => ⟨h.opened openedAt ho, by omega⟩
  unfold StructuredScan.step
  split
  · exact ⟨by simp only; omega, hopened⟩
  · have hzero : s.skip = 0 := by omega
    split
    · exact ⟨hzero, hopened⟩
    · exact ⟨hzero, hopened⟩

theorem Closing.bracket {s : StructuredScan} {levels : Nat} (h : s.Closing (levels + 1)) (rest : Str) :
    (s.step ']' rest).Closing levels := by
  have hskip := h.skip
  unfold StructuredScan.step
  rw [if_neg (by omega)]
  split
  · rename_i openedAt hopened
    have hlevels := h.opened openedAt hopened
    have hbracket : s.swallow openedAt ']' =
        if s.depth - 1 = openedAt then { s with depth := s.depth - 1, redactedValueDepth := none, fragment := [] }
        else { s with depth := s.depth - 1 } := rfl
    rw [hbracket]
    split
    · exact ⟨hskip, nofun⟩
    · refine ⟨hskip, fun other hother => ?_⟩
      obtain rfl := Option.some.inj (hopened.symm.trans hother)
      simp only
      omega
  · rename_i hnone
    have hclose : (if !isStructuralDelimiter ']' then { s with fragment := s.fragment ++ [']'] }
        else if isOpener ']' && opensSensitiveValue s.fragment then s.openSensitive ']' rest
        else s.closeFragment ']') = s.closeFragment ']' := rfl
    rw [hclose]
    exact ⟨hskip, fun other hother => by simp [StructuredScan.closeFragment, hnone] at hother⟩

theorem Closing.run {levels : Nat} {s : StructuredScan} (h : s.Closing levels) (after : Str) :
    ∃ s' : StructuredScan, s.run (List.replicate levels ']' ++ after) = s'.run after ∧
      s'.skip = 0 ∧ s'.redactedValueDepth = none := by
  induction levels generalizing s with
  | zero =>
    refine ⟨s, rfl, h.skip, ?_⟩
    cases hopened : s.redactedValueDepth with
    | none => rfl
    | some openedAt => have := h.opened openedAt hopened; omega
  | succ levels ih => exact ih (h.bracket _)

end StructuredScan

end Krometrail.Privacy
