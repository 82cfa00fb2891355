import Krometrail.Privacy.Structured
import Krometrail.Privacy.Emissions

/-!
# Rewritten tokens

What a token looks like once the redactor has put a placeholder into it, and how such tokens are judged when they
are read again. A structured token that was rewritten holds a placeholder after its first separator.
-/

namespace Krometrail.Privacy

/-- No whitespace: one token of a text. -/
def Solid (token : Str) : Prop := ∀ c ∈ token, isWhitespace c = false

theorem solid_nil : Solid [] := fun _ hmem => absurd hmem List.not_mem_nil

variable {fragment text token : Str} {separator : Nat}

theorem Solid.append {more : Str} (htoken : Solid token) (hmore : Solid more) : Solid (token ++ more) := by
  intro c hc
  rcases List.mem_append.mp hc with h | h
  · exact htoken c h
  · exact hmore c h

theorem Solid.take (h : Solid token) (n : Nat) : Solid (token.take n) :=
  fun c hc => h c (List.mem_of_mem_take hc)

theorem Solid.drop (h : Solid token) (n : Nat) : Solid (token.drop n) :=
  fun c hc => h c (List.mem_of_mem_drop hc)

theorem solid_of_all (h : token.all fun c => !isWhitespace c) : Solid token :=
  fun c hc => by simpa using List.all_eq_true.mp h c hc

theorem solid_redactedValue : Solid redactedValue := solid_of_all (by decide)
theorem solid_redactedUrl : Solid redactedUrl := solid_of_all (by decide)
theorem solid_redactedPath : Solid redactedPath := solid_of_all (by decide)

/-- The text holds a separator and, after it, a letter of a placeholder. -/
def Marked (text : Str) : Prop :=
  ∃ start finish, text = start ++ finish ∧ start.any isSeparator = true ∧ 'r' ∈ finish

theorem Marked.append (h : Marked text) (more : Str) : Marked (text ++ more) := by
  obtain ⟨start, finish, rfl, hstart, hfinish⟩ := h
  exact ⟨start, finish ++ more, List.append_assoc .., hstart, by simp [hfinish]⟩

theorem Marked.append_left (h : Marked text) (before : Str) : Marked (before ++ text) := by
  obtain ⟨start, finish, rfl, hstart, hfinish⟩ := h
  exact ⟨before ++ start, finish, (List.append_assoc ..).symm, by simp [hstart], hfinish⟩

theorem Marked.mem (h : Marked text) : 'r' ∈ text := by
  obtain ⟨start, finish, rfl, -, hfinish⟩ := h
  simp [hfinish]

theorem Marked.lt_length (h : Marked text) (hfound : text.findIdx? isSeparator = some separator)
    : separator + 1 < text.length := by
  obtain ⟨start, finish, rfl, hstart, hfinish⟩ := h
  have hpositive : 0 < finish.length := List.length_pos_of_mem hfinish
  rw [List.findIdx?_append] at hfound
  cases hin : start.findIdx? isSeparator with
  | none =>
    rw [List.findIdx?_eq_none_iff] at hin
    obtain ⟨c, hc, hseparator⟩ := List.any_eq_true.mp hstart
    simp [hin c hc] at hseparator
  | some index =>
    rw [hin] at hfound
    cases hfound
    obtain ⟨hlt, -, -⟩ := List.findIdx?_eq_some_iff_getElem.mp hin
    simp only [List.length_append]
    omega

theorem Marked.exists_separator (h : Marked text) : ∃ separator, text.findIdx? isSeparator = some separator := by
  obtain ⟨start, finish, rfl, hstart, -⟩ := h
  obtain ⟨c, hc, hseparator⟩ := List.any_eq_true.mp hstart
  cases hfound : (start ++ finish).findIdx? isSeparator with
  | none =>
    rw [List.findIdx?_eq_none_iff] at hfound
    simp [hfound c (by simp [hc])] at hseparator
  | some separator => exact ⟨separator, rfl⟩

theorem separator_mem_trimToken {c : Char} (hmem : c ∈ token) (hc : isSeparator c = true) : c ∈ trimToken token := by
  refine mem_trimMatches hmem ?_
  simp only [isSeparator, Bool.or_eq_true, decide_eq_true_eq] at hc
  rcases hc with rfl | rfl <;> decide

theorem lowercase_ne_scheme (hfound : token.findIdx? isSeparator = some separator) :
    ¬ (toAsciiLowercase (trimToken token) = "bearer".toList ∨
      toAsciiLowercase (trimToken token) = "basic".toList) := by
  obtain ⟨hlt, hseparator, -⟩ := List.findIdx?_eq_some_iff_getElem.mp hfound
  have hmem : token[separator].toLower ∈ toAsciiLowercase (trimToken token) :=
    List.mem_map_of_mem (separator_mem_trimToken (List.getElem_mem hlt) hseparator)
  simp only [isSeparator, Bool.or_eq_true, decide_eq_true_eq] at hseparator
  rintro (h | h)
  · rw [h] at hmem
    rcases hseparator with hc | hc <;> rw [hc] at hmem <;> exact absurd hmem (by decide)
  · rw [h] at hmem
    rcases hseparator with hc | hc <;> rw [hc] at hmem <;> exact absurd hmem (by decide)

theorem redactKeyValueFragment_solid (h : Solid fragment) : Solid (redactKeyValueFragment fragment).text := by
  unfold redactKeyValueFragment
  split
  · exact h
  · simp only
    split
    · exact h
    · split
      · exact (h.take _).append solid_redactedValue
      · split
        · exact (h.take _).append solid_redactedUrl
        · split
          · exact (h.take _).append solid_redactedPath
          · exact h

theorem any_take_separator (hfound : fragment.findIdx? isSeparator = some separator) :
    (fragment.take (separator + 1)).any isSeparator = true := by
  obtain ⟨hlt, hseparator, -⟩ := List.findIdx?_eq_some_iff_getElem.mp hfound
  refine List.any_eq_true.mpr ⟨fragment[separator], ?_, hseparator⟩
  rw [List.take_succ_eq_append_getElem hlt]
  exact List.mem_append_right _ (List.mem_singleton_self _)

theorem marked_replacement {replacement : Str} (hfound : fragment.findIdx? isSeparator = some separator)
    (hletter : 'r' ∈ replacement) : Marked (fragment.take (separator + 1) ++ replacement) :=
  ⟨_, replacement, rfl, any_take_separator hfound, hletter⟩

theorem redactKeyValueFragment_marked (hcount : 0 < (redactKeyValueFragment fragment).count) :
    Marked (redactKeyValueFragment fragment).text := by
  unfold redactKeyValueFragment at hcount ⊢
  split at hcount
  · simp [FragmentRedaction.unchanged] at hcount
  · rename_i separator hfound
    simp only at hcount ⊢
    split
    · rename_i hkept
      rw [if_pos hkept] at hcount
      simp [FragmentRedaction.unchanged] at hcount
    · rename_i hvalue
      rw [if_neg hvalue] at hcount
      split
      · exact marked_replacement hfound (by decide)
      · rename_i hkey
        rw [if_neg hkey] at hcount
        split
        · exact marked_replacement hfound (by decide)
        · rename_i hurl
          rw [if_neg hurl] at hcount
          split
          · exact marked_replacement hfound (by decide)
          · rename_i hpath
            rw [if_neg hpath] at hcount
            simp [FragmentRedaction.unchanged] at hcount

theorem opensSensitiveValue_any (h : opensSensitiveValue fragment = true) : fragment.any isSeparator = true := by
  unfold opensSensitiveValue at h
  split at h
  · simp at h
  · rename_i separator hfound
    obtain ⟨hlt, hseparator, -⟩ := List.findIdx?_eq_some_iff_getElem.mp hfound
    exact List.any_eq_true.mpr ⟨_, List.getElem_mem hlt, hseparator⟩

namespace StructuredScan

/-- What the scan of a token keeps of its text. -/
structure Written (s : StructuredScan) : Prop where
  text : Solid s.text
  fragment : Solid s.fragment
  marked : 0 < s.count → Marked s.text

variable {s : StructuredScan}

theorem Written.openSensitive (h : s.Written) (hopens : opensSensitiveValue s.fragment = true) (c : Char) (rest : Str)
    : (s.openSensitive c rest).Written := by
  have hsolid : Solid (s.text ++ s.fragment ++ redactedValue) := (h.text.append h.fragment).append solid_redactedValue
  have hmarked : Marked (s.text ++ s.fragment ++ redactedValue) :=
    ⟨s.text ++ s.fragment, redactedValue, rfl, by simp [opensSensitiveValue_any hopens], by decide⟩
  unfold StructuredScan.openSensitive
  split
  · exact ⟨hsolid, solid_nil, fun _ => hmarked⟩
  · exact ⟨hsolid, h.fragment, fun _ => hmarked⟩

theorem Written.judged (h : s.Written) (more : Str)
    (hcount : 0 < saturatingAdd s.count (redactKeyValueFragment s.fragment).count) :
    Marked (s.text ++ (redactKeyValueFragment s.fragment).text ++ more) := by
  rcases Nat.eq_zero_or_pos s.count with hzero | hpositive
  · have hfragment : 0 < (redactKeyValueFragment s.fragment).count := by
      simp only [saturatingAdd, hzero] at hcount
      omega
    exact ((redactKeyValueFragment_marked hfragment).append_left s.text).append more
  · exact ((h.marked hpositive).append _).append more

theorem Written.closeFragment (h : s.Written) {c : Char} (hc : isWhitespace c = false) : (s.closeFragment c).Written := by
  refine ⟨?_, solid_nil, h.judged [c]⟩
  refine (h.text.append (redactKeyValueFragment_solid h.fragment)).append fun d hd => ?_
  rwa [List.mem_singleton.mp hd]

theorem Written.step (h : s.Written) {c : Char} (hc : isWhitespace c = false) (rest : Str) : (s.step c rest).Written := by
  unfold StructuredScan.step
  split
  · exact ⟨h.text, h.fragment, h.marked⟩
  · split
    · unfold StructuredScan.swallow
      split
      · exact ⟨h.text, h.fragment, h.marked⟩
      · split
        · split
          · exact ⟨h.text, solid_nil, h.marked⟩
          · exact ⟨h.text, h.fragment, h.marked⟩
        · exact h
    · split
      · refine ⟨h.text, h.fragment.append fun d hd => ?_, h.marked⟩
        rwa [List.mem_singleton.mp hd]
      · split
        · rename_i hopens
          exact h.openSensitive (by simp at hopens; exact hopens.2) c rest
        · exact h.closeFragment hc

theorem Written.run (h : s.Written) {token : Str} (htoken : Solid token) : (s.run token).Written := by
  induction token generalizing s with
  | nil => exact h
  | cons c rest ih => exact ih (h.step (htoken c (by simp)) rest) fun d hd => htoken d (by simp [hd])

end StructuredScan

theorem redactStructuredToken_written {token : Str} (htoken : Solid token) {structured : StructuredRedaction}
    (h : redactStructuredToken token = some structured) : Solid structured.text ∧ Marked structured.text := by
  have hstart : StructuredScan.start.Written :=
    ⟨solid_nil, solid_nil, fun hcount => absurd hcount (by decide)⟩
  have hrun := hstart.run htoken
  unfold redactStructuredToken at h
  split at h
  · simp at h
  · simp only at h
    split at h
    · rename_i hcount
      cases h
      unfold StructuredScan.finish at hcount ⊢
      split at hcount
      · rename_i hswallowing
        rw [if_pos hswallowing]
        exact ⟨hrun.text, hrun.marked hcount⟩
      · rename_i hjudged
        rw [if_neg hjudged]
        have hmarked := hrun.judged [] hcount
        rw [List.append_nil] at hmarked
        exact ⟨hrun.text.append (redactKeyValueFragment_solid hrun.fragment), hmarked⟩
    · simp at h

namespace StructuredScan

/-- Nothing is counted, swallowed or skipped. -/
structure Idle (s : StructuredScan) : Prop where
  count : s.count = 0
  outside : s.redactedValueDepth = none
  skip : s.skip = 0
  fragment : s.fragment.findIdx? isSeparator = none

variable {s : StructuredScan}

theorem Idle.step (h : s.Idle) {c : Char} (hc : isSeparator c = false) (rest : Str) : (s.step c rest).Idle := by
  have hopens : opensSensitiveValue s.fragment = false := by simp [opensSensitiveValue, h.fragment]
  have hkept : redactKeyValueFragment s.fragment = .unchanged s.fragment := by
    simp [redactKeyValueFragment, h.fragment]
  unfold StructuredScan.step
  rw [if_neg (by simp [h.skip]), h.outside]
  simp only [hopens, Bool.and_false, Bool.false_eq_true, if_false]
  split
  · refine ⟨h.count, rfl, h.skip, ?_⟩
    rw [List.findIdx?_append, h.fragment]
    simp [List.findIdx?_cons, hc]
  · refine ⟨?_, by simp [StructuredScan.closeFragment, h.outside], h.skip, rfl⟩
    simp [StructuredScan.closeFragment, hkept, FragmentRedaction.unchanged, h.count, saturatingAdd]

theorem Idle.run (h : s.Idle) {key : Str} (hkey : ∀ c ∈ key, isSeparator c = false) (after : Str) :
    ∃ s' : StructuredScan, s.run (key ++ after) = s'.run after ∧ s'.Idle := by
  induction key generalizing s with
  | nil => exact ⟨s, rfl, h⟩
  | cons c rest ih => exact ih (h.step (hkey c (by simp)) (rest ++ after)) fun d hd => hkey d (by simp [hd])

theorem findIdx?_append_separator {key : Str} (hkey : key.findIdx? isSeparator = none) {separator : Char}
    (hseparator : isSeparator separator = true) :
    (key ++ [separator]).findIdx? isSeparator = some key.length := by
  rw [List.findIdx?_append, hkey]
  simp [List.findIdx?_cons, hseparator]

theorem finish_skipped (text : Str) (depth : Nat) :
    (StructuredScan.run ⟨text, 0, [], depth, none, 9⟩ "redacted]".toList).finish.count = 0 := rfl

theorem Idle.finish (h : s.Idle) : s.finish.count = 0 := by
  have hkept : redactKeyValueFragment s.fragment = .unchanged s.fragment := by
    simp [redactKeyValueFragment, h.fragment]
  simp [StructuredScan.finish, h.outside, hkept, FragmentRedaction.unchanged, h.count, saturatingAdd]

theorem finish_bracketed (text : Str) (depth : Nat) :
    (StructuredScan.run ⟨text, 0, [], depth, none, 0⟩ "redacted]".toList).finish.count = 0 := by
  have hidle : StructuredScan.Idle ⟨text, 0, [], depth, none, 0⟩ := ⟨rfl, rfl, rfl, rfl⟩
  have hplain : "redacted]".toList.findIdx? isSeparator = none := by decide
  obtain ⟨s, hrun, hs⟩ := hidle.run (List.findIdx?_eq_none_iff.mp hplain) []
  rw [List.append_nil] at hrun
  rw [hrun]
  exact hs.finish

theorem Idle.placeholder (h : s.Idle) {separator : Char} (hseparator : isSeparator separator = true) :
    (s.run (separator :: redactedValue)).finish.count = 0 := by
  obtain ⟨text, count, fragment, depth, swallowed, skip⟩ := s
  obtain ⟨hcount, houtside, hskip, hfragment⟩ := h
  simp only at hcount houtside hskip hfragment
  subst hcount houtside hskip
  have hfound := findIdx?_append_separator hfragment hseparator
  have hkept : redactKeyValueFragment (fragment ++ [separator]) = .unchanged (fragment ++ [separator]) := by
    simp [redactKeyValueFragment, hfound]
  have hplain : isStructuralDelimiter separator = false := by
    simp only [isSeparator, Bool.or_eq_true, decide_eq_true_eq] at hseparator
    rcases hseparator with rfl | rfl <;> decide
  have hstep : StructuredScan.step ⟨text, 0, fragment, depth, none, 0⟩ separator redactedValue =
      ⟨text, 0, fragment ++ [separator], depth, none, 0⟩ := by
    simp [StructuredScan.step, hplain]
  have hvalue : redactedValue = '[' :: "redacted]".toList := by decide
  rw [StructuredScan.run, hstep, hvalue, StructuredScan.run]
  by_cases hopens : opensSensitiveValue (fragment ++ [separator]) = true
  · have hopen : StructuredScan.step ⟨text, 0, fragment ++ [separator], depth, none, 0⟩ '[' "redacted]".toList =
        ⟨text ++ (fragment ++ [separator]) ++ redactedValue, 0, [], depth, none, 9⟩ := by
      simp only [StructuredScan.step, hopens]
      rfl
    rw [hopen]
    exact finish_skipped _ _
  · have hclose : StructuredScan.step ⟨text, 0, fragment ++ [separator], depth, none, 0⟩ '[' "redacted]".toList =
        ⟨text ++ (fragment ++ [separator]) ++ ['['], 0, [], depth + 1, none, 0⟩ := by
      simp only [StructuredScan.step, hopens, StructuredScan.closeFragment, hkept]
      rfl
    rw [hclose]
    exact finish_bracketed _ _

end StructuredScan

theorem redactStructuredToken_placeholder {token : Str} {separator : Nat}
    (hfound : token.findIdx? isSeparator = some separator) :
    redactStructuredToken (token.take (separator + 1) ++ redactedValue) = none := by
  obtain ⟨hlt, hseparator, hbefore⟩ := List.findIdx?_eq_some_iff_getElem.mp hfound
  have hkey : ∀ c ∈ token.take separator, isSeparator c = false := by
    intro c hc
    obtain ⟨index, hindex, rfl⟩ := List.mem_iff_getElem.mp hc
    simp only [List.length_take] at hindex
    rw [List.getElem_take]
    simpa using hbefore index (by omega)
  have hstart : StructuredScan.start.Idle := ⟨rfl, rfl, rfl, rfl⟩
  obtain ⟨s, hrun, hidle⟩ := hstart.run hkey (token[separator] :: redactedValue)
  have htoken : token.take (separator + 1) ++ redactedValue =
      token.take separator ++ token[separator] :: redactedValue := by
    rw [List.take_succ_eq_append_getElem hlt, List.append_assoc]
    rfl
  rw [htoken]
  unfold redactStructuredToken
  split
  · rfl
  · simp only [hrun]
    rw [if_neg]
    rw [hidle.placeholder hseparator]
    omega

end Krometrail.Privacy
