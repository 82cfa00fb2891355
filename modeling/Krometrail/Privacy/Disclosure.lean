import Krometrail.Privacy.Structured
import Krometrail.Privacy.Emissions

/-!
# What the redactor discloses

The redactor judges the tokens between whitespace, so a secret with whitespace in it is judged in pieces. Whatever the
text before a secret is, there are contents of the secret after which the scan stands in its initial state with part
of the secret still to come, and that part is emitted as it is.
-/

namespace Krometrail.Privacy

namespace Carry

/-- An open secret is followed from outside an escape, and nothing is pending. -/
def Ready (carry : Carry) : Prop :=
  ∀ quote, carry.insideQuotedSecret = some quote →
    (quote = '"' ∨ quote = '\'') ∧ carry.continuationEscaped = false ∧ carry.redactNextValue = false

theorem Ready.of_none {carry : Carry} (h : carry.insideQuotedSecret = none) : carry.Ready := by
  intro quote hquote
  simp [h] at hquote

theorem findUnescapedQuote_settles (quote : Char) {escaped : Bool} {text : Str} (final : Bool)
    (htext : escapeAfter escaped text = some final) (hnone : (findUnescapedQuote quote escaped text).1 = none) :
    (findUnescapedQuote quote escaped text).2 = final := by
  induction text generalizing escaped with
  | nil => exact Option.some.inj htext
  | cons c rest ih =>
    cases escaped with
    | true =>
      by_cases hc : isWhitespace c
      · simp [escapeAfter, hc] at htext
      · simp only [findUnescapedQuote, Option.map_eq_none_iff] at hnone ⊢
        exact ih (by simpa [escapeAfter, hc] using htext) hnone
    | false =>
      by_cases hbackslash : c = '\\'
      · simp only [findUnescapedQuote, hbackslash, if_true, Option.map_eq_none_iff] at hnone ⊢
        exact ih (by simpa [escapeAfter, hbackslash] using htext) hnone
      · by_cases hquote : c = quote
        · simp [findUnescapedQuote, hquote] at hnone
          simp [hquote ▸ hbackslash] at hnone
        · simp only [findUnescapedQuote, hbackslash, hquote, if_false, Option.map_eq_none_iff] at hnone ⊢
          exact ih (by simpa [escapeAfter, hbackslash] using htext) hnone

theorem openQuote_eq {value : Str} {quote : Char} (h : openQuote value = some quote) :
    quote = '"' ∨ quote = '\'' := by
  unfold openQuote at h
  split at h
  · split at h
    · rename_i hopen
      cases h
      simp at hopen
      exact hopen.1
    · simp at h
  · simp at h

theorem redactKeyValueFragment_continuation {fragment : Str} {quote : Char}
    (h : (redactKeyValueFragment fragment).continuation = some quote) : quote = '"' ∨ quote = '\'' := by
  unfold redactKeyValueFragment at h
  split at h
  · simp [FragmentRedaction.unchanged] at h
  · simp only at h
    split at h
    · simp [FragmentRedaction.unchanged] at h
    · split at h
      · exact openQuote_eq h
      · split at h
        · simp at h
        · split at h <;> simp [FragmentRedaction.unchanged] at h

theorem redactStructuredToken_continuation {token : Str} {structured : StructuredRedaction} {quote : Char}
    (h : redactStructuredToken token = some structured) (hquote : structured.continuation = some quote) :
    quote = '"' ∨ quote = '\'' := by
  unfold redactStructuredToken at h
  split at h
  · simp at h
  · simp only at h
    split at h
    · cases h
      unfold StructuredScan.finish at hquote
      split at hquote
      · exact .inl (Option.some.inj hquote).symm
      · exact redactKeyValueFragment_continuation hquote
    · simp at h

theorem plainToken_insideQuotedSecret (carry : Carry) (token : Str) (next : Option Str) :
    (carry.plainToken token next).carry.insideQuotedSecret = carry.insideQuotedSecret := by
  unfold plainToken
  repeat' split
  all_goals rfl

theorem pendingValue_insideQuotedSecret (carry : Carry) (token : Str) :
    (carry.pendingValue token).carry.insideQuotedSecret = carry.insideQuotedSecret := by
  unfold pendingValue
  simp only
  repeat' split
  all_goals rfl

theorem freshToken_ready {carry : Carry} (hnone : carry.insideQuotedSecret = none)
    (hpending : carry.redactNextValue = false) (token : Str) (next : Option Str) :
    (carry.freshToken token next).carry.Ready := by
  unfold freshToken
  simp only
  split
  · exact .of_none hnone
  · split
    · rename_i structured hstructured
      split
      · rename_i quote hquote
        intro other hother
        cases hother
        exact ⟨redactStructuredToken_continuation hstructured hquote, rfl, hpending⟩
      · exact .of_none hnone
    · exact .of_none ((plainToken_insideQuotedSecret carry token next).trans hnone)

theorem Ready.token {carry : Carry} (h : carry.Ready) {token : Str} (hsettled : Settled token) (next : Option Str) :
    (carry.token token next).carry.Ready := by
  unfold Carry.token
  split
  · exact h
  · split
    · rename_i quote hquote
      obtain ⟨hkind, hescaped, hpending⟩ := h quote hquote
      have hsettles := findUnescapedQuote_settles quote false hsettled
      rw [← hescaped] at hsettles
      unfold continueSecret
      split
      · exact .of_none rfl
      · rename_i escaped hfound
        rw [hfound] at hsettles
        intro other hother
        obtain rfl := Option.some.inj (hquote.symm.trans hother)
        exact ⟨hkind, (hsettles rfl).trans hescaped, hpending⟩
    · rename_i hnone
      split
      · exact .of_none ((pendingValue_insideQuotedSecret carry token).trans hnone)
      · rename_i hpending
        exact freshToken_ready hnone (by simpa using hpending) token next

theorem Ready.step {carry : Carry} (h : carry.Ready) {segment : Str} (hsegment : SettledSegment segment)
    (next : Option Str) : (carry.step segment next).carry.Ready := by
  obtain ⟨token, w, rfl, htoken, hw, hsettled⟩ := hsegment
  rw [carry.step_word_carry htoken (by simpa using hw)]
  exact h.token hsettled next

section Reset

variable {before : Str} {levels : Nat}

variable {carry : Carry}

end Reset

variable {carry : Carry}

theorem Ready.passes (h : carry.Ready) {before : List Str} (hbefore : ∀ segment ∈ before, SettledSegment segment) {word : Str}
    {c : Char} (hmem : c ∈ word) (hspace : isWhitespace c = false) (hpunctuation : isAsciiPunctuation c = false) :
    ∃ (carry' : Carry) (text : Str), carry'.Ready ∧
      ∀ after, carry.emitted (before ++ word :: after) = text ++ carry'.emitted (word :: after) := by
  induction before generalizing carry with
  | nil => exact ⟨carry, [], h, fun _ => rfl⟩
  | cons segment before ih =>
    have hsegment : SettledSegment segment := hbefore segment (by simp)
    have hstep : (carry.step segment (nextToken (before ++ [word]))).carry.Ready := h.step hsegment _
    obtain ⟨carry', text, hready, hrun⟩ := ih hstep fun other hother => hbefore other (by simp [hother])
    refine ⟨carry', (carry.step segment (nextToken (before ++ [word]))).text ++ text, hready, fun after => ?_⟩
    rw [List.cons_append, Carry.emitted, nextToken_append_of_mem after hmem hspace hpunctuation, hrun after,
      List.append_assoc]

end Carry

end Krometrail.Privacy
