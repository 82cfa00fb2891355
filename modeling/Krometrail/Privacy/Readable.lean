import Krometrail.Privacy.Rewritten
import Krometrail.Privacy.RedactedText

/-!
# Reading redacted texts back

The redactor judges a token that it has rewritten as a structured one no further, and emits what follows the closing
quote of an open secret unread. Reading the output again, it judges these tokens whole. Every other token is emitted so
that a further pass leaves it: the output passes exactly when each rewritten token is one that the redactor keeps.
-/

namespace Krometrail.Privacy

/-- A token that is judged whole and kept: its nested values hold nothing to redact, and it is neither a location nor a
sensitive key with another value than a placeholder. -/
def keepsWhole (token : Str) : Bool :=
  (redactStructuredToken token).isNone &&
    match token.findIdx? isSeparator with
    | some separator =>
      if isSensitiveKey (normalizeKey (token.take separator)) then isRedactedPlaceholder (token.drop (separator + 1))
      else !looksLikeUrl token && !looksLikeAbsolutePath token
    | none => !looksLikeUrl token && !looksLikeAbsolutePath token

/-- What follows the closing quote of an open secret in the token that closes it. -/
def remainder (quote : Char) : Bool → List Str → Str
  | _, [] => []
  | escaped, segment :: segments =>
    let token := trimEndMatches isWhitespace segment
    match findUnescapedQuote quote escaped token with
    | (some closing, _) => token.drop (closing + 1)
    | (none, escaped) => remainder quote escaped segments

namespace Carry

/-- The structured redaction that the turn takes. -/
def rewrites (carry : Carry) (token : Str) : Option StructuredRedaction :=
  let lower := toAsciiLowercase (trimToken token)
  if token = [] ∨ carry.insideQuotedSecret ≠ none ∨ carry.redactNextValue = true ∨
      lower = "bearer".toList ∨ lower = "basic".toList then none
  else redactStructuredToken token

/-- Every token that the scan rewrites, with what follows the secret it leaves open, is one that the redactor keeps. -/
def keepsRewritten : Carry → List Str → Bool
  | _, [] => true
  | carry, segment :: segments =>
    (match carry.rewrites (trimEndMatches isWhitespace segment) with
      | some structured =>
        keepsWhole (structured.text ++
          match structured.continuation with
          | some quote => remainder quote false segments
          | none => [])
      | none => true) &&
    (carry.step segment (nextToken segments)).carry.keepsRewritten segments

/-- No secret is open. -/
def judging (pending : Bool) : Carry := ⟨pending, none, false⟩

/-- A secret is open. -/
def dropping (quote : Char) (escaped : Bool) : Carry := ⟨false, some quote, escaped⟩

end Carry

open Carry

/-- The whitespace after a token: one character, or none at the end of the text. -/
def Follows (token whitespace : Str) (rest : List Str) : Prop :=
  (∃ w, whitespace = [w] ∧ isWhitespace w = true) ∨ (whitespace = [] ∧ rest = [] ∧ token ≠ [])

inductive Segmented : List Str → Prop where
  | nil : Segmented []
  | cons {token whitespace : Str} {rest : List Str} (hsolid : Solid token) (hfollows : Follows token whitespace rest) :
      Segmented rest → Segmented ((token ++ whitespace) :: rest)

variable {token whitespace : Str}

theorem splitInclusive_solid (hsolid : Solid token) (hne : token ≠ []) : splitInclusive isWhitespace token = [token] := by
  induction token with
  | nil => exact absurd rfl hne
  | cons c rest ih =>
    have hc : isWhitespace c = false := hsolid c (by simp)
    rcases eq_or_ne rest [] with rfl | hrest
    · simp [splitInclusive, hc]
    · have htail := ih (fun d hd => hsolid d (by simp [hd])) hrest
      simp [splitInclusive, hc, htail]

theorem Follows.blank {rest : List Str} (h : Follows token whitespace rest) : ∀ c ∈ whitespace, isWhitespace c = true := by
  rcases h with ⟨w, rfl, hw⟩ | ⟨rfl, -, -⟩
  · simpa using hw
  · simp

theorem Follows.split {rest : List Str} (h : Follows token whitespace rest) {emitted : Str} (hsolid : Solid emitted)
    (hne : token ≠ [] → emitted ≠ []) {after : Str} (hafter : rest = [] → after = []) :
    splitInclusive isWhitespace (emitted ++ whitespace ++ after) =
      (emitted ++ whitespace) :: splitInclusive isWhitespace after := by
  rcases h with ⟨w, rfl, hw⟩ | ⟨rfl, hrest, htoken⟩
  · rw [List.append_assoc, List.singleton_append, splitInclusive_word hsolid hw]
  · rw [hafter hrest, List.append_nil, List.append_nil, splitInclusive_solid hsolid (hne htoken)]
    rfl

theorem trimMatches_segment (hsolid : Solid token) (hblank : ∀ c ∈ whitespace, isWhitespace c = true) :
    trimMatches isWhitespace (token ++ whitespace) = token := by
  rcases eq_or_ne token [] with rfl | hne
  · have hdrop : whitespace.dropWhile isWhitespace = [] := by
      rw [List.dropWhile_eq_nil_iff]
      exact hblank
    simp [trimMatches, hdrop, trimEndMatches]
  · have hdrop : (token ++ whitespace).dropWhile isWhitespace = token ++ whitespace := by
      obtain ⟨c, rest, rfl⟩ := List.exists_cons_of_ne_nil hne
      have hc : isWhitespace c = false := hsolid c (by simp)
      simp [hc]
    rw [trimMatches, hdrop, trimEndMatches_append_of_all hblank, trimEndMatches_of_none hsolid]

theorem nextToken_segment (hsolid : Solid token) (hblank : ∀ c ∈ whitespace, isWhitespace c = true) (rest : List Str) :
    nextToken ((token ++ whitespace) :: rest) =
      if trimToken token = [] then nextToken rest else some (trimToken token) := by
  unfold nextToken
  rw [List.map_cons, trimMatches_segment hsolid hblank, List.find?_cons]
  cases htrim : trimToken token with
  | nil => simp
  | cons c more => simp

/-- The next token assigns to the key before it. -/
def Assigns (next : Option Str) : Prop := next = some ['='] ∨ next = some [':']

theorem letter_mem_trimToken (h : 'r' ∈ token) : 'r' ∈ trimToken token :=
  mem_trimMatches h (by decide)

theorem not_assigns_of_letter (hsolid : Solid token) (hletter : 'r' ∈ token) (hblank : ∀ c ∈ whitespace, isWhitespace c = true)
    (rest : List Str) : ¬ Assigns (nextToken ((token ++ whitespace) :: rest)) := by
  have hmem := letter_mem_trimToken hletter
  rw [nextToken_segment hsolid hblank, if_neg (List.ne_nil_of_mem hmem)]
  rintro (h | h)
  · rw [Option.some.inj h] at hmem
    exact absurd hmem (by decide)
  · rw [Option.some.inj h] at hmem
    exact absurd hmem (by decide)

theorem not_assigns_of_emitted (hsolid : Solid token) (hletter : 'r' ∈ token) (after : Str) :
    ¬ Assigns (nextToken (splitInclusive isWhitespace (token ++ after))) := by
  rcases exists_first_word isWhitespace after with hafter | ⟨word, w, rest, rfl, hword, hw⟩
  · have hwhole : Solid (token ++ after) := hsolid.append hafter
    rw [splitInclusive_solid hwhole (List.ne_nil_of_mem (List.mem_append_left _ hletter))]
    have h := not_assigns_of_letter hwhole (List.mem_append_left _ hletter) (List.forall_mem_nil _) []
    rwa [List.append_nil] at h
  · have hwhole : Solid (token ++ word) := hsolid.append hword
    rw [← List.append_assoc, splitInclusive_word hwhole hw]
    exact not_assigns_of_letter hwhole (List.mem_append_left _ hletter) (by simpa using hw) _

section Tokens

variable {token : Str}

theorem token_judging (hne : token ≠ []) (pending : Bool) (next : Option Str) :
    (judging pending).token token next =
      if pending then (judging true).pendingValue token else (judging false).freshToken token next := by
  unfold Carry.token
  rw [if_neg (by simpa using hne)]
  cases pending <;> rfl

theorem pendingValue_cases (token : Str) :
    (∃ pending, (judging true).pendingValue token = ⟨token, 0, judging pending⟩) ∨
      (isRedactedPlaceholder token = false ∧ trimToken token ≠ ['='] ∧ trimToken token ≠ [':'] ∧
        (judging true).pendingValue token = ⟨redactedValue, 1, judging false⟩) := by
  unfold pendingValue
  simp only
  split
  · exact .inl ⟨false, rfl⟩
  · rename_i hplaceholder
    split
    · exact .inl ⟨true, rfl⟩
    · rename_i hword
      refine .inr ⟨by simpa using hplaceholder, ?_, ?_, rfl⟩
      · intro h
        exact hword (.inl (by rw [h]; rfl))
      · intro h
        exact hword (.inr (.inl (by rw [h]; rfl)))

theorem pendingValue_redactedValue :
    (judging true).pendingValue redactedValue = ⟨redactedValue, 0, judging false⟩ := by
  unfold pendingValue
  simp only
  rw [if_pos (by decide)]
  rfl

/-- The outcomes of a token that stands alone: kept whatever follows, replaced by a text that is kept, or kept with the
next token deciding whether a value is pending. -/
inductive Plain (token : Str) (turn : Turn) : Prop where
  | kept (pending : Bool) (hturn : turn = ⟨token, 0, judging pending⟩)
      (hagain : ∀ next, (judging false).freshToken token next = ⟨token, 0, judging pending⟩)
  | replaced (text : Str) (hturn : turn = ⟨text, 1, judging false⟩) (hsolid : Solid text) (hletter : 'r' ∈ text)
      (hagain : ∀ next, (judging false).freshToken text next = ⟨text, 0, judging false⟩)
  | key (pending : Bool) (hturn : turn = ⟨token, 0, judging pending⟩)
      (hagain : ∀ next, Assigns next → (judging false).freshToken token next = ⟨token, 0, judging true⟩)
      (hagain' : ∀ next, ¬ Assigns next → (judging false).freshToken token next = ⟨token, 0, judging false⟩)

theorem freshToken_redactedUrl (next : Option Str) :
    (judging false).freshToken redactedUrl next = ⟨redactedUrl, 0, judging false⟩ :=
  (judging false).freshToken_plain next (by decide +kernel) rfl rfl (by decide +kernel) (by decide +kernel)
    (by decide +kernel)

theorem freshToken_redactedPath (next : Option Str) :
    (judging false).freshToken redactedPath next = ⟨redactedPath, 0, judging false⟩ :=
  (judging false).freshToken_plain next (by decide +kernel) rfl rfl (by decide +kernel) (by decide +kernel)
    (by decide +kernel)

theorem freshToken_redactedValue (next : Option Str) :
    (judging false).freshToken redactedValue next = ⟨redactedValue, 0, judging false⟩ :=
  (judging false).freshToken_plain next (by decide +kernel) rfl rfl (by decide +kernel) (by decide +kernel)
    (by decide +kernel)

theorem freshToken_eq_plainToken (hstructured : redactStructuredToken token = none)
    (hlower : ¬ (toAsciiLowercase (trimToken token) = "bearer".toList ∨
      toAsciiLowercase (trimToken token) = "basic".toList)) (next : Option Str) :
    (judging false).freshToken token next = (judging false).plainToken token next := by
  unfold freshToken
  simp only
  rw [if_neg hlower]
  simp only [hstructured]

theorem freshToken_keyed {separator : Nat} (hfound : token.findIdx? isSeparator = some separator)
    (hkey : isSensitiveKey (normalizeKey (token.take separator)) = true) (next : Option Str) :
    (judging false).freshToken (token.take (separator + 1) ++ redactedValue) next =
      ⟨token.take (separator + 1) ++ redactedValue, 0, judging false⟩ := by
  obtain ⟨hlt, hseparator, hbefore⟩ := List.findIdx?_eq_some_iff_getElem.mp hfound
  have hagain : (token.take (separator + 1) ++ redactedValue).findIdx? isSeparator = some separator := by
    rw [List.findIdx?_append]
    have htake : (token.take (separator + 1)).findIdx? isSeparator = some separator := by
      refine List.findIdx?_eq_some_iff_getElem.mpr ⟨by simp only [List.length_take]; omega, ?_, ?_⟩
      · simpa using hseparator
      · intro index hindex
        simpa using hbefore index hindex
    rw [htake]
    rfl
  have hlength : (token.take (separator + 1)).length = separator + 1 := by
    simp only [List.length_take]
    omega
  have htake : (token.take (separator + 1) ++ redactedValue).take separator = token.take separator := by
    rw [List.take_append_of_le_length (by omega), List.take_take]
    congr 1
    omega
  have hdrop : (token.take (separator + 1) ++ redactedValue).drop (separator + 1) = redactedValue :=
    List.drop_left' hlength
  have hvalue : isRedactedPlaceholder redactedValue = true := by decide
  rw [freshToken_eq_plainToken (redactStructuredToken_placeholder hfound) (lowercase_ne_scheme hagain)]
  unfold plainToken
  simp only [hagain, htake, hkey, if_true, hdrop, hvalue]
  rw [if_pos]
  rw [List.length_append, hlength]
  have hpositive : 0 < redactedValue.length := by decide
  omega

theorem freshToken_cases (hsolid : Solid token) (hstructured : redactStructuredToken token = none) (next : Option Str) :
    Plain token ((judging false).freshToken token next) := by
  by_cases hlower : toAsciiLowercase (trimToken token) = "bearer".toList ∨
      toAsciiLowercase (trimToken token) = "basic".toList
  · have hscheme : ∀ next, (judging false).freshToken token next = ⟨token, 0, judging true⟩ := by
      intro next
      unfold freshToken
      simp only
      rw [if_pos hlower]
      rfl
    exact .kept true (hscheme next) hscheme
  have hplain := freshToken_eq_plainToken hstructured hlower
  have hkept : ∀ pending, (∀ next, (judging false).plainToken token next = ⟨token, 0, judging pending⟩) →
      Plain token ((judging false).freshToken token next) := by
    intro pending h
    exact .kept pending ((hplain next).trans (h next)) fun other => (hplain other).trans (h other)
  have hreplaced : ∀ text, (judging false).plainToken token next = ⟨text, 1, judging false⟩ →
      Solid text → 'r' ∈ text →
      (∀ next, (judging false).freshToken text next = ⟨text, 0, judging false⟩) →
      Plain token ((judging false).freshToken token next) := by
    intro text h hsolid hletter hagain
    exact .replaced text ((hplain next).trans h) hsolid hletter hagain
  cases hfound : token.findIdx? isSeparator with
  | some separator =>
    by_cases hkey : isSensitiveKey (normalizeKey (token.take separator)) = true
    · by_cases hvalue : separator + 1 < token.length
      · by_cases hplaceholder : isRedactedPlaceholder (token.drop (separator + 1)) = true
        · exact hkept false fun next => by simp [plainToken, hfound, hkey, hvalue, hplaceholder]
        · refine hreplaced (token.take (separator + 1) ++ redactedValue) ?_
            ((hsolid.take _).append solid_redactedValue) (List.mem_append_right _ (by decide))
            (freshToken_keyed hfound hkey)
          simp [plainToken, hfound, hkey, hvalue, hplaceholder]
      · exact hkept true fun next => by simp [plainToken, hfound, hkey, hvalue, judging]
    · by_cases hurl : looksLikeUrl token = true
      · refine hreplaced redactedUrl ?_ solid_redactedUrl (by decide) freshToken_redactedUrl
        simp [plainToken, hfound, hkey, hurl]
      · by_cases hpath : looksLikeAbsolutePath token = true
        · refine hreplaced redactedPath ?_ solid_redactedPath (by decide) freshToken_redactedPath
          simp [plainToken, hfound, hkey, hurl, hpath]
        · exact hkept false fun next => by simp [plainToken, hfound, hkey, hurl, hpath]
  | none =>
    by_cases hurl : looksLikeUrl token = true
    · refine hreplaced redactedUrl ?_ solid_redactedUrl (by decide) freshToken_redactedUrl
      simp [plainToken, hfound, hurl]
    · by_cases hpath : looksLikeAbsolutePath token = true
      · refine hreplaced redactedPath ?_ solid_redactedPath (by decide) freshToken_redactedPath
        simp [plainToken, hfound, hurl, hpath]
      · by_cases hkey : isSensitiveKey (normalizeKey token) = true
        · have hyes : ∀ next, Assigns next →
              (judging false).freshToken token next = ⟨token, 0, judging true⟩ := by
            intro next hnext
            rw [hplain next]
            simp only [plainToken, hfound, hurl, hpath, hkey]
            rw [if_neg (by simp), if_neg (by simp), if_pos ⟨trivial, hnext⟩]
            rfl
          have hno : ∀ next, ¬ Assigns next →
              (judging false).freshToken token next = ⟨token, 0, judging false⟩ := by
            intro next hnext
            rw [hplain next]
            simp only [plainToken, hfound, hurl, hpath, hkey]
            rw [if_neg (by simp), if_neg (by simp), if_neg (fun h => hnext h.2)]
          by_cases hnext : Assigns next
          · exact .key true (hyes next hnext) hyes hno
          · exact .key false (hno next hnext) hyes hno
        · exact hkept false fun next => by simp [plainToken, hfound, hurl, hpath, hkey]

theorem redactStructuredToken_count {structured : StructuredRedaction}
    (h : redactStructuredToken token = some structured) : 0 < structured.count := by
  unfold redactStructuredToken at h
  split at h
  · simp at h
  · simp only at h
    split at h
    · rename_i hcount
      cases h
      exact hcount
    · simp at h

theorem freshToken_keepsWhole (hmarked : Marked token) (hkeeps : keepsWhole token = true) (next : Option Str) :
    (judging false).freshToken token next = ⟨token, 0, judging false⟩ := by
  obtain ⟨separator, hfound⟩ := hmarked.exists_separator
  simp only [keepsWhole, hfound, Bool.and_eq_true, Option.isNone_iff_eq_none] at hkeeps
  obtain ⟨hstructured, hwhole⟩ := hkeeps
  rw [freshToken_eq_plainToken hstructured (lowercase_ne_scheme hfound)]
  by_cases hkey : isSensitiveKey (normalizeKey (token.take separator)) = true
  · rw [if_pos hkey] at hwhole
    simp [plainToken, hfound, hkey, hmarked.lt_length hfound, hwhole]
  · rw [if_neg hkey] at hwhole
    simp only [Bool.and_eq_true, Bool.not_eq_true'] at hwhole
    simp [plainToken, hfound, hkey, hwhole.1, hwhole.2]

theorem freshToken_marked (hmarked : Marked token) (next : Option Str) :
    ((judging false).freshToken token next).count = 0 ↔ keepsWhole token = true := by
  refine ⟨fun hcount => ?_, fun hkeeps => by rw [freshToken_keepsWhole hmarked hkeeps]⟩
  obtain ⟨separator, hfound⟩ := hmarked.exists_separator
  cases hstructured : redactStructuredToken token with
  | some structured =>
    have hpositive := redactStructuredToken_count hstructured
    unfold freshToken at hcount
    simp only at hcount
    rw [if_neg (lowercase_ne_scheme hfound)] at hcount
    simp only [hstructured] at hcount
    split at hcount <;> simp only at hcount <;> omega
  | none =>
    rw [freshToken_eq_plainToken hstructured (lowercase_ne_scheme hfound)] at hcount
    simp only [keepsWhole, hstructured, hfound, Option.isNone_none, Bool.true_and]
    by_cases hkey : isSensitiveKey (normalizeKey (token.take separator)) = true
    · by_contra hplaceholder
      rw [if_pos hkey] at hplaceholder
      simp [plainToken, hfound, hkey, hmarked.lt_length hfound, hplaceholder] at hcount
    · rw [if_neg hkey]
      by_cases hurl : looksLikeUrl token = true
      · simp [plainToken, hfound, hkey, hurl] at hcount
      · by_cases hpath : looksLikeAbsolutePath token = true
        · simp [plainToken, hfound, hkey, hurl, hpath] at hcount
        · simp [hurl, hpath]

end Tokens

end Krometrail.Privacy
