import Krometrail.Privacy.Readable

/-!
# The second pass

The redactor run over its own output. By induction on the segments of the input, the second pass takes the turns of the
first: it stands in the same state, or, where the pending value of a key was a token of punctuation, one replaced token
behind. It counts nothing exactly when every rewritten token is kept whole.
-/

namespace Krometrail.Privacy

open Carry

section Turns

variable {token whitespace : Str} {rest : List Str}

theorem token_nil (carry : Carry) (next : Option Str) : carry.token [] next = ⟨[], 0, carry⟩ := rfl

theorem token_ne_nil (hne : token ≠ []) (pending : Bool) (next : Option Str) {turn : Turn}
    (h : (if pending then (judging true).pendingValue token else (judging false).freshToken token next) = turn) :
    (judging pending).token token next = turn := (token_judging hne pending next).trans h

variable {text : Str} {count : Nat}

theorem step_of_token {carry : Carry} (hsolid : Solid token) (hblank : ∀ c ∈ whitespace, isWhitespace c = true)
    {next : Option Str} {pending : Bool} (h : carry.token token next = ⟨text, count, judging pending⟩) :
    carry.step (token ++ whitespace) next = ⟨text ++ whitespace, count, judging pending⟩ := by
  rw [carry.step_word hsolid hblank, h]
  rfl

theorem rewrites_judging (hne : token ≠ []) : (judging false).rewrites token = redactStructuredToken token := by
  unfold rewrites
  simp only
  split
  · rename_i h
    have hscheme : toAsciiLowercase (trimToken token) = "bearer".toList ∨
        toAsciiLowercase (trimToken token) = "basic".toList := by
      rcases h with h | h | h | h
      · exact absurd h hne
      · exact absurd rfl h
      · exact absurd h (by decide)
      · exact h
    have hseparator : token.any isSeparator = false := by
      by_contra hany
      obtain ⟨c, hc, hseparator⟩ := List.any_eq_true.mp (by simpa using hany)
      cases hfound : token.findIdx? isSeparator with
      | none =>
        rw [List.findIdx?_eq_none_iff] at hfound
        simp [hfound c hc] at hseparator
      | some separator => exact lowercase_ne_scheme hfound hscheme
    simp [redactStructuredToken, hseparator]
  · rfl

theorem trimEndMatches_segment (hsolid : Solid token) (hblank : ∀ c ∈ whitespace, isWhitespace c = true) :
    trimEndMatches isWhitespace (token ++ whitespace) = token := by
  rw [trimEndMatches_append_of_all hblank, trimEndMatches_of_none hsolid]

theorem keepsRewritten_cons {carry : Carry} (hsolid : Solid token)
    (hblank : ∀ c ∈ whitespace, isWhitespace c = true) (hrewrites : carry.rewrites token = none) :
    carry.keepsRewritten ((token ++ whitespace) :: rest) =
      (carry.step (token ++ whitespace) (nextToken rest)).carry.keepsRewritten rest := by
  rw [keepsRewritten, trimEndMatches_segment hsolid hblank, hrewrites]
  exact Bool.true_and _

theorem emitted_nil_of_nil (carry : Carry) (h : rest = []) : carry.emitted rest = [] := by
  rw [h]
  rfl

theorem quiet_turn (hsolid : Solid token) (hfollows : Follows token whitespace rest) {first first' second second' : Bool}
    (hfirst : (judging first).token token (nextToken rest) = ⟨text, count, judging first'⟩)
    (hrewrites : (judging first).rewrites token = none) (htext : Solid text) (hne : token ≠ [] → text ≠ [])
    (hsecond : (judging second).token text
      (nextToken (splitInclusive isWhitespace ((judging first').emitted rest))) = ⟨text, 0, judging second'⟩)
    (hrest : (judging second').Quiet (splitInclusive isWhitespace ((judging first').emitted rest)) ↔
      (judging first').keepsRewritten rest = true) :
    (judging second).Quiet (splitInclusive isWhitespace ((judging first).emitted ((token ++ whitespace) :: rest))) ↔
      (judging first).keepsRewritten ((token ++ whitespace) :: rest) = true := by
  have hblank := hfollows.blank
  rw [keepsRewritten_cons hsolid hblank hrewrites, emitted, step_of_token hsolid hblank hfirst]
  simp only
  rw [hfollows.split htext hne (emitted_nil_of_nil _), Quiet, step_of_token htext hblank hsecond]
  simp only [true_and]
  exact hrest

theorem nextToken_turn (hsolid : Solid token) (hfollows : Follows token whitespace rest) {first first' : Bool}
    (hfirst : (judging first).token token (nextToken rest) = ⟨text, count, judging first'⟩) (htext : Solid text)
    (hne : token ≠ [] → text ≠ []) :
    nextToken (splitInclusive isWhitespace ((judging first).emitted ((token ++ whitespace) :: rest))) =
      if trimToken text = [] then nextToken (splitInclusive isWhitespace ((judging first').emitted rest))
      else some (trimToken text) := by
  rw [emitted, step_of_token hsolid hfollows.blank hfirst]
  simp only
  rw [hfollows.split htext hne (emitted_nil_of_nil _), nextToken_segment htext hfollows.blank]

end Turns

theorem not_assigns_none : ¬ Assigns none := by
  rintro (h | h) <;> simp at h

/-- The first token of the text is only punctuation. -/
def StartsBlank : List Str → Prop
  | [] => False
  | segment :: segments =>
    let token := trimEndMatches isWhitespace segment
    if token = [] then StartsBlank segments else trimToken token = []

variable {token : Str}

theorem structured_emitted {whitespace : Str} (rest : List Str) (hsolid : Solid token) (hne : token ≠ [])
    (hblank : ∀ c ∈ whitespace, isWhitespace c = true) {structured : StructuredRedaction}
    (hstructured : redactStructuredToken token = some structured) :
    (judging false).step (token ++ whitespace) (nextToken rest) =
      match structured.continuation with
      | some quote => ⟨structured.text, structured.count, dropping quote false⟩
      | none => ⟨structured.text ++ whitespace, structured.count, judging false⟩ := by
  have hscheme : ¬ (toAsciiLowercase (trimToken token) = "bearer".toList ∨
      toAsciiLowercase (trimToken token) = "basic".toList) := by
    intro hscheme
    have hrewrites := rewrites_judging hne
    rw [hstructured] at hrewrites
    unfold rewrites at hrewrites
    simp only at hrewrites
    rw [if_pos (.inr (.inr (.inr hscheme)))] at hrewrites
    simp at hrewrites
  have htoken : (judging false).token token (nextToken rest) =
      match structured.continuation with
      | some quote => ⟨structured.text, structured.count, dropping quote false⟩
      | none => ⟨structured.text, structured.count, judging false⟩ := by
    rw [token_judging hne]
    simp only [Bool.false_eq_true, if_false]
    unfold freshToken
    simp only
    rw [if_neg hscheme]
    simp only [hstructured]
    rfl
  rw [Carry.step_word _ hsolid hblank, htoken]
  cases structured.continuation <;> rfl

theorem letter_mem_of_placeholder (h : isRedactedPlaceholder token = true) : 'r' ∈ token := by
  unfold isRedactedPlaceholder at h
  split at h
  · rename_i run hrun
    unfold redactedPlaceholderRun at hrun
    cases token with
    | nil => simp [placeholderRunFrom] at hrun
    | cons c rest =>
      simp only [List.length_cons, placeholderRunFrom] at hrun
      cases hfound : redactionPlaceholders.find? (·.isPrefixOf (c :: rest)) with
      | none => simp [hfound] at hrun
      | some placeholder =>
        have hletter : ∀ placeholder ∈ redactionPlaceholders, 'r' ∈ placeholder := by decide
        have hstart : placeholder.isPrefixOf (c :: rest) = true := by simpa using List.find?_some hfound
        have hsubset := (List.isPrefixOf_iff_prefix.mp hstart).subset
        exact hsubset (hletter placeholder (List.mem_of_find?_eq_some hfound))
  · simp at h

theorem pendingValue_blank (hblank : trimToken token = []) :
    (judging true).pendingValue token = ⟨redactedValue, 1, judging false⟩ := by
  have hplaceholder : isRedactedPlaceholder token = false := by
    by_contra hplaceholder
    have hletter := letter_mem_trimToken (letter_mem_of_placeholder (by simpa using hplaceholder))
    rw [hblank] at hletter
    simp at hletter
  unfold pendingValue
  simp only [hblank, hplaceholder]
  rw [if_neg (by simp), if_neg (by decide)]
  rfl

theorem assigns_of_emitted {segments : List Str} (h : Segmented segments) (pending : Bool)
    (hnext : Assigns (nextToken (splitInclusive isWhitespace ((judging pending).emitted segments)))) :
    Assigns (nextToken segments) := by
  induction h generalizing pending with
  | nil => exact hnext
  | @cons token whitespace rest hsolid hfollows _ ih =>
    rw [nextToken_segment hsolid hfollows.blank]
    -- a turn that keeps the token shows it to both passes
    have hkept : ∀ {count : Nat} {pending' : Bool},
        (judging pending).token token (nextToken rest) = ⟨token, count, judging pending'⟩ →
        Assigns (if trimToken token = [] then nextToken rest else some (trimToken token)) := by
      intro count pending' hturn
      rw [nextToken_turn hsolid hfollows hturn hsolid id] at hnext
      split
      · rename_i htrim
        rw [if_pos htrim] at hnext
        exact ih pending' hnext
      · rename_i htrim
        rwa [if_neg htrim] at hnext
    have hreplaced : ∀ {text : Str} {count : Nat} {pending' : Bool},
        (judging pending).token token (nextToken rest) = ⟨text, count, judging pending'⟩ →
        Solid text → 'r' ∈ text →
        Assigns (if trimToken token = [] then nextToken rest else some (trimToken token)) := by
      intro text count pending' hturn htext hletter
      rw [emitted, step_of_token hsolid hfollows.blank hturn] at hnext
      simp only [List.append_assoc] at hnext
      exact absurd hnext (not_assigns_of_emitted htext hletter _)
    rcases eq_or_ne token [] with rfl | hne
    · exact hkept (token_nil _ _)
    · cases pending with
      | true =>
        rcases pendingValue_cases token with ⟨pending', hturn⟩ | ⟨-, -, -, hturn⟩
        · exact hkept (token_ne_nil hne true _ hturn)
        · exact hreplaced (token_ne_nil hne true _ hturn) solid_redactedValue (by decide)
      | false =>
        cases hstructured : redactStructuredToken token with
        | some structured =>
          obtain ⟨htext, hmarked⟩ := redactStructuredToken_written hsolid hstructured
          rw [emitted, structured_emitted rest hsolid hne hfollows.blank hstructured] at hnext
          cases hcontinuation : structured.continuation with
          | some quote =>
            simp only [hcontinuation] at hnext
            exact absurd hnext (not_assigns_of_emitted htext hmarked.mem _)
          | none =>
            simp only [hcontinuation, List.append_assoc] at hnext
            exact absurd hnext (not_assigns_of_emitted htext hmarked.mem _)
        | none =>
          cases freshToken_cases hsolid hstructured (nextToken rest) with
          | kept pending' hturn _ => exact hkept (token_ne_nil hne false _ hturn)
          | replaced text hturn htext hletter _ => exact hreplaced (token_ne_nil hne false _ hturn) htext hletter
          | key pending' hturn _ _ => exact hkept (token_ne_nil hne false _ hturn)

/-- Where the first pass sees a key assigned, the second does too, unless punctuation comes first: that is replaced. -/
theorem emitted_assigns {segments : List Str} (h : Segmented segments) (hnext : Assigns (nextToken segments)) :
    Assigns (nextToken (splitInclusive isWhitespace ((judging true).emitted segments))) ∨
      (StartsBlank segments ∧
        ¬ Assigns (nextToken (splitInclusive isWhitespace ((judging true).emitted segments)))) := by
  induction h with
  | nil => exact absurd hnext not_assigns_none
  | @cons token whitespace rest hsolid hfollows _ ih =>
    rw [nextToken_segment hsolid hfollows.blank] at hnext
    unfold StartsBlank
    rw [trimEndMatches_segment hsolid hfollows.blank]
    rcases eq_or_ne token [] with rfl | hne
    · have htrim : trimToken [] = [] := rfl
      rw [nextToken_turn hsolid hfollows (token_nil _ _) hsolid id]
      simp only [htrim, if_true] at hnext ⊢
      exact ih hnext
    · by_cases htrim : trimToken token = []
      · have hturn := token_ne_nil hne true (nextToken rest) (pendingValue_blank htrim)
        refine .inr ⟨by simpa [hne] using htrim, ?_⟩
        rw [emitted, step_of_token hsolid hfollows.blank hturn]
        simp only [List.append_assoc]
        exact not_assigns_of_emitted solid_redactedValue (by decide) _
      · rw [if_neg htrim] at hnext
        rcases pendingValue_cases token with ⟨pending', hturn⟩ | ⟨-, hequals, hcolon, -⟩
        · left
          rw [nextToken_turn hsolid hfollows (token_ne_nil hne true _ hturn) hsolid id, if_neg htrim]
          exact hnext
        · rcases hnext with h | h
          · exact absurd (Option.some.inj h) hequals
          · exact absurd (Option.some.inj h) hcolon

/-! ### The second pass counts what is not kept -/

theorem token_dropping (quote : Char) (escaped : Bool) (token : Str) (next : Option Str) :
    (dropping quote escaped).token token next = (dropping quote escaped).continueSecret quote token := by
  unfold Carry.token
  split
  · rename_i hempty
    rw [List.isEmpty_iff.mp hempty]
    rfl
  · rfl

theorem findUnescapedQuote_escaped {quote : Char} {escaped : Bool} {closing : Nat}
    (h : (findUnescapedQuote quote escaped token).1 = some closing) : (findUnescapedQuote quote escaped token).2 = false := by
  induction token generalizing escaped closing with
  | nil => simp [findUnescapedQuote] at h
  | cons c rest ih =>
    cases escaped with
    | true =>
      simp only [findUnescapedQuote, Option.map_eq_some_iff] at h ⊢
      obtain ⟨index, hindex, -⟩ := h
      exact ih hindex
    | false =>
      by_cases hbackslash : c = '\\'
      · simp only [findUnescapedQuote, hbackslash, if_true, Option.map_eq_some_iff] at h ⊢
        obtain ⟨index, hindex, -⟩ := h
        exact ih hindex
      · by_cases hquote : c = quote
        · simp only [findUnescapedQuote, hquote, if_true]
          split <;> simp_all
        · simp only [findUnescapedQuote, hbackslash, hquote, if_false, Option.map_eq_some_iff] at h ⊢
          obtain ⟨index, hindex, -⟩ := h
          exact ih hindex

/-- The second pass over what the first emits from these segments on. -/
structure Again (segments : List Str) : Prop where
  judged (pending : Bool) :
    (judging pending).Quiet (splitInclusive isWhitespace ((judging pending).emitted segments)) ↔
      (judging pending).keepsRewritten segments = true
  dropped (quote : Char) (escaped : Bool) {token : Str} (hsolid : Solid token) (hmarked : Marked token) :
    (judging false).Quiet (splitInclusive isWhitespace (token ++ (dropping quote escaped).emitted segments)) ↔
      keepsWhole (token ++ remainder quote escaped segments) = true ∧
        (dropping quote escaped).keepsRewritten segments = true
  blank (hblank : StartsBlank segments) :
    (judging false).Quiet (splitInclusive isWhitespace ((judging true).emitted segments)) ↔
      (judging true).keepsRewritten segments = true

theorem quiet_marked {whitespace : Str} (hsolid : Solid token) (hmarked : Marked token)
    (hblank : ∀ c ∈ whitespace, isWhitespace c = true) (segments : List Str) :
    (judging false).Quiet ((token ++ whitespace) :: segments) ↔
      keepsWhole token = true ∧ (judging false).Quiet segments := by
  have hne : token ≠ [] := List.ne_nil_of_mem hmarked.mem
  have htoken : (judging false).token token (nextToken segments) =
      (judging false).freshToken token (nextToken segments) := token_judging hne false _
  have hcount : ((judging false).step (token ++ whitespace) (nextToken segments)).count =
      ((judging false).freshToken token (nextToken segments)).count := by
    rw [Carry.step_word _ hsolid hblank, htoken]
    split <;> rfl
  rw [Quiet, hcount, freshToken_marked hmarked]
  refine and_congr_right fun hkeeps => ?_
  have hturn := htoken.trans (freshToken_keepsWhole hmarked hkeeps _)
  rw [step_of_token hsolid hblank hturn]

theorem again_nil : Again [] := by
  refine ⟨fun _ => ⟨fun _ => rfl, fun _ => trivial⟩, fun quote escaped token hsolid hmarked => ?_,
    fun hblank => absurd hblank id⟩
  have hne : token ≠ [] := List.ne_nil_of_mem hmarked.mem
  have h := quiet_marked hsolid hmarked (List.forall_mem_nil _) []
  rw [List.append_nil] at h
  rw [emitted, List.append_nil, splitInclusive_solid hsolid hne, h, remainder, List.append_nil]
  exact and_congr_right fun _ => ⟨fun _ => rfl, fun _ => trivial⟩

section Cons

variable {token whitespace : Str} {rest : List Str}

theorem again_fresh (hsolid : Solid token) (hne : token ≠ []) (hfollows : Follows token whitespace rest)
    (hrest : Segmented rest) (ih : Again rest) :
    (judging false).Quiet (splitInclusive isWhitespace ((judging false).emitted ((token ++ whitespace) :: rest))) ↔
      (judging false).keepsRewritten ((token ++ whitespace) :: rest) = true := by
  have hblank := hfollows.blank
  cases hstructured : redactStructuredToken token with
  | some structured =>
    obtain ⟨htext, hmarked⟩ := redactStructuredToken_written hsolid hstructured
    have hstep := structured_emitted rest hsolid hne hblank hstructured
    rw [emitted, keepsRewritten, trimEndMatches_segment hsolid hblank, rewrites_judging hne, hstructured, hstep]
    simp only [Bool.and_eq_true]
    cases structured.continuation with
    | some quote => exact ih.dropped quote false htext hmarked
    | none =>
      simp only
      rw [hfollows.split htext (fun _ => List.ne_nil_of_mem hmarked.mem) (emitted_nil_of_nil _),
        quiet_marked htext hmarked hblank, ih.judged false, List.append_nil]
  | none =>
    have hrewrites : (judging false).rewrites token = none := (rewrites_judging hne).trans hstructured
    cases freshToken_cases hsolid hstructured (nextToken rest) with
    | kept pending hturn hagain =>
      exact quiet_turn hsolid hfollows (token_ne_nil hne false _ hturn) hrewrites hsolid id
        (token_ne_nil hne false _ (hagain _)) (ih.judged pending)
    | replaced text hturn htext hletter hagain =>
      have htextNe : text ≠ [] := List.ne_nil_of_mem hletter
      exact quiet_turn hsolid hfollows (token_ne_nil hne false _ hturn) hrewrites htext (fun _ => htextNe)
        (token_ne_nil htextNe false _ (hagain _)) (ih.judged false)
    | key pending hturn hassigned hfree =>
      have hfirst := token_ne_nil hne false _ hturn
      by_cases hnext : Assigns (nextToken rest)
      · -- the first pass takes what follows for the value
        obtain rfl : pending = true := by
          have h := congrArg (fun turn => turn.carry.redactNextValue) (hturn.symm.trans (hassigned _ hnext))
          exact h
        rcases emitted_assigns hrest hnext with hsees | ⟨hstarts, hmisses⟩
        · exact quiet_turn hsolid hfollows hfirst hrewrites hsolid id
            (token_ne_nil hne false _ (hassigned _ hsees)) (ih.judged true)
        · exact quiet_turn hsolid hfollows hfirst hrewrites hsolid id
            (token_ne_nil hne false _ (hfree _ hmisses)) (ih.blank hstarts)
      · obtain rfl : pending = false := by
          have h := congrArg (fun turn => turn.carry.redactNextValue) (hturn.symm.trans (hfree _ hnext))
          exact h
        have hmisses := fun hsees => hnext (assigns_of_emitted hrest false hsees)
        exact quiet_turn hsolid hfollows hfirst hrewrites hsolid id
          (token_ne_nil hne false _ (hfree _ hmisses)) (ih.judged false)

theorem again_pending (hsolid : Solid token) (hne : token ≠ []) (hfollows : Follows token whitespace rest)
    (ih : Again rest) :
    (judging true).Quiet (splitInclusive isWhitespace ((judging true).emitted ((token ++ whitespace) :: rest))) ↔
      (judging true).keepsRewritten ((token ++ whitespace) :: rest) = true := by
  have hrewrites : (judging true).rewrites token = none := by simp [rewrites, judging]
  rcases pendingValue_cases token with ⟨pending, hturn⟩ | ⟨-, -, -, hturn⟩
  · have htoken := fun next => token_ne_nil hne true next hturn
    exact quiet_turn hsolid hfollows (htoken _) hrewrites hsolid id (htoken _) (ih.judged pending)
  · exact quiet_turn hsolid hfollows (token_ne_nil hne true _ hturn) hrewrites solid_redactedValue (fun _ => by decide)
      (token_ne_nil (by decide) true _ pendingValue_redactedValue) (ih.judged false)

theorem again_dropped (hsolid : Solid token) (hfollows : Follows token whitespace rest) (ih : Again rest)
    (quote : Char) (escaped : Bool) {before : Str} (hbefore : Solid before) (hmarked : Marked before) :
    (judging false).Quiet
        (splitInclusive isWhitespace (before ++ (dropping quote escaped).emitted ((token ++ whitespace) :: rest))) ↔
      keepsWhole (before ++ remainder quote escaped ((token ++ whitespace) :: rest)) = true ∧
        (dropping quote escaped).keepsRewritten ((token ++ whitespace) :: rest) = true := by
  have hblank := hfollows.blank
  have hrewrites : (dropping quote escaped).rewrites token = none := by simp [rewrites, dropping]
  rw [keepsRewritten_cons hsolid hblank hrewrites, remainder, trimEndMatches_segment hsolid hblank, emitted]
  have hturn := token_dropping quote escaped token (nextToken rest)
  unfold continueSecret at hturn
  cases hfound : findUnescapedQuote quote escaped token with
  | mk closing escaped' =>
    have hscan : findUnescapedQuote quote (dropping quote escaped).continuationEscaped token =
        (closing, escaped') := hfound
    rw [hscan] at hturn
    cases closing with
    | some closing =>
      have hclear : escaped' = false := by
        have hclosing : (findUnescapedQuote quote escaped token).1 = some closing := by rw [hfound]
        have hescaped := findUnescapedQuote_escaped hclosing
        rwa [hfound] at hescaped
      subst hclear
      have hstep : (dropping quote escaped).step (token ++ whitespace) (nextToken rest) =
          ⟨token.drop (closing + 1) ++ whitespace, 0, judging false⟩ := step_of_token hsolid hblank hturn
      have hwhole : Solid (before ++ token.drop (closing + 1)) := hbefore.append (hsolid.drop _)
      have hne : before ++ token.drop (closing + 1) ≠ [] :=
        List.ne_nil_of_mem (List.mem_append_left _ hmarked.mem)
      rw [hstep]
      simp only
      rw [← List.append_assoc, ← List.append_assoc,
        hfollows.split hwhole (fun _ => hne) (emitted_nil_of_nil _),
        quiet_marked hwhole (hmarked.append _) hblank, ih.judged false]
    | none =>
      have hstep : (dropping quote escaped).step (token ++ whitespace) (nextToken rest) =
          ⟨[], 0, dropping quote escaped'⟩ := by
        rw [Carry.step_word _ hsolid hblank, hturn]
        rfl
      rw [hstep]
      exact ih.dropped quote escaped' hbefore hmarked

end Cons

theorem Segmented.again {segments : List Str} (h : Segmented segments) : Again segments := by
  induction h with
  | nil => exact again_nil
  | @cons token whitespace rest hsolid hfollows hrest ih =>
    have hempty : token = [] → ∀ first second : Bool,
        ((judging second).Quiet (splitInclusive isWhitespace ((judging first).emitted rest)) ↔
          (judging first).keepsRewritten rest = true) →
        ((judging second).Quiet
            (splitInclusive isWhitespace ((judging first).emitted ((token ++ whitespace) :: rest))) ↔
          (judging first).keepsRewritten ((token ++ whitespace) :: rest) = true) := by
      rintro rfl first second hsame
      exact quiet_turn hsolid hfollows (token_nil _ _) (by simp [rewrites]) hsolid id (token_nil _ _) hsame
    refine ⟨fun pending => ?_, fun quote escaped before hbefore hmarked =>
      again_dropped hsolid hfollows ih quote escaped hbefore hmarked, fun hstarts => ?_⟩
    · by_cases hne : token = []
      · exact hempty hne _ _ (ih.judged pending)
      · cases pending with
        | false => exact again_fresh hsolid hne hfollows hrest ih
        | true => exact again_pending hsolid hne hfollows ih
    · unfold StartsBlank at hstarts
      rw [trimEndMatches_segment hsolid hfollows.blank] at hstarts
      by_cases hne : token = []
      · exact hempty hne _ _ (ih.blank (by simpa [hne] using hstarts))
      · have htrim : trimToken token = [] := by simpa [hne] using hstarts
        -- the punctuation was replaced: the second pass reads a placeholder where nothing is pending
        have hsecond : ∀ next, (judging false).token redactedValue next = ⟨redactedValue, 0, judging false⟩ :=
          fun next => token_ne_nil (by decide) false next (freshToken_redactedValue next)
        exact quiet_turn hsolid hfollows (token_ne_nil hne true (nextToken rest) (pendingValue_blank htrim))
          (by simp [rewrites, judging]) solid_redactedValue (fun _ => by decide) (hsecond _) (ih.judged false)

end Krometrail.Privacy
