import Krometrail.Privacy.Json

/-!
# Escapes in JSON texts

The escape state that the redactor carries through a quoted secret, read over a whole text. In a JSON text no
whitespace follows a backslash that escapes, so at every whitespace the state is clear and the redactor, which starts
to read at one, sees the escapes of the text. In particular it reads the opening quote of every string as one.
-/

namespace Krometrail.Privacy

/-- The escape state after the text: `none` when whitespace is escaped. -/
def escapeAfter : Bool → Str → Option Bool
  | escaped, [] => some escaped
  | true, c :: rest => if isWhitespace c then none else escapeAfter false rest
  | false, c :: rest => escapeAfter (c = '\\') rest

/-- The text escapes no whitespace and ends outside an escape. -/
def Settled (text : Str) : Prop := escapeAfter false text = some false

theorem escapeAfter_append (escaped : Bool) (text after : Str) :
    escapeAfter escaped (text ++ after) = (escapeAfter escaped text).bind fun e => escapeAfter e after := by
  induction text generalizing escaped with
  | nil => rfl
  | cons c rest ih =>
    cases escaped with
    | true => by_cases hc : isWhitespace c <;> simp [escapeAfter, hc, ih]
    | false => simp [escapeAfter, ih]

theorem Settled.nil : Settled [] := rfl

variable {text : Str} {c : Char}

theorem Settled.append {after : Str} (htext : Settled text) (hafter : Settled after) : Settled (text ++ after) := by
  rw [Settled, escapeAfter_append, htext]
  exact hafter

theorem settled_of_plain (hplain : ∀ c ∈ text, c ≠ '\\') : Settled text := by
  induction text with
  | nil => rfl
  | cons c rest ih =>
    have hc : c ≠ '\\' := hplain c (by simp)
    have hrest : Settled rest := ih fun d hd => hplain d (by simp [hd])
    simpa [Settled, escapeAfter, hc] using hrest

theorem hexDigit_plain (hc : (hexDigit c).isSome) : c ≠ '\\' := by
  rintro rfl
  revert hc
  decide

theorem IsContent.settled (hcontent : IsContent text) : Settled text := by
  induction hcontent with
  | nil => rfl
  | character _ hbackslash _ _ ih => simpa [Settled, escapeAfter, hbackslash] using ih
  | @escape c rest hc _ ih =>
    have hspace : isWhitespace c = false := by
      fin_cases hc <;> decide
    simpa [Settled, escapeAfter, hspace] using ih
  | @codePoint digits rest _ hdigits _ ih =>
    have hplain : Settled digits := settled_of_plain fun c hc => hexDigit_plain (hdigits c hc)
    have hmarker : isWhitespace 'u' = false := by decide
    have := hplain.append ih
    simpa [Settled, escapeAfter, hmarker] using this

theorem settled_singleton (hc : c ≠ '\\') : Settled [c] := settled_of_plain (by simpa using hc)

theorem Settled.cons (hc : c ≠ '\\') (htext : Settled text) : Settled (c :: text) :=
  (settled_singleton hc).append htext

theorem Content.settled (content : Content) : Settled content.chars := content.wellFormed.settled

theorem Content.settled_quoted (content : Content) : Settled content.quoted :=
  .cons (by decide) (content.settled.append (settled_singleton (by decide)))

theorem Blank.settled (blank : Blank) : Settled blank.chars := by
  refine settled_of_plain fun c hc => ?_
  rintro rfl
  exact absurd (blank.wellFormed _ hc) (by decide)

theorem Digits.settled (digits : Digits) : Settled digits.chars := by
  refine settled_of_plain fun c hc => ?_
  rintro rfl
  exact absurd (digits.wellFormed _ hc) (by decide)

theorem Exponent.settled (exponent : Exponent) : Settled exponent.render := by
  have hmarker : exponent.marker ≠ '\\' := by
    rcases exponent.markerValid with h | h <;> simp [h]
  have hsign : Settled exponent.sign.toList := by
    refine settled_of_plain fun c hc => ?_
    rcases exponent.signValid c (by simpa using hc) with rfl | rfl <;> decide
  exact .cons hmarker (hsign.append exponent.digits.settled)

theorem Number.settled (number : Number) : Settled number.render := by
  refine ((Settled.append ?_ number.integer.settled).append ?_).append ?_
  · cases number.negative
    · exact .nil
    · exact settled_singleton (by decide)
  · cases number.fraction with
    | none => exact .nil
    | some digits => exact .cons (by decide) digits.settled
  · cases number.exponent with
    | none => exact .nil
    | some exponent => exact exponent.settled

theorem Literal.settled : ∀ word : Literal, Settled word.render
  | .false => show escapeAfter Bool.false "false".toList = some Bool.false by decide
  | .null => show escapeAfter Bool.false "null".toList = some Bool.false by decide
  | .true => show escapeAfter Bool.false "true".toList = some Bool.false by decide
  | .number value => value.settled

theorem settled_renderKey (before : Blank) (key : Content) (afterKey beforeValue : Blank) :
    Settled (renderKey before key afterKey beforeValue) :=
  ((before.settled.append key.settled_quoted).append afterKey.settled).append (.cons (by decide) beforeValue.settled)

theorem settled_bracketed {opener closer : Char} (hopener : opener ≠ '\\') (hcloser : closer ≠ '\\') (htext : Settled text)
    : Settled (opener :: (text ++ [closer])) :=
  .cons hopener (htext.append (settled_singleton hcloser))

mutual

theorem Json.settled : ∀ value : Json, Settled value.render
  | .literal word => word.settled
  | .string content => content.settled_quoted
  | .emptyArray blank => settled_bracketed (by decide) (by decide) blank.settled
  | .array elements => settled_bracketed (by decide) (by decide) elements.settled
  | .emptyObject blank => settled_bracketed (by decide) (by decide) blank.settled
  | .object members => settled_bracketed (by decide) (by decide) members.settled

theorem Elements.settled : ∀ elements : Elements, Settled elements.render
  | .last before value after => before.settled.append (value.settled.append after.settled)
  | .cons before value after rest =>
    before.settled.append (value.settled.append (after.settled.append (.cons (by decide) rest.settled)))

theorem Members.settled : ∀ members : Members, Settled members.render
  | .last before key afterKey beforeValue value after =>
    (settled_renderKey before key afterKey beforeValue).append (value.settled.append after.settled)
  | .cons before key afterKey beforeValue value after rest =>
    (settled_renderKey before key afterKey beforeValue).append
      (value.settled.append (after.settled.append (.cons (by decide) rest.settled)))

end

/-- A text with a hole in it: what precedes the hole does not depend on its content, and is settled. -/
def LeadsToSecret (text : Content → Str) : Prop :=
  ∃ start, Settled start ∧ ∀ secret, ∃ finish, text secret = start ++ (secret.quoted ++ finish)

theorem LeadsToSecret.quoted : LeadsToSecret fun secret => secret.quoted :=
  ⟨[], .nil, fun _ => ⟨[], (List.append_nil _).symm⟩⟩

variable {text : Content → Str}

theorem LeadsToSecret.append (htext : LeadsToSecret text) (after : Content → Str) :
    LeadsToSecret fun secret => text secret ++ after secret := by
  obtain ⟨start, hstart, hfinish⟩ := htext
  refine ⟨start, hstart, fun secret => ?_⟩
  obtain ⟨finish, h⟩ := hfinish secret
  exact ⟨finish ++ after secret, by simp only [h, List.append_assoc]⟩

theorem LeadsToSecret.precede (htext : LeadsToSecret text) {before : Str} (hbefore : Settled before)
    : LeadsToSecret fun secret => before ++ text secret := by
  obtain ⟨start, hstart, hfinish⟩ := htext
  refine ⟨before ++ start, hbefore.append hstart, fun secret => ?_⟩
  obtain ⟨finish, h⟩ := hfinish secret
  exact ⟨finish, by simp only [h, List.append_assoc]⟩

theorem LeadsToSecret.bracketed (htext : LeadsToSecret text) {opener closer : Char} (hopener : opener ≠ '\\')
    : LeadsToSecret fun secret => opener :: (text secret ++ [closer]) :=
  (htext.append fun _ => [closer]).precede (settled_singleton hopener)

mutual

theorem Json.leadsToSecret (sensitive : Bool) : ∀ value : Json, ¬ value.AllSecrets (fun _ => False) sensitive →
    LeadsToSecret fun secret => (value.fill secret sensitive).render
  | .literal _, h => absurd trivial h
  | .string content, h => by
    cases sensitive with
    | true => exact .quoted
    | false => exact absurd (fun hfalse => Bool.noConfusion hfalse) h
  | .emptyArray _, h => absurd trivial h
  | .array elements, h => (elements.leadsToSecret h).bracketed (by decide)
  | .emptyObject _, h => absurd trivial h
  | .object members, h => (members.leadsToSecret h).bracketed (by decide)

theorem Elements.leadsToSecret : ∀ elements : Elements, ¬ elements.AllSecrets (fun _ => False) →
    LeadsToSecret fun secret => (elements.fill secret).render
  | .last before value after, h => ((value.leadsToSecret false h).append fun _ => after.chars).precede before.settled
  | .cons before value after rest, h => by
    by_cases hvalue : value.AllSecrets (fun _ => False) false
    · have hrest : LeadsToSecret fun secret => (rest.fill secret).render :=
        rest.leadsToSecret fun hrest => h ⟨hvalue, hrest⟩
      simp only [Elements.fill, Elements.render, value.fill_of_secretFree false hvalue]
      exact (((hrest.precede (settled_singleton (by decide))).precede after.settled).precede value.settled).precede
        before.settled
    · exact ((value.leadsToSecret false hvalue).append _).precede before.settled

theorem Members.leadsToSecret : ∀ members : Members, ¬ members.AllSecrets (fun _ => False) →
    LeadsToSecret fun secret => (members.fill secret).render
  | .last before key afterKey beforeValue value after, h =>
    ((value.leadsToSecret _ h).append fun _ => after.chars).precede (settled_renderKey before key afterKey beforeValue)
  | .cons before key afterKey beforeValue value after rest, h => by
    by_cases hvalue : value.AllSecrets (fun _ => False) key.isSensitive
    · have hrest : LeadsToSecret fun secret => (rest.fill secret).render :=
        rest.leadsToSecret fun hrest => h ⟨hvalue, hrest⟩
      simp only [Members.fill, Members.render, value.fill_of_secretFree _ hvalue]
      exact (((hrest.precede (settled_singleton (by decide))).precede after.settled).precede value.settled).precede
        (settled_renderKey before key afterKey beforeValue)
    · exact ((value.leadsToSecret _ hvalue).append _).precede (settled_renderKey before key afterKey beforeValue)

end

theorem JsonText.leadsToSecret {text : JsonText} (hsecret : ¬ text.SecretFree) :
    LeadsToSecret fun secret => (text.fill secret).render :=
  ((text.value.leadsToSecret false hsecret).append fun _ => text.after.chars).precede text.before.settled

end Krometrail.Privacy

/-!
## Segments of a text

How a text falls into tokens at its whitespace, and how the scan passes over a settled text: an open secret is followed
with the escapes of the text, and the tokens before a given word do not see past it.
-/

namespace Krometrail.Privacy

variable {matched : Char → Bool}

variable {value : Str} {c : Char}

theorem trimEndMatches_append_of_all {trailing : Str} (htrailing : ∀ c ∈ trailing, matched c = true) :
    trimEndMatches matched (value ++ trailing) = trimEndMatches matched value := by
  have hdrop : (trailing.reverse ++ value.reverse).dropWhile matched = value.reverse.dropWhile matched := by
    rw [List.dropWhile_append_of_pos]
    intro c hc
    exact htrailing c (List.mem_reverse.mp hc)
  simp only [trimEndMatches, List.reverse_append, hdrop]

theorem trimEndMatches_append_singleton (value : Str) (hc : matched c = false) :
    trimEndMatches matched (value ++ [c]) = value ++ [c] := by
  simp [trimEndMatches, hc]

theorem trimEndMatches_of_none (hvalue : ∀ c ∈ value, matched c = false) : trimEndMatches matched value = value := by
  rcases List.eq_nil_or_concat value with rfl | ⟨start, c, rfl⟩
  · rfl
  · have hc : matched c = false := hvalue c (by simp)
    simpa using trimEndMatches_append_singleton start hc

theorem mem_dropWhile (hmem : c ∈ value) (hc : matched c = false) : c ∈ value.dropWhile matched := by
  induction value with
  | nil => simp at hmem
  | cons d rest ih =>
    by_cases hd : matched d
    · have hne : c ≠ d := by
        rintro rfl
        simp [hc] at hd
      simpa [hd] using ih (by simpa [hne] using hmem)
    · simpa [hd] using hmem

theorem mem_trimMatches (hmem : c ∈ value) (hc : matched c = false) : c ∈ trimMatches matched value := by
  have h := mem_dropWhile hmem hc
  rw [← List.mem_reverse] at h
  simpa [trimMatches, trimEndMatches] using mem_dropWhile h hc

theorem splitInclusive_word {token rest : Str} {w : Char} (htoken : ∀ c ∈ token, matched c = false)
    (hw : matched w = true) :
    splitInclusive matched (token ++ w :: rest) = (token ++ [w]) :: splitInclusive matched rest := by
  induction token with
  | nil => simp [splitInclusive, hw]
  | cons c token ih =>
    have hc : matched c = false := htoken c (by simp)
    have htail := ih fun d hd => htoken d (by simp [hd])
    simp [splitInclusive, hc, htail]

theorem exists_first_word (matched : Char → Bool) (text : Str) :
    (∀ c ∈ text, matched c = false) ∨
      ∃ token w rest, text = token ++ w :: rest ∧ (∀ c ∈ token, matched c = false) ∧ matched w = true := by
  induction text with
  | nil => exact .inl (by simp)
  | cons c text ih =>
    by_cases hc : matched c
    · exact .inr ⟨[], c, text, rfl, by simp, hc⟩
    · rcases ih with hnone | ⟨token, w, rest, rfl, htoken, hw⟩
      · exact .inl (by simpa [hc] using hnone)
      · exact .inr ⟨c :: token, w, rest, rfl, by simpa [hc] using htoken, hw⟩

/-- A token of a settled text with the whitespace after it. -/
def SettledSegment (segment : Str) : Prop :=
  ∃ token w, segment = token ++ [w] ∧ (∀ c ∈ token, isWhitespace c = false) ∧ isWhitespace w = true ∧
    Settled token

theorem nextToken_cons_of_mem {segment : Str} (segments : List Str) (hmem : c ∈ segment) (hspace : isWhitespace c = false)
    (hpunctuation : isAsciiPunctuation c = false) : nextToken (segment :: segments) = nextToken [segment] := by
  have htrimmed : c ∈ trimToken (trimMatches isWhitespace segment) :=
    mem_trimMatches (mem_trimMatches hmem hspace) (by simp [hpunctuation])
  have hnonempty : (trimToken (trimMatches isWhitespace segment)).isEmpty = false := by
    cases h : trimToken (trimMatches isWhitespace segment) with
    | nil => simp [h] at htrimmed
    | cons => rfl
  simp [nextToken, hnonempty]

theorem nextToken_append_of_mem {before : List Str} {segment : Str} (segments : List Str) (hmem : c ∈ segment)
    (hspace : isWhitespace c = false) (hpunctuation : isAsciiPunctuation c = false) :
    nextToken (before ++ segment :: segments) = nextToken (before ++ [segment]) := by
  have h := nextToken_cons_of_mem segments hmem hspace hpunctuation
  simp only [nextToken, List.map_append, List.find?_append] at h ⊢
  rw [h]

namespace Carry

theorem step_word (carry : Carry) {token whitespace : Str} (htoken : ∀ c ∈ token, isWhitespace c = false)
    (hwhitespace : ∀ c ∈ whitespace, isWhitespace c = true) (next : Option Str) :
    carry.step (token ++ whitespace) next =
      if (carry.token token next).carry.insideQuotedSecret.isNone then
        { carry.token token next with text := (carry.token token next).text ++ whitespace }
      else carry.token token next := by
  have htrim : trimEndMatches isWhitespace (token ++ whitespace) = token := by
    rw [trimEndMatches_append_of_all hwhitespace, trimEndMatches_of_none htoken]
  simp only [step, htrim, List.drop_left]

theorem step_word_carry (carry : Carry) {token whitespace : Str} (htoken : ∀ c ∈ token, isWhitespace c = false)
    (hwhitespace : ∀ c ∈ whitespace, isWhitespace c = true) (next : Option Str) :
    (carry.step (token ++ whitespace) next).carry = (carry.token token next).carry := by
  rw [carry.step_word htoken hwhitespace]
  split <;> rfl

theorem freshToken_plain {token : Str} (carry : Carry) (next : Option Str)
    (hlower : ¬ (toAsciiLowercase (trimToken token) = "bearer".toList ∨
      toAsciiLowercase (trimToken token) = "basic".toList))
    (hstructured : redactStructuredToken token = none) (hseparator : token.findIdx? isSeparator = none)
    (hurl : looksLikeUrl token = false) (hpath : looksLikeAbsolutePath token = false)
    (hkey : isSensitiveKey (normalizeKey token) = false) : carry.freshToken token next = ⟨token, 0, carry⟩ := by
  unfold freshToken
  simp only
  rw [if_neg hlower]
  simp [hstructured, plainToken, hseparator, hurl, hpath, hkey]

end Carry

end Krometrail.Privacy
