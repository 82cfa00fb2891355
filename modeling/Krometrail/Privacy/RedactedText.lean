import Krometrail.Core.Error
import Krometrail.Privacy.Emissions

/-!
# Redacted texts

The value that `EventRedactor` makes of a text and the constructor that reads it back: `RedactedText::new` is what
`Deserialize` calls, and it refuses a text that a further pass of the redactor would change or count. Where the
redacted text is cut to its byte limit, the cut goes on until the rest passes.
-/

namespace Krometrail.Privacy

def maxRedactedTextBytes : Nat := 2048
def maxRedactedNameBytes : Nat := 64
def maxRedactedFunctionBytes : Nat := 128

/-- `str::len`. -/
def byteLength (text : Str) : Nat := (text.map Char.utf8Size).sum

structure RedactedText where
  text : Str
  truncated : Bool
  redactionCount : Nat

namespace RedactedText

def newWithLimit (text : Str) (truncated : Bool) (redactionCount maxBytes : Nat) : Result RedactedText :=
  if maxBytes < byteLength text then .error (invalid "redacted event text exceeds its byte limit")
  else
    let (checked, detected) := redactFragments text
    if detected ≠ 0 ∨ checked ≠ text then .error (invalid "event text has not passed the privacy redactor")
    else .ok ⟨text, truncated, redactionCount⟩

def new (text : Str) (truncated : Bool) (redactionCount : Nat) : Result RedactedText :=
  newWithLimit text truncated redactionCount maxRedactedTextBytes

end RedactedText

/-- `truncate_utf8`: the longest start of whole characters within the bytes. -/
def truncateUtf8 : Str → Nat → Str
  | [], _ => []
  | c :: rest, maxBytes => if c.utf8Size ≤ maxBytes then c :: truncateUtf8 rest (maxBytes - c.utf8Size) else []

/-- The loop of `truncate_to_redaction_stable`. Every turn drops a character, so the length of the text is fuel
enough. -/
def shrinkToStable : Nat → Str → Str
  | 0, value => value
  | fuel + 1, value =>
    if value.isEmpty then value
    else
      let (again, count) := redactFragments value
      if count = 0 ∧ again = value then value else shrinkToStable fuel value.dropLast

def truncateToRedactionStable (value : Str) (maxBytes : Nat) : Str :=
  let value := truncateUtf8 value maxBytes
  shrinkToStable value.length value

namespace EventRedactor

def redact (input : Str) (maxBytes : Nat) : RedactedText :=
  let (text, redactionCount) := redactFragments input
  let truncated := decide (maxBytes < byteLength text)
  ⟨if truncated then truncateToRedactionStable text maxBytes else text, truncated, redactionCount⟩

def text (input : Str) : RedactedText := redact input maxRedactedTextBytes
def name (input : Str) : RedactedText := redact input maxRedactedNameBytes
def functionName (input : Str) : RedactedText := redact input maxRedactedFunctionBytes

end EventRedactor

/-- A further pass leaves the text and counts nothing. -/
def Stable (text : Str) : Prop := redactFragments text = (text, 0)

theorem Stable.nil : Stable [] := rfl

theorem RedactedText.new_eq_ok {text : Str} {truncated : Bool} {redactionCount : Nat}
    (hlength : byteLength text ≤ maxRedactedTextBytes) :
    RedactedText.new text truncated redactionCount = .ok ⟨text, truncated, redactionCount⟩ ↔ Stable text := by
  unfold RedactedText.new RedactedText.newWithLimit
  rw [if_neg (by omega)]
  simp only
  split
  · rename_i hrefused
    refine ⟨nofun, fun hstable => ?_⟩
    rw [hstable] at hrefused
    simp at hrefused
  · rename_i hpassed
    simp only [ne_eq, not_or, Decidable.not_not] at hpassed
    exact ⟨fun _ => Prod.ext hpassed.2 hpassed.1, fun _ => rfl⟩

end Krometrail.Privacy
