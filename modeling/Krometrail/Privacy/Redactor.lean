import Krometrail.Core.Text

/-!
# The event redactor

The text sanitizer of `core/src/browser/privacy.rs`. Raw console text, exception text and function names enter
`redact_fragments` and leave with the values of sensitive keys, URLs and absolute paths replaced by placeholders.
The text is split at whitespace, each token is judged by what precedes it, and a token with structural delimiters
is split again at these. A text is the list of its code points: every index the source takes is at an ASCII
character, so the byte offsets of the source are positions here.
-/

namespace Krometrail.Privacy

/-- `&str`, as code points. -/
abbrev Str := List Char

def redactedValue : Str := "[redacted]".toList
def redactedUrl : Str := "[redacted-url]".toList
def redactedPath : Str := "[redacted-path]".toList

def saturatingAdd (count more : Nat) : Nat := min (count + more) 65535

def isAsciiPunctuation (c : Char) : Bool :=
  let n := c.toNat
  (0x21 ≤ n && n ≤ 0x2f) || (0x3a ≤ n && n ≤ 0x40) || (0x5b ≤ n && n ≤ 0x60) || (0x7b ≤ n && n ≤ 0x7e)

/-- The pattern `['=', ':']`. -/
def isSeparator (c : Char) : Bool := c = '=' || c = ':'

/-- `STRUCTURAL_DELIMITERS`. -/
def isStructuralDelimiter (c : Char) : Bool := c = '{' || c = '}' || c = '[' || c = ']' || c = ','

def isOpener (c : Char) : Bool := c = '{' || c = '['
def isCloser (c : Char) : Bool := c = '}' || c = ']'

def trimEndMatches (matched : Char → Bool) (value : Str) : Str := (value.reverse.dropWhile matched).reverse

def trimMatches (matched : Char → Bool) (value : Str) : Str := trimEndMatches matched (value.dropWhile matched)

def trimToken (value : Str) : Str :=
  trimMatches
    (fun c => isAsciiPunctuation c && !(c = '=' || c = ':' || c = '/' || c = '\\' || c = '-' || c = '_')) value

def toAsciiLowercase (value : Str) : Str := value.map Char.toLower

/-- `char::to_digit(16)`. -/
def hexDigit (c : Char) : Option Nat :=
  if c.isDigit then some (c.toNat - 48)
  else if 'a' ≤ c && c ≤ 'f' then some (c.toNat - 87)
  else if 'A' ≤ c && c ≤ 'F' then some (c.toNat - 55)
  else none

/-- The four digits of a `\u` escape: the code they spell, and the characters left. The first character that is no
digit ends the escape and is consumed with it. -/
def decodeDigits : Nat → Nat → Str → Option Nat × Str
  | 0, code, rest => (some code, rest)
  | _ + 1, _, [] => (none, [])
  | digits + 1, code, c :: rest =>
    match hexDigit c with
    | some digit => decodeDigits digits (code * 16 + digit) rest
    | none => (none, rest)

/-- `char::from_u32`. -/
def charFromU32 (code : Nat) : Option Char := if h : code.isValidChar then some (Char.ofNatAux code h) else none

def decodeEscape : Str → Option Char × Str
  | [] => (none, [])
  | 'u' :: rest =>
    let (code, rest) := decodeDigits 4 0 rest
    (code.bind charFromU32, rest)
  | '\\' :: rest => (some '\\', rest)
  | c :: rest => (if ['n', 't', 'r', 'b', 'f', '"', '\'', '/'].contains c then none else some c, rest)

/-- The loop of `decode_escapes`. Every turn consumes a character, so the length of the text is fuel enough. -/
def decodeEscapesFrom : Nat → Str → Str
  | 0, _ => []
  | _ + 1, [] => []
  | fuel + 1, c :: rest =>
    if c = '\\' then
      let (escaped, rest) := decodeEscape rest
      escaped.toList ++ decodeEscapesFrom fuel rest
    else c :: decodeEscapesFrom fuel rest

def decodeEscapes (value : Str) : Str := decodeEscapesFrom value.length value

/-- `MAX_KEY_DECODE_PASSES`. -/
def maxKeyDecodePasses : Nat := 4

/-- The bounded loop of `normalize_key`: decode until the text no longer changes. -/
def decodeToFixedPoint : Nat → Str → Str
  | 0, decoded => decoded
  | passes + 1, decoded =>
    let next := decodeEscapes decoded
    if next = decoded then decoded else decodeToFixedPoint passes next

def normalizeKey (value : Str) : Str :=
  ((decodeToFixedPoint maxKeyDecodePasses value).filter Char.isAlphanum).map Char.toLower

def isSensitiveKey (value : Str) : Bool :=
  (["password", "passwd", "token", "secret", "authorization", "apikey", "session", "cookie", "setcookie",
    "accesstoken", "refreshtoken", "idtoken", "authtoken", "bearertoken", "clientsecret", "apisecret", "privatekey",
    "secretkey", "sessionid", "sessiontoken", "credentials", "passphrase"].map String.toList).contains value

/-- `str::contains` of a text. -/
def containsText (part : Str) : Str → Bool
  | [] => part.isEmpty
  | c :: rest => part.isPrefixOf (c :: rest) || containsText part rest

def looksLikeUrl (value : Str) : Bool :=
  let lower := toAsciiLowercase value
  containsText "://".toList lower || "file:".toList.isPrefixOf lower || "data:".toList.isPrefixOf lower ||
    "blob:".toList.isPrefixOf lower

/-- `ends_with_filename_extension`: the text after the last dot, and what precedes it. Every character of an
accepted extension is ASCII, so its bytes are its characters. -/
def endsWithFilenameExtension (value : Str) : Bool :=
  let extension := (value.reverse.takeWhile (· != '.')).reverse
  let stem := ((value.reverse.dropWhile (· != '.')).drop 1).reverse
  value.contains '.' && !stem.isEmpty && 1 ≤ extension.length && extension.length ≤ 5 &&
    extension.all Char.isAlphanum && extension.any Char.isAlpha

def isDotfileName : Str → Bool
  | '.' :: name =>
    !name.isEmpty && name.all (fun c => c.isAlphanum || c = '.' || c = '-' || c = '_') && name.any Char.isAlpha
  | _ => false

def looksLikeAbsolutePath (value : Str) : Bool :=
  match trimToken value with
  | '/' :: _ => true
  | '\\' :: _ => true
  | drive :: ':' :: remainder =>
    drive.isAlpha &&
      (remainder.isEmpty || remainder.contains '/' || remainder.contains '\\' ||
        endsWithFilenameExtension remainder || isDotfileName remainder)
  | _ => false

/-- `REDACTION_PLACEHOLDERS`. -/
def redactionPlaceholders : List Str := [redactedValue, redactedUrl, redactedPath]

/-- The loop of `redacted_placeholder_run`: the length of the placeholders the text starts with. Each is at least one
character long, so the length of the text is fuel enough. -/
def placeholderRunFrom : Nat → Str → Nat
  | 0, _ => 0
  | fuel + 1, value =>
    match redactionPlaceholders.find? (·.isPrefixOf value) with
    | some matched => matched.length + placeholderRunFrom fuel (value.drop matched.length)
    | none => 0

def redactedPlaceholderRun (value : Str) : Option Nat :=
  let length := placeholderRunFrom value.length value
  if 0 < length then some length else none

def isRedactedPlaceholder (value : Str) : Bool :=
  match redactedPlaceholderRun value with
  | some length => (value.drop length).all isAsciiPunctuation
  | none => false

/-- `find_unescaped_quote`: the position of the first quote that closes the value, and the escape state after the
scan. -/
def findUnescapedQuote (quote : Char) : Bool → Str → Option Nat × Bool
  | escaped, [] => (none, escaped)
  | true, _ :: rest =>
    let (closing, escaped) := findUnescapedQuote quote false rest
    (closing.map (· + 1), escaped)
  | false, c :: rest =>
    if c = '\\' then
      let (closing, escaped) := findUnescapedQuote quote true rest
      (closing.map (· + 1), escaped)
    else if c = quote then (some 0, false)
    else
      let (closing, escaped) := findUnescapedQuote quote false rest
      (closing.map (· + 1), escaped)

/-- True when a quoted value closes inside the text given. -/
def quotedValueIsTerminated (value : Str) (quote : Char) : Bool :=
  (findUnescapedQuote quote false (value.drop 1)).1.isSome

structure FragmentRedaction where
  text : Str
  count : Nat
  continuation : Option Char

def FragmentRedaction.unchanged (fragment : Str) : FragmentRedaction := ⟨fragment, 0, none⟩

/-- The quote that a sensitive value opens and does not close. -/
def openQuote (value : Str) : Option Char :=
  match value with
  | quote :: _ => if (quote = '"' || quote = '\'') && !quotedValueIsTerminated value quote then some quote else none
  | [] => none

def redactKeyValueFragment (fragment : Str) : FragmentRedaction :=
  match fragment.findIdx? isSeparator with
  | none => .unchanged fragment
  | some separator =>
    let value := fragment.drop (separator + 1)
    if value.isEmpty || isRedactedPlaceholder value then .unchanged fragment
    else if isSensitiveKey (normalizeKey (fragment.take separator)) then
      ⟨fragment.take (separator + 1) ++ redactedValue, 1, openQuote value⟩
    else if looksLikeUrl value then ⟨fragment.take (separator + 1) ++ redactedUrl, 1, none⟩
    else if looksLikeAbsolutePath value then ⟨fragment.take (separator + 1) ++ redactedPath, 1, none⟩
    else .unchanged fragment

/-- True when this fragment is a sensitive key whose value has not started yet. -/
def opensSensitiveValue (fragment : Str) : Bool :=
  match fragment.findIdx? isSeparator with
  | none => false
  | some separator =>
    (fragment.drop (separator + 1)).all isWhitespace && isSensitiveKey (normalizeKey (fragment.take separator))

structure StructuredRedaction where
  text : Str
  count : Nat
  continuation : Option Char

/-- The locals of the loop of `redact_structured_token`: `fragment` is `token[fragment_start..index]`, and `skip` is how
many characters remain before `resume_at`. -/
structure StructuredScan where
  text : Str
  count : Nat
  fragment : Str
  depth : Nat
  redactedValueDepth : Option Nat
  skip : Nat

namespace StructuredScan

def start : StructuredScan := ⟨[], 0, [], 0, none, 0⟩

/-- A character inside a nested value that has been replaced whole: only the brackets are followed. -/
def swallow (s : StructuredScan) (openedAt : Nat) (c : Char) : StructuredScan :=
  if isOpener c then { s with depth := s.depth + 1 }
  else if isCloser c then
    if s.depth - 1 = openedAt then { s with depth := s.depth - 1, redactedValueDepth := none, fragment := [] }
    else { s with depth := s.depth - 1 }
  else s

/-- A structure that is the value of a sensitive key opens at `c`. A run of placeholders there is kept as one, with
what runs on from it up to the next delimiter dropped; anything else is replaced whole. -/
def openSensitive (s : StructuredScan) (c : Char) (rest : Str) : StructuredScan :=
  match redactedPlaceholderRun (c :: rest) with
  | some run =>
    let after := (c :: rest).drop run
    let trailing := (after.findIdx? isStructuralDelimiter).getD after.length
    { s with
      text := s.text ++ s.fragment ++ redactedValue
      count := if 0 < trailing then saturatingAdd s.count 1 else s.count
      fragment := []
      skip := run + trailing - 1 }
  | none =>
    { s with
      text := s.text ++ s.fragment ++ redactedValue
      count := saturatingAdd s.count 1
      redactedValueDepth := some s.depth
      depth := s.depth + 1 }

/-- A structural delimiter closes the fragment before it. -/
def closeFragment (s : StructuredScan) (c : Char) : StructuredScan :=
  let fragment := redactKeyValueFragment s.fragment
  { s with
    text := s.text ++ fragment.text ++ [c]
    count := saturatingAdd s.count fragment.count
    fragment := []
    depth := if isOpener c then s.depth + 1 else if isCloser c then s.depth - 1 else s.depth }

/-- One turn of the loop, at the character `c` with `rest` after it. -/
def step (s : StructuredScan) (c : Char) (rest : Str) : StructuredScan :=
  if 0 < s.skip then { s with skip := s.skip - 1 }
  else
    match s.redactedValueDepth with
    | some openedAt => s.swallow openedAt c
    | none =>
      if !isStructuralDelimiter c then { s with fragment := s.fragment ++ [c] }
      else if isOpener c && opensSensitiveValue s.fragment then s.openSensitive c rest
      else s.closeFragment c

def run : StructuredScan → Str → StructuredScan
  | s, [] => s
  | s, c :: rest => run (s.step c rest) rest

/-- The end of the token: the last fragment is judged, unless it lies inside a value that was replaced whole. -/
def finish (s : StructuredScan) : StructuredRedaction :=
  if s.redactedValueDepth.isSome then ⟨s.text, s.count, some '"'⟩
  else
    let fragment := redactKeyValueFragment s.fragment
    ⟨s.text ++ fragment.text, saturatingAdd s.count fragment.count, fragment.continuation⟩

end StructuredScan

def redactStructuredToken (token : Str) : Option StructuredRedaction :=
  if !token.any isStructuralDelimiter || !token.any isSeparator then none
  else
    let structured := (StructuredScan.start.run token).finish
    if 0 < structured.count then some structured else none

/-- The locals of the loop of `redact_fragments` that one token hands to the next. -/
structure Carry where
  redactNextValue : Bool
  insideQuotedSecret : Option Char
  continuationEscaped : Bool

/-- What one turn of the loop adds to the output and to the count, and the state it leaves. -/
structure Turn where
  text : Str
  count : Nat
  carry : Carry

namespace Carry

def start : Carry := ⟨false, none, false⟩

/-- A token inside an open quoted secret: dropped, up to the quote that closes the secret. -/
def continueSecret (carry : Carry) (quote : Char) (token : Str) : Turn :=
  match findUnescapedQuote quote carry.continuationEscaped token with
  | (some closing, escaped) =>
    ⟨token.drop (closing + 1), 0, { carry with insideQuotedSecret := none, continuationEscaped := escaped }⟩
  | (none, escaped) => ⟨[], 0, { carry with continuationEscaped := escaped }⟩

/-- A token where the value of a sensitive key is pending. -/
def pendingValue (carry : Carry) (token : Str) : Turn :=
  let pending := toAsciiLowercase (trimToken token)
  if isRedactedPlaceholder token then ⟨token, 0, { carry with redactNextValue := false }⟩
  else if pending = ['='] ∨ pending = [':'] ∨ pending = "bearer".toList ∨ pending = "basic".toList then
    ⟨token, 0, carry⟩
  else ⟨redactedValue, 1, { carry with redactNextValue := false }⟩

/-- A token with no structure to redact: `next` is the next token of the text that is not only punctuation. -/
def plainToken (carry : Carry) (token : Str) (next : Option Str) : Turn :=
  match token.findIdx? isSeparator with
  | some separator =>
    if isSensitiveKey (normalizeKey (token.take separator)) then
      if separator + 1 < token.length then
        if isRedactedPlaceholder (token.drop (separator + 1)) then ⟨token, 0, carry⟩
        else ⟨token.take (separator + 1) ++ redactedValue, 1, carry⟩
      else ⟨token, 0, { carry with redactNextValue := true }⟩
    else if looksLikeUrl token then ⟨redactedUrl, 1, carry⟩
    else if looksLikeAbsolutePath token then ⟨redactedPath, 1, carry⟩
    else ⟨token, 0, carry⟩
  | none =>
    if looksLikeUrl token then ⟨redactedUrl, 1, carry⟩
    else if looksLikeAbsolutePath token then ⟨redactedPath, 1, carry⟩
    else if isSensitiveKey (normalizeKey token) ∧ (next = some ['='] ∨ next = some [':']) then
      ⟨token, 0, { carry with redactNextValue := true }⟩
    else ⟨token, 0, carry⟩

/-- A token judged on its own: nothing is pending and no secret is open. -/
def freshToken (carry : Carry) (token : Str) (next : Option Str) : Turn :=
  let lower := toAsciiLowercase (trimToken token)
  if lower = "bearer".toList ∨ lower = "basic".toList then ⟨token, 0, { carry with redactNextValue := true }⟩
  else
    match redactStructuredToken token with
    | some structured =>
      match structured.continuation with
      | some quote =>
        ⟨structured.text, structured.count,
          { carry with insideQuotedSecret := some quote, continuationEscaped := false }⟩
      | none => ⟨structured.text, structured.count, carry⟩
    | none => carry.plainToken token next

def token (carry : Carry) (token : Str) (next : Option Str) : Turn :=
  if token.isEmpty then ⟨[], 0, carry⟩
  else
    match carry.insideQuotedSecret with
    | some quote => carry.continueSecret quote token
    | none => if carry.redactNextValue then carry.pendingValue token else carry.freshToken token next

/-- One turn of the loop. The whitespace after the token goes to the output unless a secret is open then. -/
def step (carry : Carry) (segment : Str) (next : Option Str) : Turn :=
  let token := trimEndMatches isWhitespace segment
  let whitespace := segment.drop token.length
  let turn := carry.token token next
  if turn.carry.insideQuotedSecret.isNone then { turn with text := turn.text ++ whitespace } else turn

end Carry

def splitInclusive (matched : Char → Bool) : Str → List Str
  | [] => []
  | c :: rest =>
    if matched c then [c] :: splitInclusive matched rest
    else
      match splitInclusive matched rest with
      | [] => [[c]]
      | segment :: segments => (c :: segment) :: segments

/-- The first of the segments that is more than whitespace and punctuation, trimmed. -/
def nextToken (segments : List Str) : Option Str :=
  (segments.map fun part => trimToken (trimMatches isWhitespace part)).find? fun part => !part.isEmpty

/-- The locals of `redact_fragments`. -/
structure Scan where
  output : Str
  count : Nat
  carry : Carry

def Scan.start : Scan := ⟨[], 0, .start⟩

def Scan.run : Scan → List Str → Scan
  | s, [] => s
  | s, segment :: segments =>
    let turn := s.carry.step segment (nextToken segments)
    Scan.run ⟨s.output ++ turn.text, saturatingAdd s.count turn.count, turn.carry⟩ segments

def redactFragments (input : Str) : Str × Nat :=
  let scan := Scan.start.run (splitInclusive isWhitespace input)
  (scan.output, scan.count)

end Krometrail.Privacy
