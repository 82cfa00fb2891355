import Krometrail.Lib.Cuts
import Krometrail.Privacy.RedactedText
import Krometrail.Timeline.Ranges

/-!
# Sanitized URLs

`SanitizedUrl::sanitize` cuts a raw URL at its delimiters and keeps its scheme, the origin and the port, what is allowlisted
of the path, and whether there were credentials, a query and a fragment.  The hash of a path is a parameter.
-/

namespace Krometrail.Privacy

open Cuts (cutFirst cutLast)

inductive SanitizedUrlScheme
  | http | https | ws | wss | file | data | blob | other
  deriving DecidableEq

structure PathDigest where
  bytes : List UInt8
  length_bytes : bytes.length = 32
  deriving DecidableEq

structure SanitizedUrl where
  scheme : SanitizedUrlScheme
  origin : Option Str
  nonDefaultPort : Option Nat
  pathSha256 : Option PathDigest
  pathSegmentCount : Nat
  extension : Option Str
  hadCredentials : Bool
  hadQuery : Bool
  hadFragment : Bool
  fullyRedacted : Bool
  deriving DecidableEq

def maxUrlInputBytes : Nat := 32 * 1024

def maxOriginBytes : Nat := 512

def isControl (c : Char) : Bool := c.toNat < 0x20 || (0x7f ≤ c.toNat && c.toNat ≤ 0x9f)

def isSlash (c : Char) : Bool := c = '/' || c = '\\'

/-- `str::strip_prefix`. -/
def stripStart (start value : Str) : Option Str := if start.isPrefixOf value then some (value.drop start.length) else none

def splitOnceFlag (value : Str) (delimiter : Char) : Str × Bool :=
  ((cutFirst delimiter value).map fun cut => (cut.1, true)).getD (value, false)

/-- `str::parse::<u16>`. -/
def parseU16 (text : Str) : Option Nat :=
  let digits : Str := match text with
    | '+' :: rest => rest
    | _ => text
  let value := digits.foldl (fun value c => value * 10 + (c.toNat - 48)) 0
  if digits ≠ [] ∧ digits.all Char.isDigit = true ∧ value ≤ 65535 then some value else none

/-- The scheme of a name in lower case. -/
def schemeOf (name : Str) : SanitizedUrlScheme :=
  if name = "http".toList then .http
  else if name = "https".toList then .https
  else if name = "ws".toList then .ws
  else if name = "wss".toList then .wss
  else if name = "file".toList then .file
  else if name = "data".toList then .data
  else if name = "blob".toList then .blob
  else .other

def networkSchemeName : SanitizedUrlScheme → Option Str
  | .http => some "http".toList
  | .https => some "https".toList
  | .ws => some "ws".toList
  | .wss => some "wss".toList
  | _ => none

def defaultPort : SanitizedUrlScheme → Option Nat
  | .http | .ws => some 80
  | .https | .wss => some 443
  | _ => none

def isValidOriginAuthority (authority : Str) : Bool :=
  if authority = [] || authority.any (fun c => c = '@' || isSlash c || c = '?' || c = '#') || authority.any isWhitespace then false
  else if authority.head? = some '[' then
    authority.getLast? = some ']' && 2 < byteLength authority && !(authority.tail.dropLast.any fun c => c = '[' || c = ']')
  else !authority.any (· = ':')

def splitHostPort (authority : Str) : Result (Str × Option Nat) :=
  if authority.head? = some '[' then do
    let (front, suffix) ← okOr (cutFirst ']' authority) (invalid "network URL has an invalid IPv6 host")
    let host := front ++ [']']
    match suffix with
    | [] => return (host, none)
    | ':' :: port => do
      let port ← okOr (parseU16 port) (invalid "network URL port is invalid")
      return (host, some port)
    | _ => .error (invalid "network URL authority is invalid")
  else if 1 < authority.count ':' then .error (invalid "network URL IPv6 hosts must be bracketed")
  else
    match cutLast ':' authority with
    | some (host, port) => do
      let port ← okOr (parseU16 port) (invalid "network URL port is invalid")
      return (host, some port)
    | none => return (authority, none)

/-- `path_hash`, of the bytes of the path. -/
def pathHash (sha256 : List UInt8 → PathDigest) (path : Str) : PathDigest := sha256 (path.flatMap String.utf8EncodeChar)

def pathSegmentCount (path : Str) : Nat := min ((path.splitOnP isSlash).filter (· ≠ [])).length 65535

def allowlistedExtensions : List String := [
  "html", "htm", "css", "js", "mjs", "cjs", "json", "xml", "txt", "png", "jpg", "jpeg", "gif", "webp", "svg", "ico", "avif",
  "wasm", "woff", "woff2", "ttf", "otf", "mp3", "mp4", "webm", "wav", "pdf", "map"]

def isAllowlistedExtension (extension : Str) : Bool := allowlistedExtensions.any fun allowed => allowed.toList = extension

def allowlistedExtension (path : Str) : Option Str := do
  let basename := (path.reverse.takeWhile fun c => !isSlash c).reverse
  let cut ← cutLast '.' basename
  let extension := toAsciiLowercase cut.2
  if isAllowlistedExtension extension then some extension else none

namespace SanitizedUrl

variable (url : SanitizedUrl)

/-- The fields agree with the scheme. -/
def shapeIsValid : Bool :=
  match url.scheme with
  | .http | .https | .ws | .wss => url.origin.isSome && url.pathSha256.isSome && !url.fullyRedacted
  | .file => url.origin.isNone && url.nonDefaultPort.isNone && url.pathSha256.isSome && !url.fullyRedacted
  | .data | .blob | .other =>
    url.origin.isNone && url.nonDefaultPort.isNone && url.pathSha256.isNone && url.pathSegmentCount = 0 &&
      url.extension.isNone && url.fullyRedacted

def checkOrigin (origin : Str) : Result Unit := do
  let expectedScheme ← okOr (networkSchemeName url.scheme) (invalid "only network URLs may retain an origin")
  let authority ← okOr (stripStart (expectedScheme ++ "://".toList) origin)
    (invalid "sanitized URL origin does not agree with its scheme")
  refuse (maxOriginBytes < byteLength origin ∨ origin ≠ toAsciiLowercase origin ∨ isValidOriginAuthority authority = false)
    (invalid "sanitized URL origin is invalid")

def checkOptionalOrigin : Option Str → Result Unit
  | some origin => url.checkOrigin origin
  | none => .ok ()

/-- `from_parts`, of the parts as they stand in the URL that it makes of them. -/
def fromParts : Result SanitizedUrl := do
  url.checkOptionalOrigin url.origin
  refuse (url.nonDefaultPort = some 0 ∨ (url.nonDefaultPort.isSome = true ∧ url.nonDefaultPort = defaultPort url.scheme))
    (invalid "sanitized URL non-default port is invalid for its scheme")
  refuse (∃ extension ∈ url.extension, isAllowlistedExtension extension = false ∨ extension ≠ toAsciiLowercase extension)
    (invalid "sanitized URL extension is not allowlisted")
  refuse (url.shapeIsValid = false) (invalid "sanitized URL fields do not agree with its scheme")
  return url

end SanitizedUrl

def makeFullyRedacted (scheme : SanitizedUrlScheme) (hadQuery hadFragment : Bool) : Result SanitizedUrl :=
  SanitizedUrl.fromParts ⟨scheme, none, none, none, 0, none, false, hadQuery, hadFragment, true⟩

section Sanitize

variable (sha256 : List UInt8 → PathDigest)

/-- `sanitize_network` behind the credentials. -/
def sanitizeAuthority (scheme : SanitizedUrlScheme) (authority path : Str) (hadCredentials hadQuery hadFragment : Bool) :
    Result SanitizedUrl := do
  let (host, port) ← splitHostPort authority
  let host := toAsciiLowercase host
  refuse (host = [] ∨ maxOriginBytes < byteLength host ∨
      host.any (fun c => isWhitespace c || c = '@' || isSlash c || c = '?' || c = '#') = true)
    (invalid "network URL has an invalid host")
  SanitizedUrl.fromParts
    { scheme
      origin := (networkSchemeName scheme).map (· ++ "://".toList ++ host)
      nonDefaultPort := port.filter (some · ≠ defaultPort scheme)
      pathSha256 := some (pathHash sha256 path)
      pathSegmentCount := pathSegmentCount path
      extension := allowlistedExtension path
      hadCredentials, hadQuery, hadFragment
      fullyRedacted := false }

def sanitizeNetwork (scheme : SanitizedUrlScheme) (remainder : Str) (hadQuery hadFragment : Bool) : Result SanitizedUrl := do
  let remainder ← okOr (stripStart "//".toList remainder) (invalid "network URL does not contain an authority")
  let authority := remainder.takeWhile fun c => !isSlash c
  let rest := remainder.dropWhile fun c => !isSlash c
  let path := if rest = [] then "/".toList else rest
  match cutLast '@' authority with
  | some (_, safeAuthority) => sanitizeAuthority sha256 scheme safeAuthority path true hadQuery hadFragment
  | none => sanitizeAuthority sha256 scheme authority path false hadQuery hadFragment

def sanitizeFile (remainder : Str) (hadQuery hadFragment : Bool) : Result SanitizedUrl :=
  let path := (stripStart "//".toList remainder).getD remainder
  SanitizedUrl.fromParts ⟨.file, none, none, some (pathHash sha256 path), pathSegmentCount path, allowlistedExtension path, false,
    hadQuery, hadFragment, false⟩

/-- `sanitize` before the query. -/
def sanitizeLocator (withoutQuery : Str) (hadQuery hadFragment : Bool) : Result SanitizedUrl :=
  match cutFirst ':' withoutQuery with
  | none => makeFullyRedacted .other hadQuery hadFragment
  | some (rawScheme, remainder) =>
    match schemeOf (toAsciiLowercase rawScheme) with
    | .http => sanitizeNetwork sha256 .http remainder hadQuery hadFragment
    | .https => sanitizeNetwork sha256 .https remainder hadQuery hadFragment
    | .ws => sanitizeNetwork sha256 .ws remainder hadQuery hadFragment
    | .wss => sanitizeNetwork sha256 .wss remainder hadQuery hadFragment
    | .file => sanitizeFile sha256 remainder hadQuery hadFragment
    | .data => makeFullyRedacted .data hadQuery hadFragment
    | .blob => makeFullyRedacted .blob hadQuery hadFragment
    | .other => makeFullyRedacted .other hadQuery hadFragment

def sanitize (raw : Str) : Result SanitizedUrl := do
  refuse (raw = [] ∨ maxUrlInputBytes < byteLength raw) (invalid "browser event URL is empty or exceeds its input limit")
  refuse (raw.any isControl = true) (invalid "browser event URL contains control characters")
  let (withoutFragment, hadFragment) := splitOnceFlag raw '#'
  let (withoutQuery, hadQuery) := splitOnceFlag withoutFragment '?'
  sanitizeLocator sha256 withoutQuery hadQuery hadFragment

end Sanitize

def hexDigits : Str := "0123456789abcdef".toList

/-- A byte in two hexadecimal digits. -/
def hexByte (byte : UInt8) : Str := [hexDigits.getD (byte.toNat / 16) '0', hexDigits.getD (byte.toNat % 16) '0']

def isHexDigit (c : Char) : Bool := c.isDigit || ('a' ≤ c && c ≤ 'f')

def nibble (c : Char) : Nat := if c.isDigit then c.toNat - 48 else if 'a' ≤ c && c ≤ 'f' then c.toNat - 97 + 10 else 0

/-- `chunks_exact(2)`, each chunk as a byte. -/
def hexPairs : Str → List UInt8
  | high :: low :: rest => UInt8.ofNat (nibble high * 16 + nibble low) :: hexPairs rest
  | _ => []

theorem length_hexPairs (text : Str) : (hexPairs text).length = text.length / 2 := by
  induction text using hexPairs.induct with
  | case1 high low rest ih =>
    rw [hexPairs, List.length_cons, ih]
    simp only [List.length_cons]
    omega
  | case2 text hshort =>
    match text with
    | [] | [_] => simp [hexPairs]
    | high :: low :: rest => exact absurd rfl (hshort high low rest)

/-- `Sha256Digest`'s `Display` and its `Serialize`. -/
def PathDigest.serialize (digest : PathDigest) : Str := digest.bytes.flatMap hexByte

def PathDigest.deserialize (text : Str) : Result PathDigest :=
  if h : text.length = 64 ∧ text.all isHexDigit = true then
    .ok ⟨hexPairs text, by rw [length_hexPairs, h.1]⟩
  else .error (invalid "SHA-256 must be 64 lowercase hexadecimal characters")

/-- A `SanitizedUrlWire`. -/
structure SanitizedUrlWire where
  scheme : SanitizedUrlScheme
  origin : Option Str
  nonDefaultPort : Option Nat
  pathSha256 : Option Str
  pathSegmentCount : Nat
  extension : Option Str
  hadCredentials : Bool
  hadQuery : Bool
  hadFragment : Bool
  fullyRedacted : Bool

def SanitizedUrl.serialize (url : SanitizedUrl) : SanitizedUrlWire :=
  ⟨url.scheme, url.origin, url.nonDefaultPort, url.pathSha256.map PathDigest.serialize, url.pathSegmentCount, url.extension,
    url.hadCredentials, url.hadQuery, url.hadFragment, url.fullyRedacted⟩

def deserializeOptionalDigest : Option Str → Result (Option PathDigest)
  | some text => (PathDigest.deserialize text).map some
  | none => .ok none

def SanitizedUrlWire.deserialize (wire : SanitizedUrlWire) : Result SanitizedUrl := do
  let pathSha256 ← deserializeOptionalDigest wire.pathSha256
  SanitizedUrl.fromParts ⟨wire.scheme, wire.origin, wire.nonDefaultPort, pathSha256, wire.pathSegmentCount, wire.extension,
    wire.hadCredentials, wire.hadQuery, wire.hadFragment, wire.fullyRedacted⟩

end Krometrail.Privacy
