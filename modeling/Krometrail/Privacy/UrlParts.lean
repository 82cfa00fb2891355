import Krometrail.Lib.Results
import Krometrail.Privacy.SanitizedUrl

/-!
# What a sanitized URL keeps

A raw URL is put together from its parts (`RawUrl`): credentials end before the last `@` of the authority, and the
authority before the first slash, backslash, `?` or `#`.  Two admissible URLs whose parts have the same allowlisted facts
are sanitized alike, and what is sanitized passes the constructor again when it is read back.
-/

namespace Krometrail.Privacy

open Results
open Cuts (cutFirst cutLast cutFirst_append cutLast_append cutLast_eq_none cutFirst_tail)

variable {sha256 : List UInt8 → PathDigest} {raw : Str} {url : SanitizedUrl}

/-- The scheme, the credentials, the authority and the path of a URL. -/
structure Located where
  scheme : Str
  credentials : Option Str
  authority : Str
  path : Str
  scheme_plain : ∀ c ∈ scheme, c ≠ ':' ∧ c ≠ '?' ∧ c ≠ '#'
  /-- a file URL has no credentials: what follows its scheme is its path -/
  not_file : schemeOf (toAsciiLowercase scheme) ≠ .file
  credentials_plain : ∀ text ∈ credentials, ∀ c ∈ text, isSlash c = false ∧ c ≠ '?' ∧ c ≠ '#'
  authority_plain : ∀ c ∈ authority, isSlash c = false ∧ c ≠ '@' ∧ c ≠ '?' ∧ c ≠ '#'
  path_plain : ∀ c ∈ path, c ≠ '?' ∧ c ≠ '#'
  path_start : ∀ c ∈ path.head?, isSlash c = true

namespace Located

variable (l : Located)

/-- The credentials with their delimiter, and the authority. -/
def userAuthority : Str := l.credentials.elim [] (· ++ ['@']) ++ l.authority

def text : Str := l.scheme ++ ':' :: ("//".toList ++ (l.userAuthority ++ l.path))

def effectivePath : Str := if l.path = [] then "/".toList else l.path

end Located

/-- What stands before the query of a URL. -/
inductive Locator
  | plain (text : Str) (plain : ∀ c ∈ text, c ≠ '?' ∧ c ≠ '#')
  | located (l : Located)
  | file (scheme path : Str) (isFile : schemeOf (toAsciiLowercase scheme) = .file)
      (scheme_plain : ∀ c ∈ scheme, c ≠ ':' ∧ c ≠ '?' ∧ c ≠ '#') (path_plain : ∀ c ∈ path, c ≠ '?' ∧ c ≠ '#')

def Locator.text : Locator → Str
  | plain text _ => text
  | located l => l.text
  | file scheme path _ _ _ => scheme ++ ':' :: path

structure RawUrl where
  locator : Locator
  query : Option Str
  fragment : Option Str
  query_plain : ∀ text ∈ query, '#' ∉ text

def RawUrl.text (u : RawUrl) : Str := (u.locator.text ++ u.query.elim [] ('?' :: ·)) ++ u.fragment.elim [] ('#' :: ·)

/-- The path of a file URL behind its slashes. -/
def filePath (path : Str) : Str := (stripStart "//".toList path).getD path

/-- The paths have the same digest, segment count and allowlisted extension. -/
structure SamePathFacts (sha256 : List UInt8 → PathDigest) (path path' : Str) : Prop where
  hash : pathHash sha256 path = pathHash sha256 path'
  segments : pathSegmentCount path = pathSegmentCount path'
  extension : allowlistedExtension path = allowlistedExtension path'

/-- The locators differ at most in the contents of their credentials and in paths with the same facts. -/
def Locator.Alike (sha256 : List UInt8 → PathDigest) : Locator → Locator → Prop
  | plain text _, plain text' _ => text = text'
  | located l, located l' => l.scheme = l'.scheme ∧ l.credentials.isSome = l'.credentials.isSome ∧ l.authority = l'.authority ∧
      SamePathFacts sha256 l.effectivePath l'.effectivePath
  | file _ path _ _ _, file _ path' _ _ _ => SamePathFacts sha256 (filePath path) (filePath path')
  | _, _ => False

structure RawUrl.Alike (sha256 : List UInt8 → PathDigest) (u v : RawUrl) : Prop where
  locator : u.locator.Alike sha256 v.locator
  query : u.query.isSome = v.query.isSome
  fragment : u.fragment.isSome = v.fragment.isSome

/-- The text is neither empty nor too long, and has no control characters. -/
structure Admissible (raw : Str) : Prop where
  nonempty : raw ≠ []
  short : byteLength raw ≤ maxUrlInputBytes
  printable : raw.any isControl = false

theorem splitOnceFlag_tail {front : Str} {delimiter : Char} (h : delimiter ∉ front) (tail : Option Str) :
    splitOnceFlag (front ++ tail.elim [] (delimiter :: ·)) delimiter = (front, tail.isSome) := cutFirst_tail h tail

theorem Located.text_plain (l : Located) : ∀ c ∈ l.text, c ≠ '?' ∧ c ≠ '#' := by
  intro c hc
  have hslash : ∀ c ∈ "//".toList, c ≠ '?' ∧ c ≠ '#' := by
    intro c hc
    obtain rfl : c = '/' := by simpa using hc
    decide
  simp only [Located.text, Located.userAuthority, List.mem_append, List.mem_cons] at hc
  rcases hc with hc | rfl | hc | (hc | hc) | hc
  · exact (l.scheme_plain c hc).2
  · decide
  · exact hslash c hc
  · cases hcredentials : l.credentials with
    | none => simp [hcredentials] at hc
    | some text =>
      rw [hcredentials, Option.elim_some, List.mem_append, List.mem_singleton] at hc
      rcases hc with hc | rfl
      · exact (l.credentials_plain text hcredentials c hc).2
      · decide
  · exact (l.authority_plain c hc).2.2
  · exact l.path_plain c hc

theorem Locator.text_plain (locator : Locator) : ∀ c ∈ locator.text, c ≠ '?' ∧ c ≠ '#' := by
  cases locator with
  | plain text plain => exact plain
  | located l => exact l.text_plain
  | file scheme path _ scheme_plain path_plain =>
    intro c hc
    rcases List.mem_append.1 hc with hc | hc
    · exact (scheme_plain c hc).2
    · rcases List.mem_cons.1 hc with rfl | hc
      · decide
      · exact path_plain c hc

theorem sanitize_text (u : RawUrl) (h : Admissible u.text) :
    sanitize sha256 u.text = sanitizeLocator sha256 u.locator.text u.query.isSome u.fragment.isSome := by
  have hplain := u.locator.text_plain
  have hfragment : splitOnceFlag u.text '#' = (u.locator.text ++ u.query.elim [] ('?' :: ·), u.fragment.isSome) := by
    refine splitOnceFlag_tail (fun hmem => ?_) u.fragment
    rcases List.mem_append.1 hmem with hmem | hmem
    · exact (hplain _ hmem).2 rfl
    · cases hquery : u.query with
      | none => simp [hquery] at hmem
      | some text =>
        rw [hquery, Option.elim_some, List.mem_cons] at hmem
        exact u.query_plain text hquery (hmem.resolve_left (by decide))
  have hquery : splitOnceFlag (u.locator.text ++ u.query.elim [] ('?' :: ·)) '?' = (u.locator.text, u.query.isSome) :=
    splitOnceFlag_tail (fun hmem => (hplain _ hmem).1 rfl) u.query
  have hlimit : ¬ (u.text = [] ∨ maxUrlInputBytes < byteLength u.text) := by
    rintro (hempty | hlong)
    · exact h.nonempty hempty
    · exact absurd h.short (not_le.2 hlong)
  have hprintable : ¬ u.text.any isControl = true := by simp [h.printable]
  unfold sanitize
  rw [refuse, if_neg hlimit, refuse, if_neg hprintable, hfragment]
  simp only [hquery]
  rfl

theorem cutFirst_scheme {scheme rest : Str} (h : ∀ c ∈ scheme, c ≠ ':' ∧ c ≠ '?' ∧ c ≠ '#') :
    cutFirst ':' (scheme ++ ':' :: rest) = some (scheme, rest) := cutFirst_append (fun hmem => (h _ hmem).1 rfl) rest

theorem span_authority {authority path : Str} (hauthority : ∀ c ∈ authority, isSlash c = false)
    (hpath : ∀ c ∈ path.head?, isSlash c = true) : ((authority ++ path).takeWhile fun c => !isSlash c) = authority ∧
      ((authority ++ path).dropWhile fun c => !isSlash c) = path := by
  have hall : ∀ c ∈ authority, (!isSlash c) = true := fun c hc => by rw [hauthority c hc]; rfl
  rw [List.takeWhile_append_of_pos hall, List.dropWhile_append_of_pos hall]
  cases path with
  | nil => exact ⟨List.append_nil _, rfl⟩
  | cons c path =>
    have hc : isSlash c = true := hpath c rfl
    simp [hc]

/-- Everything before the last `@` is left out. -/
theorem sanitizeNetwork_located (l : Located) (scheme : SanitizedUrlScheme) (hadQuery hadFragment : Bool) :
    sanitizeNetwork sha256 scheme ("//".toList ++ (l.userAuthority ++ l.path)) hadQuery hadFragment =
      sanitizeAuthority sha256 scheme l.authority l.effectivePath l.credentials.isSome hadQuery hadFragment := by
  have hsafe : '@' ∉ l.authority := fun hmem => (l.authority_plain _ hmem).2.1 rfl
  have hauthority : ∀ c ∈ l.userAuthority, isSlash c = false := by
    intro c hc
    rcases List.mem_append.1 hc with hc | hc
    · cases hcredentials : l.credentials with
      | none => simp [hcredentials] at hc
      | some text =>
        rw [hcredentials, Option.elim_some, List.mem_append, List.mem_singleton] at hc
        rcases hc with hc | rfl
        · exact (l.credentials_plain text hcredentials c hc).1
        · decide
    · exact (l.authority_plain c hc).1
  obtain ⟨htake, hdrop⟩ := span_authority hauthority l.path_start
  have hstrip : stripStart "//".toList ("//".toList ++ (l.userAuthority ++ l.path)) = some (l.userAuthority ++ l.path) := by
    rw [stripStart, if_pos (by simp), List.drop_left]
  unfold sanitizeNetwork
  rw [hstrip, okOr_some, ok_bind, htake, hdrop]
  cases hcredentials : l.credentials with
  | none =>
    have hplain : l.userAuthority = l.authority := by simp [Located.userAuthority, hcredentials]
    rw [hplain]
    dsimp only
    rw [cutLast_eq_none hsafe]
    rfl
  | some text =>
    have huser : l.userAuthority = text ++ '@' :: l.authority := by simp [Located.userAuthority, hcredentials]
    rw [huser]
    dsimp only
    rw [cutLast_append text hsafe]
    rfl

theorem sanitizeAuthority_congr {path path' : Str} (h : SamePathFacts sha256 path path') (scheme : SanitizedUrlScheme)
    (authority : Str) (hadCredentials hadQuery hadFragment : Bool) :
    sanitizeAuthority sha256 scheme authority path hadCredentials hadQuery hadFragment =
      sanitizeAuthority sha256 scheme authority path' hadCredentials hadQuery hadFragment := by
  unfold sanitizeAuthority
  rw [h.hash, h.segments, h.extension]

theorem sanitizeFile_congr {path path' : Str} (h : SamePathFacts sha256 (filePath path) (filePath path'))
    (hadQuery hadFragment : Bool) : sanitizeFile sha256 path hadQuery hadFragment = sanitizeFile sha256 path' hadQuery hadFragment := by
  have hfacts (path : Str) : sanitizeFile sha256 path hadQuery hadFragment =
      SanitizedUrl.fromParts ⟨.file, none, none, some (pathHash sha256 (filePath path)), pathSegmentCount (filePath path),
        allowlistedExtension (filePath path), false, hadQuery, hadFragment, false⟩ := rfl
  rw [hfacts, hfacts, h.hash, h.segments, h.extension]

theorem sanitizeLocator_congr {locator locator' : Locator} (h : locator.Alike sha256 locator') (hadQuery hadFragment : Bool) :
    sanitizeLocator sha256 locator.text hadQuery hadFragment = sanitizeLocator sha256 locator'.text hadQuery hadFragment := by
  match locator, locator', h with
  | .plain _ _, .plain _ _, h =>
    have heq : _ = _ := h
    rw [Locator.text, Locator.text, heq]
  | .located l, .located l', h =>
    obtain ⟨hscheme, hcredentials, hauthority, hpath⟩ := h
    have hnetwork (scheme : SanitizedUrlScheme) :
        sanitizeNetwork sha256 scheme ("//".toList ++ (l.userAuthority ++ l.path)) hadQuery hadFragment =
          sanitizeNetwork sha256 scheme ("//".toList ++ (l'.userAuthority ++ l'.path)) hadQuery hadFragment := by
      rw [sanitizeNetwork_located, sanitizeNetwork_located, hcredentials, hauthority, sanitizeAuthority_congr hpath]
    have hfile := l'.not_file
    unfold sanitizeLocator
    rw [Locator.text, Locator.text, Located.text, Located.text, cutFirst_scheme l.scheme_plain, cutFirst_scheme l'.scheme_plain]
    dsimp only
    rw [hscheme]
    cases hkind : schemeOf (toAsciiLowercase l'.scheme) with
    | http | https | ws | wss => exact hnetwork _
    | file => exact absurd hkind hfile
    | data | blob | other => rfl
  | .file _ path isFile plain _, .file _ path' isFile' plain' _, h =>
    have hfacts : SamePathFacts sha256 (filePath path) (filePath path') := h
    unfold sanitizeLocator
    rw [Locator.text, Locator.text, cutFirst_scheme plain, cutFirst_scheme plain']
    dsimp only
    rw [isFile, isFile']
    exact sanitizeFile_congr hfacts hadQuery hadFragment

theorem SanitizedUrl.fromParts_eq_ok {parts : SanitizedUrl} (h : parts.fromParts = .ok url) : url = parts := by
  simp only [SanitizedUrl.fromParts, bind_eq_ok, pure_eq_ok] at h
  obtain ⟨-, -, -, -, -, -, -, -, rfl⟩ := h
  rfl

theorem SanitizedUrl.fromParts_again {parts : SanitizedUrl} (h : parts.fromParts = .ok url) : url.fromParts = .ok url := by
  obtain rfl := SanitizedUrl.fromParts_eq_ok h
  exact h

theorem sanitizeNetwork_again {scheme : SanitizedUrlScheme} {remainder : Str} {hadQuery hadFragment : Bool}
    (h : sanitizeNetwork sha256 scheme remainder hadQuery hadFragment = .ok url) : url.fromParts = .ok url := by
  have hauthority {authority path : Str} {hadCredentials : Bool}
      (hok : sanitizeAuthority sha256 scheme authority path hadCredentials hadQuery hadFragment = .ok url) :
      url.fromParts = .ok url := by
    simp only [sanitizeAuthority, bind_eq_ok] at hok
    obtain ⟨_, -, _, -, hparts⟩ := hok
    exact SanitizedUrl.fromParts_again hparts
  obtain ⟨rest, -, h⟩ := bind_eq_ok.1 h
  dsimp only at h
  split at h <;> exact hauthority h

theorem sanitize_again (h : sanitize sha256 raw = .ok url) : url.fromParts = .ok url := by
  have hlocator {withoutQuery : Str} {hadQuery hadFragment : Bool}
      (h : sanitizeLocator sha256 withoutQuery hadQuery hadFragment = .ok url) : url.fromParts = .ok url := by
    unfold sanitizeLocator at h
    cases hcut : cutFirst ':' withoutQuery with
    | none =>
      rw [hcut] at h
      exact SanitizedUrl.fromParts_again h
    | some cut =>
      rw [hcut] at h
      dsimp only at h
      cases hkind : schemeOf (toAsciiLowercase cut.1) with
      | http | https | ws | wss =>
        rw [hkind] at h
        exact sanitizeNetwork_again h
      | file | data | blob | other =>
        rw [hkind] at h
        exact SanitizedUrl.fromParts_again h
  simp only [sanitize, bind_eq_ok] at h
  obtain ⟨-, -, -, -, h⟩ := h
  exact hlocator h

theorem hexByte_spec (byte : UInt8) : ∃ high low, hexByte byte = [high, low] ∧ isHexDigit high = true ∧ isHexDigit low = true ∧
    UInt8.ofNat (nibble high * 16 + nibble low) = byte := by
  have hall : ∀ n < 16, isHexDigit (hexDigits.getD n '0') = true ∧ nibble (hexDigits.getD n '0') = n := by decide
  have hlt := byte.toNat_lt
  obtain ⟨hhigh, hhighNibble⟩ := hall (byte.toNat / 16) (by omega)
  obtain ⟨hlow, hlowNibble⟩ := hall (byte.toNat % 16) (by omega)
  refine ⟨_, _, rfl, hhigh, hlow, ?_⟩
  rw [hhighNibble, hlowNibble, Nat.div_add_mod']
  exact UInt8.ofNat_toNat

theorem serialize_spec (bytes : List UInt8) : hexPairs (bytes.flatMap hexByte) = bytes ∧
    (bytes.flatMap hexByte).length = bytes.length * 2 ∧ (bytes.flatMap hexByte).all isHexDigit = true := by
  induction bytes with
  | nil => exact ⟨rfl, rfl, rfl⟩
  | cons byte bytes ih =>
    obtain ⟨hpairs, hlength, hdigits⟩ := ih
    obtain ⟨high, low, hbyte, hhigh, hlow, hvalue⟩ := hexByte_spec byte
    have hcons : (byte :: bytes).flatMap hexByte = high :: low :: bytes.flatMap hexByte := by
      rw [List.flatMap_cons, hbyte]
      rfl
    refine ⟨?_, ?_, ?_⟩
    · rw [hcons, hexPairs, hvalue, hpairs]
    · rw [hcons, List.length_cons, List.length_cons, List.length_cons, hlength]
      omega
    · rw [hcons]
      simp only [List.all_cons, hhigh, hlow, hdigits, Bool.and_self]

theorem PathDigest.deserialize_serialize (digest : PathDigest) : deserialize digest.serialize = .ok digest := by
  obtain ⟨hpairs, hlength, hdigits⟩ := serialize_spec digest.bytes
  rw [digest.length_bytes] at hlength
  unfold deserialize
  rw [dif_pos (show digest.serialize.length = 64 ∧ digest.serialize.all isHexDigit = true from ⟨hlength, hdigits⟩)]
  cases digest
  congr

theorem SanitizedUrl.deserialize_serialize (h : url.fromParts = .ok url) : url.serialize.deserialize = .ok url := by
  have hdigest : deserializeOptionalDigest (url.pathSha256.map PathDigest.serialize) = .ok url.pathSha256 := by
    cases url.pathSha256 with
    | none => rfl
    | some digest =>
      rw [Option.map_some, deserializeOptionalDigest, PathDigest.deserialize_serialize]
      rfl
  rw [SanitizedUrlWire.deserialize, SanitizedUrl.serialize, hdigest]
  exact h

/-- Admissible URLs with the same allowlisted facts are sanitized alike, and every result is read back as it is. -/
theorem sanitize_keeps_allowlisted (sha256 : List UInt8 → PathDigest) :
    (∀ u v : RawUrl, u.Alike sha256 v → Admissible u.text → Admissible v.text →
      sanitize sha256 u.text = sanitize sha256 v.text) ∧
    ∀ (raw : Str) (url : SanitizedUrl), sanitize sha256 raw = .ok url → url.serialize.deserialize = .ok url := by
  refine ⟨fun u v halike hu hv => ?_, fun raw url h => SanitizedUrl.deserialize_serialize (sanitize_again h)⟩
  rw [sanitize_text u hu, sanitize_text v hv, halike.query, halike.fragment, sanitizeLocator_congr halike.locator]

/-- A network URL at one host, with the credentials. -/
def hostUrl (credentials : Str) (plain : ∀ c ∈ credentials, isSlash c = false ∧ c ≠ '?' ∧ c ≠ '#') : RawUrl where
  locator := .located
    { scheme := ['w', 's'], credentials := some credentials, authority := ['h'], path := []
      scheme_plain := by simp
      not_file := by decide +kernel
      credentials_plain := fun text htext => by
        cases htext
        exact plain
      authority_plain := by simp [isSlash]
      path_plain := nofun
      path_start := nofun }
  query := none
  fragment := none
  query_plain := nofun

def zeroDigest (_ : List UInt8) : PathDigest := ⟨List.replicate 32 0, rfl⟩

/-- A control character in the credentials makes one of two URLs fail that differ in nothing else. -/
theorem control_character_tells_apart : ∃ u v : RawUrl, u.Alike zeroDigest v ∧ (∃ url, sanitize zeroDigest u.text = .ok url) ∧
    ∃ error, sanitize zeroDigest v.text = .error error := by
  refine ⟨hostUrl ['a'] (by simp [isSlash]), hostUrl ['\x01'] (by simp [isSlash]), ⟨⟨rfl, rfl, rfl, rfl, rfl, rfl⟩, rfl, rfl⟩, ?_, ?_⟩
  · exact ⟨⟨.ws, some "ws://h".toList, none, some (zeroDigest []), 0, none, true, false, false, false⟩, by decide +kernel⟩
  · exact ⟨invalid "browser event URL contains control characters", by decide +kernel⟩

end Krometrail.Privacy
