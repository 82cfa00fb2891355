import Krometrail.Core.Values

/-!
# UUIDs as text

How a UUID is displayed, in lower case with hyphens, and what `Uuid::parse_str` reads: the digits alone, with the hyphens,
with braces around them or as a URN.  What is displayed is read back.
-/

namespace Krometrail.UuidText

def hexByte (byte : UInt8) : List Char := [Nat.digitChar (byte.toNat / 16), Nat.digitChar (byte.toNat % 16)]

/-- `Display`. -/
def hyphenated (uuid : Uuid) : List Char :=
  let hex (start count : Nat) := ((uuid.bytes.drop start).take count).flatMap hexByte
  hex 0 4 ++ '-' :: hex 4 2 ++ '-' :: hex 6 2 ++ '-' :: hex 8 2 ++ '-' :: hex 10 6

def digitValue (c : Char) : Option Nat :=
  if '0' ≤ c ∧ c ≤ '9' then some (c.toNat - 48)
  else if 'a' ≤ c ∧ c ≤ 'f' then some (c.toNat - 87)
  else if 'A' ≤ c ∧ c ≤ 'F' then some (c.toNat - 55)
  else none

def bytesOf : List Char → Option (List UInt8)
  | [] => some []
  | [_] => none
  | high :: low :: rest => do
    let high ← digitValue high
    let low ← digitValue low
    return UInt8.ofNat (16 * high + low) :: (← bytesOf rest)

def parseSimple (text : List Char) : Option Uuid :=
  (bytesOf text).bind fun bytes => if h : bytes.length = 16 then some ⟨bytes, h⟩ else none

def parseHyphenated (text : List Char) : Option Uuid :=
  if text.length = 36 ∧ [8, 13, 18, 23].all fun position => text[position]? = some '-' then
    parseSimple (text.take 8 ++ (text.drop 9).take 4 ++ (text.drop 14).take 4 ++ (text.drop 19).take 4 ++ text.drop 24)
  else none

/-- `Uuid::parse_str`. -/
def parse (text : List Char) : Option Uuid :=
  if text.length = 32 then parseSimple text
  else if text.length = 36 then parseHyphenated text
  else if text.length = 38 ∧ text.head? = some '\x7b' ∧ text.getLast? = some '\x7d' then parseHyphenated text.tail.dropLast
  else if text.length = 45 ∧ "urn:uuid:".toList.isPrefixOf text then parseHyphenated (text.drop 9)
  else none

theorem digitValue_digitChar : ∀ n < 16, digitValue (Nat.digitChar n) = some n := by decide

theorem bytesOf_flatMap (bytes : List UInt8) : bytesOf (bytes.flatMap hexByte) = some bytes := by
  induction bytes with
  | nil => rfl
  | cons byte bytes ih =>
    have hlt := byte.toNat_lt
    have hbyte : UInt8.ofNat (16 * (byte.toNat / 16) + byte.toNat % 16) = byte := by
      rw [Nat.div_add_mod, UInt8.ofNat_toNat]
    have hhigh := digitValue_digitChar (byte.toNat / 16) (by omega)
    have hlow := digitValue_digitChar (byte.toNat % 16) (Nat.mod_lt _ (by decide))
    change (do
      let high ← digitValue (Nat.digitChar (byte.toNat / 16))
      let low ← digitValue (Nat.digitChar (byte.toNat % 16))
      return UInt8.ofNat (16 * high + low) :: (← bytesOf (bytes.flatMap hexByte))) = _
    rw [hhigh, hlow, ih]
    exact congrArg (fun byte => some (byte :: bytes)) hbyte

theorem length_hyphenated (uuid : Uuid) : (hyphenated uuid).length = 36 := by
  obtain ⟨bytes, h⟩ := uuid
  match bytes, h with
  | [_, _, _, _, _, _, _, _, _, _, _, _, _, _, _, _], _ => rfl

theorem parse_hyphenated (uuid : Uuid) : parse (hyphenated uuid) = some uuid := by
  have hlength := length_hyphenated uuid
  have hparse : parse (hyphenated uuid) = parseHyphenated (hyphenated uuid) := by
    rw [parse, if_neg (by omega), if_pos hlength]
  rw [hparse]
  obtain ⟨bytes, h⟩ := uuid
  have hbytes := bytesOf_flatMap bytes
  match bytes, h with
  | [b0, b1, b2, b3, b4, b5, b6, b7, b8, b9, b10, b11, b12, b13, b14, b15], h =>
    rw [parseHyphenated, if_pos ⟨hlength, rfl⟩]
    change (bytesOf ([b0, b1, b2, b3, b4, b5, b6, b7, b8, b9, b10, b11, b12, b13, b14, b15].flatMap hexByte)).bind _ = _
    rw [hbytes]
    rfl

end Krometrail.UuidText
