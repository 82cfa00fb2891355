import Krometrail.Core.Error
import Krometrail.Core.Values
import Krometrail.Lib.Readers

/-!
# The wire reader

Fixed-width big-endian fields: how each is written (`to_be_bytes`), how `WireReader` reads it back, and that it is
read back unchanged.  A reader is given by its unread bytes.
-/

namespace Krometrail

open BigEndian Readers

def persistenceError (message : String) : KrometrailError := .new .persistenceFailed message

abbrev WireReader (α : Type) : Type := Reader KrometrailError α

def u16Bytes (value : UInt16) : List UInt8 := toBytes 2 value.toNat

def u32Bytes (value : UInt32) : List UInt8 := toBytes 4 value.toNat

def u64Bytes (value : UInt64) : List UInt8 := toBytes 8 value.toNat

def i128Bytes (value : BitVec 128) : List UInt8 := toBytes 16 value.toNat

def readBytes (length : Nat) : WireReader (List UInt8) :=
  take (persistenceError "segment data ended before the declared length") length

def readU8 : WireReader UInt8 := do return (← readBytes 1).headD 0

def readU16 : WireReader UInt16 := do return UInt16.ofNat (ofBytes (← readBytes 2))

def readU32 : WireReader UInt32 := do return UInt32.ofNat (ofBytes (← readBytes 4))

def readU64 : WireReader UInt64 := do return UInt64.ofNat (ofBytes (← readBytes 8))

def readI128 : WireReader (BitVec 128) := do return BitVec.ofNat 128 (ofBytes (← readBytes 16))

/-- Sixteen bytes as a `Uuid`. -/
def uuidOfBytes (bytes : List UInt8) : Result Uuid :=
  if h : bytes.length = 16 then .ok ⟨bytes, h⟩ else .error (persistenceError "segment field has an invalid width")

def readUuid : WireReader Uuid := do uuidOfBytes (← readBytes 16)

@[simp] theorem length_u16Bytes (value : UInt16) : (u16Bytes value).length = 2 := length_toBytes 2 _

@[simp] theorem length_u32Bytes (value : UInt32) : (u32Bytes value).length = 4 := length_toBytes 4 _

@[simp] theorem length_u64Bytes (value : UInt64) : (u64Bytes value).length = 8 := length_toBytes 8 _

@[simp] theorem length_i128Bytes (value : BitVec 128) : (i128Bytes value).length = 16 := length_toBytes 16 _

@[simp] theorem Uuid.length_bytes_eq (uuid : Uuid) : uuid.bytes.length = 16 := uuid.length_bytes

@[simp] theorem ofBytes_u16Bytes (value : UInt16) : UInt16.ofNat (ofBytes (u16Bytes value)) = value := by
  rw [u16Bytes, ofBytes_toBytes_of_lt value.toNat_lt, UInt16.ofNat_toNat]

@[simp] theorem ofBytes_u32Bytes (value : UInt32) : UInt32.ofNat (ofBytes (u32Bytes value)) = value := by
  rw [u32Bytes, ofBytes_toBytes_of_lt value.toNat_lt, UInt32.ofNat_toNat]

@[simp] theorem ofBytes_u64Bytes (value : UInt64) : UInt64.ofNat (ofBytes (u64Bytes value)) = value := by
  rw [u64Bytes, ofBytes_toBytes_of_lt value.toNat_lt, UInt64.ofNat_toNat]

@[simp] theorem ofBytes_i128Bytes (value : BitVec 128) : BitVec.ofNat 128 (ofBytes (i128Bytes value)) = value := by
  rw [i128Bytes, ofBytes_toBytes_of_lt (by have := value.isLt; norm_num at this ⊢; exact this), BitVec.ofNat_toNat,
    BitVec.setWidth_eq]

theorem reads_bytes {length : Nat} {bytes : List UInt8} (h : bytes.length = length) :
    Reads (readBytes length) bytes bytes := reads_take _ h

theorem reads_u8 (value : UInt8) : Reads readU8 [value] value := by
  have h : Reads (readBytes 1) [value] [value] := reads_bytes rfl
  exact h.map fun bytes => bytes.headD 0

theorem reads_u16 (value : UInt16) : Reads readU16 (u16Bytes value) value := by
  have h := (reads_bytes (length_u16Bytes value)).map fun bytes => UInt16.ofNat (ofBytes bytes)
  rwa [ofBytes_u16Bytes] at h

theorem reads_u32 (value : UInt32) : Reads readU32 (u32Bytes value) value := by
  have h := (reads_bytes (length_u32Bytes value)).map fun bytes => UInt32.ofNat (ofBytes bytes)
  rwa [ofBytes_u32Bytes] at h

theorem reads_u64 (value : UInt64) : Reads readU64 (u64Bytes value) value := by
  have h := (reads_bytes (length_u64Bytes value)).map fun bytes => UInt64.ofNat (ofBytes bytes)
  rwa [ofBytes_u64Bytes] at h

theorem reads_i128 (value : BitVec 128) : Reads readI128 (i128Bytes value) value := by
  have h := (reads_bytes (length_i128Bytes value)).map fun bytes => BitVec.ofNat 128 (ofBytes bytes)
  rwa [ofBytes_i128Bytes] at h

theorem reads_uuid (uuid : Uuid) : Reads readUuid uuid.bytes uuid := by
  have hbytes : uuidOfBytes uuid.bytes = .ok uuid := dif_pos uuid.length_bytes
  have h := (reads_bytes uuid.length_bytes).bind (f := fun bytes => liftM (uuidOfBytes bytes)) (reads_lift hbytes)
  rwa [List.append_nil] at h

end Krometrail
