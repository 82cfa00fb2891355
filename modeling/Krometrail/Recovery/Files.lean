import Krometrail.Index.Registration

/-!
# Recovering segment files

What startup recovery makes of one segment file: which of its records it keeps, the footer that belongs to them, and
the file that is written where the two do not agree.  A directory holds at most one file of each name; files whose
names are not of segments are left alone and left out.
-/

namespace Krometrail

open Relations

/-- The extensions `.open`, `.kts` and `.corrupt`. -/
inductive SegmentExtension where
  | opened | sealed | quarantined
  deriving DecidableEq

structure SegmentFile where
  segmentId : SegmentId
  extension : SegmentExtension
  bytes : List UInt8

namespace SegmentFile

def name (file : SegmentFile) : SegmentId × SegmentExtension := (file.segmentId, file.extension)

/-- A publication that recovery owns. -/
def IsPublished (file : SegmentFile) : Prop := file.extension ≠ .quarantined

instance (file : SegmentFile) : Decidable file.IsPublished := inferInstanceAs (Decidable (_ ≠ _))

end SegmentFile

/-- The segment files of the recording root. -/
abbrev Directory : Type := Relation SegmentFile.name

namespace Directory

/-- `fs::rename` within a segment, over whatever has the new name. -/
def rename (segmentId : SegmentId) (source destination : SegmentExtension) (directory : Directory) : Directory :=
  match directory.find? (segmentId, source) with
  | some file => (directory.delete fun file => file.name = (segmentId, source)).upsert { file with extension := destination }
  | none => directory

/-- `set_len` and what is then written at the end. -/
def rewrite (file : SegmentFile) (recordEnd : Nat) (tail : List UInt8) (directory : Directory) : Directory :=
  directory.upsert { file with bytes := file.bytes.take recordEnd ++ tail }

/-- The published files, by ascending identifier. -/
def published (directory : Directory) : List SegmentFile :=
  (directory.rows.filter fun file => file.IsPublished).insertionSort fun a b => a.segmentId ≤ b.segmentId

def discover (directory : Directory) : Result (List SegmentFile) :=
  if (directory.published.map (·.segmentId)).Nodup then .ok directory.published
  else .error (persistenceError "multiple segment publications use the same identifier")

end Directory

structure RecoveredRecord where
  span : RecordSpan
  frame : EncodedFrame
  deriving DecidableEq

structure Analysis where
  header : SegmentHeader
  records : List RecoveredRecord
  footer : SealedFooter
  recordEnd : Nat
  footerIsExact : Bool
  repairAt : Option Nat
  originalLen : Nat

inductive FileAnalysisError where
  | corruptHeader
  | operational (error : KrometrailError)

/-- The records that are read back, up to the first one that is not, and the offset of that one. -/
def readRecords (crc : Crc32) (bytes : List UInt8) (segmentId : SegmentId) :
    List RecordSpan → List RecoveredRecord × Option Nat
  | [] => ([], none)
  | span :: spans =>
    match readFrameAt crc bytes ⟨segmentId, span.byteOffset⟩ with
    | .ok frame =>
      let rest := readRecords crc bytes segmentId spans
      (⟨span, frame⟩ :: rest.1, rest.2)
    | .error _ => ([], some span.byteOffset)

def Trailing.repairAt : Trailing → Option Nat
  | .clean => none
  | .incomplete offset | .corrupt offset => some offset

/-- `total_payload` of the records. -/
def payloadOf (records : List RecoveredRecord) : Option Nat :=
  records.foldlM (fun total record => checkedAdd total record.span.payloadLen) 0

def recordEndOf (records : List RecoveredRecord) : Nat :=
  records.getLast?.elim segmentHeaderLen fun record => record.span.byteOffset + record.span.encodedLen

/-- The footer that belongs to the records of a segment. -/
def recoveredFooter (header : SegmentHeader) (records : List RecoveredRecord) (totalPayload : Nat) : SealedFooter where
  segmentId := header.segmentId
  recordCount := UInt64.ofNat records.length
  totalPayload := UInt64.ofNat totalPayload
  firstSessionTime := records.head?.elim header.startSessionTime (·.frame.metadata.sessionTime)
  lastSessionTime := records.getLast?.elim header.startSessionTime (·.frame.metadata.sessionTime)
  sealedObserved := records.getLast?.elim header.createdObserved (·.frame.metadata.observedTime)

def operational {α : Type} (value : Option α) (message : String) : Except FileAnalysisError α :=
  match value with
  | some a => .ok a
  | none => .error (.operational (persistenceError message))

/-- `map_err(|_| FileAnalysisError::CorruptHeader)`. -/
def corruptHeader {α : Type} (result : Result α) : Except FileAnalysisError α :=
  result.mapError fun _ => .corruptHeader

/-- The bytes behind the records are the footer. -/
def footerIsExact (crc : Crc32) (bytes : List UInt8) (recordEnd : Nat) (footer : SealedFooter) : Bool :=
  bytes.length = recordEnd + sealedFooterLen &&
    match SealedFooter.decode crc (bytes.drop recordEnd) with
    | .ok stored => stored = footer
    | .error _ => false

def analyzeFile (crc : Crc32) (file : SegmentFile) : Except FileAnalysisError Analysis := do
  let bytes := file.bytes
  if bytes.length < segmentHeaderLen then .error .corruptHeader else do
  let header ← corruptHeader (SegmentHeader.decode crc (bytes.take segmentHeaderLen))
  if header.segmentId ≠ file.segmentId then .error .corruptHeader else do
  let scan ← corruptHeader (scanCompleteRecords crc bytes)
  let (records, semanticCorruption) := readRecords crc bytes header.segmentId scan.records
  let repairAt := semanticCorruption.or scan.trailing.repairAt
  let recordEnd := recordEndOf records
  let totalPayload ← operational (payloadOf records) "recovered segment payload count overflow"
  let _ ← operational (checkedAdd records.length 0) "recovered segment record count overflow"
  let footer := recoveredFooter header records totalPayload
  return {
    header, records, footer, recordEnd, repairAt
    footerIsExact := repairAt.isNone && footerIsExact crc bytes recordEnd footer
    originalLen := bytes.length }

structure NormalizedSegment where
  registration : SegmentRegistration
  records : List RecoveredRecord
  repaired : Bool
  repairAt : Option Nat
  bytesTruncated : Nat

namespace Analysis

/-- The registration of a segment that has been recovered. -/
def registration (analysis : Analysis) : SegmentRegistration where
  segmentId := analysis.header.segmentId
  sessionId := analysis.header.sessionId
  targetId := analysis.header.targetId
  state := .sealed
  startTime := analysis.header.startSessionTime
  endTime := some analysis.footer.lastSessionTime
  fileBytes := analysis.recordEnd + sealedFooterLen
  payloadBytes := analysis.footer.totalPayload.toNat
  recordCount := analysis.footer.recordCount.toNat

end Analysis

def normalizeFile (crc : Crc32) (file : SegmentFile) (analysis : Analysis) (directory : Directory) :
    Result (Directory × NormalizedSegment) := do
  let mustWriteFooter := !analysis.footerIsExact
  let bytesTruncated := if mustWriteFooter then analysis.originalLen - analysis.recordEnd else 0
  let directory :=
    if mustWriteFooter then directory.rewrite file analysis.recordEnd (analysis.footer.encode crc) else directory
  let directory := if file.extension = .opened then directory.rename file.segmentId .opened .sealed else directory
  let _ ← okOr (checkedAdd analysis.recordEnd sealedFooterLen) (persistenceError "recovered segment length overflow")
  return (directory, {
    registration := analysis.registration
    records := analysis.records
    repaired := file.extension = .sealed && mustWriteFooter
    repairAt := analysis.repairAt
    bytesTruncated })

def quarantine (file : SegmentFile) (directory : Directory) : Directory :=
  directory.rename file.segmentId file.extension .quarantined

end Krometrail
