import Krometrail.Recovery.Settled

/-!
# Startup recovery

`recover` brings the segment files and the index to one view: it seals the files that were left open, goes through
every segment that either side knows by ascending identifier, and settles the segment accounting last.  A file
operation or a transaction that fails ends the pass with its error; what such a pass leaves is another recording root.
-/

namespace Krometrail

open Relations

structure RecoveryReport where
  openSegmentsSealed : Nat := 0
  segmentsRepaired : Nat := 0
  segmentsQuarantined : Nat := 0
  segmentsRemoved : Nat := 0
  bytesTruncated : Nat := 0
  framesRecovered : Nat := 0
  framesRemoved : Nat := 0
  usageRowsReconciled : Nat := 0
  deriving DecidableEq

structure RecordingRoot where
  directory : Directory
  index : SqliteIndex

def RecoveryReport.addTruncated (report : RecoveryReport) (bytesTruncated : Nat) : Result RecoveryReport := do
  let bytesTruncated ← okOr (checkedAdd report.bytesTruncated bytesTruncated)
    (persistenceError "recovery byte count overflow")
  return { report with bytesTruncated }

def RecoveryReport.addRepair (report : RecoveryReport) (normalized : NormalizedSegment) : Result RecoveryReport :=
  if normalized.repaired then
    ({ report with segmentsRepaired := report.segmentsRepaired + 1 }).addTruncated normalized.bytesTruncated
  else .ok report

structure SealPass where
  directory : Directory
  report : RecoveryReport
  quarantined : List SegmentId
  sealedTailRepairs : List (SegmentId × Nat)

def sealOpen (crc : Crc32) (pass : SealPass) (file : SegmentFile) : Result SealPass :=
  match analyzeFile crc file with
  | .ok analysis => do
    let (directory, normalized) ← normalizeFile crc file analysis pass.directory
    let report ← ({ pass.report with openSegmentsSealed := pass.report.openSegmentsSealed + 1 }).addTruncated
      normalized.bytesTruncated
    return { pass with
      directory, report
      sealedTailRepairs := normalized.repairAt.elim pass.sealedTailRepairs fun repairAt =>
        (file.segmentId, repairAt) :: pass.sealedTailRepairs }
  | .error .corruptHeader =>
    .ok { pass with
      directory := quarantine file pass.directory
      report := { pass.report with segmentsQuarantined := pass.report.segmentsQuarantined + 1 }
      quarantined := file.segmentId :: pass.quarantined }
  | .error (.operational error) => .error error

def FrameRow.agrees (records : List RecoveredRecord) (row : FrameRow) : Bool :=
  (records.find? fun record => record.span.byteOffset = row.byteOffset).any fun record =>
    row.frameId = record.frame.metadata.id ∧ row.sessionId = record.frame.metadata.sessionId ∧
      row.targetId = record.frame.metadata.targetId

/-- The stored row differs from the recovered registration in what such a row never changes. -/
def immutableMismatch (stored : Option SegmentRegistration) (registration : SegmentRegistration) : Bool :=
  stored.any fun stored => stored.segmentId ≠ registration.segmentId ∨ stored.sessionId ≠ registration.sessionId ∨
    stored.targetId ≠ registration.targetId ∨ stored.startTime ≠ registration.startTime

namespace SqliteIndex

def frameExists (frameId : FrameId) (index : SqliteIndex) : Bool :=
  index.frames.rows.any fun row => row.frameId = frameId

/-- The frame rows of a segment that is not as its file says are removed; what is kept are the offsets behind the
removal that have a row. -/
def dropMismatched (stored : Option SegmentRegistration) (normalized : NormalizedSegment) (index : SqliteIndex) :
    SqliteIndex × List Nat × Nat :=
  let segmentId := normalized.registration.segmentId
  let indexed := index.framesOf segmentId
  let immutable := immutableMismatch stored normalized.registration
  let retained := indexed.map (·.byteOffset)
  if immutable || indexed.any (!·.agrees normalized.records) then
    match normalized.repairAt with
    | some repairAt =>
      if !immutable && indexed.all fun row => repairAt ≤ row.byteOffset || row.agrees normalized.records then
        let (index, removed) := index.removeFrameRows segmentId (some repairAt)
        (index, retained.filter (· < repairAt), removed.length)
      else
        let (index, removed) := index.removeFrameRows segmentId none
        (if immutable then index.removeSegment segmentId else index, [], removed.length)
    | none =>
      let (index, removed) := index.removeFrameRows segmentId none
      (if immutable then index.removeSegment segmentId else index, [], removed.length)
  else (index, retained, 0)

/-- `upsert_recovered_frame_tx`: the index, and how many frames it has more. -/
def upsertRecoveredFrame (now : Int) (registration : SegmentRegistration) (record : RecoveredRecord)
    (index : SqliteIndex) : Result (SqliteIndex × Nat) := do
  if index.frameExists record.frame.metadata.id then return (index, 0)
  else
    let (index, _) ← index.indexFrame now record.frame
      ⟨⟨registration.segmentId, record.span.byteOffset⟩, registration, none⟩
    return (index, 1)

/-- The loop over the missing records. -/
def upsertRecovered (now : Int) (registration : SegmentRegistration) (missing : List RecoveredRecord)
    (index : SqliteIndex) : Result (SqliteIndex × Nat) :=
  missing.foldlM (fun (index, recovered) record => do
    let (index, more) ← index.upsertRecoveredFrame now registration record
    return (index, recovered + more)) (index, 0)

def reconcileSegment (now : Int) (stored : Option SegmentRegistration) (normalized : NormalizedSegment)
    (index : SqliteIndex) (report : RecoveryReport) : Result (SqliteIndex × RecoveryReport) := do
  let (index, retained, removed) := index.dropMismatched stored normalized
  let report := { report with framesRemoved := report.framesRemoved + removed }
  let missing := normalized.records.filter fun record =>
    !retained.contains record.span.byteOffset && !index.frameExists record.frame.metadata.id
  if stored = some normalized.registration ∧ missing = [] then return (index, report)
  else
    let (index, _) := index.registerSegment now normalized.registration
    let (index, recovered) ← index.upsertRecovered now normalized.registration missing
    return (index, { report with framesRecovered := report.framesRecovered + recovered })

def removeIndexSegment (segmentId : SegmentId) (index : SqliteIndex) : SqliteIndex × Nat :=
  let (index, removed) := index.removeFrameRows segmentId none
  (index.removeSegment segmentId, removed.length)

end SqliteIndex

/-- What a pass knows before it goes through the segments. -/
structure Survey where
  disk : List SegmentFile
  stored : List SegmentRow
  quarantined : List SegmentId
  sealedTailRepairs : List (SegmentId × Nat)

namespace Survey

def file (segmentId : SegmentId) (survey : Survey) : Option SegmentFile :=
  survey.disk.find? fun file => file.segmentId = segmentId

def registration (segmentId : SegmentId) (survey : Survey) : Option SegmentRegistration :=
  (survey.stored.find? fun row => row.registration.segmentId = segmentId).map (·.registration)

def repairAt (segmentId : SegmentId) (survey : Survey) : Option Nat :=
  (survey.sealedTailRepairs.find? fun repair => repair.1 = segmentId).map (·.2)

/-- The segments that a file, a row or the quarantine names, by ascending identifier. -/
def segmentIds (survey : Survey) : List SegmentId :=
  (survey.disk.map (·.segmentId) ++ survey.stored.map (·.registration.segmentId) ++ survey.quarantined).dedup.insertionSort
    (· ≤ ·)

end Survey

/-- One segment of the loop of `recover`, at the time `now`. -/
def reconcileId (crc : Crc32) (now : Int) (survey : Survey) (segmentId : SegmentId) (root : RecordingRoot)
    (report : RecoveryReport) : Result (RecordingRoot × RecoveryReport) :=
  match survey.file segmentId with
  | none =>
    let (index, removed) := root.index.removeIndexSegment segmentId
    let lost := (survey.registration segmentId).isSome && !survey.quarantined.contains segmentId
    .ok ({ root with index },
      { report with
        framesRemoved := report.framesRemoved + removed
        segmentsRemoved := report.segmentsRemoved + if lost then 1 else 0 })
  | some file =>
    match analyzeFile crc file with
    | .ok analysis => do
      let (directory, normalized) ← normalizeFile crc file analysis root.directory
      let normalized := { normalized with repairAt := normalized.repairAt.or (survey.repairAt segmentId) }
      let report ← report.addRepair normalized
      let (index, report) ← root.index.reconcileSegment now (survey.registration segmentId) normalized report
      return (⟨directory, index⟩, report)
    | .error .corruptHeader =>
      let (index, removed) := root.index.removeIndexSegment segmentId
      .ok (⟨quarantine file root.directory, index⟩,
        { report with
          segmentsQuarantined := report.segmentsQuarantined + 1
          framesRemoved := report.framesRemoved + removed })
    | .error (.operational error) => .error error

/-- A turn of the loop over the segments: its accounting row is taken off those that are left, and written when it
does not match. -/
def reconcileUsageRow (state : SqliteIndex × List UsageRow × Nat) (registration : SegmentRegistration) :
    Result (SqliteIndex × List UsageRow × Nat) := do
  let (index, existing, reconciled) := state
  let key := segmentUsageKey registration.segmentId
  let isMatching := (existing.find? fun entry => entry.objectKey = key).any fun entry =>
    entry.sessionId = some registration.sessionId ∧ entry.byteLen = registration.fileBytes
  let existing := existing.filter fun entry => !decide (entry.objectKey = key)
  if isMatching then return (index, existing, reconciled)
  else return (← index.updateUsage registration.usageRow, existing, reconciled + 1)

def reconcileUsage (index : SqliteIndex) (report : RecoveryReport) : Result (SqliteIndex × RecoveryReport) := do
  let segments := index.segments.rows.map (·.registration)
  let usage := index.usage.rows.filter fun entry => entry.usageClass = .segment
  let (index, existing, reconciled) ← segments.foldlM reconcileUsageRow (index, usage, report.usageRowsReconciled)
  let index := existing.foldl (fun index entry => index.removeUsage .segment entry.objectKey) index
  return (index, { report with usageRowsReconciled := reconciled + existing.length })

/-- `recover`.  `now segmentId` is the time at which a row of the segment is stamped. -/
def recover (crc : Crc32) (now : SegmentId → Int) (root : RecordingRoot) : Result (RecordingRoot × RecoveryReport) := do
  let initial ← root.directory.discover
  let pass ← (initial.filter fun file => file.extension = .opened).foldlM (sealOpen crc) ⟨root.directory, {}, [], []⟩
  let disk ← pass.directory.discover
  let survey : Survey := {
    disk := disk.filter fun file => file.extension = .sealed
    stored := root.index.segments.rows
    quarantined := pass.quarantined
    sealedTailRepairs := pass.sealedTailRepairs }
  let (root, report) ← survey.segmentIds.foldlM
    (fun (root, report) segmentId => reconcileId crc (now segmentId) survey segmentId root report)
    (⟨pass.directory, root.index⟩, pass.report)
  let (index, report) ← reconcileUsage root.index report
  return ({ root with index }, report)

end Krometrail
