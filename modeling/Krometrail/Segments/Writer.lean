import Krometrail.Lib.Runs
import Krometrail.Lib.Stateful
import Krometrail.Segments.RoundTrip

/-!
# The segment writer

The worker behind `SegmentWriter`: its open segments, the segment files of its directory, and what each command does
to them.  Whatever the operating system decides is an input: what the file operations of a command come to (a write
may fail after any number of bytes, a sync, a file creation or a rename may fail), which UUIDs are drawn, and in which
order a hash map yields its keys.
-/

namespace Krometrail

open Stateful Runs

inductive SegmentState where
  | opened | sealed
  deriving DecidableEq

/-- `segment_file_name`: the identifier and the extension that the state implies. -/
structure SegmentFileName where
  segmentId : SegmentId
  state : SegmentState
  deriving DecidableEq

/-- The segment files of a directory, and as a history the segments whose open file the worker has renamed to its
sealed name. -/
structure Disk where
  files : SegmentFileName → Option (List UInt8)
  published : List SegmentId

namespace Disk

def create (segmentId : SegmentId) (disk : Disk) : Disk :=
  { disk with files := Function.update disk.files ⟨segmentId, .opened⟩ (some []) }

/-- Bytes at the end of an open file. -/
def append (segmentId : SegmentId) (bytes : List UInt8) (disk : Disk) : Disk :=
  { disk with
    files := Function.update disk.files ⟨segmentId, .opened⟩ ((disk.files ⟨segmentId, .opened⟩).map (· ++ bytes)) }

/-- The open file under its sealed name. -/
def rename (segmentId : SegmentId) (disk : Disk) : Disk :=
  { disk with
    files := Function.update (Function.update disk.files ⟨segmentId, .sealed⟩ (disk.files ⟨segmentId, .opened⟩))
      ⟨segmentId, .opened⟩ none }

end Disk

/-- `std::io::ErrorKind`, as far as it is told apart. -/
inductive ErrorKind where
  | notFound | permissionDenied | alreadyExists | interrupted | wouldBlock | storageFull | readOnlyFilesystem
  | invalidData | invalidInput | other

/-- `std::io::Result<()>`. -/
abbrev IoResult : Type := Except ErrorKind Unit

/-- Bytes written and flushed through a buffered writer: all of them are in the file, or the first `count` when the
error is reported. -/
inductive WriteOutcome where
  | written
  | failed (kind : ErrorKind) (count : Nat)

/-- `fs::rename` of an open file: done, too late because another process has renamed it, or failed. -/
inductive RenameOutcome where
  | renamed
  | displaced
  | failed (kind : ErrorKind)

/-- The bytes that reach the file. -/
def WriteOutcome.reached (bytes : List UInt8) : WriteOutcome → List UInt8
  | .written => bytes
  | .failed _ count => bytes.take count

/-- The capacity of a `BufWriter`; a write of at least as many bytes goes past the buffer. -/
def bufferCapacity : Nat := 8192

/-- The bytes that stay in the buffer. -/
def WriteOutcome.buffered (bytes : List UInt8) : WriteOutcome → List UInt8
  | .written => []
  | .failed _ count => if bytes.length < bufferCapacity then bytes.drop count else []

def WriteOutcome.result : WriteOutcome → IoResult
  | .written => .ok ()
  | .failed kind _ => .error kind

def RenameOutcome.apply (segmentId : SegmentId) (disk : Disk) : RenameOutcome → Disk
  | .renamed => { disk.rename segmentId with published := disk.published ++ [segmentId] }
  | .displaced => disk.rename segmentId
  | .failed _ => disk

def RenameOutcome.result : RenameOutcome → IoResult
  | .renamed => .ok ()
  | .displaced => .error .notFound
  | .failed kind => .error kind

def ErrorKind.category : ErrorKind → PersistenceFailureCategory
  | .notFound => .notFound
  | .permissionDenied => .permissionDenied
  | .alreadyExists => .alreadyExists
  | .interrupted => .interrupted
  | .wouldBlock => .resourceBusy
  | .storageFull => .storageFull
  | .readOnlyFilesystem => .readOnlyFilesystem
  | .invalidData | .invalidInput => .invalidData
  | .other => .other

def storeError (operation : PersistenceOperation) (category : PersistenceFailureCategory)
    (recoverability : PersistenceRecoverability) (message : String) : KrometrailError :=
  ((KrometrailError.new .persistenceFailed message).withRetry .afterRecovery).withPersistence
    ⟨operation, category, recoverability⟩

def ioError (operation : PersistenceOperation) (recoverability : PersistenceRecoverability) (kind : ErrorKind) :
    KrometrailError :=
  storeError operation kind.category recoverability "segment persistence operation failed"

def writerInvalid (message : String) : KrometrailError :=
  storeError .frameRecordAppend .invalidData .writerTerminal message

/-- The failure is `WriterTerminal`. -/
def KrometrailError.isWriterTerminal (error : KrometrailError) : Bool :=
  error.persistence.any (·.recoverability = .writerTerminal)

/-- The error as `execute` reports it. -/
def KrometrailError.classified (error : KrometrailError) : KrometrailError :=
  match error.persistence with
  | some _ => error
  | none => storeError .segmentWriterWorker .invalidData .writerTerminal
      "segment writer returned an unclassified failure"

/-- `result.map_err(error)?`. -/
def check {σ : Type} (result : IoResult) (error : ErrorKind → KrometrailError) : EStateM KrometrailError σ Unit :=
  match result with
  | .ok () => pure ()
  | .error kind => throw (error kind)

/-- `value.ok_or_else(error)?`. -/
def orThrow {σ α : Type} (value : Option α) (error : KrometrailError) : EStateM KrometrailError σ α :=
  match value with
  | some a => pure a
  | none => throw error

structure RotationConfig where
  /-- `max_duration.as_nanos()` -/
  maxDuration : Nat
  maxSize : UInt64

namespace RotationConfig

def validate (rotation : RotationConfig) : Result RotationConfig :=
  if rotation.maxDuration = 0 then .error (persistenceError "segment rotation duration must be greater than zero")
  else if rotation.maxSize = 0 then .error (persistenceError "segment rotation size must be greater than zero")
  else .ok rotation

def maxDurationNanos (rotation : RotationConfig) : Nat := min rotation.maxDuration u64Max

end RotationConfig

structure SegmentRegistration where
  segmentId : SegmentId
  sessionId : SessionId
  targetId : TargetId
  state : SegmentState
  startTime : SessionTime
  endTime : Option SessionTime
  fileBytes : Nat
  payloadBytes : Nat
  recordCount : Nat
  deriving DecidableEq

structure FrameWriteCommit where
  address : FrameAddress
  activeSegment : SegmentRegistration
  sealedSegment : Option SegmentRegistration

structure OpenSegment where
  header : SegmentHeader
  /-- The bytes in the buffer of `writer`. -/
  buffered : List UInt8
  fileLen : Nat
  recordCount : Nat
  totalPayload : Nat
  firstSessionTime : SessionTime
  lastSessionTime : SessionTime
  lastObservedTime : ObservedTime

abbrev SegmentKey : Type := SessionId × TargetId

def EncodedFrame.key (frame : EncodedFrame) : SegmentKey := (frame.metadata.sessionId, frame.metadata.targetId)

namespace OpenSegment

def registration (state : SegmentState) (segment : OpenSegment) : SegmentRegistration where
  segmentId := segment.header.segmentId
  sessionId := segment.header.sessionId
  targetId := segment.header.targetId
  state
  startTime := segment.header.startSessionTime
  endTime := if state = .sealed then some segment.lastSessionTime else none
  fileBytes := segment.fileLen
  payloadBytes := segment.totalPayload
  recordCount := segment.recordCount

def shouldRotate (segment : OpenSegment) (frame : EncodedFrame) (rotation : RotationConfig) : Bool :=
  if segment.recordCount = 0 then false
  else
    let elapsed := frame.metadata.sessionTime.nanos.toNat - segment.header.startSessionTime.nanos.toNat
    elapsed ≥ rotation.maxDurationNanos || segment.fileLen ≥ rotation.maxSize.toNat

/-- The segment and the disk that its file is on. -/
abbrev Append (α : Type) : Type := EStateM KrometrailError (OpenSegment × Disk) α

/-- `write_all` and `flush`: which of them fails depends on whether the bytes go through the buffer. -/
def write (outcome : WriteOutcome) (record : List UInt8) : Append Unit := do
  modify fun (segment, disk) =>
    ({ segment with buffered := outcome.buffered (segment.buffered ++ record) },
      disk.append segment.header.segmentId (outcome.reached (segment.buffered ++ record)))
  let operation := if record.length < bufferCapacity then .frameRecordFlush else .frameRecordAppend
  check outcome.result (ioError operation .writerTerminal)

def append (crc : Crc32) (outcome : WriteOutcome) (frame : EncodedFrame) : Append FrameAddress := do
  let record ← orThrow (encodeFrameRecord crc frame).toOption
    (storeError .frameRecordAppend .invalidData .writerTerminal "frame record encoding failed")
  let offset := (← get).1.fileLen
  write outcome record
  let fileLen ← orThrow (checkedAdd (← get).1.fileLen record.length) (writerInvalid "segment file length overflow")
  modify fun (segment, disk) => ({ segment with fileLen }, disk)
  let recordCount ← orThrow (checkedAdd (← get).1.recordCount 1) (writerInvalid "segment record count overflow")
  modify fun (segment, disk) => ({ segment with recordCount }, disk)
  let totalPayload ← orThrow (checkedAdd (← get).1.totalPayload frame.bytes.length)
    (writerInvalid "segment payload count overflow")
  modify fun (segment, disk) => ({ segment with
    totalPayload, lastSessionTime := frame.metadata.sessionTime, lastObservedTime := frame.metadata.observedTime }, disk)
  return { segmentId := (← get).1.header.segmentId, byteOffset := offset }

end OpenSegment

/-- One turn of `create_open_file`: the UUID drawn, and what the creation comes to when no file has its name. -/
structure CreateAttempt where
  segmentId : SegmentId
  result : IoResult

/-- What the file operations of `open_segment` come to. -/
structure OpenOutcomes where
  attempts : Fin 4 → CreateAttempt
  header : WriteOutcome
  sync : IoResult
  directorySync : IoResult

/-- `OpenOptions::create_new(true).open`. -/
def CreateAttempt.open (attempt : CreateAttempt) (disk : Disk) : IoResult :=
  if (disk.files ⟨attempt.segmentId, .opened⟩).isSome then .error .alreadyExists else attempt.result

def createOpenFile : List CreateAttempt → EStateM KrometrailError Disk SegmentId
  | [] => throw (storeError .openSegmentCreation .alreadyExists .writerTerminal
      "open segment identifier allocation failed")
  | attempt :: attempts => do
    match attempt.open (← get) with
    | .ok () =>
      modify (Disk.create attempt.segmentId)
      return attempt.segmentId
    | .error .alreadyExists => createOpenFile attempts
    | .error kind => throw (ioError .openSegmentCreation .writerTerminal kind)

/-- The header of the segment that a frame opens. -/
def openHeader (rotation : RotationConfig) (segmentId : SegmentId) (frame : EncodedFrame) : SegmentHeader where
  segmentId
  sessionId := frame.metadata.sessionId
  targetId := frame.metadata.targetId
  startSessionTime := frame.metadata.sessionTime
  createdObserved := frame.metadata.observedTime
  rotationMaxDurationNanos := UInt64.ofNat rotation.maxDurationNanos
  rotationMaxSize := rotation.maxSize

/-- The writer of the header is dropped on an error: `io.header` counts what the drop still flushes. -/
def openSegment (crc : Crc32) (rotation : RotationConfig) (io : OpenOutcomes) (frame : EncodedFrame) :
    EStateM KrometrailError Disk OpenSegment := do
  let segmentId ← createOpenFile (List.ofFn io.attempts)
  let header := openHeader rotation segmentId frame
  modify (Disk.append segmentId (io.header.reached (header.encode crc)))
  check io.header.result (ioError .openSegmentCreation .writerTerminal)
  check io.sync (ioError .openSegmentCreation .writerTerminal)
  check io.directorySync (ioError .openSegmentPublicationSync .writerTerminal)
  return {
    header, buffered := [], fileLen := segmentHeaderLen, recordCount := 0, totalPayload := 0
    firstSessionTime := frame.metadata.sessionTime, lastSessionTime := frame.metadata.sessionTime
    lastObservedTime := frame.metadata.observedTime }

/-- What the file operations of `seal_segment` come to. -/
structure SealOutcomes where
  footer : WriteOutcome
  sync : IoResult
  rename : RenameOutcome
  /-- The reads of `sealed_publication_is_complete`. -/
  inspection : IoResult
  directorySync : IoResult

def sealedPublicationIsComplete (crc : Crc32) (inspection : IoResult) (file : Option (List UInt8))
    (segmentId : SegmentId) : Bool :=
  match inspection, file with
  | .ok (), some bytes =>
    segmentHeaderLen + sealedFooterLen ≤ bytes.length &&
      (SegmentHeader.decode crc (bytes.take segmentHeaderLen)).toOption.any (·.segmentId = segmentId) &&
      (SealedFooter.decode crc (bytes.drop (bytes.length - sealedFooterLen))).toOption.any (·.segmentId = segmentId)
  | _, _ => false

def OpenSegment.footer (segment : OpenSegment) : SealedFooter where
  segmentId := segment.header.segmentId
  recordCount := UInt64.ofNat segment.recordCount
  totalPayload := UInt64.ofNat segment.totalPayload
  firstSessionTime := segment.firstSessionTime
  lastSessionTime := segment.lastSessionTime
  sealedObserved := segment.lastObservedTime

/-- The last part of `seal_segment`: the rename and its directory sync. -/
def publishSegment (crc : Crc32) (io : SealOutcomes) (segmentId : SegmentId) (registration : SegmentRegistration) :
    EStateM KrometrailError Disk SegmentRegistration := do
  modify fun disk => io.rename.apply segmentId disk
  match io.rename.result with
  | .ok () =>
    check io.directorySync (ioError .sealedSegmentPublicationSync .writerUsable)
    return registration
  | .error .notFound =>
    if sealedPublicationIsComplete crc io.inspection ((← get).files ⟨segmentId, .sealed⟩) segmentId then
      return registration
    else
      throw (storeError .sealedSegmentPublication .notFound .writerUsable
        "open segment disappeared before publication and no complete sealed segment stands in its place")
  | .error kind => throw (ioError .sealedSegmentPublication .writerUsable kind)

/-- The writer of the segment is dropped in the end: `io.footer` counts what the drop still flushes after an error. -/
def sealSegment (crc : Crc32) (io : SealOutcomes) (segment : OpenSegment) :
    EStateM KrometrailError Disk SegmentRegistration := do
  let segmentId := segment.header.segmentId
  let footerBytes := segment.footer.encode crc
  modify (Disk.append segmentId (io.footer.reached (segment.buffered ++ footerBytes)))
  check io.footer.result (ioError .sealedSegmentFooterWrite .writerTerminal)
  check io.sync (ioError .sealedSegmentFileSync .writerTerminal)
  let fileLen ← orThrow (checkedAdd segment.fileLen footerBytes.length)
    (writerInvalid "sealed segment file length overflow")
  publishSegment crc io segmentId ({ segment with fileLen }.registration .sealed)

structure WorkerState where
  rotation : RotationConfig
  disk : Disk
  openSegments : SegmentKey → Option OpenSegment
  terminalError : Option KrometrailError
  /-- The worker has not left its command loop. -/
  running : Bool

abbrev Worker (α : Type) : Type := EStateM KrometrailError WorkerState α

namespace WorkerState

def remove (key : SegmentKey) (state : WorkerState) : WorkerState :=
  { state with openSegments := Function.update state.openSegments key none }

def insert (key : SegmentKey) (segment : OpenSegment) (state : WorkerState) : WorkerState :=
  { state with openSegments := Function.update state.openSegments key (some segment) }

def withDisk (disk : Disk) (state : WorkerState) : WorkerState := { state with disk }

@[simp] theorem disk_insert (key : SegmentKey) (segment : OpenSegment) (state : WorkerState) :
    (state.insert key segment).disk = state.disk := rfl

@[simp] theorem disk_withDisk (disk : Disk) (state : WorkerState) : (state.withDisk disk).disk = disk := rfl

@[simp] theorem openSegments_withDisk (disk : Disk) (state : WorkerState) :
    (state.withDisk disk).openSegments = state.openSegments := rfl

@[simp] theorem openSegments_remove (key : SegmentKey) (state : WorkerState) :
    (state.remove key).openSegments = Function.update state.openSegments key none := rfl

@[simp] theorem openSegments_insert (key : SegmentKey) (segment : OpenSegment) (state : WorkerState) :
    (state.insert key segment).openSegments = Function.update state.openSegments key (some segment) := rfl

end WorkerState

def onDisk {α : Type} (operation : EStateM KrometrailError Disk α) : Worker α :=
  zoom (·.disk) WorkerState.withDisk operation

/-- An operation on the segment that the map holds under `key`. -/
def onSegment {α : Type} (key : SegmentKey) (segment : OpenSegment) (operation : OpenSegment.Append α) : Worker α :=
  zoom (fun state => (segment, state.disk)) (fun (segment, disk) state => (state.withDisk disk).insert key segment)
    operation

/-- What the file operations of an append come to. -/
structure AppendOutcomes where
  sealing : SealOutcomes
  opening : OpenOutcomes
  record : WriteOutcome

namespace WorkerState

/-- Take the segment out of the map and seal it. -/
def sealEntry (crc : Crc32) (io : SealOutcomes) (key : SegmentKey) (segment : OpenSegment) :
    Worker SegmentRegistration := do
  modify (WorkerState.remove key)
  onDisk (sealSegment crc io segment)

/-- The first part of `append`: seal the open segment of the key when the frame rotates it. -/
def rotate (crc : Crc32) (io : SealOutcomes) (frame : EncodedFrame) : Worker (Option SegmentRegistration) := do
  let state ← get
  match (state.openSegments frame.key).filter (·.shouldRotate frame state.rotation) with
  | some segment => return some (← sealEntry crc io frame.key segment)
  | none => return none

/-- The second part of `append`: the entry of the key. -/
def openEntry (crc : Crc32) (io : OpenOutcomes) (frame : EncodedFrame) : Worker OpenSegment := do
  let state ← get
  match state.openSegments frame.key with
  | some segment => return segment
  | none =>
    let segment ← onDisk (openSegment crc state.rotation io frame)
    modify (WorkerState.insert frame.key segment)
    return segment

def append (crc : Crc32) (io : AppendOutcomes) (frame : EncodedFrame) : Worker FrameWriteCommit := do
  let sealedSegment ← rotate crc io.sealing frame
  let segment ← openEntry crc io.opening frame
  onSegment frame.key segment do
    let address ← OpenSegment.append crc io.record frame
    return { address, activeSegment := (← get).1.registration .opened, sealedSegment }

/-- A turn of `flush_keys`.  A key that is not in the map panics in the source; the keys are collected from it. -/
def flushKey (crc : Crc32) (io : SegmentKey → SealOutcomes) (key : SegmentKey) : Worker SegmentRegistration := do
  let segment ← orThrow ((← get).openSegments key) (persistenceError "collected key exists")
  sealEntry crc (io key) key segment

def flushKeys (crc : Crc32) (io : SegmentKey → SealOutcomes) (keys : List SegmentKey) :
    Worker (List SegmentRegistration) := each (flushKey crc io) keys

def execute {α : Type} (operation : Worker α) : Worker α := fun state =>
  match state.terminalError with
  | some error => .error error state
  | none =>
    match operation state with
    | .ok value state => .ok value state
    | .error error state =>
      let error := error.classified
      .error error (if error.isWriterTerminal then { state with terminalError := some error } else state)

end WorkerState

/-- A command with what its file operations come to, and for a flush the keys in the order that the map yields them.
`shutdown` is the end of the commands: the worker is dropped, and of what a failed write left in the buffer of a segment
the first `count` bytes still reach the file. -/
inductive WriterInput where
  | append (frame : EncodedFrame) (io : AppendOutcomes)
  | flush (sessionId : SessionId) (keys : List SegmentKey) (io : SegmentKey → SealOutcomes)
  | flushAll (keys : List SegmentKey) (io : SegmentKey → SealOutcomes)
  | shutdown (count : SegmentKey → Nat) (keys : List SegmentKey)

inductive WriterReply where
  | appended (result : Result FrameWriteCommit)
  | flushed (result : Result (List SegmentRegistration))
  | stopped

/-- The result of a run and the state it leaves. -/
def answered {α : Type} (reply : Result α → WriterReply) :
    EStateM.Result KrometrailError WorkerState α → WriterReply × WorkerState
  | .ok value state => (reply (.ok value), state)
  | .error error state => (reply (.error error), state)

namespace WorkerState

/-- The drop of the buffered writer of an open segment. -/
def dropSegment (count : SegmentKey → Nat) (state : WorkerState) (key : SegmentKey) : WorkerState :=
  match state.openSegments key with
  | some segment =>
    (state.remove key).withDisk (state.disk.append segment.header.segmentId (segment.buffered.take (count key)))
  | none => state

def stop (count : SegmentKey → Nat) (keys : List SegmentKey) (state : WorkerState) : WorkerState :=
  { keys.foldl (dropSegment count) state with running := false }

/-- `SegmentWriter::open`, on a directory with these segment files. -/
def new (rotation : RotationConfig) (files : SegmentFileName → Option (List UInt8)) : Result WorkerState := do
  let rotation ← rotation.validate
  return {
    rotation, disk := { files, published := [] }, openSegments := fun _ => none, terminalError := none
    running := true }

end WorkerState

/-- A turn of the command loop of `WorkerState::run`. -/
def WorkerState.handle (crc : Crc32) (state : WorkerState) : WriterInput → WriterReply × WorkerState
  | .append frame io => answered .appended (execute (append crc io frame) state)
  | .flush _ keys io => answered .flushed (execute (flushKeys crc io keys) state)
  | .flushAll keys io => answered .flushed (execute (flushKeys crc io keys) state)
  | .shutdown count keys => (.stopped, state.stop count keys)

/-- The keys of a command are those that the source collects from the map. -/
def WriterInput.Collects (state : WorkerState) : WriterInput → Prop
  | .append _ _ => True
  | .flush sessionId keys _ => keys.Nodup ∧ ∀ key, key ∈ keys ↔ key.1 = sessionId ∧ (state.openSegments key).isSome
  | .flushAll keys _ | .shutdown _ keys => keys.Nodup ∧ ∀ key, key ∈ keys ↔ (state.openSegments key).isSome

/-- The worker and its commands, in the order of the channel. -/
def segmentWriter (crc : Crc32) : System WorkerState WriterInput WriterReply where
  init state := ∃ rotation files, WorkerState.new rotation files = .ok state
  step state input reply state' :=
    state.running = true ∧ input.Collects state ∧ state.handle crc input = (reply, state')

/-- The UUIDs that a command draws name no sealed file, nor the one that the command may seal: random UUIDs do not
repeat. -/
def FreshIds (state : WorkerState) : WriterInput → Prop
  | .append frame io => ∀ turn, state.disk.files ⟨(io.opening.attempts turn).segmentId, .sealed⟩ = none ∧
      ∀ segment ∈ state.openSegments frame.key, segment.header.segmentId ≠ (io.opening.attempts turn).segmentId
  | _ => True

end Krometrail
