import Krometrail.Core.Error
import Krometrail.Core.Values
import Krometrail.Lib.Keyed
import Krometrail.Lib.Sorting

/-!
# Managed downloads

The inventory of the downloads of a browser session.  Two pumps feed it with the begin and the progress events of the
browser, under a gate that a cancellation, a rebinding to a new transport and the shutdown take too, so that each of them
is one step.  Every change draws the next sequence.
-/

namespace Krometrail.Downloads

open Keyed Sorting

def maxManagedDownloads : Nat := 32

def maxManagedDownloadBytes : Nat := 64 * 1024 * 1024

structure DownloadId where
  uuid : Uuid
  deriving DecidableEq

inductive DownloadState
  | inProgress | completed | cancelled | failed | rejected
  deriving DecidableEq

def isTerminal : DownloadState → Bool
  | .completed | .cancelled | .failed | .rejected => true
  | .inProgress => false

/-- A `ManagedDownload`; its resource is the one of the session and of its identifier. -/
structure ManagedDownload where
  id : DownloadId
  sequence : Nat
  state : DownloadState
  receivedBytes : Nat
  totalBytes : Option Nat
  hasResource : Bool
  deriving DecidableEq

/-- An entry of the map, under its key. -/
structure Entry where
  guid : String
  download : ManagedDownload
  begunSequence : Nat
  verifiedSize : Option Nat

/-- The map is listed in the order of its keys. -/
structure State where
  accepting : Bool
  nextSequence : Nat
  byGuid : List Entry
  overflowRejection : Option ManagedDownload
  transportGeneration : Nat

def initialNextSequence : Nat := 2

/-- The state that `configure` makes. -/
def State.initial : State where
  accepting := true
  nextSequence := initialNextSequence
  byGuid := []
  overflowRejection := none
  transportGeneration := 1

structure DownloadFact where
  downloadId : DownloadId
  sequence : Nat
  state : DownloadState

structure DownloadInventory where
  cursor : Nat
  downloads : List ManagedDownload

def Entry.fact (entry : Entry) : DownloadFact := ⟨entry.download.id, entry.download.sequence, entry.download.state⟩

/-- `get` of the map. -/
def State.get (state : State) (guid : String) : Option Entry := state.byGuid.find? (·.guid = guid)

/-- `state_cursor`. -/
def State.cursor (state : State) : Nat := state.nextSequence - 1

def inventory (state : State) : DownloadInventory where
  cursor := state.cursor
  downloads := sortByKey (·.sequence) (state.byGuid.map (·.download) ++ state.overflowRejection.toList)

def begunAfter (cursor : Nat) (state : State) : List DownloadFact :=
  sortByKey (·.sequence) ((state.byGuid.filter fun entry => cursor < entry.begunSequence).map Entry.fact)

/-- `next_sequence`, which draws the sequence that the counter held. -/
def State.drawn (state : State) : State := { state with nextSequence := saturatingAdd state.nextSequence 1 }

/-- The entry of the key, unless it is terminal, with the drawn sequence. -/
def changeEntry (guid : String) (f : Nat → Entry → Entry) (sequence : Nat) (entry : Entry) : Entry :=
  if entry.guid = guid ∧ ¬ isTerminal entry.download.state then f sequence entry else entry

def State.change (guid : String) (f : Nat → Entry → Entry) (state : State) : State :=
  { state.drawn with byGuid := state.byGuid.map (changeEntry guid f state.nextSequence) }

def Entry.transition (value : DownloadState) (received total : Option Nat) (sequence : Nat) (entry : Entry) : Entry :=
  { entry with
    download := { entry.download with
      sequence
      state := value
      receivedBytes := received.getD entry.download.receivedBytes
      totalBytes := total.or entry.download.totalBytes } }

/-- `transition`: a sequence is drawn before the entry is looked up. -/
def transition (guid : String) (value : DownloadState) (received total : Option Nat) (state : State) : State :=
  state.change guid (Entry.transition value received total)

def Entry.complete (size : Nat) (total : Option Nat) (sequence : Nat) (entry : Entry) : Entry :=
  { entry with
    download := { entry.download with
      sequence, state := .completed, receivedBytes := size, totalBytes := total, hasResource := true }
    verifiedSize := some size }

def complete (guid : String) (size : Nat) (total : Option Nat) (state : State) : State :=
  if (state.get guid).all fun entry => isTerminal entry.download.state then state
  else state.change guid (Entry.complete size total)

/-- The fields of `Browser.downloadWillBegin` that decide. -/
structure BeginParams where
  guid : Option String

/-- A key that names a file of the download root. -/
def isFileName (guid : String) : Bool := guid ≠ "" && guid.toList.all fun c => c ≠ '/' && c ≠ '\\'

/-- `begin`, with the identifier that the source of identifiers gives next. -/
def begin (generation : Nat) (params : BeginParams) (id : DownloadId) (state : State) : State :=
  match params.guid with
  | none => state
  | some guid =>
    if ¬ isFileName guid then state
    else if ¬ state.accepting ∨ state.transportGeneration ≠ generation ∨ (state.get guid).isSome then state
    else if state.byGuid.length ≥ maxManagedDownloads then
      { state.drawn with
        overflowRejection := some ⟨id, state.nextSequence, .rejected, 0, none, false⟩ }
    else
      { state.drawn with
        byGuid := state.byGuid.orderedInsert (fun a b => a.guid ≤ b.guid)
          ⟨guid, ⟨id, state.nextSequence, .inProgress, 0, none, false⟩, state.nextSequence, none⟩ }

/-- The fields of `Browser.downloadProgress`; `state` and the byte counts as far as they have their type. -/
structure ProgressParams where
  guid : Option String
  receivedBytes : Option Nat
  totalBytes : Option Nat
  state : Option String

/-- `progress`, with the size that `wait_for_verified_file` gives if the file is verified. -/
def progress (generation : Nat) (params : ProgressParams) (verified : Option Nat) (state : State) : State :=
  if state.transportGeneration ≠ generation then state
  else
    match params.guid with
    | none => state
    | some guid =>
      let received := params.receivedBytes.getD 0
      let total := params.totalBytes.filter (0 < ·)
      if received > maxManagedDownloadBytes ∨ total.any (maxManagedDownloadBytes < ·) then
        transition guid .rejected (some received) total state
      else
        match params.state with
        | some "completed" =>
          match verified with
          | some size => complete guid size total state
          | none => transition guid .failed (some received) total state
        | some "canceled" => transition guid .cancelled (some received) total state
        | _ => transition guid .inProgress (some received) total state

def downloadError (code : ErrorCode) (message recovery : String) : KrometrailError :=
  ((KrometrailError.new code message).withRetry .afterRecovery).withRecovery recovery

/-- `cancel`, whose command may fail. -/
def cancel (id : DownloadId) (sent : Bool) (state : State) : Result DownloadState × State :=
  match state.byGuid.find? (·.download.id = id) with
  | none =>
    (.error (downloadError .notFound "managed download was not found"
      "list active-session downloads and use one returned download_id"), state)
  | some entry =>
    if isTerminal entry.download.state then (.ok entry.download.state, state)
    else if ¬ sent then
      (.error (downloadError .interactionFailed "managed download cancellation failed"
        "list downloads to reconcile its current state before retrying"), state)
    else (.ok .cancelled, transition entry.guid .cancelled none none state)

/-- What a rebinding makes of an entry. -/
def Entry.fail (sequence : Nat) (entry : Entry) : Entry :=
  { entry with download := { entry.download with sequence, state := .failed } }

/-- What the browser answers to a rebinding: the two subscriptions and the command that restores the behaviour. -/
structure RebindOutcomes where
  begins : Bool
  progress : Bool
  enabled : Bool

/-- What `rebind` asks of the new transport before it changes the state. -/
def RebindOutcomes.result (io : RebindOutcomes) : Result Unit :=
  if ¬ io.begins then
    .error (downloadError .browserCompatibilityFailed "browser download events are unavailable"
      "update Chrome or use a supported managed Chromium installation")
  else if ¬ io.progress then
    .error (downloadError .browserCompatibilityFailed "browser download progress events are unavailable"
      "update Chrome or use a supported managed Chromium installation")
  else if ¬ io.enabled then
    .error (downloadError .browserCompatibilityFailed "managed download behavior could not be restored after reconnect"
      "restart the managed browser session")
  else .ok ()

/-- `rebind`: the downloads of the old transport fail, in the order of their keys. -/
def rebind (io : RebindOutcomes) (state : State) : Result Unit × State :=
  match io.result with
  | .error error => (.error error, state)
  | .ok () =>
    let stale := (state.byGuid.filter fun entry => ¬ isTerminal entry.download.state).map (·.guid)
    (.ok (), stale.foldl (fun state guid => state.change guid Entry.fail)
      { state with transportGeneration := saturatingAdd state.transportGeneration 1 })

/-- `shutdown`; the directory of the session may not be removed. -/
def shutdown (removed : Bool) (state : State) : Result Unit × State :=
  (if removed then .ok () else .error (downloadError .shutdownIncomplete "managed download cleanup was incomplete"
    "remove the private Krometrail download session directory before retrying"), { state with accepting := false })

/-- A step that takes the gate. -/
inductive Input
  | begin (generation : Nat) (params : BeginParams) (id : DownloadId)
  | progress (generation : Nat) (params : ProgressParams) (verified : Option Nat)
  | cancel (id : DownloadId) (sent : Bool)
  | rebind (io : RebindOutcomes)
  | shutdown (removed : Bool)

def exec (state : State) : Input → State
  | .begin generation params id => begin generation params id state
  | .progress generation params verified => progress generation params verified state
  | .cancel id sent => (cancel id sent state).2
  | .rebind io => (rebind io state).2
  | .shutdown removed => (shutdown removed state).2

end Krometrail.Downloads
