import Krometrail.Artifacts.Rows
import Krometrail.Lib.Runs

/-!
# Artifact publications

Image and video publications share their staging, capacity, file and finalization sections, and differ in what they do when
a section fails.  Each section under the mutation gate is one step, and so is each step of the file worker; evictions, the
deletion of a session and the signals of the callers come in between.
-/

namespace Krometrail.Publications

open Cache (Sha256Digest)
open Runs (Run System)
open Store (Reach Victim DeletionBatch)

/-- Whose `read_artifact_snapshot` it is: of the cache lookup, of a ready row that staging has met, of the published one. -/
inductive Purpose
  | lookup
  | existing
  | ready
  deriving DecidableEq

/-- What `read_artifact_snapshot` answers. -/
inductive Verdict
  | valid
  | invalidated
  | notFound
  | failed
  deriving DecidableEq

/-- The next step of `publish_file`. -/
inductive FileStep
  | queued
  | clear
  | create
  | write
  | sync
  | synced
  | rename
  | renamed
  | syncDirectory
  | durable
  deriving DecidableEq

/-- What a call is about to do next. -/
inductive Phase
  | begun
  | locked
  | reading (purpose : Purpose) (snapshot : ArtifactReadSnapshot)
  | checking (purpose : Purpose) (snapshot : ArtifactReadSnapshot) (verdict : Verdict)
  | invalidating (snapshot : ArtifactReadSnapshot)
  | missed
  | validated
  | found (row : ArtifactRow)
  | staged
  | capacious
  | writing (step : FileStep)
  | filed
  | undoing
  | finalized
  | returned
  deriving DecidableEq

/-- A call of `publish_artifact` or `publish_video_artifact`, with the token of its guard and the signal of its caller. -/
structure Call where
  publication : Publication
  phase : Phase
  cancelled : Bool
  signalled : Bool

def Call.artifactId (call : Call) : ArtifactId := call.publication.artifactId

def Call.sessionId (call : Call) : SessionId := call.publication.sessionId

def Call.isActive (call : Call) : Bool := call.phase ≠ .returned

def Call.isCancelled (call : Call) : Bool := call.cancelled || call.signalled

def Call.holdsKey (call : Call) (key : Sha256Digest) : Bool :=
  call.phase ≠ .begun ∧ call.phase ≠ .returned ∧ call.publication.cacheKey = key

inductive Outcome
  | existing
  | published
  | failed
  deriving DecidableEq

/-- A call that has returned, with what the store had of its artifact then. -/
structure Return where
  publication : Publication
  outcome : Outcome
  remains : Remains

structure State where
  store : Store
  calls : List Call
  deleted : List SessionId
  drained : List SessionId
  returns : List Return

/-- How the source payloads read: as their fingerprints say, not at all, or with other bytes. -/
inductive SourceReading
  | intact
  | unreadable
  | changed
  deriving DecidableEq

/-- How a staging ends: as it should, before its commit, without its row read back, or without its bytes accounted. -/
inductive StageEnd
  | complete
  | rolledBack
  | unread
  | unaccounted
  deriving DecidableEq

/-- What the environment decides about a step: whether its own operations succeed, how far a removal gets, how sources read,
how a staging ends, whether a reclaim reaches the budget, and whether the finalization commits. -/
structure Input where
  ok : Bool := true
  reach : Reach := .done
  sources : SourceReading := .intact
  stage : StageEnd := .complete
  withinBudget : Bool := true
  commits : Bool := true

inductive Action
  | begin (publication : Publication)
  | advance (index : Nat) (input : Input)
  | signal (index : Nat)
  | markDeleted (session : SessionId)
  | drain (session : SessionId)
  | remove (reclaimer : Option Nat) (victim : Victim) (reach : Reach)

namespace State

variable (sha256 : List UInt8 → Sha256Digest) (s : State) (i : Nat) (call : Call) (input : Input)

def withStore (store : Store) : State := { s with store }

def goTo (phase : Phase) : State := { s with calls := s.calls.set i { call with phase } }

def ret (outcome : Outcome) : State :=
  { s.goTo i call .returned with returns := s.returns ++ [⟨call.publication, outcome, s.store.remains call.artifactId⟩] }

/-- An error of a section in which the image path returns and the video path invalidates its row first. -/
def giveUp : State :=
  match call.publication.kind with
  | .image => s.ret i call .failed
  | .video => s.goTo i call .undoing

/-- The file reads of `read_artifact_snapshot`. -/
def readFiles (snapshot : ArtifactReadSnapshot) : Verdict :=
  let row := snapshot.row
  if input.sources = .unreadable ∨ snapshot.frames.length ≠ row.sources.length then .failed
  else if snapshot.frames.any (fun frame => frame.sessionId ≠ row.sessionId ∨ frame.targetId ≠ row.targetId) then .failed
  else if input.sources = .changed ∨ input.ok = false then .invalidated
  else
    match s.store.finals row.artifactId with
    | none => .invalidated
    | some bytes =>
      if validateStoredArtifact sha256 row bytes call.publication.sources then .valid else .invalidated

/-- The last section of `read_artifact_snapshot`. -/
def revalidate (snapshot : ArtifactReadSnapshot) (verdict : Verdict) : Verdict :=
  let current := (s.store.artifactRow snapshot.row.artifactId).filter (·.state = .ready)
  if snapshot.row.sessionId ∈ s.deleted then .notFound
  else if input.ok = false then .failed
  else if current.map s.store.artifactSnapshot ≠ some snapshot then .notFound
  else verdict

/-- Where the answer of `read_artifact_snapshot` leads. -/
def answer (snapshot : ArtifactReadSnapshot) : Purpose → Verdict → State
  | .lookup, .valid => s.ret i call .existing
  | .lookup, .notFound => s.goTo i call .missed
  | .lookup, .invalidated => s.goTo i call (.invalidating snapshot)
  | .existing, .valid => s.ret i call (if snapshot.row.kind = call.publication.kind then .existing else .failed)
  | .ready, .valid => s.ret i call .published
  | _, _ => s.ret i call .failed

/-- `invalidate_artifact_snapshot`. -/
def invalidate (snapshot : ArtifactReadSnapshot) : State :=
  let id := snapshot.row.artifactId
  if input.ok = false then s.ret i call .failed
  else if (s.store.artifactRow id).map s.store.artifactSnapshot = some snapshot then
    let s := s.withStore (s.store.removeObjects ⟨[id], [], none⟩ input.reach)
    if input.reach = .done then s.goTo i call .missed else s.ret i call .failed
  else s.goTo i call .missed

/-- `validate_source_payloads`. -/
def sourcesValid : Bool :=
  call.sessionId ∉ s.deleted ∧ s.store.validateSourceIds call.publication ∧ input.sources = .intact

/-- The staging section. -/
def stage : State :=
  if call.sessionId ∈ s.deleted ∨ call.cancelled ∨ input.stage = .rolledBack then s.ret i call .failed
  else
    match s.store.stageArtifact sha256 call.publication with
    | none => s.ret i call .failed
    | some (.existing row) => s.goTo i call (.found row)
    | some (.staged store) =>
      if input.stage = .complete then (s.withStore store).goTo i call .staged else (s.withStore store).ret i call .failed

/-- The row that has the cache key already: a ready one is read, another one is invalidated. -/
def useFound (row : ArtifactRow) : State :=
  if row.state = .ready then
    if input.ok then s.goTo i call (.reading .existing (s.store.artifactSnapshot row)) else s.ret i call .failed
  else (s.withStore (s.store.removeObjects ⟨[row.artifactId], [], none⟩ input.reach)).ret i call .failed

/-- The capacity section after staging. -/
def reserve : State :=
  match call.publication.kind with
  | .image => if input.ok then s.goTo i call (.writing .queued) else s.giveUp i call
  | .video => if input.ok ∧ input.withinBudget then s.goTo i call .capacious else s.giveUp i call

def publishFile (step : FileStep) : State :=
  let id := call.artifactId
  let fail := s.goTo i call .undoing
  -- a cancellation that the worker sees removes what it has written last, as far as that succeeds
  let check (cleaned : Store) (next : Phase) : State :=
    if call.isCancelled then (if input.ok then s.withStore cleaned else s).goTo i call .undoing else s.goTo i call next
  match step with
  | .queued => if call.isCancelled ∨ input.ok = false then fail else s.goTo i call (.writing .clear)
  | .clear => if input.ok then (s.withStore (s.store.setTemp id none)).goTo i call (.writing .create) else fail
  | .create =>
    if input.ok ∧ s.store.temps id = none then (s.withStore (s.store.setTemp id (some []))).goTo i call (.writing .write)
    else fail
  | .write =>
    if input.ok then
      (s.withStore (s.store.setTemp id (some call.publication.encodedBytes))).goTo i call (.writing .sync)
    else fail
  | .sync => if input.ok then s.goTo i call (.writing .synced) else fail
  | .synced => check (s.store.setTemp id none) (.writing .rename)
  | .rename =>
    if input.ok then
      (s.withStore ((s.store.setFinal id (s.store.temps id)).setTemp id none)).goTo i call (.writing .renamed)
    else fail
  | .renamed => check (s.store.setFinal id none) (.writing .syncDirectory)
  | .syncDirectory => if input.ok then s.goTo i call (.writing .durable) else fail
  | .durable => check (s.store.setFinal id none) .filed

/-- The finalization section: the second reclaim, the checks for a cancellation, and the transaction. -/
def finalize : State :=
  if input.ok = false ∨ call.publication.kind = .video ∧ input.withinBudget = false then s.giveUp i call
  else if call.isCancelled ∨ call.sessionId ∈ s.deleted then s.goTo i call .undoing
  else
    match s.store.finalizeArtifact call.publication with
    | some store => if input.commits then (s.withStore store).goTo i call .finalized else s.giveUp i call
    | none => s.giveUp i call

/-- The next step of a call. -/
def advance : Option State :=
  match call.phase with
  | .begun =>
    if s.calls.any (·.holdsKey call.publication.cacheKey) then none else some (s.goTo i call .locked)
  | .locked =>
    if input.ok = false then some (s.ret i call .failed)
    else
      match (s.store.artifactByCache call.publication.cacheKey true).filter (·.kind = call.publication.kind) with
      | none => some (s.goTo i call .missed)
      | some row => some (s.goTo i call (.reading .lookup (s.store.artifactSnapshot row)))
  | .reading purpose snapshot =>
    some (s.goTo i call (.checking purpose snapshot (s.readFiles sha256 call input snapshot)))
  | .checking purpose snapshot verdict => some (s.answer i call snapshot purpose (s.revalidate input snapshot verdict))
  | .invalidating snapshot => some (s.invalidate i call input snapshot)
  | .missed => some (if s.sourcesValid call input then s.goTo i call .validated else s.ret i call .failed)
  | .validated => some (s.stage sha256 i call input)
  | .found row => some (s.useFound i call input row)
  | .staged => some (s.reserve i call input)
  | .capacious => some (s.goTo i call (if s.sourcesValid call input then .writing .queued else .undoing))
  | .writing step => some (s.publishFile i call input step)
  | .filed => some (s.finalize i call input)
  | .undoing =>
    some ((s.withStore (s.store.removeObjects ⟨[call.artifactId], [], none⟩ input.reach)).ret i call .failed)
  | .finalized =>
    match s.store.artifactRow call.artifactId with
    | some row =>
      some (if input.ok then s.goTo i call (.reading .ready (s.store.artifactSnapshot row)) else s.ret i call .failed)
    | none => some (s.ret i call .failed)
  | .returned => none

/-- The calls take freshly generated ids. -/
def isFresh (id : ArtifactId) : Bool := s.calls.all (·.artifactId ≠ id) ∧ s.store.remains id = .nothing

/-- A reclaim is the one of a call in a capacity section, and spares the artifact that the call has staged. -/
def mayReclaim (index : Nat) (victim : Victim) : Bool :=
  s.calls[index]?.any fun call => (call.phase = .staged ∨ call.phase = .filed) ∧ victim.spares call.artifactId

/-- The artifacts that an eviction picks have a row, and a session is removed once its publications are drained. -/
def mayRemove (reclaimer : Option Nat) (victim : Victim) : Bool :=
  reclaimer.all (fun index => s.mayReclaim index victim) && match victim with
    | .artifact id => (s.store.artifactRow id).isSome
    | .segment _ => true
    | .session id => id ∈ s.drained

def exec : Action → Option State
  | .begin p =>
    if s.isFresh p.artifactId then
      some (if p.sessionId ∈ s.deleted then
        { s with returns := s.returns ++ [⟨p, .failed, s.store.remains p.artifactId⟩] }
      else { s with calls := s.calls ++ [⟨p, .begun, false, false⟩] })
    else none
  | .advance i input => s.calls[i]?.bind fun call => s.advance sha256 i call input
  | .signal i => s.calls[i]?.map fun call => { s with calls := s.calls.set i { call with signalled := true } }
  | .markDeleted session =>
    some { s with
      deleted := session :: s.deleted
      calls := s.calls.map fun call =>
        if call.sessionId = session ∧ call.isActive then { call with cancelled := true } else call }
  | .drain session =>
    if session ∈ s.deleted ∧ s.calls.all (fun call => call.sessionId = session → call.isActive = false) then
      some { s with drained := session :: s.drained }
    else none
  | .remove reclaimer victim reach =>
    if s.mayRemove reclaimer victim then some (s.withStore (s.store.removeObjects (s.store.deletionBatch victim) reach))
    else none

/-- Any tables and files, and no call yet. -/
structure Initial : Prop where
  calls : s.calls = []
  deleted : s.deleted = []
  drained : s.drained = []
  returns : s.returns = []

end State

section Atomicity

variable (sha256 : List UInt8 → Sha256Digest)

/-- A call that has failed has left nothing, and one that has published a ready row with a file that passes its check. -/
structure Return.Atomic (r : Return) : Prop where
  failed : r.outcome = .failed → r.remains = .nothing
  published : r.outcome = .published → ∃ row bytes, r.remains.row = some row ∧ row.state = .ready ∧
    r.remains.final = some bytes ∧ validateStoredArtifact sha256 row bytes r.publication.sources

/-- No row of the session appears or changes, and no file of one of its publications. -/
structure State.StoresNothing (session : SessionId) (s s' : State) : Prop where
  rows : ∀ row ∈ s'.store.rows, row.sessionId = session → row ∈ s.store.rows
  usage : ∀ u ∈ s'.store.usage, u.2 = session → u ∈ s.store.usage
  files : ∀ call ∈ s.calls, call.sessionId = session → ∀ bytes,
    (s'.store.finals call.artifactId = some bytes → s.store.finals call.artifactId = some bytes) ∧
      (s'.store.temps call.artifactId = some bytes → s.store.temps call.artifactId = some bytes)

/-- What is promised of publications. -/
structure State.Atomic (s : State) : Prop where
  returns : ∀ r ∈ s.returns, r.Atomic sha256
  drained : ∀ session ∈ s.drained, ∀ action s', s.exec sha256 action = some s' → s.StoresNothing session s'

end Atomicity

/-- The artifacts that a call invalidates next for another publication. -/
def Phase.removes : Phase → List ArtifactId
  | .invalidating snapshot => [snapshot.row.artifactId]
  | .found row => if row.state = .ready then [] else [row.artifactId]
  | _ => []

namespace State

variable (s : State)

/-- A removal that lists what an active call has stored is not broken off. -/
def completes (artifacts : List ArtifactId) (reach : Reach) : Bool :=
  reach.isWhole ∨ s.calls.all fun call =>
    call.isActive → call.artifactId ∈ artifacts → s.store.remains call.artifactId = .nothing

/-- The step does not take an error path that leaves the artifact behind, unless an eviction has taken all of it. -/
def leavesNothing (call : Call) (input : Input) : Bool :=
  let gone := s.store.remains call.artifactId = .nothing
  let image := call.publication.kind = .image
  let stopped := call.isCancelled ∨ call.sessionId ∈ s.deleted
  match call.phase with
  | .validated => input.stage = .complete ∨ input.stage = .rolledBack
  | .staged => gone ∨ (image → input.ok)
  | .writing .write | .writing .sync | .writing .rename => input.ok
  | .writing .synced => call.isCancelled → input.ok
  | .filed =>
    gone ∨ (image → input.ok ∧ (stopped ∨ input.commits ∧ (s.store.artifactRow call.artifactId).isSome))
  | .undoing => gone ∨ input.reach = .finalized ∨ input.reach = .done
  | .finalized => gone ∨ input.ok
  | .reading .ready _ => gone ∨ input.ok ∧ input.sources = .intact
  | .checking .ready _ _ => gone ∨ input.ok ∧ call.sessionId ∉ s.deleted
  | _ => true

/-- No step leaves something behind, and no removal is broken off in what an active call has stored. -/
def undisturbed : Action → Bool
  | .advance i input => s.calls[i]?.all fun call =>
    s.leavesNothing call input ∧ s.completes call.phase.removes input.reach
  | .remove _ victim reach => s.completes (s.store.deletionBatch victim).artifacts reach
  | _ => true

end State

end Krometrail.Publications
