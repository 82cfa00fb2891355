import Krometrail.Core.Text

/-!
# Errors

The stable failure vocabulary of the core crate: error codes with their default retry advice and recovery text,
and `KrometrailError` with its constructors.  A `NonEmptyText` is a plain string here: every text of the modelled
functions is written out in the source.  The `context` of an error, which none of these functions fills in, is
left out.
-/

namespace Krometrail

inductive ErrorCode where
  | invalidInput | invalidLifecycleTransition | invalidTime | notFound | unsupported | browserDisconnected
  | browserNotFound | browserLaunchFailed | browserProcessTerminated | browserCompatibilityFailed | profileInUse
  | targetFailed | targetHidden | staleReference | referenceNotActionable | pageObservationFailed | dialogOpen
  | screenshotFailed | compositorRendezvousUnobserved | evaluationFailed | navigationFailed | interactionFailed
  | waitTimedOut | reconnectExhausted | cancelled | shutdownIncomplete | captureFailed | captureRejected
  | persistenceFailed | budgetExhausted | artifactGenerationFailed | videoEncoderUnavailable
  | videoEncodingFailed | evidenceInvalidated | resourceLimitExceeded | internal
  deriving DecidableEq

inductive RetryAdvice where
  | never | safe | afterRecovery
  deriving DecidableEq

inductive PersistenceOperation where
  | segmentDirectoryPreparation | openSegmentCreation | openSegmentPublicationSync | frameRecordAppend
  | frameRecordFlush | sealedSegmentFooterWrite | sealedSegmentFileSync | sealedSegmentPublication
  | sealedSegmentPublicationSync | segmentWriterWorker | frameIndex | gapIndex | sessionFlush
  deriving DecidableEq

inductive PersistenceFailureCategory where
  | notFound | permissionDenied | alreadyExists | interrupted | resourceBusy | storageFull | readOnlyFilesystem
  | invalidData | unavailable | other
  deriving DecidableEq

inductive PersistenceRecoverability where
  | writerUsable | writerTerminal
  deriving DecidableEq

structure PersistenceFailure where
  operation : PersistenceOperation
  category : PersistenceFailureCategory
  recoverability : PersistenceRecoverability
  deriving DecidableEq

structure KrometrailError where
  code : ErrorCode
  message : String
  retry : RetryAdvice
  recovery : Option String
  persistence : Option PersistenceFailure
  deriving DecidableEq

abbrev Result (α : Type) := Except KrometrailError α

namespace ErrorCode

def defaultRetry : ErrorCode → RetryAdvice
  | browserNotFound | browserLaunchFailed | browserCompatibilityFailed | profileInUse | reconnectExhausted =>
    .afterRecovery
  | targetFailed | pageObservationFailed | screenshotFailed | navigationFailed | interactionFailed
  | waitTimedOut | compositorRendezvousUnobserved => .safe
  | videoEncodingFailed => .safe
  | targetHidden | staleReference | referenceNotActionable | dialogOpen | budgetExhausted => .afterRecovery
  | videoEncoderUnavailable => .afterRecovery
  | captureFailed => .afterRecovery
  | _ => .never

def defaultRecovery : ErrorCode → Option String
  | browserNotFound => some "set an explicit executable or KROMETRAIL_CHROME_PATH, or install Chrome/Chromium in a platform-default or PATH location; inspect correlated discovery diagnostics, then retry"
  | browserLaunchFailed => some "check the browser installation and profile, then retry"
  | browserProcessTerminated => some "start a new browser session"
  | browserCompatibilityFailed => some "use a compatible Chrome renderer and retry"
  | profileInUse => some "close the other session using this profile, then retry"
  | targetFailed => some "refresh the target or choose another page"
  | targetHidden => some "select or foreground the page, then retry the pointer operation"
  | staleReference => some "request a fresh snapshot and retry once with the new reference"
  | referenceNotActionable => some "refresh the snapshot or choose another target"
  | pageObservationFailed =>
    some "retry once; if it fails again, inspect browser compatibility and status"
  | dialogOpen => some "call handle_dialog to accept or dismiss the open JavaScript dialog, then retry; retrying before that never succeeds"
  | screenshotFailed => some "retry once; if it fails again, inspect browser compatibility and status"
  | compositorRendezvousUnobserved => some "treat the immediate screenshot as possibly unsettled; consult retained temporal frames for the settled state before reporting a visual defect"
  | evaluationFailed => some "use a bounded side-effect-free expression returning a JSON value"
  | navigationFailed => some "inspect current page status before retrying navigation"
  | interactionFailed =>
    some "retry against a current target, or refresh the snapshot if the page changed"
  | waitTimedOut => some "inspect the current page state or increase the explicit wait timeout"
  | reconnectExhausted => some "check the browser and start a new session"
  | cancelled => some "start the operation again if it is still needed"
  | shutdownIncomplete => some "inspect the browser process before starting another session"
  | captureFailed => some "inspect browser status and diagnostics, then start a new session before relying on temporal history"
  | budgetExhausted => some "unpin or delete retained evidence, or increase the disk budget"
  | evidenceInvalidated =>
    some "regenerate the artifact from its original request if sources remain"
  | videoEncoderUnavailable => some "restore a supported user-installed FFmpeg executable and restart the Krometrail MCP server"
  | videoEncodingFailed => some "retry once; if encoding fails again, restart Krometrail to requalify the installed FFmpeg executable"
  | _ => none

end ErrorCode

namespace KrometrailError

def new (code : ErrorCode) (message : String) : KrometrailError :=
  { code, message, retry := .never, recovery := none, persistence := none }

def withRetry (error : KrometrailError) (retry : RetryAdvice) : KrometrailError := { error with retry }

def withRecovery (error : KrometrailError) (recovery : String) : KrometrailError :=
  { error with recovery := some recovery }

def withPersistence (error : KrometrailError) (persistence : PersistenceFailure) : KrometrailError :=
  { error with persistence := some persistence }

def fromBrowserFailure (code : ErrorCode) (message : String) : KrometrailError :=
  let error := (new code message).withRetry code.defaultRetry
  match code.defaultRecovery with
  | some recovery => error.withRecovery recovery
  | none => error

end KrometrailError

def invalid (message : String) : KrometrailError := .new .invalidInput message

def invalidTransition (message : String) : KrometrailError := .new .invalidLifecycleTransition message

/-- `Option::ok_or_else`. -/
def okOr {α : Type} (value : Option α) (error : KrometrailError) : Result α := value.elim (.error error) .ok

@[simp] theorem okOr_some {α : Type} (a : α) (error : KrometrailError) : okOr (some a) error = .ok a := rfl

@[simp] theorem okOr_eq_ok {α : Type} {value : Option α} {error : KrometrailError} {a : α} :
    okOr value error = .ok a ↔ value = some a := by
  cases value with
  | none => exact ⟨nofun, nofun⟩
  | some b => exact ⟨fun h => congrArg some (Except.ok.inj h), fun h => congrArg Except.ok (Option.some.inj h)⟩

end Krometrail
