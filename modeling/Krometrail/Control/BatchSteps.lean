import Krometrail.Control.SnapshotRegistry
import Krometrail.Targets.Model

/-!
# Operations in a batch

The operations that a batch may hold, the results that they build and the validating constructors of a batch
(`browser/batch.rs`).  A result that an operation builds is of the operation's kind and anchored to the page that it was
bound to, and its anchor can be read (`executeOperation_eq_ok`).

Of a request a batch reads its kind, the page it selects and the targets of its references; of a snapshot or an image it
reads nothing.
-/

namespace Krometrail.Control

open Results

/-! ### Operations -/

inductive BrowserOperationKind where
  | inspectPage | snapshotPage | queryPage | takeScreenshot | evaluatePage | observeLive | listPages | listPageContexts
  | waitForPage | listFrames | listPageAssets | readClipboard | writeClipboard | listDownloads | waitForDownload
  | cancelDownload | createPage | selectPage | activatePage | closePage | navigatePage | reloadPage | goBack | goForward
  | setViewport | click | fill | pressKeys | selectOption | hover | drag | scroll | uploadFiles | handleDialog | wait | batch
  deriving DecidableEq

namespace BrowserOperationKind

def stateChanging : BrowserOperationKind → Bool
  | writeClipboard | cancelDownload | createPage | selectPage | activatePage | closePage | navigatePage | reloadPage | goBack
  | goForward | setViewport | click | fill | pressKeys | selectOption | hover | drag | scroll | uploadFiles | handleDialog
  | batch => true
  | _ => false

def pageScoped : BrowserOperationKind → Bool
  | listPages | listPageContexts | waitForPage | listDownloads | waitForDownload | cancelDownload | createPage | selectPage
  | activatePage => false
  | _ => true

def batchable : BrowserOperationKind → Bool
  | inspectPage | snapshotPage | queryPage | takeScreenshot | evaluatePage | navigatePage | reloadPage | goBack | goForward
  | setViewport | click | fill | pressKeys | selectOption | hover | drag | scroll | uploadFiles | handleDialog | wait => true
  | _ => false

/-- The kinds that the registry gives an action. -/
def isInteraction : BrowserOperationKind → Bool
  | click | fill | pressKeys | selectOption | hover | drag | scroll | uploadFiles | handleDialog => true
  | _ => false

def stableName : BrowserOperationKind → String
  | inspectPage => "inspect_page"
  | snapshotPage => "snapshot_page"
  | queryPage => "query_page"
  | takeScreenshot => "take_screenshot"
  | evaluatePage => "evaluate_page"
  | observeLive => "observe_live"
  | listPages => "list_pages"
  | listPageContexts => "list_page_contexts"
  | waitForPage => "wait_for_page"
  | listFrames => "list_frames"
  | listPageAssets => "list_page_assets"
  | readClipboard => "read_clipboard"
  | writeClipboard => "write_clipboard"
  | listDownloads => "list_downloads"
  | waitForDownload => "wait_for_download"
  | cancelDownload => "cancel_download"
  | createPage => "create_page"
  | selectPage => "select_page"
  | activatePage => "activate_page"
  | closePage => "close_page"
  | navigatePage => "navigate_page"
  | reloadPage => "reload_page"
  | goBack => "go_back"
  | goForward => "go_forward"
  | setViewport => "set_viewport"
  | click => "click"
  | fill => "fill"
  | pressKeys => "press_keys"
  | selectOption => "select_option"
  | hover => "hover"
  | drag => "drag"
  | scroll => "scroll"
  | uploadFiles => "upload_files"
  | handleDialog => "handle_dialog"
  | wait => "wait"
  | batch => "batch"

end BrowserOperationKind

inductive PageSelection where
  | selected
  | target (targetId : TargetId)
  deriving DecidableEq

/-- The selection names another page. -/
def PageSelection.excludes (selection : PageSelection) (targetId : TargetId) : Bool :=
  selection ≠ .selected ∧ selection ≠ .target targetId

inductive BrowserOperationScope where
  | browser
  | page (selection : PageSelection)

/-- `references` are the targets that `reference_targets` finds in the locators of the request. -/
structure BrowserOperationRequest where
  kind : BrowserOperationKind
  page : PageSelection
  references : List TargetId

namespace BrowserOperationRequest

def scope (request : BrowserOperationRequest) : BrowserOperationScope :=
  if request.kind.pageScoped then .page request.page else .browser

def inheritSelectedTarget (targetId : TargetId) (request : BrowserOperationRequest) : BrowserOperationRequest :=
  if request.kind.pageScoped ∧ request.page = .selected then { request with page := .target targetId } else request

@[simp] theorem kind_inheritSelectedTarget {targetId : TargetId} {request : BrowserOperationRequest} :
    (request.inheritSelectedTarget targetId).kind = request.kind := by
  unfold inheritSelectedTarget
  split <;> rfl

end BrowserOperationRequest

/-! ### Requests -/

inductive BatchFailurePolicy where
  | stopOnFailure | continueOnFailure
  deriving DecidableEq

structure BatchOptions where
  failurePolicy : BatchFailurePolicy
  includeStepScreenshots : Bool

def maxBatchSteps : Nat := 64

/-- `validate_operation_timeout`; a `Duration` is a number of nanoseconds. -/
def validateOperationTimeout (timeout : Nat) : Result Unit := do
  refuse (timeout = 0) (invalid "operation timeout must be non-zero")
  refuse (timeout % 1000000 ≠ 0) (invalid "operation timeout must use whole milliseconds")
  refuse (2 ^ 64 ≤ timeout / 1000000) (invalid "duration exceeds millisecond range")
  refuse (timeout / 1000000 < 1) (invalid "operation timeout must be at least 1 millisecond")
  refuse (120000 * 1000000 < timeout) (invalid "operation timeout must not exceed 120 seconds")

/-- The checks of `BatchRequest::new` on one step. -/
def checkBatchStep (target : PageSelection) (step : BrowserOperationRequest) : Result Unit := do
  refuse (step.kind.batchable = false) (invalid s!"{step.kind.stableName} is not admitted as a batch step")
  match step.scope with
  | .browser => .error (invalid "browser-scoped operations are not admitted in a batch")
  | .page stepTarget => do
    match stepTarget with
    | .target stepTarget => refuse (target.excludes stepTarget) (invalid "batch step targets another page")
    | .selected => .ok ()
    step.references.forM fun reference => do
      refuse (target.excludes reference) (invalid "batch step reference targets another page")
      refuse (stepTarget.excludes reference) (invalid "batch step reference contradicts its page target")

theorem batchable_of_checkBatchStep {target : PageSelection} {step : BrowserOperationRequest} {u : Unit}
    (h : checkBatchStep target step = .ok u) : step.kind.batchable = true := by
  obtain ⟨_, hadmitted, -⟩ := bind_eq_ok.1 h
  exact Bool.eq_true_of_not_eq_false (refuse_eq_ok.1 hadmitted)

/-- Only `new` builds a `BatchRequest`. -/
structure BatchRequest where
  target : PageSelection
  steps : List BrowserOperationRequest
  timeout : Nat
  options : BatchOptions
  steps_ne_nil : steps ≠ []
  steps_le : steps.length ≤ maxBatchSteps
  admitted : ∀ step ∈ steps, step.kind.batchable = true

/-- The first step that the checks refuse. -/
def checkBatchSteps (target : PageSelection) : (steps : List BrowserOperationRequest) →
    Result (PLift (∀ step ∈ steps, step.kind.batchable = true))
  | [] => .ok ⟨nofun⟩
  | step :: steps =>
    match h : checkBatchStep target step with
    | .error error => .error error
    | .ok _ => do
      let ⟨hrest⟩ ← checkBatchSteps target steps
      return ⟨List.forall_mem_cons.2 ⟨batchable_of_checkBatchStep h, hrest⟩⟩

def BatchRequest.new (target : PageSelection) (steps : List BrowserOperationRequest) (timeout : Nat)
    (options : BatchOptions) : Result BatchRequest := do
  validateOperationTimeout timeout
  let steps := match target with
    | .target targetId => steps.map (·.inheritSelectedTarget targetId)
    | .selected => steps
  if hcount : steps ≠ [] ∧ steps.length ≤ maxBatchSteps then
    let ⟨hadmitted⟩ ← checkBatchSteps target steps
    return ⟨target, steps, timeout, options, hcount.1, hcount.2, hadmitted⟩
  else .error (invalid "batch must contain between one and 64 steps")

/-! ### Results of operations -/

inductive ObservationPart (α : Type) where
  | available (value : α)
  | unavailable (error : KrometrailError)

structure EncodedScreenshot where
  encoded : List UInt8

structure PageState where
  url : String
  title : String

structure LiveObservation where
  context : ObservationContext
  page : ObservationPart PageState
  snapshot : ObservationPart PageSnapshot
  screenshot : ObservationPart EncodedScreenshot

structure InteractionTiming where
  startedAt : SessionTime
  dispatchedAt : SessionTime
  completedAt : SessionTime
  observedAt : Option SessionTime

def InteractionTiming.new (startedAt dispatchedAt completedAt : SessionTime) (observedAt : Option SessionTime) :
    Result InteractionTiming := do
  refuse (startedAt > dispatchedAt ∨ dispatchedAt > completedAt ∨ ∃ observed ∈ observedAt, observed < completedAt)
    (invalid "interaction times must be monotonically ordered")
  return { startedAt, dispatchedAt, completedAt, observedAt }

structure InteractionAnchor where
  interactionId : InteractionId
  sessionId : SessionId
  targetId : TargetId
  operation : BrowserOperationKind
  timing : InteractionTiming

def InteractionAnchor.new (interactionId : InteractionId) (sessionId : SessionId) (targetId : TargetId)
    (operation : BrowserOperationKind) (timing : InteractionTiming) : Result InteractionAnchor := do
  refuse (operation.stateChanging = false) (invalid "interaction operation must be state-changing")
  return { interactionId, sessionId, targetId, operation, timing }

inductive PageChange where
  | created (targetId : TargetId)
  | selected (previous : Option TargetId) (selected : TargetId)
  | activated (targetId : TargetId)
  | closed (closed : TargetId) (selected : Option TargetId)
  | navigated | reloaded | wentBack | wentForward
  | viewportConfigured (overrideActive : Bool)
  | clipboardWritten

def PageChange.mutatedTarget (anchor : TargetId) : PageChange → TargetId
  | .created page => page
  | .selected _ page => page
  | .activated page => page
  | .closed page _ => page
  | _ => anchor

inductive PageOperationOutcome where
  | succeeded (change : PageChange)
  | failed (error : KrometrailError)

def PageOperationOutcome.change : PageOperationOutcome → Option PageChange
  | succeeded change => some change
  | failed _ => none

structure PageOperationResult where
  interaction : InteractionAnchor
  outcome : PageOperationOutcome
  observation : ObservationPart LiveObservation

def PageOperationResult.new (interaction : InteractionAnchor) (outcome : PageOperationOutcome)
    (observation : ObservationPart LiveObservation) : Result PageOperationResult := do
  refuse (∃ change ∈ outcome.change, change.mutatedTarget interaction.targetId ≠ interaction.targetId)
    (invalid "page change target does not match interaction target")
  return { interaction, outcome, observation }

/-- Only `new` builds an `InteractionRecord`. -/
structure InteractionRecord where
  id : InteractionId
  context : ObservationContext
  dispatchTime : SessionTime
  liveObservationTime : SessionTime
  action : BrowserOperationKind
  ordered : context.startedAt ≤ dispatchTime ∧ dispatchTime ≤ liveObservationTime
  stateChanging : action.stateChanging = true

theorem BrowserOperationKind.stateChanging_of_interaction (kind : BrowserOperationKind)
    (h : kind.isInteraction ∨ kind = .writeClipboard ∨ kind = .cancelDownload) : kind.stateChanging = true := by
  cases kind <;> simp_all [isInteraction, stateChanging]

def InteractionRecord.new (id : InteractionId) (context : ObservationContext) (dispatchTime liveObservationTime : SessionTime)
    (action : BrowserOperationKind) : Result InteractionRecord :=
  if htimes : context.startedAt ≤ dispatchTime ∧ dispatchTime ≤ liveObservationTime ∧
      liveObservationTime ≤ context.completedAt then
    if haction : action.isInteraction ∨ action = .writeClipboard ∨ action = .cancelDownload then
      .ok ⟨id, context, dispatchTime, liveObservationTime, action, ⟨htimes.1, htimes.2.1⟩,
        action.stateChanging_of_interaction haction⟩
    else .error (invalid "interaction record action must be an interaction operation")
  else .error (invalid "interaction record times must be monotonically ordered")

def InteractionRecord.anchor (record : InteractionRecord) : Result InteractionAnchor := do
  let timing ← InteractionTiming.new record.context.startedAt record.dispatchTime record.liveObservationTime
    (some record.liveObservationTime)
  InteractionAnchor.new record.id record.context.sessionId record.context.targetId record.action timing

structure InteractionResult where
  record : InteractionRecord
  observation : LiveObservation

inductive WaitOutcome where
  | satisfied (matchedAt : SessionTime)
  | timedOut (lastProbeAt : SessionTime)

/-- The values of the other results are left out. -/
inductive BrowserOperationResult where
  | inspectPage | snapshotPage | queryPage
  | takeScreenshot (value : EncodedScreenshot)
  | evaluatePage
  | observeLive (value : LiveObservation)
  | listPages | listPageContexts | waitForPage | listFrames | listPageAssets | readClipboard | writeClipboard | listDownloads
  | waitForDownload | cancelDownload
  | createPage (value : PageOperationResult)
  | selectPage (value : PageOperationResult)
  | activatePage (value : PageOperationResult)
  | closePage (value : PageOperationResult)
  | navigatePage (value : PageOperationResult)
  | reloadPage (value : PageOperationResult)
  | goBack (value : PageOperationResult)
  | goForward (value : PageOperationResult)
  | setViewport (operation : PageOperationResult)
  | click (value : InteractionResult)
  | fill (value : InteractionResult)
  | pressKeys (value : InteractionResult)
  | selectOption (value : InteractionResult)
  | hover (value : InteractionResult)
  | drag (value : InteractionResult)
  | scroll (value : InteractionResult)
  | uploadFiles (value : InteractionResult)
  | handleDialog (value : InteractionResult)
  | wait (outcome : WaitOutcome)
  | batch

namespace BrowserOperationResult

def kind : BrowserOperationResult → BrowserOperationKind
  | inspectPage => .inspectPage
  | snapshotPage => .snapshotPage
  | queryPage => .queryPage
  | takeScreenshot _ => .takeScreenshot
  | evaluatePage => .evaluatePage
  | observeLive _ => .observeLive
  | listPages => .listPages
  | listPageContexts => .listPageContexts
  | waitForPage => .waitForPage
  | listFrames => .listFrames
  | listPageAssets => .listPageAssets
  | readClipboard => .readClipboard
  | writeClipboard => .writeClipboard
  | listDownloads => .listDownloads
  | waitForDownload => .waitForDownload
  | cancelDownload => .cancelDownload
  | createPage _ => .createPage
  | selectPage _ => .selectPage
  | activatePage _ => .activatePage
  | closePage _ => .closePage
  | navigatePage _ => .navigatePage
  | reloadPage _ => .reloadPage
  | goBack _ => .goBack
  | goForward _ => .goForward
  | setViewport _ => .setViewport
  | click _ => .click
  | fill _ => .fill
  | pressKeys _ => .pressKeys
  | selectOption _ => .selectOption
  | hover _ => .hover
  | drag _ => .drag
  | scroll _ => .scroll
  | uploadFiles _ => .uploadFiles
  | handleDialog _ => .handleDialog
  | wait _ => .wait
  | batch => .batch

end BrowserOperationResult

/-! ### The result of a batch -/

inductive BatchStepStatus where
  | succeeded | failed | skipped
  deriving DecidableEq

inductive BatchSkipReason where
  | priorFailure | batchCancelled | batchTimedOut | targetUnavailable
  deriving DecidableEq

structure BatchStepResult where
  index : Nat
  operation : BrowserOperationKind
  targetId : TargetId
  status : BatchStepStatus
  startedAt : Option SessionTime
  completedAt : Option SessionTime
  interaction : Option InteractionAnchor
  result : Option BrowserOperationResult
  error : Option KrometrailError
  skipReason : Option BatchSkipReason
  screenshot : Option (ObservationPart EncodedScreenshot)

def ObservationPart.isAvailable {α : Type} : ObservationPart α → Bool
  | available _ => true
  | unavailable _ => false

/-- The checks of `BatchStepResult::new`. -/
def BatchStepResult.check (step : BatchStepResult) : Result BatchStepResult := do
  refuse (∃ started ∈ step.startedAt, ∃ completed ∈ step.completedAt, started > completed)
    (invalid "batch step times must be monotonically ordered")
  refuse (∃ anchor ∈ step.interaction, anchor.targetId ≠ step.targetId ∨ anchor.operation ≠ step.operation)
    (invalid "batch step interaction anchor does not match the step")
  refuse (∃ result ∈ step.result, result.kind ≠ step.operation)
    (invalid "batch step result kind does not match the operation")
  match step.status with
  | .succeeded =>
    refuse (step.startedAt.isNone ∨ step.completedAt.isNone ∨ step.result.isNone ∨ step.error.isSome ∨ step.skipReason.isSome)
      (invalid "successful batch step has inconsistent fields")
  | .failed =>
    refuse (step.startedAt.isNone ∨ step.completedAt.isNone ∨ step.error.isNone ∨ step.skipReason.isSome)
      (invalid "failed batch step has inconsistent fields")
  | .skipped =>
    refuse (step.startedAt.isSome ∨ step.completedAt.isSome ∨ step.interaction.isSome ∨ step.result.isSome ∨
        step.error.isSome ∨ step.skipReason.isNone ∨ step.screenshot.any (·.isAvailable))
      (invalid "skipped batch step has inconsistent fields")
  return step

def BatchStepResult.new (index : Nat) (operation : BrowserOperationKind) (targetId : TargetId) (status : BatchStepStatus)
    (startedAt completedAt : Option SessionTime) (interaction : Option InteractionAnchor)
    (result : Option BrowserOperationResult) (error : Option KrometrailError) (skipReason : Option BatchSkipReason)
    (screenshot : Option (ObservationPart EncodedScreenshot)) : Result BatchStepResult :=
  BatchStepResult.check
    { index, operation, targetId, status, startedAt, completedAt, interaction, result, error, skipReason, screenshot }

inductive BatchOutcome where
  | completed | completedWithFailures | stoppedOnFailure | cancelled | timedOut

structure BatchResult where
  batchId : InteractionId
  targetId : TargetId
  startedAt : SessionTime
  completedAt : SessionTime
  outcome : BatchOutcome
  steps : List BatchStepResult
  finalObservation : ObservationPart LiveObservation

/-- The checks of `BatchResult::new` on the entry at a place. -/
def checkBatchEntry (targetId : TargetId) (startedAt completedAt : SessionTime) (entry : BatchStepResult × Nat) :
    Result Unit := do
  refuse (entry.1.index ≠ entry.2) (invalid "batch step indexes must be contiguous and ordered")
  refuse (entry.1.targetId ≠ targetId) (invalid "batch result contains a step for another target")
  refuse ((∃ value ∈ entry.1.startedAt, value < startedAt) ∨ ∃ value ∈ entry.1.completedAt, value > completedAt)
    (invalid "batch step timing lies outside the batch interval")

def BatchResult.new (batchId : InteractionId) (targetId : TargetId) (startedAt completedAt : SessionTime)
    (outcome : BatchOutcome) (steps : List BatchStepResult) (finalObservation : ObservationPart LiveObservation) :
    Result BatchResult := do
  refuse (startedAt > completedAt) (invalid "batch times must be monotonically ordered")
  refuse (steps.isEmpty ∨ steps.length > maxBatchSteps) (invalid "batch result must contain between one and 64 steps")
  steps.zipIdx.forM (checkBatchEntry targetId startedAt completedAt)
  return { batchId, targetId, startedAt, completedAt, outcome, steps, finalObservation }

/-- What an operation meets: the error with which it fails, at whatever point, or the values from which it builds its
result.  `other` is the result of an operation that no batch dispatches. -/
structure Performance where
  failure : Option KrometrailError
  sessionId : SessionId
  interactionId : InteractionId
  startedAt : SessionTime
  dispatchedAt : SessionTime
  completedAt : SessionTime
  pageOutcome : PageOperationOutcome
  observation : ObservationPart LiveObservation
  live : LiveObservation
  image : EncodedScreenshot
  waited : WaitOutcome
  other : Result BrowserOperationResult

/-- `navigation_result` and `build_page_result`. -/
def pageOperationResult (targetId : TargetId) (kind : BrowserOperationKind) (p : Performance) : Result PageOperationResult := do
  let (completed, observed) := match p.observation with
    | .available observation => (observation.context.startedAt, some observation.context.completedAt)
    | .unavailable _ => (p.completedAt, none)
  let timing ← InteractionTiming.new p.startedAt p.dispatchedAt completed observed
  let anchor ← InteractionAnchor.new p.interactionId p.sessionId targetId kind timing
  PageOperationResult.new anchor p.pageOutcome p.observation

/-- The end of `execute_interaction_request_inner`. -/
def interactionResult (bound : BoundTarget) (kind : BrowserOperationKind) (p : Performance) : Result InteractionResult := do
  let liveObservationTime := p.live.context.completedAt
  let context ← ObservationContext.new p.sessionId bound.targetId bound.attachmentGeneration p.startedAt liveObservationTime
  let record ← InteractionRecord.new p.interactionId context p.dispatchedAt liveObservationTime kind
  return { record, observation := p.live }

def operationResult (bound : BoundTarget) (kind : BrowserOperationKind) (p : Performance) : Result BrowserOperationResult :=
  match kind with
  | .inspectPage => .ok .inspectPage
  | .snapshotPage => .ok .snapshotPage
  | .queryPage => .ok .queryPage
  | .takeScreenshot => .ok (.takeScreenshot p.image)
  | .evaluatePage => .ok .evaluatePage
  | .observeLive => .ok (.observeLive p.live)
  | .navigatePage => .navigatePage <$> pageOperationResult bound.targetId .navigatePage p
  | .reloadPage => .reloadPage <$> pageOperationResult bound.targetId .reloadPage p
  | .goBack => .goBack <$> pageOperationResult bound.targetId .goBack p
  | .goForward => .goForward <$> pageOperationResult bound.targetId .goForward p
  | .setViewport => .setViewport <$> pageOperationResult bound.targetId .setViewport p
  | .click => .click <$> interactionResult bound .click p
  | .fill => .fill <$> interactionResult bound .fill p
  | .pressKeys => .pressKeys <$> interactionResult bound .pressKeys p
  | .selectOption => .selectOption <$> interactionResult bound .selectOption p
  | .hover => .hover <$> interactionResult bound .hover p
  | .drag => .drag <$> interactionResult bound .drag p
  | .scroll => .scroll <$> interactionResult bound .scroll p
  | .uploadFiles => .uploadFiles <$> interactionResult bound .uploadFiles p
  | .handleDialog => .handleDialog <$> interactionResult bound .handleDialog p
  | .wait => .ok (.wait p.waited)
  | _ => p.other

def resultAnchor : BrowserOperationResult → Result (Option InteractionAnchor)
  | .createPage value | .selectPage value | .activatePage value | .closePage value | .navigatePage value | .reloadPage value
  | .goBack value | .goForward value => .ok (some value.interaction)
  | .setViewport operation => .ok (some operation.interaction)
  | .click value | .fill value | .pressKeys value | .selectOption value | .hover value | .drag value | .scroll value
  | .uploadFiles value | .handleDialog value => some <$> value.record.anchor
  | _ => .ok none

private theorem map_eq_ok {α β : Type} {f : α → β} {x : Result α} {b : β} : f <$> x = .ok b ↔ ∃ a, x = .ok a ∧ f a = b := by
  cases x with
  | error e => exact ⟨nofun, fun ⟨_, h, _⟩ => nomatch h⟩
  | ok a => exact ⟨fun h => ⟨a, rfl, Except.ok.inj h⟩, fun ⟨_, h, hb⟩ => by cases h; exact congrArg Except.ok hb⟩

variable {bound : BoundTarget} {kind : BrowserOperationKind} {p : Performance}

theorem pageOperationResult_eq_ok {targetId : TargetId} {value : PageOperationResult}
    (h : pageOperationResult targetId kind p = .ok value) :
    value.interaction.targetId = targetId ∧ value.interaction.operation = kind := by
  simp only [pageOperationResult, InteractionAnchor.new, PageOperationResult.new, bind_eq_ok, pure_eq_ok] at h
  obtain ⟨timing, -, anchor, ⟨-, -, rfl⟩, -, -, rfl⟩ := h
  exact ⟨rfl, rfl⟩

theorem InteractionRecord.anchor_eq (record : InteractionRecord) :
    ∃ anchor, record.anchor = .ok anchor ∧ anchor.targetId = record.context.targetId ∧ anchor.operation = record.action := by
  have htimes : ¬ (record.context.startedAt > record.dispatchTime ∨ record.dispatchTime > record.liveObservationTime ∨
      ∃ observed ∈ some record.liveObservationTime, observed < record.liveObservationTime) := by
    rintro (h | h | ⟨observed, hobserved, h⟩)
    · exact absurd record.ordered.1 (not_le.2 h)
    · exact absurd record.ordered.2 (not_le.2 h)
    · cases hobserved
      exact lt_irrefl _ h
  have hchanging : ¬ record.action.stateChanging = false := by simp [record.stateChanging]
  simp only [anchor, InteractionTiming.new, InteractionAnchor.new, refuse, if_neg htimes, if_neg hchanging]
  exact ⟨_, rfl, rfl, rfl⟩

theorem interactionResult_eq_ok {value : InteractionResult} (h : interactionResult bound kind p = .ok value) :
    ∃ anchor, value.record.anchor = .ok anchor ∧ anchor.targetId = bound.targetId ∧ anchor.operation = kind := by
  simp only [interactionResult, ObservationContext.new, bind_eq_ok, pure_eq_ok] at h
  obtain ⟨context, ⟨-, -, rfl⟩, record, hrecord, rfl⟩ := h
  obtain ⟨anchor, hanchor, htarget, hoperation⟩ := record.anchor_eq
  unfold InteractionRecord.new at hrecord
  split_ifs at hrecord
  cases hrecord
  exact ⟨anchor, hanchor, htarget, hoperation⟩

/-- The result belongs to an operation of the kind on the page. -/
def BrowserOperationResult.BelongsTo (result : BrowserOperationResult) (targetId : TargetId) (kind : BrowserOperationKind) :
    Prop :=
  result.kind = kind ∧ ∃ interaction, resultAnchor result = .ok interaction ∧
    ∀ anchor ∈ interaction, anchor.targetId = targetId ∧ anchor.operation = kind

variable {result : BrowserOperationResult}

theorem belongsTo_ofPage {build : PageOperationResult → BrowserOperationResult}
    (hbuild : ∀ value, (build value).kind = kind ∧ resultAnchor (build value) = .ok (some value.interaction))
    (h : build <$> pageOperationResult bound.targetId kind p = .ok result) : result.BelongsTo bound.targetId kind := by
  obtain ⟨value, hvalue, rfl⟩ := map_eq_ok.1 h
  refine ⟨(hbuild value).1, some value.interaction, (hbuild value).2, ?_⟩
  rintro _ ⟨⟩
  exact pageOperationResult_eq_ok hvalue

theorem belongsTo_ofInteraction {build : InteractionResult → BrowserOperationResult}
    (hbuild : ∀ value, (build value).kind = kind ∧ resultAnchor (build value) = some <$> value.record.anchor)
    (h : build <$> interactionResult bound kind p = .ok result) : result.BelongsTo bound.targetId kind := by
  obtain ⟨value, hvalue, rfl⟩ := map_eq_ok.1 h
  obtain ⟨anchor, hanchor, hbelongs⟩ := interactionResult_eq_ok hvalue
  refine ⟨(hbuild value).1, some anchor, by rw [(hbuild value).2, hanchor]; rfl, ?_⟩
  rintro _ ⟨⟩
  exact hbelongs

theorem operationResult_eq_ok (hkind : kind.batchable = true ∨ kind = .observeLive)
    (h : operationResult bound kind p = .ok result) : result.BelongsTo bound.targetId kind := by
  have hplain : ∀ {r : BrowserOperationResult}, r.kind = kind → resultAnchor r = .ok none → r.BelongsTo bound.targetId kind :=
    fun hr hanchor => ⟨hr, none, hanchor, nofun⟩
  cases kind with
  | inspectPage | snapshotPage | queryPage | takeScreenshot | evaluatePage | observeLive | wait =>
    cases h
    exact hplain rfl rfl
  | navigatePage | reloadPage | goBack | goForward | setViewport => exact belongsTo_ofPage (fun _ => ⟨rfl, rfl⟩) h
  | click | fill | pressKeys | selectOption | hover | drag | scroll | uploadFiles | handleDialog =>
    exact belongsTo_ofInteraction (fun _ => ⟨rfl, rfl⟩) h
  | _ => simp [BrowserOperationKind.batchable] at hkind

end Krometrail.Control
