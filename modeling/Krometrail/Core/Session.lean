import Krometrail.Core.Error
import Krometrail.Core.Values

/-!
# Target lifecycle

The transition table of `TargetLifecycle` and the checked `transition`.  `Closed` and `Failed` are terminal: no row
of the table leaves them (`transition_terminal`), and every other state may fail, close or be suspended.
-/

namespace Krometrail

inductive TargetLifecycle where
  | discovered | attached | recording | hidden | suspended | closed | failed
  deriving DecidableEq

namespace TargetLifecycle

/-- `TargetLifecycle::TRANSITIONS`. -/
def transitions : TargetLifecycle → List TargetLifecycle
  | discovered => [attached, suspended, closed, failed]
  | attached => [recording, hidden, suspended, closed, failed]
  | recording => [hidden, suspended, closed, failed]
  | hidden => [recording, suspended, closed, failed]
  | suspended => [discovered, attached, recording, hidden, closed, failed]
  | closed => []
  | failed => []

def asStr : TargetLifecycle → String
  | discovered => "discovered"
  | attached => "attached"
  | recording => "recording"
  | hidden => "hidden"
  | suspended => "suspended"
  | closed => "closed"
  | failed => "failed"

def allowsTransition (self next : TargetLifecycle) : Bool := self.transitions.contains next

def transitionMessage (self next : TargetLifecycle) : String :=
  "cannot transition TargetLifecycle from " ++ self.asStr ++ " to " ++ next.asStr

def transition (self next : TargetLifecycle) : Result TargetLifecycle :=
  if self.allowsTransition next then .ok next else .error (invalidTransition (transitionMessage self next))

/-- `matches!(lifecycle, Closed | Failed)`. -/
def isTerminal : TargetLifecycle → Bool
  | closed | failed => true
  | _ => false

@[simp] theorem transition_eq_ok {self next r : TargetLifecycle} :
    self.transition next = .ok r ↔ self.allowsTransition next = true ∧ r = next := by
  unfold transition
  split
  · rename_i h
    exact ⟨fun hr => ⟨h, (Except.ok.inj hr).symm⟩, fun hr => by rw [hr.2]⟩
  · rename_i h
    exact ⟨nofun, fun hr => absurd hr.1 h⟩

theorem transition_terminal {self next r : TargetLifecycle} (h : self.transition next = .ok r) :
    self.isTerminal = false := by
  cases self <;> simp_all [allowsTransition, transitions, isTerminal]

theorem allowsTransition_failed {self : TargetLifecycle} :
    self.allowsTransition .failed = !self.isTerminal := by
  cases self <;> rfl

theorem allowsTransition_closed {self : TargetLifecycle} :
    self.allowsTransition .closed = !self.isTerminal := by
  cases self <;> rfl

end TargetLifecycle

end Krometrail

/-!
## Browser session values

The parts of the core crate's browser vocabulary that target supervision reads and writes: the session state, page
targets and their sequence numbers, supervised targets, and the session events the supervisor publishes.
-/

namespace Krometrail

inductive BrowserSessionState where
  | connecting | ready | reconnecting | stopping | ended
  deriving DecidableEq

inductive TargetVisibility where
  | unknown | visible | hidden
  deriving DecidableEq

structure RendererCapability where
  name : String

structure CapabilitySupport where
  capability : RendererCapability
  available : Bool
  required : Bool
  detail : Option String

structure BrowserVersion where
  product : String
  productVersion : String
  revision : String
  protocolVersion : String
  userAgent : String
  jsVersion : String

structure BrowserCompatibility where
  version : BrowserVersion
  capabilities : List CapabilitySupport

/-- The scale factor is kept as the bits of its `f64`. -/
structure ViewportMetrics where
  width : UInt32
  height : UInt32
  deviceScaleFactor : UInt64
  mobile : Bool
  touch : Bool
  deriving DecidableEq

/-- `MAX_KNOWN_PAGE_TARGETS`. -/
def maxKnownPageTargets : Nat := 128

structure PageSequence where
  value : Nat
  ne_zero : value ≠ 0

def PageSequence.new (value : Nat) : Result PageSequence :=
  if h : value = 0 then .error (invalid "page sequence must be non-zero") else .ok ⟨value, h⟩

@[ext] structure PageTarget where
  id : TargetId
  browserTargetKey : String
  url : String
  title : String
  key_nonblank : isBlank browserTargetKey = false
  url_nonblank : isBlank url = false

instance : DecidableEq PageTarget := fun a b => decidable_of_iff
  (a.id = b.id ∧ a.browserTargetKey = b.browserTargetKey ∧ a.url = b.url ∧ a.title = b.title) PageTarget.ext_iff.symm

def PageTarget.new (id : TargetId) (browserTargetKey url title : String) : Result PageTarget :=
  if hkey : isBlank browserTargetKey = false then
    if hurl : isBlank url = false then
      .ok ⟨id, browserTargetKey, url, title, hkey, hurl⟩
    else .error (invalid "target URL must not be empty")
  else .error (invalid "browser target key must not be empty")

theorem PageTarget.id_of_new {id : TargetId} {browserTargetKey url title : String} {page : PageTarget}
    (h : PageTarget.new id browserTargetKey url title = .ok page) : page.id = id := by
  unfold PageTarget.new at h
  split at h
  · split at h
    · rw [← Except.ok.inj h]
    · cases h
  · cases h

structure SupervisedTarget where
  target : PageTarget
  lifecycle : TargetLifecycle
  visibility : TargetVisibility
  attachmentGeneration : Nat
  deriving DecidableEq

inductive BrowserSessionEvent where
  | sessionStateChanged (state : BrowserSessionState)
  | sessionFailed (error : KrometrailError)
  | targetDiscovered (target : SupervisedTarget)
  | targetChanged (target : SupervisedTarget)
  | targetClosed (targetId : TargetId)
  | selectedTargetChanged (previous selected : Option TargetId)
  | targetFailed (targetId : TargetId) (error : KrometrailError)
  deriving DecidableEq

end Krometrail
