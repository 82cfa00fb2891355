import Krometrail.Core.Values
import Krometrail.Lib.Runs

/-!
# The geometry of a capture stream

A capture stream stamps its frames with the geometry of the page.  An event that may change the geometry opens a
transition, or joins the open one, and asks the supervisor to read the geometry and to finish the transition with it; a
viewport operation does the same on its own.  A frame that is received or acknowledged while a transition is open, or
across one, is marked as uncertain.
-/

namespace Krometrail.CaptureGeometry

open Runs (Run System exists_run)

structure StreamKey where
  targetId : TargetId
  attachmentGeneration : Nat
  deriving DecidableEq

structure CaptureGeometryTransition where
  key : StreamKey
  revision : Nat
  deriving DecidableEq

/-- The geometry itself is copied and never looked at. -/
structure GeometryAuthority (G : Type) where
  established : G
  revision : Nat
  transition : Option CaptureGeometryTransition

structure GeometryFence (G : Type) where
  revision : Nat
  geometry : G
  uncertain : Bool

structure FrameGeometry (G : Type) where
  geometry : G
  metadataUncertain : Bool
  deriving DecidableEq

namespace GeometryAuthority

variable {G : Type} (a : GeometryAuthority G)

def fence : GeometryFence G := ⟨a.revision, a.established, a.transition.isSome⟩

def afterAck (fence : GeometryFence G) : FrameGeometry G :=
  ⟨fence.geometry, fence.uncertain || a.transition.isSome || a.revision ≠ fence.revision⟩

/-- Whether the transition is a new one is of no use to the callers. -/
def beginTransition (key : StreamKey) : Option (CaptureGeometryTransition × GeometryAuthority G) :=
  match a.transition with
  | some token => some (token, a)
  | none =>
    (checkedAdd a.revision 1).map fun revision => (⟨key, revision⟩, { a with revision, transition := some ⟨key, revision⟩ })

/-- A token that is not the one of the open transition changes nothing. -/
def finishTransition (token : CaptureGeometryTransition) (geometry : Option G) : GeometryAuthority G :=
  if a.transition = some token then
    { a with established := geometry.getD a.established, transition := none }
  else a

end GeometryAuthority

/-- The supervisor runs one command at a time: a refresh, or a viewport operation, each with the geometry that it has
read. -/
inductive Supervisor (G : Type)
  | idle
  | refreshing (token : CaptureGeometryTransition) (read : Option G)
  | viewport (token : Option CaptureGeometryTransition) (read : Option G)

/-- `truth` is the geometry of the page, and `heralded` says that an event has been received since the page changed it, or
that it was changed under an open transition.  Each frame stands beside the geometry of the page at its receipt, and
`refused` says that a refresh could not be asked for or did not succeed. -/
structure State (G : Type) where
  key : StreamKey
  authority : GeometryAuthority G
  accepting : Bool
  requests : List CaptureGeometryTransition
  supervisor : Supervisor G
  fenced : Option (GeometryFence G × G)
  frames : List (FrameGeometry G × G)
  truth : G
  heralded : Bool
  refused : Bool

inductive Input (G : Type)
  | change (geometry : G)
  | event (dispatched : Bool)
  | closeEvents
  | takeRequest
  | beginViewport
  | applyViewport (geometry : G)
  | read
  | commit
  | abandon
  | receive
  | acknowledge (succeeded : Bool)

variable {G : Type}

namespace Supervisor

def token : Supervisor G → Option CaptureGeometryTransition
  | .idle => none
  | .refreshing token _ => some token
  | .viewport token _ => token

def readGeometry : Supervisor G → Option G
  | .idle => none
  | .refreshing _ read => read
  | .viewport _ read => read

def setRead (geometry : G) : Supervisor G → Supervisor G
  | .idle => .idle
  | .refreshing token _ => .refreshing token (some geometry)
  | .viewport token _ => .viewport token (some geometry)

def isIdle : Supervisor G → Bool
  | .idle => true
  | _ => false

end Supervisor

namespace State

variable (s : State G)

/-- A turn of `geometry_reader`.  A stream whose revisions are used up fails. -/
def event (dispatched : Bool) : State G :=
  match s.authority.beginTransition s.key with
  | none => { s with accepting := false, heralded := true }
  | some (token, authority) =>
    { s with
      authority
      heralded := true
      requests := if dispatched then s.requests ++ [token] else s.requests
      refused := s.refused || !dispatched }

/-- The event stream has ended: the open transition is finished as it is, and the stream fails. -/
def closeEvents : State G :=
  match s.authority.beginTransition s.key with
  | none => { s with accepting := false }
  | some (token, authority) => { s with authority := authority.finishTransition token none, accepting := false }

def beginViewport : State G :=
  match s.authority.beginTransition s.key with
  | none => { s with supervisor := .viewport none none }
  | some (token, authority) => { s with authority, supervisor := .viewport (some token) none }

/-- The command of a supervisor that changes the page is known to the stream while a transition is open. -/
def applyViewport (geometry : G) : State G :=
  { s with truth := geometry, heralded := s.heralded && s.authority.transition.isSome }

def commit (geometry : G) : State G :=
  { s with
    authority := s.supervisor.token.elim s.authority fun token => s.authority.finishTransition token (some geometry)
    supervisor := .idle }

/-- A frame of a stream that has failed is dropped, and a failed acknowledgement fails the stream. -/
def acknowledge (fence : GeometryFence G) (truth : G) (succeeded : Bool) : State G :=
  if succeeded then
    { s with
      fenced := none
      frames := if s.accepting then s.frames ++ [(s.authority.afterAck fence, truth)] else s.frames }
  else { s with fenced := none, accepting := false }

def exec (s : State G) : Input G → Option (State G)
  | .change geometry => some { s with truth := geometry, heralded := false }
  | .event dispatched => if s.accepting then some (s.event dispatched) else none
  | .closeEvents => if s.accepting then some s.closeEvents else none
  | .takeRequest =>
    match s.supervisor, s.requests with
    | .idle, token :: requests => some { s with requests, supervisor := .refreshing token none }
    | _, _ => none
  | .beginViewport => if s.supervisor.isIdle then some s.beginViewport else none
  | .applyViewport geometry => if s.supervisor.isIdle then none else some (s.applyViewport geometry)
  | .read => some { s with supervisor := s.supervisor.setRead s.truth }
  | .commit => s.supervisor.readGeometry.map s.commit
  | .abandon => if s.supervisor.isIdle then none else some { s with supervisor := .idle, refused := true }
  | .receive => if s.fenced.isNone then some { s with fenced := some (s.authority.fence, s.truth) } else none
  | .acknowledge succeeded => s.fenced.map fun fenced => s.acknowledge fenced.1 fenced.2 succeeded

/-- A stream starts with the geometry that the page has. -/
def initial (key : StreamKey) (geometry : G) : State G where
  key := key
  authority := ⟨geometry, 1, none⟩
  accepting := true
  requests := []
  supervisor := .idle
  fenced := none
  frames := []
  truth := geometry
  heralded := true
  refused := false

end State

def State.IsInitial (s : State G) : Prop := ∃ key geometry, s = .initial key geometry

def stream (G : Type) : System (State G) (Input G) Unit := .ofExec State.IsInitial State.exec

/-- Every event and every refresh has been processed, none without success. -/
def State.Settled (s : State G) : Prop :=
  s.accepting = true ∧ s.heralded = true ∧ s.requests = [] ∧ s.supervisor.isIdle = true ∧ s.refused = false

/-- A frame whose metadata is certain has the geometry of the page at its receipt, and a settled stream the geometry of
the page. -/
structure Fresh (s : State G) : Prop where
  frames : ∀ frame ∈ s.frames, frame.1.metadataUncertain = false → frame.1.geometry = frame.2
  settled : s.Settled → s.authority.established = s.truth

/-- A frame is received only after an event for every change that the page has made. -/
def Heralded (s : State G) : Input G → Prop
  | .receive => s.heralded = true
  | _ => True

/-- The open transition is finished only with the geometry that the page has, unless an event for its last change is still
to come. -/
def Current (s : State G) : Input G → Prop
  | .commit => ∀ token geometry, s.supervisor.token = some token → s.supervisor.readGeometry = some geometry →
    s.authority.transition = some token → geometry = s.truth ∨ s.heralded = false
  | _ => True

def Covered (s : State G) (input : Input G) : Prop := Heralded s input ∧ Current s input

/-- The invariant of a stream that has not failed. -/
structure State.Tracked (s : State G) : Prop where
  current : s.accepting = true → s.heralded = true → s.authority.transition = none → s.authority.established = s.truth
  asked : s.accepting = true → s.refused = false → ∀ token, s.authority.transition = some token →
    token ∈ s.requests ∨ s.supervisor.token = some token
  fenced : s.accepting = true → ∀ fenced ∈ s.fenced, fenced.1.uncertain = false → fenced.1.geometry = fenced.2
  frames : ∀ frame ∈ s.frames, frame.1.metadataUncertain = false → frame.1.geometry = frame.2

variable {s s' : State G} {input : Input G}

theorem beginTransition_eq_some {a a' : GeometryAuthority G} {key : StreamKey} {token : CaptureGeometryTransition}
    (h : a.beginTransition key = some (token, a')) :
    a'.transition = some token ∧ a'.established = a.established ∧ ∀ other, a.transition = some other → other = token := by
  unfold GeometryAuthority.beginTransition at h
  split at h
  · rename_i open_ hopen
    cases h
    exact ⟨hopen, rfl, fun other hother => Option.some.inj (hother.symm.trans hopen)⟩
  · rename_i hnone
    obtain ⟨revision, -, heq⟩ := Option.map_eq_some_iff.1 h
    obtain ⟨rfl, rfl⟩ := Prod.mk.inj heq
    exact ⟨rfl, rfl, fun other hother => nomatch hnone.symm.trans hother⟩

theorem finishTransition_cases (a : GeometryAuthority G) (token : CaptureGeometryTransition) (geometry : G) :
    (a.transition = some token ∧ a.finishTransition token (some geometry) = { a with established := geometry, transition := none }) ∨
    (a.transition ≠ some token ∧ a.finishTransition token (some geometry) = a) := by
  by_cases h : a.transition = some token
  · exact .inl ⟨h, if_pos h⟩
  · exact .inr ⟨h, if_neg h⟩

namespace State.Tracked

variable (hs : s.Tracked)

include hs

theorem event (dispatched : Bool) : (s.event dispatched).Tracked := by
  unfold State.event
  split
  · exact ⟨nofun, nofun, nofun, hs.frames⟩
  · rename_i token authority hbegin
    obtain ⟨htransition, -, hopen⟩ := beginTransition_eq_some hbegin
    refine ⟨fun _ _ hnone => (nomatch htransition.symm.trans hnone), fun _ hrefused other hother => ?_, hs.fenced, hs.frames⟩
    obtain rfl : token = other := Option.some.inj (htransition.symm.trans hother)
    cases dispatched with
    | true => exact .inl (by simp)
    | false => simp at hrefused

theorem beginViewport (hidle : s.supervisor.isIdle = true) : s.beginViewport.Tracked := by
  have hnone : s.supervisor.token = none := by
    cases hsupervisor : s.supervisor <;> simp_all [Supervisor.isIdle, Supervisor.token]
  unfold State.beginViewport
  split
  · refine ⟨hs.current, fun haccepting hrefused token htoken => ?_, hs.fenced, hs.frames⟩
    exact .inl ((hs.asked haccepting hrefused token htoken).resolve_right (by simp [hnone]))
  · rename_i token authority hbegin
    obtain ⟨htransition, -, -⟩ := beginTransition_eq_some hbegin
    refine ⟨fun _ _ hclosed => (nomatch htransition.symm.trans hclosed), fun _ _ other hother => .inr ?_, hs.fenced, hs.frames⟩
    exact htransition.symm.trans hother

theorem applyViewport (geometry : G) : (s.applyViewport geometry).Tracked := by
  refine ⟨fun _ hheralded hclosed => ?_, hs.asked, hs.fenced, hs.frames⟩
  have hclosed : s.authority.transition = none := hclosed
  simp [State.applyViewport, hclosed] at hheralded

theorem commit {geometry : G} (hread : s.supervisor.readGeometry = some geometry) (hcurrent : Current s .commit) :
    (s.commit geometry).Tracked := by
  cases htoken : s.supervisor.token with
  | none =>
    refine ⟨fun haccepting hheralded hclosed => ?_, fun haccepting hrefused other hother => .inl ?_, hs.fenced, hs.frames⟩
    · simp only [State.commit, htoken, Option.elim_none] at hclosed ⊢
      exact hs.current haccepting hheralded hclosed
    · simp only [State.commit, htoken, Option.elim_none] at hother
      exact (hs.asked haccepting hrefused other hother).resolve_right (by simp [htoken])
  | some token =>
    rcases finishTransition_cases s.authority token geometry with ⟨hopen, hfinish⟩ | ⟨hopen, hfinish⟩
    · refine ⟨fun haccepting hheralded hclosed => ?_, fun haccepting hrefused other hother => ?_, hs.fenced, hs.frames⟩
      · simp only [State.commit, htoken, Option.elim_some, hfinish]
        exact (hcurrent token geometry htoken hread hopen).resolve_right (by simpa [State.commit] using hheralded)
      · simp [State.commit, htoken, hfinish] at hother
    · refine ⟨fun haccepting hheralded hclosed => ?_, fun haccepting hrefused other hother => .inl ?_, hs.fenced, hs.frames⟩
      · simp only [State.commit, htoken, Option.elim_some, hfinish] at hclosed ⊢
        exact hs.current haccepting hheralded hclosed
      · simp only [State.commit, htoken, Option.elim_some, hfinish] at hother
        refine (hs.asked haccepting hrefused other hother).resolve_right fun hsame => hopen ?_
        rw [hother, ← hsame, htoken]

theorem receive (hheralded : s.heralded = true) : State.Tracked { s with fenced := some (s.authority.fence, s.truth) } := by
  refine ⟨hs.current, hs.asked, fun haccepting fenced hfenced huncertain => ?_, hs.frames⟩
  cases hfenced
  refine hs.current haccepting hheralded ?_
  simpa [GeometryAuthority.fence] using huncertain

theorem acknowledge {fence : GeometryFence G} {truth : G} (hfenced : s.fenced = some (fence, truth)) (succeeded : Bool) :
    (s.acknowledge fence truth succeeded).Tracked := by
  unfold State.acknowledge
  split
  · refine ⟨hs.current, hs.asked, nofun, fun frame hframe huncertain => ?_⟩
    simp only [] at hframe
    split at hframe
    · rename_i haccepting
      rcases List.mem_append.1 hframe with hframe | hframe
      · exact hs.frames frame hframe huncertain
      · obtain rfl := List.mem_singleton.1 hframe
        simp only [GeometryAuthority.afterAck, Bool.or_eq_false_iff] at huncertain
        exact hs.fenced haccepting _ hfenced huncertain.1.1
    · exact hs.frames frame hframe huncertain
  · exact ⟨nofun, nofun, nofun, hs.frames⟩

theorem exec (hcovered : Covered s input) (h : s.exec input = some s') : s'.Tracked := by
  cases input with
  | change geometry =>
    cases h
    exact ⟨nofun, hs.asked, hs.fenced, hs.frames⟩
  | event dispatched =>
    obtain ⟨-, h⟩ := Option.ite_none_right_eq_some.1 h
    cases h
    exact hs.event dispatched
  | closeEvents =>
    obtain ⟨-, h⟩ := Option.ite_none_right_eq_some.1 h
    cases h
    unfold State.closeEvents
    split <;> exact ⟨nofun, nofun, nofun, hs.frames⟩
  | takeRequest =>
    simp only [State.exec] at h
    split at h
    · rename_i token requests hidle hrequests
      cases h
      refine ⟨hs.current, fun haccepting hrefused other hother => ?_, hs.fenced, hs.frames⟩
      have hmem := (hs.asked haccepting hrefused other hother).resolve_right (by simp [hidle, Supervisor.token])
      rw [hrequests, List.mem_cons] at hmem
      exact hmem.symm.imp_right fun heq => by rw [heq]; rfl
    · cases h
  | beginViewport =>
    obtain ⟨hidle, h⟩ := Option.ite_none_right_eq_some.1 h
    cases h
    exact hs.beginViewport hidle
  | applyViewport geometry =>
    obtain ⟨-, h⟩ := Option.ite_none_left_eq_some.1 h
    cases h
    exact hs.applyViewport geometry
  | read =>
    cases h
    refine ⟨hs.current, fun haccepting hrefused other hother => ?_, hs.fenced, hs.frames⟩
    refine (hs.asked haccepting hrefused other hother).imp_right fun htoken => ?_
    cases hsupervisor : s.supervisor <;> simp_all [Supervisor.setRead, Supervisor.token]
  | commit =>
    obtain ⟨geometry, hread, rfl⟩ := Option.map_eq_some_iff.1 h
    exact hs.commit hread hcovered.2
  | abandon =>
    obtain ⟨-, h⟩ := Option.ite_none_left_eq_some.1 h
    cases h
    exact ⟨hs.current, fun _ => nofun, hs.fenced, hs.frames⟩
  | receive =>
    obtain ⟨-, h⟩ := Option.ite_none_right_eq_some.1 h
    cases h
    exact hs.receive hcovered.1
  | acknowledge succeeded =>
    obtain ⟨⟨fence, truth⟩, hfenced, rfl⟩ := Option.map_eq_some_iff.1 h
    exact hs.acknowledge hfenced succeeded

theorem fresh : Fresh s where
  frames := hs.frames
  settled := by
    rintro ⟨haccepting, hheralded, hrequests, hidle, hrefused⟩
    refine hs.current haccepting hheralded (Option.eq_none_iff_forall_not_mem.2 fun token htoken => ?_)
    rcases hs.asked haccepting hrefused token htoken with hmem | htoken
    · simp [hrequests] at hmem
    · cases hsupervisor : s.supervisor <;> simp_all [Supervisor.isIdle, Supervisor.token]

end State.Tracked

variable {trace : List (State G × Input G × Unit)}

/-- **Frame geometry is never stale and certain, when each transition is finished with the geometry of the page.**  A frame
whose metadata is certain carries the geometry that the page had at its receipt, and once every event and every refresh has
been processed successfully the established geometry is the one of the page. -/
theorem geometry_fresh (h : Run (stream G) Covered trace s) : Fresh s := by
  have hs : s.Tracked := by
    refine h.invariant (P := State.Tracked) ?_ fun s input _ s' hs hcovered hstep => hs.exec hcovered hstep
    rintro _ ⟨key, geometry, rfl⟩
    exact ⟨fun _ _ _ => rfl, nofun, nofun, nofun⟩
  exact hs.fresh

def someKey : StreamKey := ⟨⟨someUuid 1⟩, 1⟩

/-- A page that is resized once, and a frame of it. -/
def resized : List (Input Nat) := [.change 2, .event true, .takeRequest, .read, .commit, .receive, .acknowledge true]

theorem geometry_fresh_resized :
    ∃ s : State Nat, s.frames = [(⟨2, false⟩, 2)] ∧ s.authority.established = 2 ∧ Fresh s := by
  let guard (s : State Nat) : Input Nat → Bool
    | .receive => s.heralded
    | .commit => s.supervisor.readGeometry = some s.truth
    | _ => true
  have hguard : ∀ s input, guard s input = true → Covered s input := by
    intro s input h
    cases input with
    | receive => exact ⟨h, trivial⟩
    | commit =>
      refine ⟨trivial, fun token geometry _ hread _ => .inl ?_⟩
      exact Option.some.inj (hread.symm.trans (of_decide_eq_true h))
    | _ => exact ⟨trivial, trivial⟩
  obtain ⟨trace, s, hrun, hframes, hestablished⟩ := exists_run (G := Covered) State.IsInitial State.exec
    (.initial someKey 1) ⟨_, _, rfl⟩ guard hguard resized (fun s => s.frames = [(⟨2, false⟩, 2)] ∧ s.authority.established = 2) (by decide +kernel)
  exact ⟨s, hframes, hestablished, geometry_fresh hrun⟩

/-- A page that is resized again while the refresh of the first time is about to commit: the second event joins the open
transition, and the refresh that it asks for finds it finished. -/
def resizedTwice : List (Input Nat) :=
  [.change 2, .event true, .takeRequest, .read, .change 3, .event true, .commit, .takeRequest, .read, .commit, .receive,
    .acknowledge true]

theorem stale_and_certain : ¬ ∀ (s : State Nat) (trace : List (State Nat × Input Nat × Unit)),
    Run (stream Nat) Heralded trace s → Fresh s := by
  intro hall
  let guard (s : State Nat) : Input Nat → Bool
    | .receive => s.heralded
    | _ => true
  have hguard : ∀ s input, guard s input = true → Heralded s input := by
    intro s input h
    cases input with
    | receive => exact h
    | _ => trivial
  obtain ⟨trace, s, hrun, hframes⟩ := exists_run (G := Heralded) State.IsInitial State.exec
    (.initial someKey 1) ⟨_, _, rfl⟩ guard hguard resizedTwice (fun s => s.frames = [(⟨2, false⟩, 3)]) (by decide +kernel)
  have h := (hall s trace hrun).frames (⟨2, false⟩, 3) (by simp [hframes]) rfl
  exact absurd h (by decide)

end Krometrail.CaptureGeometry
