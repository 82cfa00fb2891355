import Krometrail.Lib.Runs

/-!
# The owner of the browser session

Clones of one owner start, attach, stop and shut down at the same time.  The slot of the active session is behind a lock that
a call keeps until it ends; the flag that closes the owner is not.  In every run at most one session is live (`one_owner`).
-/

namespace Krometrail.SessionOwner

open Runs (System)

inductive Kind
  | start
  | attach
  | stop
  | shutdown
  deriving DecidableEq

/-- Does the call go on to `connect`? -/
def Kind.connects : Kind → Bool
  | .start | .attach => true
  | .stop | .shutdown => false

/-- What a session answers to `status`: that it is in any other state, that it is `Ended`, or an error. -/
inductive Status
  | running
  | ended
  | failed
  deriving DecidableEq

/-- A session that was connected: was it stopped, and has it reported itself ended? -/
structure Session where
  stopped : Bool
  ended : Bool

/-- Sessions are told apart by their places in the list of all sessions that were ever connected. -/
structure Owner where
  closing : Bool
  slot : Option Nat
  sessions : List Session

/-- The awaits of a call that has the lock, and the load of the flag after the status of a candidate. -/
inductive Stage
  | locked
  | probing (session : Nat)
  | connecting
  | proving (candidate : Nat)
  | judging (candidate : Nat) (status : Status)
  | cleaning (candidate : Nat) (status : Status)
  | stopping (session : Nat)

/-- What the session or the connector answers to an await. -/
structure Answer where
  status : Status
  ok : Bool

inductive Next
  | go (stage : Stage)
  | done (succeeded : Bool)

def Next.stage : Next → Option Stage
  | .go stage => some stage
  | .done _ => none

namespace Owner

variable (o : Owner)

def live (session : Nat) : Prop := o.sessions[session]? = some ⟨false, false⟩

/-- A session has answered to `status`. -/
def report (session : Nat) (status : Status) : Owner :=
  if status = .ended then { o with sessions := o.sessions.modify session fun s => { s with ended := true } } else o

/-- `stop().await?; active.take()`. -/
def release (session : Nat) : Owner :=
  { o with slot := none, sessions := o.sessions.modify session fun s => { s with stopped := true } }

/-- What a call does from one of its stages to the next one. -/
def next (kind : Kind) (answer : Answer) : Stage → Owner × Next
  | .locked =>
    (o, if kind.connects then if o.closing then .done false else o.slot.elim (.go .connecting) fun session => .go (.probing session)
      else o.slot.elim (.done (kind = .shutdown)) fun session => .go (.stopping session))
  | .probing session =>
    if answer.status = .ended then ({ o.report session .ended with slot := none }, .go .connecting) else (o, .done false)
  | .connecting =>
    if answer.ok then ({ o with sessions := o.sessions ++ [⟨false, false⟩] }, .go (.proving o.sessions.length))
    else (o, .done false)
  | .proving candidate => (o.report candidate answer.status, .go (.judging candidate answer.status))
  | .judging candidate status =>
    ({ o with slot := some candidate }, if status = .failed ∨ o.closing then .go (.cleaning candidate status) else .done true)
  | .cleaning candidate status =>
    if answer.ok then (o.release candidate, .done (!o.closing && status ≠ .failed)) else (o, .done false)
  | .stopping session => if answer.ok then (o.release session, .done true) else (o, .done false)

end Owner

inductive Progress
  | begun
  | waiting
  | inside
  | returned

structure Call where
  kind : Kind
  progress : Progress

/-- `inside` is the call that has the lock. -/
structure State where
  owner : Owner
  inside : Option (Nat × Stage)
  calls : List Call
  returns : List (Kind × Bool)

def State.initial : State := ⟨⟨false, none, []⟩, none, [], []⟩

/-- A call is made, `begin_shutdown` is called alone, another reader is told that a session has ended, or a call goes on. -/
inductive Input
  | call (kind : Kind)
  | beginShutdown
  | reports (session : Nat)
  | step (i : Nat) (answer : Answer)

namespace State

variable (s : State)

def setProgress (i : Nat) (progress : Progress) : State :=
  { s with calls := s.calls.modify i fun call => { call with progress } }

def closes : State := { s with owner := { s.owner with closing := true } }

/-- The turn of the call that has the lock; the lock is free again when it returns. -/
def advance (i : Nat) (kind : Kind) (answer : Answer) (stage : Stage) : State :=
  match s.owner.next kind answer stage with
  | (owner, .go stage) => { s with owner, inside := some (i, stage) }
  | (owner, .done succeeded) =>
    { s with owner, inside := none, returns := s.returns ++ [(kind, succeeded)] }.setProgress i .returned

def exec (s : State) : Input → Option State
  | .call kind => some { s with calls := s.calls ++ [⟨kind, .begun⟩] }
  | .beginShutdown => some s.closes
  | .reports session => some { s with owner := s.owner.report session .ended }
  | .step i answer => do
    let call ← s.calls[i]?
    match call.progress with
    | .begun => some ((if call.kind = .shutdown then s.closes else s).setProgress i .waiting)
    | .waiting => if s.inside = none then some ({ s with inside := some (i, .locked) }.setProgress i .inside) else none
    | .inside => s.inside.bind fun holder => if holder.1 = i then some (s.advance i call.kind answer holder.2) else none
    | .returned => none

end State

def sessionOwner : System State Input Unit := .ofExec (· = .initial) State.exec

/-- One browser session is owned at a time, and none after a shutdown. -/
structure State.OneOwner (s : State) : Prop where
  one : ∀ j k, s.owner.live j → s.owner.live k → j = k
  held : (∀ call ∈ s.calls, call.progress = .returned) → ∀ k, s.owner.live k → s.owner.slot = some k
  drained : (.shutdown, true) ∈ s.returns → ∀ k, ¬ s.owner.live k
  refused : s.returns.Pairwise fun a b => a = (.shutdown, true) → b.1.connects = true → b.2 = false

/-- The slot is as the stage has left it, and the live session is there or the candidate of the call. -/
def Owner.Fits (o : Owner) : Option Stage → Prop
  | none | some .locked => ∀ k, o.live k → o.slot = some k
  | some (.probing session) | some (.cleaning session _) | some (.stopping session) =>
    o.slot = some session ∧ ∀ k, o.live k → k = session
  | some .connecting => o.slot = none ∧ ∀ k, ¬ o.live k
  | some (.proving candidate) | some (.judging candidate _) => o.slot = none ∧ ∀ k, o.live k → k = candidate

/-- The owner is closed and empty, and nobody is past the lock. -/
structure Owner.Quiet (o : Owner) (stage : Option Stage) : Prop where
  closing : o.closing = true
  slot : o.slot = none
  live : ∀ k, ¬ o.live k
  stage : stage = none ∨ stage = some .locked

variable {o o' : Owner} {stage : Stage} {at? : Option Stage} {kind : Kind} {answer : Answer} {next : Next}
  {s s' : State} {input : Input} {i k session : Nat}

theorem live_of_modify {f : Session → Session} {sessions : List Session} (hf : ∀ x, f x = ⟨false, false⟩ → x = ⟨false, false⟩)
    (h : (sessions.modify session f)[k]? = some ⟨false, false⟩) : sessions[k]? = some ⟨false, false⟩ := by
  rw [List.getElem?_modify] at h
  obtain ⟨x, hx, hlive⟩ := Option.map_eq_some_iff.1 h
  split at hlive
  · rw [hx, hf x hlive]
  · rw [hx]
    exact congrArg some hlive

theorem live_of_report {status : Status} (h : (o.report session status).live k) : o.live k := by
  unfold Owner.report at h
  split at h
  · exact live_of_modify (fun x hx => by simp at hx) h
  · exact h

theorem live_of_release (h : (o.release session).live k) : o.live k ∧ k ≠ session := by
  refine ⟨live_of_modify (fun x hx => by simp at hx) h, ?_⟩
  rintro rfl
  simp [Owner.live, Owner.release] at h

theorem live_of_connected (h : (⟨o.closing, o.slot, o.sessions ++ [⟨false, false⟩]⟩ : Owner).live k) :
    o.live k ∨ k = o.sessions.length := by
  unfold Owner.live at h
  rw [List.getElem?_append] at h
  split at h
  · exact .inl h
  · exact .inr (by have := (List.getElem?_eq_some_iff.1 h).1; simp only [List.length_singleton] at this; omega)

theorem fits_report {status : Status} (h : o.Fits at?) : (o.report session status).Fits at? := by
  have hslot : (o.report session status).slot = o.slot := by
    unfold Owner.report
    split <;> rfl
  unfold Owner.Fits at *
  simp only [hslot]
  split at h
  all_goals first
    | exact fun k hk => h k (live_of_report hk)
    | exact ⟨h.1, fun k hk => h.2 k (live_of_report hk)⟩

theorem closing_report {status : Status} : (o.report session status).closing = o.closing := by
  unfold Owner.report
  split <;> rfl

theorem next_fits (h : o.Fits (some stage)) (kind : Kind) (answer : Answer) :
    (o.next kind answer stage).1.Fits (o.next kind answer stage).2.stage ∧ (o.next kind answer stage).1.closing = o.closing := by
  cases stage with
  | locked =>
    have hkept : ∀ session, o.slot = some session → ∀ k, o.live k → k = session := fun session hslot k hk =>
      Option.some.inj ((h k hk).symm.trans hslot)
    refine ⟨?_, rfl⟩
    simp only [Owner.next]
    cases hslot : o.slot with
    | none =>
      have hempty : ∀ k, ¬ o.live k := fun k hk => nomatch hslot.symm.trans (h k hk)
      split
      · split
        · exact h
        · exact ⟨hslot, hempty⟩
      · exact h
    | some session =>
      split
      · split
        · exact h
        · exact ⟨hslot, hkept session hslot⟩
      · exact ⟨hslot, hkept session hslot⟩
  | probing session =>
    simp only [Owner.next]
    split
    · refine ⟨⟨rfl, fun k hk => ?_⟩, closing_report⟩
      have hlive : (o.report session .ended).live k := hk
      obtain rfl := h.2 k (live_of_report hlive)
      simp [Owner.live, Owner.report] at hlive
    · exact ⟨fun k hk => by rw [h.1, h.2 k hk], rfl⟩
  | connecting =>
    simp only [Owner.next]
    split
    · exact ⟨⟨h.1, fun k hk => (live_of_connected hk).resolve_left (h.2 k)⟩, rfl⟩
    · exact ⟨fun k hk => absurd hk (h.2 k), rfl⟩
  | proving candidate => exact ⟨fits_report h, closing_report⟩
  | judging candidate status =>
    have hheld : ∀ k, ({ o with slot := some candidate } : Owner).live k → k = candidate := h.2
    refine ⟨?_, rfl⟩
    simp only [Owner.next]
    split
    · exact ⟨rfl, hheld⟩
    · exact fun k hk => congrArg some (hheld k hk).symm
  | cleaning candidate status =>
    simp only [Owner.next]
    split
    · exact ⟨fun k hk => absurd (h.2 k (live_of_release hk).1) (live_of_release hk).2, rfl⟩
    · exact ⟨fun k hk => by rw [h.1, h.2 k hk], rfl⟩
  | stopping session =>
    simp only [Owner.next]
    split
    · exact ⟨fun k hk => absurd (h.2 k (live_of_release hk).1) (live_of_release hk).2, rfl⟩
    · exact ⟨fun k hk => by rw [h.1, h.2 k hk], rfl⟩

/-- The stages of a call that connects, and those of a call that stops. -/
def Stage.Suits (kind : Kind) : Stage → Prop
  | .locked => True
  | .stopping _ => kind.connects = false
  | _ => kind.connects = true

theorem next_suits {stage' : Stage} (h : stage.Suits kind) (hnext : (o.next kind answer stage).2 = .go stage') :
    stage'.Suits kind := by
  cases stage with
  | locked =>
    simp only [Owner.next] at hnext
    split at hnext
    · rename_i hconnects
      split at hnext
      · cases hnext
      · cases hslot : o.slot <;> rw [hslot] at hnext <;> cases hnext <;> exact hconnects
    · rename_i hstops
      cases hslot : o.slot <;> rw [hslot] at hnext
      · cases hnext
      · cases hnext
        exact Bool.eq_false_iff.2 hstops
  | proving candidate =>
    cases hnext
    exact h
  | judging candidate status =>
    simp only [Owner.next] at hnext
    split at hnext
    · cases hnext
      exact h
    · cases hnext
  | _ =>
    simp only [Owner.next] at hnext
    split at hnext
    · first
        | (cases hnext; exact h)
        | nomatch hnext
    · cases hnext

theorem next_shutdown (h : o.Fits (some stage)) (hsuits : stage.Suits .shutdown) (hclosing : o.closing = true)
    (hdone : (o.next .shutdown answer stage).2 = .done true) : (o.next .shutdown answer stage).1.Quiet none := by
  have hleft := next_fits h .shutdown answer
  rw [hdone] at hleft
  have hslot : (o.next .shutdown answer stage).1.slot = none := by
    cases stage with
    | locked => cases hslot : o.slot <;> simp [Owner.next, Kind.connects, hslot] at hdone ⊢
    | stopping session =>
      simp only [Owner.next] at hdone ⊢
      split
      · rfl
      · rename_i hfailed
        simp [hfailed] at hdone
    | _ => cases hsuits
  exact ⟨hleft.2.trans hclosing, hslot, fun k hk => (nomatch hslot.symm.trans (hleft.1 k hk)), .inl rfl⟩

theorem next_quiet (h : o.Quiet (some stage)) (kind : Kind) (answer : Answer) :
    (o.next kind answer stage).1 = o ∧ ∃ b, (o.next kind answer stage).2 = .done b ∧ (kind.connects = true → b = false) := by
  obtain rfl : stage = .locked := by simpa using h.stage
  cases kind <;> simp [Owner.next, Kind.connects, h.slot, h.closing]

/-- The call that has the lock is inside, and every shutdown that has begun has closed the owner. -/
structure State.Kept (s : State) : Prop where
  fits : s.owner.Fits (s.inside.map Prod.snd)
  inside : ∀ i stage, s.inside = some (i, stage) → ∃ kind, s.calls[i]? = some ⟨kind, .inside⟩ ∧ stage.Suits kind
  closing : ∀ call ∈ s.calls, call.kind = .shutdown → call.progress ≠ .begun → s.owner.closing = true
  quiet : (.shutdown, true) ∈ s.returns → s.owner.Quiet (s.inside.map Prod.snd)
  refused : s.returns.Pairwise fun a b => a = (.shutdown, true) → b.1.connects = true → b.2 = false

theorem closing_setProgress {call : Call} {progress : Progress} {closing : Bool} {calls : List Call}
    (h : ∀ call ∈ calls, call.kind = .shutdown → call.progress ≠ .begun → closing = true) (hcall : calls[i]? = some call)
    (hshutdown : call.kind = .shutdown → closing = true) :
    ∀ call ∈ calls.modify i fun call => { call with progress }, call.kind = .shutdown → call.progress ≠ .begun →
      closing = true := by
  intro other hother hkind hprogress
  obtain ⟨j, hj⟩ := List.mem_iff_getElem?.1 hother
  rw [List.getElem?_modify] at hj
  obtain ⟨before, hbefore, rfl⟩ := Option.map_eq_some_iff.1 hj
  split at hkind
  · rename_i heq
    subst heq
    cases hcall.symm.trans hbefore
    exact hshutdown hkind
  · rename_i hne
    rw [if_neg hne] at hprogress
    exact h before (List.mem_of_getElem? hbefore) hkind hprogress

theorem State.Kept.closes (h : s.Kept) : s.closes.Kept where
  fits := h.fits
  inside := h.inside
  closing _ _ _ _ := rfl
  quiet hmem := ⟨rfl, (h.quiet hmem).slot, (h.quiet hmem).live, (h.quiet hmem).stage⟩
  refused := h.refused

theorem State.Kept.begins {call : Call} (h : s.Kept) (hcall : s.calls[i]? = some call) (hbegun : call.progress = .begun)
    (hclosing : call.kind = .shutdown → s.owner.closing = true) : (s.setProgress i .waiting).Kept where
  fits := h.fits
  inside j stage hinside := by
    obtain ⟨kind, hj, hsuits⟩ := h.inside j stage hinside
    have hne : i ≠ j := by
      rintro rfl
      cases hcall.symm.trans hj
      cases hbegun
    exact ⟨kind, by rw [setProgress, List.getElem?_modify, hj]; simp [hne], hsuits⟩
  closing := closing_setProgress h.closing hcall hclosing
  quiet := h.quiet
  refused := h.refused

theorem State.Kept.enters {call : Call} (h : s.Kept) (hcall : s.calls[i]? = some call) (hwaiting : call.progress = .waiting)
    (hfree : s.inside = none) : ({ s with inside := some (i, .locked) }.setProgress i .inside).Kept := by
  have hfits := h.fits
  rw [hfree] at hfits
  refine ⟨hfits, fun j stage hinside => ?_, ?_, fun hmem => ?_, h.refused⟩
  · obtain ⟨rfl, rfl⟩ := Prod.mk.inj (Option.some.inj hinside)
    exact ⟨call.kind, by simp [setProgress, hcall], trivial⟩
  · exact closing_setProgress h.closing hcall fun hkind =>
      h.closing call (List.mem_of_getElem? hcall) hkind (by simp [hwaiting])
  · exact ⟨(h.quiet hmem).closing, (h.quiet hmem).slot, (h.quiet hmem).live, .inr rfl⟩

theorem State.Kept.advances {call : Call} (h : s.Kept) (hcall : s.calls[i]? = some call) (hwithin : call.progress = .inside)
    (hinside : s.inside = some (i, stage)) : (s.advance i call.kind answer stage).Kept := by
  have hfits := h.fits
  rw [hinside] at hfits
  obtain ⟨kind, hi, hsuits⟩ := h.inside i stage hinside
  cases hcall.symm.trans hi
  obtain ⟨hleft, hflag⟩ := next_fits hfits kind answer
  have hshutdown : kind = .shutdown → s.owner.closing = true := fun hkind =>
    h.closing _ (List.mem_of_getElem? hcall) hkind (by simp)
  have hquiet : (.shutdown, true) ∈ s.returns → (s.owner.next kind answer stage).1 = s.owner ∧
      ∃ b, (s.owner.next kind answer stage).2 = .done b ∧ (kind.connects = true → b = false) := fun hmem => by
    have howner := h.quiet hmem
    rw [hinside] at howner
    exact next_quiet howner kind answer
  unfold advance
  generalize hnext : s.owner.next kind answer stage = next at hleft hflag hquiet
  obtain ⟨owner, stage' | succeeded⟩ := next
  · refine ⟨hleft, fun j other hother => ?_, fun call hmem hkind hprogress => ?_, fun hmem => ?_, h.refused⟩
    · obtain ⟨rfl, rfl⟩ := Prod.mk.inj (Option.some.inj hother)
      exact ⟨kind, hcall, next_suits hsuits (by rw [hnext])⟩
    · exact hflag.trans (h.closing call hmem hkind hprogress)
    · obtain ⟨-, b, hdone, -⟩ := hquiet hmem
      cases hdone
  · refine ⟨hleft, fun j other hother => (nomatch hother), ?_, fun hmem => ?_, ?_⟩
    · exact closing_setProgress (fun call hmem hkind hprogress => hflag.trans (h.closing call hmem hkind hprogress)) hcall
        fun hkind => hflag.trans (hshutdown hkind)
    · rcases List.mem_append.1 hmem with hmem | hmem
      · have howner := h.quiet hmem
        rw [← (hquiet hmem).1] at howner
        exact ⟨howner.closing, howner.slot, howner.live, .inl rfl⟩
      · obtain ⟨rfl, rfl⟩ := Prod.mk.inj (List.mem_singleton.1 hmem)
        have hempty := next_shutdown hfits hsuits (hshutdown rfl) (congrArg Prod.snd hnext)
        rwa [hnext] at hempty
    · refine List.pairwise_append.2 ⟨h.refused, List.pairwise_singleton _ _, fun a ha b hb heq hconnects => ?_⟩
      obtain rfl := List.mem_singleton.1 hb
      obtain ⟨-, b, hdone, hfails⟩ := hquiet (heq ▸ ha)
      obtain rfl := Next.done.inj hdone
      exact hfails hconnects

theorem State.Kept.exec (h : s.Kept) (hexec : s.exec input = some s') : s'.Kept := by
  cases input with
  | call kind =>
    obtain rfl := Option.some.inj hexec
    refine ⟨h.fits, fun i stage hinside => ?_, List.forall_mem_append.2 ⟨h.closing, by simp⟩, h.quiet, h.refused⟩
    obtain ⟨kind, hi, hsuits⟩ := h.inside i stage hinside
    exact ⟨kind, by rw [List.getElem?_append_left (List.getElem?_eq_some_iff.1 hi).1, hi], hsuits⟩
  | beginShutdown =>
    obtain rfl := Option.some.inj hexec
    exact h.closes
  | reports session =>
    obtain rfl := Option.some.inj hexec
    refine ⟨fits_report h.fits, h.inside, fun call hmem hkind hprogress => ?_, fun hmem => ?_, h.refused⟩
    · exact closing_report.trans (h.closing call hmem hkind hprogress)
    · exact ⟨closing_report.trans (h.quiet hmem).closing, (h.quiet hmem).slot, fun k hk => (h.quiet hmem).live k (live_of_report hk),
        (h.quiet hmem).stage⟩
  | step i answer =>
    obtain ⟨call, hcall, hexec⟩ := Option.bind_eq_some_iff.1 hexec
    cases hprogress : call.progress with
    | begun =>
      simp only [hprogress, Option.some.injEq] at hexec
      subst hexec
      split
      · exact h.closes.begins hcall hprogress fun _ => rfl
      · rename_i hother
        exact h.begins hcall hprogress fun hkind => absurd hkind hother
    | waiting =>
      simp only [hprogress] at hexec
      obtain ⟨hfree, hexec⟩ := Option.ite_none_right_eq_some.1 hexec
      obtain rfl := Option.some.inj hexec
      exact h.enters hcall hprogress hfree
    | inside =>
      simp only [hprogress] at hexec
      obtain ⟨⟨j, stage⟩, hinside, hexec⟩ := Option.bind_eq_some_iff.1 hexec
      obtain ⟨rfl, hexec⟩ := Option.ite_none_right_eq_some.1 hexec
      obtain rfl := Option.some.inj hexec
      exact h.advances hcall hprogress hinside
    | returned =>
      simp only [hprogress] at hexec
      cases hexec

theorem live_unique (h : o.Fits at?) {j : Nat} (hj : o.live j) (hk : o.live k) : j = k := by
  unfold Owner.Fits at h
  split at h
  · exact Option.some.inj ((h j hj).symm.trans (h k hk))
  · exact Option.some.inj ((h j hj).symm.trans (h k hk))
  all_goals first
    | exact (h.2 j hj).trans (h.2 k hk).symm
    | exact absurd hj (h.2 j)

theorem State.Kept.oneOwner (h : s.Kept) : s.OneOwner where
  one _ _ := live_unique h.fits
  held hreturned := by
    have hfree : s.inside = none := by
      cases hinside : s.inside with
      | none => rfl
      | some holder =>
        obtain ⟨kind, hi, -⟩ := h.inside holder.1 holder.2 hinside
        cases hreturned _ (List.mem_of_getElem? hi)
    have hfits := h.fits
    rwa [hfree] at hfits
  drained hmem := (h.quiet hmem).live
  refused := h.refused

theorem one_owner (h : sessionOwner.Reachable s) : s.OneOwner := by
  refine (h.invariant (P := State.Kept) ?_ fun _ _ _ _ hs hexec => hs.exec hexec).oneOwner
  rintro s rfl
  exact ⟨fun _ hk => (nomatch hk), fun _ _ hinside => (nomatch hinside), fun _ hmem => (nomatch hmem), fun hmem => (nomatch hmem), .nil⟩

/-- A session is started while a second start waits, and a shutdown stops it. -/
theorem one_owner_shutdown : ∃ s, sessionOwner.Reachable s ∧
    s.returns = [(.start, true), (.shutdown, true), (.start, false)] ∧ s.OneOwner := by
  let ok : Answer := ⟨.running, true⟩
  obtain ⟨s, hreachable, hreturns⟩ := Runs.exists_reachable (· = .initial) State.exec .initial rfl
    [.call .start, .call .start, .call .shutdown, .step 0 ok, .step 1 ok, .step 0 ok, .step 0 ok, .step 0 ok, .step 0 ok, .step 0 ok,
      .step 2 ok, .step 2 ok, .step 2 ok, .step 2 ok, .step 1 ok, .step 1 ok]
    (fun s => s.returns = [(.start, true), (.shutdown, true), (.start, false)]) (by decide +kernel)
  exact ⟨s, hreachable, hreturns, one_owner hreachable⟩

end Krometrail.SessionOwner
