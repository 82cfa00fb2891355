import Mathlib

/-!
# A quiet network

Which requests of a page are in flight.  The events of a request come over several streams, so that its end may be delivered before its
start; a set of the ends that came early makes up for that.  It makes up for one start only: a request that is redirected starts again, and is
in flight for ever when a later start comes after the end (`tracking_sound_iff`).
-/

namespace Krometrail.Control

inductive NetworkActivityKind
  | started | response | finished | failed
  deriving DecidableEq

/-- A `NetworkActivity`, without the events that are made of it. -/
structure NetworkActivity where
  key : String
  kind : NetworkActivityKind
  longLived : Bool

/-- The variables of `wait_network_quiet`; a moment is a natural number. -/
structure NetworkTracking where
  inFlight : Finset String
  completedBeforeStart : Finset String
  quietSince : Option Nat

/-- `update_network_state`, at a moment. -/
def updateNetworkState (state : NetworkTracking) (delivery : Nat × NetworkActivity) : NetworkTracking :=
  let (now, event) := delivery
  match event.kind with
  | .started =>
    if event.longLived then
      state
    else if event.key ∈ state.completedBeforeStart then
      { state with completedBeforeStart := state.completedBeforeStart.erase event.key }
    else
      { state with inFlight := insert event.key state.inFlight, quietSince := none }
  | .finished | .failed =>
    if event.key ∈ state.inFlight then
      let inFlight := state.inFlight.erase event.key
      { state with inFlight, quietSince := if inFlight = ∅ then some now else state.quietSince }
    else
      { state with completedBeforeStart := insert event.key state.completedBeforeStart }
  | .response => state

/-- The state after deliveries that follow the subscription. -/
def track (subscribed : Nat) (deliveries : List (Nat × NetworkActivity)) : NetworkTracking :=
  deliveries.foldl updateNetworkState ⟨∅, ∅, some subscribed⟩

structure TrackedRequest where
  key : String
  longLived : Bool

def NetworkActivity.ends (event : NetworkActivity) : Bool := event.kind = .finished || event.kind = .failed

/-- How often a request has started. -/
def startsIn (key : String) (deliveries : List (Nat × NetworkActivity)) : Nat :=
  deliveries.countP fun d => decide (d.2.key = key) && decide (d.2.kind = .started)

/-- How often a request has ended. -/
def endsIn (key : String) (deliveries : List (Nat × NetworkActivity)) : Nat :=
  deliveries.countP fun d => decide (d.2.key = key) && d.2.ends

/-- The events of some requests, in any order: each starts, perhaps more than once, and ends once, or, where it is long-lived, at most
once. -/
structure Delivers (requests : List TrackedRequest) (deliveries : List (Nat × NetworkActivity)) : Prop where
  keys : (requests.map TrackedRequest.key).Nodup
  events : ∀ d ∈ deliveries, ∃ request ∈ requests, d.2.key = request.key ∧ (d.2.kind = .started → d.2.longLived = request.longLived)
  starts : ∀ request ∈ requests, 1 ≤ startsIn request.key deliveries
  ends : ∀ request ∈ requests, endsIn request.key deliveries ≤ 1 ∧ (request.longLived = false → endsIn request.key deliveries = 1)

/-- The finite requests that have started and not ended are in flight, and there is none exactly when it is quiet. -/
structure TracksAt (requests : List TrackedRequest) (state : NetworkTracking) (deliveries : List (Nat × NetworkActivity)) : Prop where
  inFlight : ∀ key, key ∈ state.inFlight ↔ ∃ request ∈ requests, request.key = key ∧ request.longLived = false ∧
    1 ≤ startsIn key deliveries ∧ endsIn key deliveries = 0
  quiet : state.quietSince = none ↔ state.inFlight ≠ ∅

/-- The tracking is right at every step, and none of the requests is left in flight at the end. -/
structure TracksSoundly (requests : List TrackedRequest) (subscribed : Nat) (deliveries : List (Nat × NetworkActivity)) : Prop where
  steps : ∀ front back, deliveries = front ++ back → TracksAt requests (track subscribed front) front
  settled : (track subscribed deliveries).inFlight = ∅

/-- No finite request starts once it has started and ended. -/
def NoLateStart (requests : List TrackedRequest) (deliveries : List (Nat × NetworkActivity)) : Prop :=
  ∀ request ∈ requests, request.longLived = false → ∀ front d back, deliveries = front ++ d :: back → d.2.key = request.key →
    d.2.kind = .started → 1 ≤ startsIn request.key front → endsIn request.key front = 0

section Request

variable {requests : List TrackedRequest} {subscribed : Nat} {front back deliveries : List (Nat × NetworkActivity)}
  {d : Nat × NetworkActivity} {key : String}

theorem track_concat : track subscribed (front ++ [d]) = updateNetworkState (track subscribed front) d := by
  rw [track, List.foldl_append]
  rfl

theorem startsIn_concat : startsIn key (front ++ [d]) = startsIn key front + if d.2.key = key ∧ d.2.kind = .started then 1 else 0 := by
  rw [startsIn, List.countP_append, List.countP_singleton]
  simp [startsIn]

theorem endsIn_concat : endsIn key (front ++ [d]) = endsIn key front + if d.2.key = key ∧ d.2.ends = true then 1 else 0 := by
  rw [endsIn, List.countP_append, List.countP_singleton]
  simp [endsIn]

variable {state : NetworkTracking} {request : TrackedRequest}

theorem updateNetworkState_end (hends : d.2.ends = true) : updateNetworkState state d =
    if d.2.key ∈ state.inFlight then
      { state with
        inFlight := state.inFlight.erase d.2.key
        quietSince := if state.inFlight.erase d.2.key = ∅ then some d.1 else state.quietSince }
    else { state with completedBeforeStart := insert d.2.key state.completedBeforeStart } := by
  obtain ⟨now, name, kind, longLived⟩ := d
  cases kind with
  | started | response => simp [NetworkActivity.ends] at hends
  | finished | failed => rfl

theorem updateNetworkState_start (hstart : d.2.kind = .started) (hfinite : d.2.longLived = false) :
    updateNetworkState state d =
      if d.2.key ∈ state.completedBeforeStart then { state with completedBeforeStart := state.completedBeforeStart.erase d.2.key }
      else { state with inFlight := insert d.2.key state.inFlight, quietSince := none } := by
  obtain ⟨now, name, kind, longLived⟩ := d
  obtain rfl : kind = .started := hstart
  obtain rfl : longLived = false := hfinite
  rfl

theorem updateNetworkState_other (hends : d.2.ends = false) (hother : d.2.kind = .started → d.2.longLived = true)
    : updateNetworkState state d = state := by
  obtain ⟨now, name, kind, longLived⟩ := d
  cases kind with
  | started =>
    obtain rfl : longLived = true := hother rfl
    rfl
  | response => rfl
  | finished | failed => cases hends

theorem update_cases (state : NetworkTracking) (d : Nat × NetworkActivity) :
    d.2.ends = true ∨ (d.2.kind = .started ∧ d.2.longLived = false ∧ d.2.ends = false) ∨
      d.2.ends = false ∧ (d.2.kind = .started → d.2.longLived = true) ∧ updateNetworkState state d = state := by
  cases hends : d.2.ends with
  | true => exact .inl rfl
  | false =>
    by_cases hstart : d.2.kind = .started ∧ d.2.longLived = false
    · exact .inr (.inl ⟨hstart.1, hstart.2, rfl⟩)
    · have hother : d.2.kind = .started → d.2.longLived = true := fun h => by simpa [h] using hstart
      exact .inr (.inr ⟨rfl, hother, updateNetworkState_other hends hother⟩)

theorem quiet_track : (track subscribed deliveries).quietSince = none ↔ (track subscribed deliveries).inFlight ≠ ∅ := by
  induction deliveries using List.reverseRecOn with
  | nil => simp [track]
  | append_singleton front d ih =>
    rw [track_concat]
    rcases update_cases (track subscribed front) d with hends | ⟨hstart, hfinite, -⟩ | ⟨-, -, hsame⟩
    · rw [updateNetworkState_end hends]
      split
      · rename_i hmem
        have hnone := ih.2 (Finset.ne_empty_of_mem hmem)
        by_cases hempty : (track subscribed front).inFlight.erase d.2.key = ∅ <;> simp [hempty, hnone]
      · exact ih
    · rw [updateNetworkState_start hstart hfinite]
      split
      · exact ih
      · simp
    · rwa [hsame]

/-- What is known of a finite request: it is in flight once it has started and not ended, and its end came early once it has ended and not
started. -/
structure Known (key : String) (state : NetworkTracking) (front : List (Nat × NetworkActivity)) : Prop where
  inFlight : key ∈ state.inFlight ↔ 1 ≤ startsIn key front ∧ endsIn key front = 0
  early : key ∈ state.completedBeforeStart ↔ startsIn key front = 0 ∧ 1 ≤ endsIn key front

theorem known_nil : Known key (track subscribed []) [] := ⟨by simp [track, startsIn], by simp [track, endsIn]⟩

theorem Known.other (h : Known key (track subscribed front) front) (hkey : d.2.key ≠ key) :
    Known key (track subscribed (front ++ [d])) (front ++ [d]) := by
  have hstarts : startsIn key (front ++ [d]) = startsIn key front := by rw [startsIn_concat, if_neg fun hd => hkey hd.1, Nat.add_zero]
  have hends : endsIn key (front ++ [d]) = endsIn key front := by rw [endsIn_concat, if_neg fun hd => hkey hd.1, Nat.add_zero]
  obtain ⟨hin, hearly⟩ := h
  rw [track_concat]
  rcases update_cases (track subscribed front) d with hend | ⟨hstart, hfinite, -⟩ | ⟨-, -, hsame⟩
  · rw [updateNetworkState_end hend]
    split
    · exact ⟨by simp [hkey.symm, hin, hstarts, hends], by rw [hstarts, hends]; exact hearly⟩
    · exact ⟨by rw [hstarts, hends]; exact hin, by simp [hkey.symm, hearly, hstarts, hends]⟩
  · rw [updateNetworkState_start hstart hfinite]
    split
    · exact ⟨by rw [hstarts, hends]; exact hin, by simp [hkey.symm, hearly, hstarts, hends]⟩
    · exact ⟨by simp [hkey.symm, hin, hstarts, hends], by rw [hstarts, hends]; exact hearly⟩
  · rw [hsame]
    exact ⟨by rw [hstarts, hends]; exact hin, by rw [hstarts, hends]; exact hearly⟩

theorem Known.ends (h : Known key (track subscribed front) front) (hkey : d.2.key = key) (hend : d.2.ends = true)
    (honce : endsIn key front = 0) : Known key (track subscribed (front ++ [d])) (front ++ [d]) := by
  have hstart : d.2.kind ≠ .started := fun heq => by simp [NetworkActivity.ends, heq] at hend
  have hstarts : startsIn key (front ++ [d]) = startsIn key front := by rw [startsIn_concat, if_neg fun hd => hstart hd.2, Nat.add_zero]
  have hends : endsIn key (front ++ [d]) = endsIn key front + 1 := by rw [endsIn_concat, if_pos ⟨hkey, hend⟩]
  obtain ⟨hin, hearly⟩ := h
  rw [track_concat, updateNetworkState_end hend, hkey]
  split
  · rename_i hmem
    have := hin.1 hmem
    exact ⟨by simp [hends], by rw [hearly, hstarts, hends]; omega⟩
  · rename_i hmem
    rw [hin] at hmem
    exact ⟨by rw [hin, hstarts, hends]; omega, by simp [hearly, hstarts, hends]; omega⟩

theorem Known.starts (h : Known key (track subscribed front) front) (hkey : d.2.key = key) (hstart : d.2.kind = .started)
    (hfinite : d.2.longLived = false) (htimely : 1 ≤ startsIn key front → endsIn key front = 0) :
    Known key (track subscribed (front ++ [d])) (front ++ [d]) := by
  have hend : ¬ d.2.ends = true := by simp [NetworkActivity.ends, hstart]
  have hstarts : startsIn key (front ++ [d]) = startsIn key front + 1 := by rw [startsIn_concat, if_pos ⟨hkey, hstart⟩]
  have hends : endsIn key (front ++ [d]) = endsIn key front := by rw [endsIn_concat, if_neg fun hd => hend hd.2, Nat.add_zero]
  obtain ⟨hin, hearly⟩ := h
  rw [track_concat, updateNetworkState_start hstart hfinite, hkey]
  split
  · rename_i hmem
    have := hearly.1 hmem
    exact ⟨by rw [hin, hstarts, hends]; omega, by simp [hstarts]⟩
  · rename_i hmem
    rw [hearly] at hmem
    exact ⟨by simp [hstarts, hends]; omega, by rw [hearly, hstarts, hends]; omega⟩

theorem Known.late (h : Known key (track subscribed front) front) (hkey : d.2.key = key) (hstart : d.2.kind = .started)
    (hfinite : d.2.longLived = false) (hbefore : 1 ≤ startsIn key front) : key ∈ (track subscribed (front ++ [d])).inFlight := by
  rw [track_concat, updateNetworkState_start hstart hfinite, hkey, if_neg fun hmem => by have := h.early.1 hmem; omega]
  exact Finset.mem_insert_self _ _

theorem longLived_of_start (hdelivers : Delivers requests deliveries) (hrequest : request ∈ requests) (hd : d ∈ deliveries)
    (hkey : d.2.key = request.key) (hstart : d.2.kind = .started) : d.2.longLived = request.longLived := by
  obtain ⟨other, hmem, hsame, hlong⟩ := hdelivers.events d hd
  have hother : other = request := List.inj_on_of_nodup_map hdelivers.keys hmem hrequest (hsame.symm.trans hkey)
  rw [hlong hstart, hother]

theorem known (subscribed : Nat) (hdelivers : Delivers requests deliveries) (hrequest : request ∈ requests)
    (hfinite : request.longLived = false) (hdeliveries : deliveries = front ++ back)
    (htimely : ∀ before d after, front = before ++ d :: after → d.2.key = request.key → d.2.kind = .started →
      Known request.key (track subscribed before) before → 1 ≤ startsIn request.key before → endsIn request.key before = 0) :
    Known request.key (track subscribed front) front := by
  induction front using List.reverseRecOn generalizing back with
  | nil => exact known_nil
  | append_singleton front d ih =>
    rw [List.append_assoc, List.singleton_append] at hdeliveries
    have hknown := ih hdeliveries fun before d' after hsplit => htimely before d' (after ++ [d]) (by rw [hsplit, List.append_assoc, List.cons_append])
    by_cases hkey : d.2.key = request.key
    · rcases update_cases (track subscribed front) d with hend | ⟨hstart, hd, -⟩ | ⟨hend, hother, hsame⟩
      · have honce := (hdelivers.ends request hrequest).1
        have hcount : endsIn request.key deliveries = endsIn request.key (front ++ [d]) + endsIn request.key back := by
          rw [hdeliveries, ← List.singleton_append, ← List.append_assoc, endsIn, List.countP_append]
          rfl
        rw [endsIn_concat, if_pos ⟨hkey, hend⟩] at hcount
        exact hknown.ends hkey hend (by omega)
      · exact hknown.starts hkey hstart hd (htimely front d [] rfl hkey hstart hknown)
      · have hstart : d.2.kind ≠ .started := fun heq => by
          have hlong := longLived_of_start hdelivers hrequest (by simp [hdeliveries]) hkey heq
          rw [hother heq, hfinite] at hlong
          cases hlong
        refine ⟨?_, ?_⟩
        · rw [track_concat, hsame, hknown.inFlight, startsIn_concat, endsIn_concat, if_neg fun h => hstart h.2, if_neg fun h => by simp [hend] at h]
          rfl
        · rw [track_concat, hsame, hknown.early, startsIn_concat, endsIn_concat, if_neg fun h => hstart h.2, if_neg fun h => by simp [hend] at h]
          rfl
    · exact hknown.other hkey

theorem request_of_inFlight (hdelivers : Delivers requests deliveries) (hdeliveries : deliveries = front ++ back)
    (hkey : key ∈ (track subscribed front).inFlight) : ∃ request ∈ requests, request.key = key ∧ request.longLived = false := by
  induction front using List.reverseRecOn generalizing back with
  | nil => simp [track] at hkey
  | append_singleton front d ih =>
    rw [List.append_assoc, List.singleton_append] at hdeliveries
    rw [track_concat] at hkey
    rcases update_cases (track subscribed front) d with hend | ⟨hstart, hfinite, -⟩ | ⟨-, -, hsame⟩
    · rw [updateNetworkState_end hend] at hkey
      split at hkey
      · exact ih hdeliveries (Finset.mem_of_mem_erase hkey)
      · exact ih hdeliveries hkey
    · rw [updateNetworkState_start hstart hfinite] at hkey
      split at hkey
      · exact ih hdeliveries hkey
      · rcases Finset.mem_insert.1 hkey with rfl | hkey
        · obtain ⟨request, hmem, hsamekey, hlong⟩ := hdelivers.events d (by simp [hdeliveries])
          exact ⟨request, hmem, hsamekey.symm, (hlong hstart).symm.trans hfinite⟩
        · exact ih hdeliveries hkey
    · rw [hsame] at hkey
      exact ih hdeliveries hkey

theorem TracksSoundly.timely (hsound : TracksSoundly requests subscribed deliveries) (hdelivers : Delivers requests deliveries)
    (hrequest : request ∈ requests) (hfinite : request.longLived = false) (hsplit : deliveries = front ++ d :: back)
    (hkey : d.2.key = request.key) (hstart : d.2.kind = .started) (hknown : Known request.key (track subscribed front) front)
    (hbefore : 1 ≤ startsIn request.key front) : endsIn request.key front = 0 := by
  have hlong := (longLived_of_start hdelivers hrequest (by simp [hsplit]) hkey hstart).trans hfinite
  have hmem := hknown.late hkey hstart hlong hbefore
  have hsteps := hsound.steps (front ++ [d]) back (by rw [hsplit, List.append_assoc, List.singleton_append])
  obtain ⟨-, -, -, -, -, hends⟩ := (hsteps.inFlight request.key).1 hmem
  rw [endsIn_concat] at hends
  omega

/-- The requests are tracked soundly exactly when no finite request starts once it has started and ended. -/
theorem tracking_sound_iff (hdelivers : Delivers requests deliveries) (subscribed : Nat) :
    TracksSoundly requests subscribed deliveries ↔ NoLateStart requests deliveries := by
  constructor
  · intro hsound request hrequest hfinite front d back hsplit hkey hstart hbefore
    have hknown : Known request.key (track subscribed front) front := by
      refine known subscribed hdelivers hrequest hfinite hsplit fun before d' after hfront hkey' hstart' hknown' => ?_
      have hsplit' : deliveries = before ++ d' :: (after ++ d :: back) := by rw [hsplit, hfront, List.append_assoc, List.cons_append]
      exact hsound.timely hdelivers hrequest hfinite hsplit' hkey' hstart' hknown'
    exact hsound.timely hdelivers hrequest hfinite hsplit hkey hstart hknown hbefore
  · intro htimely
    have hknown {front back : List (Nat × NetworkActivity)} (hsplit : deliveries = front ++ back) {request : TrackedRequest}
        (hrequest : request ∈ requests) (hfinite : request.longLived = false) : Known request.key (track subscribed front) front :=
      known subscribed hdelivers hrequest hfinite hsplit fun before d after hfront hkey hstart _ =>
        htimely request hrequest hfinite before d (after ++ back) (by rw [hsplit, hfront, List.append_assoc, List.cons_append]) hkey hstart
    have hsteps : ∀ front back, deliveries = front ++ back → TracksAt requests (track subscribed front) front := by
      intro front back hsplit
      refine ⟨fun key => ⟨fun hkey => ?_, ?_⟩, quiet_track⟩
      · obtain ⟨request, hrequest, rfl, hfinite⟩ := request_of_inFlight hdelivers hsplit hkey
        exact ⟨request, hrequest, rfl, hfinite, (hknown hsplit hrequest hfinite).inFlight.1 hkey⟩
      · rintro ⟨request, hrequest, rfl, hfinite, hcounts⟩
        exact (hknown hsplit hrequest hfinite).inFlight.2 hcounts
    refine ⟨hsteps, Finset.eq_empty_iff_forall_notMem.2 fun key hkey => ?_⟩
    obtain ⟨request, hrequest, rfl, hfinite, -, hnone⟩ := ((hsteps deliveries [] (List.append_nil _).symm).inFlight key).1 hkey
    have honce := (hdelivers.ends request hrequest).2 hfinite
    omega

end Request

/-- An event of a finite request. -/
def sampleActivity (kind : NetworkActivityKind) : NetworkActivity := ⟨"r", kind, false⟩

def redirectedLate : List (Nat × NetworkActivity) := [(1, sampleActivity .started), (2, sampleActivity .finished), (3, sampleActivity .started)]

theorem delivers_redirectedLate : Delivers [⟨"r", false⟩] redirectedLate where
  keys := by decide
  events d hd := by
    simp only [redirectedLate, List.mem_cons, List.not_mem_nil, or_false] at hd
    rcases hd with rfl | rfl | rfl <;> exact ⟨_, List.mem_singleton_self _, rfl, fun _ => rfl⟩
  starts request hrequest := by
    obtain rfl := List.mem_singleton.1 hrequest
    decide
  ends request hrequest := by
    obtain rfl := List.mem_singleton.1 hrequest
    decide

/-- The end of a request overtakes the start of its redirection, and the request stays in flight. -/
theorem redirect_left_in_flight : ¬ ∀ (requests : List TrackedRequest) (subscribed : Nat) (deliveries : List (Nat × NetworkActivity)),
    Delivers requests deliveries → TracksSoundly requests subscribed deliveries := by
  intro h
  exact absurd (h [⟨"r", false⟩] 0 redirectedLate delivers_redirectedLate).settled (by decide)

theorem tracking_sound_iff_redirected :
    TracksSoundly [⟨"r", false⟩] 0 redirectedLate ↔ NoLateStart [⟨"r", false⟩] redirectedLate :=
  tracking_sound_iff delivers_redirectedLate 0

end Krometrail.Control
