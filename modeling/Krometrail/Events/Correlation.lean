import Krometrail.Events.Requests

/-!
# Correlation of network requests

What an event can do to the normalizer (`Effect`), and what is kept of its map and its log when requests are orderly.
-/

namespace Krometrail.Events.Requests

open Runs (Run System exists_reachable exists_run)

variable {Key Id : Type} [DecidableEq Key]

/-! ### What an event does -/

/-- The effects of an event of a request: it is refused, it makes or renews an entry, it uses one, or it ends the request. -/
inductive Effect (ids : Nat → Id) (limit : Nat) (n : Normalizer Key Id) (key : Key) (method : Method) : Handled Key Id → Prop
  | refused {error : NormalizeError} {nextId : Nat} : method.isEnd = false → n.nextId ≤ nextId →
      Effect ids limit n key method (.error error, ⟨n.requests, nextId⟩)
  | made {payloads : List (Payload Id)} {context : RequestContext Id} : method.isEnd = false → n.requests.lookup key = none →
      n.size < limit → context.id = ids n.nextId → (∀ payload ∈ payloads, payload.id = context.id) →
      Effect ids limit n key method (.ok payloads, ⟨n.requests.insert key context, n.nextId + 1⟩)
  | renewed {payloads : List (Payload Id)} {context previous : RequestContext Id} : method.isEnd = false →
      n.requests.lookup key = some previous → context.id = previous.id → (∀ payload ∈ payloads, payload.id = context.id) →
      Effect ids limit n key method (.ok payloads, ⟨n.requests.insert key context, n.nextId⟩)
  | used {payloads : List (Payload Id)} {context : RequestContext Id} : method.isEnd = false →
      n.requests.lookup key = some context → (∀ payload ∈ payloads, payload.id = context.id) →
      Effect ids limit n key method (.ok payloads, n)
  | ended {payload : Payload Id} {context : RequestContext Id} : method.isEnd = true → n.requests.lookup key = some context →
      payload.id = context.id → Effect ids limit n key method (.ok [payload], ⟨n.requests.erase key, n.nextId⟩)
  | unknown {payload : Payload Id} : method.isEnd = true → n.requests.lookup key = none →
      Effect ids limit n key method (.ok [payload], ⟨n.requests, n.nextId + 1⟩)

section Effects

variable {ids : Nat → Id} {limit : Nat} {n : Normalizer Key Id} {key : Key}

theorem responsePayload_id {context : RequestContext Id} {response : ResponseParams} {payload : Payload Id}
    (h : responsePayload context response = .ok payload) : payload.id = context.id := by
  unfold responsePayload at h
  split at h
  · cases h
  · cases h
    rfl

theorem effect_insertStarted {method url : String} {resourceType : NetworkResourceType} {redirect : Option ResponseParams} :
    Effect ids limit n key .requestWillBeSent (n.insertStarted ids limit key method url resourceType redirect) := by
  unfold Normalizer.insertStarted
  dsimp only
  split
  · rename_i previous hprevious
    split
    · split
      · rename_i payload hpayload
        refine .renewed rfl hprevious rfl fun answer hanswer => ?_
        rcases List.mem_append.1 hanswer with hanswer | hanswer <;> obtain rfl := List.mem_singleton.1 hanswer
        · exact (responsePayload_id hpayload :)
        · rfl
      · exact .refused rfl le_rfl
    · exact .renewed rfl hprevious rfl (by simp [Payload.id])
  · rename_i hnone
    split
    · exact .refused rfl le_rfl
    · rename_i hroom
      exact .made rfl hnone (Nat.lt_of_not_le hroom) rfl (by simp [Payload.id])

variable {resourceType : Option NetworkResourceType}

theorem effect_requestStarted {request : Option RequestParams} {redirect : Option ResponseParams} :
    Effect ids limit n key .requestWillBeSent (n.requestStarted ids limit key request resourceType redirect) := by
  unfold Normalizer.requestStarted
  split
  · exact effect_insertStarted
  · exact .refused rfl le_rfl

theorem effect_responseReceived {response : Option ResponseParams}
    (hacceptable : n.requests.lookup key = none → n.size < limit → ∀ params ∈ response,
      ∀ url, params.url = .ok url → params.status ≠ none) :
    Effect ids limit n key .responseReceived (n.responseReceived ids limit key response resourceType) := by
  unfold Normalizer.responseReceived
  split
  · exact .refused rfl le_rfl
  · rename_i params
    dsimp only
    split
    · rename_i context hcontext
      cases hpayload : responsePayload context params with
      | error error => exact .refused rfl le_rfl
      | ok payload => exact .used rfl hcontext (by simpa using responsePayload_id hpayload)
    · rename_i hnone
      split
      · exact .refused rfl le_rfl
      · rename_i hroom
        split
        · exact .refused rfl (Nat.le_succ _)
        · rename_i url hurl
          have hroom := Nat.lt_of_not_le hroom
          obtain ⟨status, hstatus⟩ := Option.ne_none_iff_exists'.1 (hacceptable hnone hroom params rfl url hurl)
          simp only [responsePayload, hstatus]
          exact .made rfl hnone hroom rfl (by simp [Payload.id])

theorem Payload.requestFinished_id (context : RequestContext Id) : (Payload.requestFinished context.id).id = context.id := rfl

theorem Payload.requestFailed_id (context : RequestContext Id) :
    (Payload.requestFailed context.id context.method context.resourceType context.url).id = context.id := rfl

theorem effect_end {method : Method} (hend : method.isEnd = true) {payload : RequestContext Id → Payload Id}
    (hid : ∀ context, (payload context).id = context.id) :
    Effect ids limit n key method
      (.ok [payload (n.take ids key resourceType).1], (n.take ids key resourceType).2) := by
  unfold Normalizer.take
  split
  · rename_i context hcontext
    exact .ended hend hcontext (hid context)
  · rename_i hnone
    exact .unknown hend hnone

end Effects

theorem effect_normalizeNetwork {ids : Nat → Id} {limit : Nat} {s : State Key Id} {method : Method} {key : Key} {params : Params}
    {rest : List (Option Key × Params)} (hstream : s.streams method = (some key, params) :: rest)
    (hmethod : params.method = method) (hg : s.Orderly limit method) :
    Effect ids limit s.normalizer key method (s.normalizer.normalizeNetwork ids limit (some key) params) := by
  have hturn := hg (some key, params) (by simp [hstream]) key rfl
  subst hmethod
  cases params with
  | requestWillBeSent request resourceType redirect => exact effect_requestStarted
  | responseReceived response resourceType => exact effect_responseReceived hturn.2
  | loadingFinished => exact effect_end rfl Payload.requestFinished_id
  | loadingFailed resourceType => exact effect_end rfl Payload.requestFailed_id

theorem not_ended_of_orderly {limit : Nat} {s : State Key Id} {method : Method} {key : Key} {params : Params}
    {rest : List (Option Key × Params)} (hstream : s.streams method = (some key, params) :: rest)
    (hmethod : params.method = method) (hg : s.Orderly limit method) (hpart : method.isEnd = false) : ¬ s.Ended key := by
  have hturn := hg (some key, params) (by simp [hstream]) key rfl
  subst hmethod
  cases params with
  | requestWillBeSent request resourceType redirect => exact hturn
  | responseReceived response resourceType => exact hturn.1
  | loadingFinished | loadingFailed => cases hpart

section Log

variable {log : List (Entry Key Id)} {entry : Entry Key Id} {key : Key}

theorem eventsOf_append (entry : Entry Key Id) : eventsOf key (log ++ [entry]) =
    if ∃ earlier ∈ log, earlier.isEndOf key = true then eventsOf key log
    else eventsOf key log ++ if entry.key = some key then [entry] else [] := by
  induction log with
  | nil =>
    simp only [List.nil_append, eventsOf]
    by_cases hend : entry.isEndOf key = true
    · have hkey : entry.key = some key := by
        simp only [Entry.isEndOf, Bool.and_eq_true, decide_eq_true_eq] at hend
        exact hend.1
      simp [hend, hkey]
    · simp [hend]
  | cons first log ih =>
    simp only [List.cons_append, eventsOf, ih]
    by_cases hend : first.isEndOf key = true
    · simp [hend]
    · have hiff : (∃ earlier ∈ first :: log, earlier.isEndOf key = true) ↔ ∃ earlier ∈ log, earlier.isEndOf key = true := by
        rw [List.exists_mem_cons_iff, or_iff_right hend]
      simp only [hend, hiff, if_false, Bool.false_eq_true]
      by_cases hkey : first.key = some key
      · simp only [hkey, if_true]
        split <;> rfl
      · simp only [hkey, if_false]

theorem mem_eventsOf_append {entry other : Entry Key Id} (h : other ∈ eventsOf key (log ++ [entry])) :
    other ∈ eventsOf key log ∨ other = entry ∧ entry.key = some key ∧ ¬ ∃ earlier ∈ log, earlier.isEndOf key = true := by
  rw [eventsOf_append] at h
  split at h
  · exact .inl h
  · rename_i hended
    rcases List.mem_append.1 h with h | h
    · exact .inl h
    · split at h
      · exact .inr ⟨List.mem_singleton.1 h, ‹_›, hended⟩
      · cases h

/-- Every identifier that the request's events carry is this one. -/
def Carries (log : List (Entry Key Id)) (key : Key) (id : Id) : Prop := ∀ entry ∈ eventsOf key log, ∀ other ∈ entry.ids, other = id

theorem Carries.append {id : Id} (h : Carries log key id) (hentry : entry.key = some key → ∀ other ∈ entry.ids, other = id) :
    Carries (log ++ [entry]) key id := by
  intro event hevent
  rcases mem_eventsOf_append hevent with hevent | ⟨rfl, hkey, -⟩
  · exact h event hevent
  · exact hentry hkey

theorem Carries.after_end {id : Id} (h : Carries log key id) (hended : ∃ earlier ∈ log, earlier.isEndOf key = true) :
    Carries (log ++ [entry]) key id := by
  intro event hevent
  rcases mem_eventsOf_append hevent with hevent | ⟨-, -, hnot⟩
  · exact h event hevent
  · exact absurd hended hnot

theorem isEndOf_eq_true : entry.isEndOf key = true ↔ entry.key = some key ∧ entry.method.isEnd = true := by
  simp [Entry.isEndOf]

theorem isPartOf_eq_true : entry.isPartOf key = true ↔ entry.key = some key ∧ entry.method.isEnd = false := by
  simp [Entry.isPartOf]

omit [DecidableEq Key] in
theorem exists_mem_append_singleton {p : Entry Key Id → Prop} :
    (∃ event ∈ log ++ [entry], p event) ↔ (∃ event ∈ log, p event) ∨ p entry := by
  simp [or_and_right, exists_or]

end Log

/-! ### What is kept -/

/-- What is kept of one request: its entry in the map against its events in the log. -/
structure Traced (log : List (Entry Key Id)) (key : Key) (context? : Option (RequestContext Id)) : Prop where
  live : ∀ context ∈ context?, (¬ ∃ entry ∈ log, entry.isEndOf key = true) ∧ (∃ entry ∈ log, entry.isPartOf key = true) ∧
    Carries log key context.id
  silent : context? = none → (¬ ∃ entry ∈ log, entry.isEndOf key = true) → ∀ id, Carries log key id
  carried : ∃ id, Carries log key id

namespace Traced

variable {log : List (Entry Key Id)} {entry : Entry Key Id} {key : Key} {context? : Option (RequestContext Id)}

theorem frame (h : Traced log key context?) (hkey : entry.key ≠ some key) : Traced (log ++ [entry]) key context? := by
  have hend : (∃ event ∈ log ++ [entry], event.isEndOf key = true) ↔ ∃ event ∈ log, event.isEndOf key = true := by
    rw [exists_mem_append_singleton, isEndOf_eq_true, or_iff_left fun h => hkey h.1]
  refine ⟨fun context hcontext => ?_, fun hnone hended id => ?_, ?_⟩
  · obtain ⟨hended, hbegun, hcarries⟩ := h.live context hcontext
    exact ⟨mt hend.1 hended, exists_mem_append_singleton.2 (.inl hbegun), hcarries.append fun h => absurd h hkey⟩
  · exact (h.silent hnone (mt hend.2 hended) id).append fun h => absurd h hkey
  · obtain ⟨id, hcarries⟩ := h.carried
    exact ⟨id, hcarries.append fun h => absurd h hkey⟩

theorem refused (h : Traced log key context?) (hpart : entry.method.isEnd = false) (hids : entry.ids = []) :
    Traced (log ++ [entry]) key context? := by
  have hend : (∃ event ∈ log ++ [entry], event.isEndOf key = true) ↔ ∃ event ∈ log, event.isEndOf key = true := by
    rw [exists_mem_append_singleton, isEndOf_eq_true, or_iff_left fun h => Bool.false_ne_true (hpart.symm.trans h.2)]
  have hcarries {id : Id} (hcarries : Carries log key id) : Carries (log ++ [entry]) key id :=
    hcarries.append fun _ other hother => by simp [hids] at hother
  refine ⟨fun context hcontext => ?_, fun hnone hended id => hcarries (h.silent hnone (mt hend.2 hended) id), ?_⟩
  · obtain ⟨hended, hbegun, hcarried⟩ := h.live context hcontext
    exact ⟨mt hend.1 hended, exists_mem_append_singleton.2 (.inl hbegun), hcarries hcarried⟩
  · obtain ⟨id, hcarried⟩ := h.carried
    exact ⟨id, hcarries hcarried⟩

theorem goes_on {context : RequestContext Id} (hcarries : Carries log key context.id)
    (hended : ¬ ∃ entry ∈ log, entry.isEndOf key = true) (hkey : entry.key = some key) (hpart : entry.method.isEnd = false)
    (hids : ∀ id ∈ entry.ids, id = context.id) : Traced (log ++ [entry]) key (some context) := by
  have hcarried : Carries (log ++ [entry]) key context.id := hcarries.append fun _ => hids
  refine ⟨?_, nofun, _, hcarried⟩
  rintro _ ⟨⟩
  refine ⟨?_, exists_mem_append_singleton.2 (.inr (isPartOf_eq_true.2 ⟨hkey, hpart⟩)), hcarried⟩
  rw [exists_mem_append_singleton, isEndOf_eq_true, or_iff_left fun h => Bool.false_ne_true (hpart.symm.trans h.2)]
  exact hended

theorem ends {id : Id} (h : Traced log key context?) (hkey : entry.key = some key) (hend : entry.method.isEnd = true)
    (hid : entry.ids = [id]) (hcontext : ∀ context ∈ context?, id = context.id) : Traced (log ++ [entry]) key none := by
  refine ⟨nofun, fun _ hended => ?_, ?_⟩
  · exact absurd (exists_mem_append_singleton.2 (.inr (isEndOf_eq_true.2 ⟨hkey, hend⟩))) hended
  · by_cases hended : ∃ earlier ∈ log, earlier.isEndOf key = true
    · obtain ⟨carried, hcarried⟩ := h.carried
      exact ⟨carried, hcarried.after_end hended⟩
    · refine ⟨id, Carries.append ?_ (by simp [hid])⟩
      cases hlook : context? with
      | none => exact h.silent hlook hended id
      | some context =>
        obtain rfl := hcontext context hlook
        exact (h.live context hlook).2.2

end Traced

/-- What is kept of the map. -/
structure Allotted (ids : Nat → Id) (limit : Nat) (n : Normalizer Key Id) : Prop where
  distinct : ∀ key key' context context', n.requests.lookup key = some context → n.requests.lookup key' = some context' →
    context.id = context'.id → key = key'
  taken : ∀ key context, n.requests.lookup key = some context → ∃ k < n.nextId, context.id = ids k
  bounded : n.size ≤ limit

namespace Allotted

variable {ids : Nat → Id} {limit : Nat} {n : Normalizer Key Id} {key : Key} {context previous : RequestContext Id}

theorem mono (h : Allotted ids limit n) {nextId : Nat} (hnext : n.nextId ≤ nextId) : Allotted ids limit ⟨n.requests, nextId⟩ := by
  refine ⟨h.distinct, fun key context hcontext => ?_, h.bounded⟩
  obtain ⟨k, hk, hid⟩ := h.taken key context hcontext
  exact ⟨k, hk.trans_le hnext, hid⟩

theorem erase (h : Allotted ids limit n) : Allotted ids limit ⟨n.requests.erase key, n.nextId⟩ := by
  have hlookup {other : Key} {context : RequestContext Id} (hother : (n.requests.erase key).lookup other = some context) :
      n.requests.lookup other = some context := by
    by_cases hkey : other = key
    · subst hkey
      simp at hother
    · rwa [AList.lookup_erase_ne hkey] at hother
  refine ⟨fun a b c d hc hd => h.distinct a b c d (hlookup hc) (hlookup hd), fun a c hc => h.taken a c (hlookup hc), ?_⟩
  exact (AList.keys_erase key n.requests ▸ (List.erase_sublist).length_le).trans h.bounded

theorem insert (h : Allotted ids limit n) {nextId : Nat} (hnext : n.nextId ≤ nextId)
    (hfresh : ∀ other context', other ≠ key → n.requests.lookup other = some context' → context'.id ≠ context.id)
    (htaken : ∃ k < nextId, context.id = ids k) (hroom : (n.requests.lookup key).isSome ∨ n.size < limit) :
    Allotted ids limit ⟨n.requests.insert key context, nextId⟩ := by
  refine ⟨fun a b c d hc hd hid => ?_, fun a c hc => ?_, ?_⟩
  · by_cases ha : a = key <;> by_cases hb : b = key
    · exact ha.trans hb.symm
    · subst ha
      rw [AList.lookup_insert] at hc
      rw [AList.lookup_insert_ne hb] at hd
      cases hc
      exact absurd hid.symm (hfresh b d hb hd)
    · subst hb
      rw [AList.lookup_insert] at hd
      rw [AList.lookup_insert_ne ha] at hc
      cases hd
      exact absurd hid (hfresh a c ha hc)
    · rw [AList.lookup_insert_ne ha] at hc
      rw [AList.lookup_insert_ne hb] at hd
      exact h.distinct a b c d hc hd hid
  · by_cases ha : a = key
    · subst ha
      rw [AList.lookup_insert] at hc
      cases hc
      exact htaken
    · rw [AList.lookup_insert_ne ha] at hc
      obtain ⟨k, hk, hid⟩ := h.taken a c hc
      exact ⟨k, hk.trans_le hnext, hid⟩
  · have hlength : (n.requests.insert key context).keys.length = (n.requests.keys.erase key).length + 1 := by
      rw [AList.keys_insert, List.length_cons]
    rw [Normalizer.size, hlength]
    rcases hroom with hsome | hroom
    · have hmem : key ∈ n.requests.keys := AList.mem_keys.1 (AList.lookup_isSome.1 hsome)
      rw [List.length_erase_of_mem hmem, Nat.sub_add_cancel (List.length_pos_of_mem hmem)]
      exact h.bounded
    · exact Nat.succ_le_of_lt ((List.erase_sublist.length_le).trans_lt hroom)

theorem made (h : Allotted ids limit n) (hids : Function.Injective ids) (hroom : n.size < limit) (hid : context.id = ids n.nextId) :
    Allotted ids limit ⟨n.requests.insert key context, n.nextId + 1⟩ := by
  refine h.insert (Nat.le_succ _) (fun other context' _ hother hsame => ?_) ⟨_, Nat.lt_succ_self _, hid⟩ (.inr hroom)
  obtain ⟨k, hk, hused⟩ := h.taken other context' hother
  exact hk.ne (hids (hused.symm.trans (hsame.trans hid)))

theorem renewed (h : Allotted ids limit n) (hprevious : n.requests.lookup key = some previous) (hid : context.id = previous.id) :
    Allotted ids limit ⟨n.requests.insert key context, n.nextId⟩ := by
  refine h.insert le_rfl (fun other context' hne hother hsame => ?_) ?_ (.inl (by simp [hprevious]))
  · exact hne (h.distinct other key context' previous hother hprevious (hsame.trans hid))
  · obtain ⟨k, hk, hused⟩ := h.taken key previous hprevious
    exact ⟨k, hk, hid.trans hused⟩

end Allotted

/-- What is kept of a run in which requests are orderly. -/
structure State.Kept (ids : Nat → Id) (limit : Nat) (s : State Key Id) : Prop where
  traced : ∀ key, Traced s.log key (s.normalizer.requests.lookup key)
  allotted : Allotted ids limit s.normalizer
  refused : ∀ entry ∈ s.log, ∀ error, entry.outcome = .error error → entry.after = entry.before
  streams : ∀ method, ∀ event ∈ s.streams method, event.2.method = method

namespace State.Kept

variable {ids : Nat → Id} {limit : Nat} {s s' : State Key Id}

theorem initial (hs : s.IsInitial) : s.Kept ids limit := by
  obtain ⟨hnormalizer, hlog, hstreams⟩ := hs
  refine ⟨fun key => ?_, ⟨?_, ?_, ?_⟩, by simp [hlog], hstreams⟩
  · rw [hnormalizer, hlog, AList.lookup_empty]
    exact ⟨nofun, nofun, ids 0, nofun⟩
  · simp [hnormalizer]
  · simp [hnormalizer]
  · simp [hnormalizer, Normalizer.size]

theorem change {key : Key} {entry : Entry Key Id} {n : Normalizer Key Id} {streams : Method → List (Option Key × Params)}
    (h : s.Kept ids limit) (hentry : entry.key = some key)
    (hframe : ∀ other ≠ key, n.requests.lookup other = s.normalizer.requests.lookup other)
    (htraced : Traced (s.log ++ [entry]) key (n.requests.lookup key)) (hallotted : Allotted ids limit n)
    (hrefused : ∀ error, entry.outcome = .error error → entry.after = entry.before)
    (hstreams : ∀ method, ∀ event ∈ streams method, event.2.method = method) :
    State.Kept ids limit ⟨streams, n, s.log ++ [entry]⟩ := by
  refine ⟨fun other => ?_, hallotted, ?_, hstreams⟩
  · by_cases hother : other = key
    · exact hother ▸ htraced
    · rw [hframe other hother]
      exact (h.traced other).frame (by simpa [hentry] using Ne.symm hother)
  · simp only [List.forall_mem_append, List.forall_mem_singleton]
    exact ⟨h.refused, hrefused⟩

theorem handled {key : Key} {method : Method} {streams : Method → List (Option Key × Params)} {result : Handled Key Id}
    (h : s.Kept ids limit) (hids : Function.Injective ids) (heffect : Effect ids limit s.normalizer key method result)
    (hended : method.isEnd = false → ¬ s.Ended key) (hstreams : ∀ method, ∀ event ∈ streams method, event.2.method = method) :
    State.Kept ids limit ⟨streams, result.2, s.log ++ [⟨some key, method, result.1, s.normalizer.requests, result.2.requests⟩]⟩ := by
  have htraced := h.traced key
  have hinsert (context : RequestContext Id) (other : Key) (hother : other ≠ key) :
      (s.normalizer.requests.insert key context).lookup other = s.normalizer.requests.lookup other :=
    AList.lookup_insert_ne hother
  cases heffect with
  | refused hpart hnext =>
    exact h.change rfl (fun _ _ => rfl) (htraced.refused hpart rfl) (h.allotted.mono hnext) (fun _ _ => rfl) hstreams
  | @made payloads context hpart hnone hroom hid hpayloads =>
    refine h.change rfl (hinsert context) ?_ (h.allotted.made hids hroom hid) nofun hstreams
    rw [AList.lookup_insert]
    exact Traced.goes_on (htraced.silent hnone (hended hpart) context.id) (hended hpart) rfl hpart (by simpa [Entry.ids] using hpayloads)
  | @renewed payloads context previous hpart hprevious hid hpayloads =>
    refine h.change rfl (hinsert context) ?_ (h.allotted.renewed hprevious hid) nofun hstreams
    rw [AList.lookup_insert]
    have hcarries := (htraced.live previous hprevious).2.2
    exact Traced.goes_on (hid ▸ hcarries) (hended hpart) rfl hpart (by simpa [Entry.ids] using hpayloads)
  | @used payloads context hpart hcontext hpayloads =>
    refine h.change rfl (fun _ _ => rfl) ?_ h.allotted nofun hstreams
    rw [hcontext]
    exact Traced.goes_on (htraced.live context hcontext).2.2 (hended hpart) rfl hpart (by simpa [Entry.ids] using hpayloads)
  | @ended payload context hend hcontext hid =>
    refine h.change rfl (fun other hother => AList.lookup_erase_ne hother) ?_ h.allotted.erase nofun hstreams
    rw [AList.lookup_erase]
    exact htraced.ends rfl hend rfl (by simp [hcontext, hid])
  | unknown hend hnone =>
    refine h.change rfl (fun _ _ => rfl) ?_ (h.allotted.mono (Nat.le_succ _)) nofun hstreams
    rw [hnone]
    exact htraced.ends rfl hend rfl (by simp [hnone])

theorem exec {method : Method} (h : s.Kept ids limit) (hids : Function.Injective ids) (hg : s.Orderly limit method)
    (hs : s.exec ids limit method = some s') : s'.Kept ids limit := by
  unfold State.exec at hs
  split at hs
  · cases hs
  · rename_i key? params rest hstream
    cases hs
    have hmethod : params.method = method := h.streams method (key?, params) (by simp [hstream])
    have hstreams : ∀ other, ∀ event ∈ Function.update s.streams method rest other, event.2.method = other := by
      intro other event hevent
      by_cases hother : other = method
      · subst hother
        rw [Function.update_self] at hevent
        exact h.streams other event (by simp [hstream, hevent])
      · rw [Function.update_of_ne hother] at hevent
        exact h.streams other event hevent
    cases key? with
    | none =>
      refine ⟨fun key => (h.traced key).frame (by simp), h.allotted, ?_, hstreams⟩
      simp only [List.forall_mem_append, List.forall_mem_singleton]
      exact ⟨h.refused, fun _ _ => rfl⟩
    | some key =>
      exact h.handled hids (effect_normalizeNetwork hstream hmethod hg) (not_ended_of_orderly hstream hmethod hg) hstreams

theorem correlated (h : s.Kept ids limit) : s.Correlated limit := by
  refine ⟨fun key a ha b hb id hid id' hid' => ?_, h.allotted.distinct, h.allotted.bounded, h.refused, fun hall => ?_⟩
  · obtain ⟨carried, hcarries⟩ := (h.traced key).carried
    exact (hcarries a ha id hid).trans (hcarries b hb id' hid').symm
  · have hnone (key : Key) : key ∉ s.normalizer.requests := by
      intro hmem
      obtain ⟨context, hcontext⟩ := Option.isSome_iff_exists.1 (AList.lookup_isSome.2 hmem)
      obtain ⟨hended, hbegun, -⟩ := (h.traced key).live context hcontext
      exact hended (hall key hbegun)
    refine AList.ext (List.eq_nil_iff_forall_not_mem.2 fun entry hentry => hnone entry.1 ?_)
    exact List.mem_keys_of_mem hentry

end State.Kept

/-- As long as requests are orderly, their events are correlated and nothing is left of those that have ended. -/
theorem requests_correlated {ids : Nat → Id} (hids : Function.Injective ids) {limit : Nat}
    {trace : List (State Key Id × Method × Unit)} {s : State Key Id}
    (h : Run (correlation ids limit) (State.Orderly limit) trace s) : s.Correlated limit :=
  (h.invariant (P := State.Kept ids limit) (fun _ => State.Kept.initial) fun _ _ _ _ hs hg hstep => hs.exec hids hg hstep).correlated

/-- What the subscriptions deliver of a request `0`: a start with a redirect after it, a response and an end. -/
def delivered (status : Option Nat) : Method → List (Option Nat × Params)
  | .requestWillBeSent =>
    [(some 0, .requestWillBeSent (some ⟨.ok (some "GET"), .ok (some "https://a.test")⟩) (some .document) none),
      (some 0, .requestWillBeSent (some ⟨.ok (some "GET"), .ok (some "https://b.test")⟩) (some .document)
        (some ⟨.ok (some "https://a.test"), some 302, false, false⟩))]
  | .responseReceived => [(some 0, .responseReceived (some ⟨.ok (some "https://b.test"), status, false, false⟩) (some .document))]
  | .loadingFinished => [(some 0, .loadingFinished)]
  | .loadingFailed => []

def delivering (status : Option Nat) : State Nat Nat := ⟨delivered status, ⟨∅, 0⟩, []⟩

theorem delivering_isInitial (status : Option Nat) : (delivering status).IsInitial := by
  refine ⟨rfl, rfl, fun method event hevent => ?_⟩
  cases method <;> simp only [delivering, delivered, List.mem_cons, List.not_mem_nil, or_false] at hevent
  · rcases hevent with rfl | rfl <;> rfl
  · subst hevent
    rfl
  · subst hevent
    rfl

/-- The end of a request overtakes its start and its response, and a refused response of an unknown request leaves an entry. -/
theorem requests_leak :
    (∃ s : State Nat Nat, (correlation id 4096).Reachable s ∧ (∀ key, s.Begun key → s.Ended key) ∧ s.normalizer.requests ≠ ∅) ∧
      ∃ s : State Nat Nat, (correlation id 4096).Reachable s ∧ ∃ entry ∈ s.log, ∃ error, entry.outcome = .error error ∧
        entry.after ≠ entry.before := by
  constructor
  · obtain ⟨s, hs, hlog, hended, hkeys⟩ := exists_reachable State.IsInitial (State.exec id 4096) (delivering none)
      (delivering_isInitial none) [.loadingFinished, .requestWillBeSent]
      (fun s => (∀ entry ∈ s.log, entry.key = some 0) ∧ (∃ entry ∈ s.log, entry.isEndOf 0 = true) ∧ s.normalizer.requests.keys = [0])
      (by decide)
    refine ⟨s, hs, ?_, fun h => ?_⟩
    · rintro key ⟨entry, hentry, hpart⟩
      obtain rfl : 0 = key := Option.some.inj ((hlog entry hentry).symm.trans (isPartOf_eq_true.1 hpart).1)
      exact hended
    · simp [h] at hkeys
  · obtain ⟨s, hs, entry, hentry, hrefused, hafter, hbefore⟩ := exists_reachable State.IsInitial (State.exec id 4096) (delivering none)
      (delivering_isInitial none) [.responseReceived]
      (fun s => ∃ entry ∈ s.log, entry.outcome.toOption = none ∧ entry.after.keys = [0] ∧ entry.before.keys = [])
      (by decide)
    refine ⟨s, hs, entry, hentry, ?_⟩
    cases houtcome : entry.outcome with
    | ok payloads => simp [houtcome, Except.toOption] at hrefused
    | error error =>
      refine ⟨error, rfl, fun h => ?_⟩
      rw [h, hbefore] at hafter
      cases hafter

/-- The next event belongs to a request that has not ended, and its response has a status. -/
def goesOn (s : State Nat Nat) (method : Method) : Bool :=
  (s.streams method).head?.all fun event => event.1.all fun key => match event.2 with
    | .requestWillBeSent _ _ _ => !s.log.any (·.isEndOf key)
    | .responseReceived response _ => !s.log.any (·.isEndOf key) && response.all (·.status.isSome)
    | _ => true

theorem orderly_of_goesOn {limit : Nat} (s : State Nat Nat) (method : Method) (h : goesOn s method = true) :
    s.Orderly limit method := by
  intro event hevent key hkey
  have hturn := (Option.all_eq_true _ _).1 ((Option.all_eq_true _ _).1 h event hevent) key hkey
  rcases event with ⟨key?, params⟩
  cases params with
  | requestWillBeSent request resourceType redirect => simpa [State.Ended] using hturn
  | responseReceived response resourceType =>
    simp only [Bool.and_eq_true, Bool.not_eq_true', List.any_eq_false, Option.all_eq_true] at hturn
    refine ⟨fun ⟨entry, hentry, hend⟩ => hturn.1 entry hentry hend, fun _ _ params hparams _ _ => ?_⟩
    exact Option.isSome_iff_ne_none.1 (hturn.2 params hparams)
  | loadingFinished | loadingFailed => trivial

/-- A request that is redirected, answered and finished. -/
theorem requests_correlated_redirect : ∃ trace, ∃ s : State Nat Nat, Run (correlation id 1) (State.Orderly 1) trace s ∧
    s.log.length = 4 ∧ s.normalizer.size = 0 ∧ s.Correlated 1 := by
  obtain ⟨trace, s, hrun, hlog, hsize⟩ := exists_run State.IsInitial (State.exec id 1) (delivering (some 200))
    (delivering_isInitial _) goesOn orderly_of_goesOn
    [.requestWillBeSent, .requestWillBeSent, .responseReceived, .loadingFinished]
    (fun s => s.log.length = 4 ∧ s.normalizer.size = 0) (by decide)
  exact ⟨trace, s, hrun, hlog, hsize, requests_correlated Function.injective_id hrun⟩

end Krometrail.Events.Requests
