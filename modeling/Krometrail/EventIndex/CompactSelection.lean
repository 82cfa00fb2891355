import Krometrail.EventIndex.Pages

/-!
# Compact selections of browser events

A compact selection takes the best of some candidates: the first rows in the order of priorities, four for each place, and the rows
nearest to the focus times.  Rows of gaps in the collection are dropped only after they have taken places among the candidates, so that
many of them crowd out the events after them.
-/

namespace Krometrail.EventIndex

open Results
open Keyed (UniqueKeys)
open Paging (pairwise_lt_sortByKey)
open Selections (Best best best_iff sortByKey_map upTo)
open Sorting (sortByKey mem_sortByKey perm_sortByKey)

variable {P : Type}

def maxCompactEventLimit : Nat := 64

/-- An `EventCompactLimit`. -/
structure EventCompactLimit where
  rows : Nat
  rows_pos : 0 < rows
  rows_le : rows ≤ maxCompactEventLimit

/-- The `candidate_limit`, which is accepted. -/
def EventCompactLimit.candidates (limit : EventCompactLimit) : EventCandidateLimit :=
  ⟨limit.rows * 4, Nat.mul_pos limit.rows_pos (by decide), Nat.mul_le_mul_right 4 limit.rows_le⟩

def nearestDistance (time : SessionTime) (focusTimes : List SessionTime) : Option Nat :=
  (focusTimes.map fun focus => Nat.dist time.nanos.toNat focus.nanos.toNat).min?

/-- `unique.entry(event.id()).or_insert(event)`. -/
def orInsertEvent (events : List (BrowserEvent P)) (event : BrowserEvent P) : List (BrowserEvent P) :=
  if events.any (·.id = event.id) then events else events ++ [event]

section Service

variable (payloads : Payloads P) (db : Db) (selector : BrowserEventSelector) (focusTimes : List SessionTime) (limit : EventCompactLimit)

/-- The candidates of `compact_events`. -/
def compactCandidates : Result (List (BrowserEvent P)) := do
  let candidates ← (priorityCandidates payloads db selector limit.candidates).mapError
    (mapSourceError "priority browser events could not be read")
  if focusTimes = [] then
    return candidates
  let nearby ← (nearestCandidates payloads db selector focusTimes 2).mapError (mapSourceError "nearby browser events could not be read")
  return candidates ++ nearby

/-- The candidates that are not gaps, in the order of their identifiers. -/
def uniqueEvents (candidates : List (BrowserEvent P)) : List (BrowserEvent P) :=
  sortByKey BrowserEvent.id ((candidates.filter fun event => !isCollectionGap payloads event).foldl orInsertEvent [])

/-- The order of `ranked`. -/
def rankedKey (ranked : BrowserEvent P × Option Nat) : Nat ×ₗ Nat ×ₗ SessionTime ×ₗ Nat ×ₗ BrowserEventId :=
  toLex (payloads.compactPriority ranked.1.payload, toLex (ranked.2.getD u64Max, ranked.1.place))

/-- What `compact_events` takes of its candidates. -/
def compactSelected (candidates : List (BrowserEvent P)) : List (SelectedBrowserEvent P) :=
  let ranked := (uniqueEvents payloads candidates).map fun event => (event, nearestDistance event.sessionTime focusTimes)
  let ranked := (sortByKey (rankedKey payloads) ranked).take limit.rows
  sortByKey (·.event.place) (ranked.map fun (event, distance) =>
    { event, reason := .compactCorrelation (payloads.compactPriority event.payload) distance })

def compactEvents : Result (List (SelectedBrowserEvent P)) := do
  let candidates ← compactCandidates payloads db selector focusTimes limit
  return compactSelected payloads focusTimes limit candidates

end Service

section Candidates

variable {payloads : Payloads P} {db : Db} {selector : BrowserEventSelector} {focusTimes : List SessionTime} {limit : EventCompactLimit}
  {events candidates : List (BrowserEvent P)}

/-- Times that a request accepts. -/
def FocusTimes (selector : BrowserEventSelector) (focusTimes : List SessionTime) : Prop :=
  focusTimes.length ≤ 16 ∧ ∀ time ∈ focusTimes, selector.range.fst ≤ time ∧ time ≤ selector.range.snd

/-- The rows that candidates come from. -/
def candidateRows (db : Db) (selector : BrowserEventSelector) (focusTimes : List SessionTime) (limit : EventCompactLimit) : List RawEvent :=
  (sortByKey RawEvent.rank (selected db selector)).take limit.candidates.rows ++
    (focusTimes.flatMap fun focus => nearestRows db selector focus 2).flatten

/-- A map from identifiers holds one event for each that there is. -/
structure Listed (all listed : List (BrowserEvent P)) : Prop where
  unique : UniqueKeys BrowserEvent.id listed
  subset : listed ⊆ all
  covers : ∀ event ∈ all, ∃ kept ∈ listed, kept.id = event.id

theorem orInsert_listed (all : List (BrowserEvent P)) : Listed all (all.foldl orInsertEvent []) := by
  induction all using List.reverseRecOn with
  | nil => exact ⟨Keyed.unique_nil, List.Subset.refl _, nofun⟩
  | append_singleton all event ih =>
    rw [List.foldl_append, List.foldl_cons, List.foldl_nil, orInsertEvent]
    split
    · rename_i hany
      obtain ⟨kept, hkept, heq⟩ := List.any_eq_true.1 hany
      refine ⟨ih.unique, List.subset_append_of_subset_left _ ih.subset, fun other hother => ?_⟩
      rcases List.mem_append.1 hother with hother | hother
      · exact ih.covers other hother
      · obtain rfl := List.mem_singleton.1 hother
        exact ⟨kept, hkept, of_decide_eq_true heq⟩
    · rename_i hany
      refine ⟨ih.unique.insert fun kept hkept heq => hany (List.any_eq_true.2 ⟨kept, hkept, decide_eq_true heq⟩), ?_, fun other hother => ?_⟩
      · exact List.append_subset.2 ⟨List.subset_append_of_subset_left _ ih.subset, List.subset_append_right _ _⟩
      · rcases List.mem_append.1 hother with hother | hother
        · obtain ⟨kept, hkept, heq⟩ := ih.covers other hother
          exact ⟨kept, List.mem_append_left _ hkept, heq⟩
        · obtain rfl := List.mem_singleton.1 hother
          exact ⟨other, List.mem_append_right _ hother, rfl⟩

theorem insert_listed (all : List (BrowserEvent P)) : Listed all (all.foldl insertEvent []) := by
  induction all using List.reverseRecOn with
  | nil => exact ⟨Keyed.unique_nil, List.Subset.refl _, nofun⟩
  | append_singleton all event ih =>
    rw [List.foldl_append, List.foldl_cons, List.foldl_nil, insertEvent]
    refine ⟨ih.unique.replace event, ?_, fun other hother => ?_⟩
    · refine List.append_subset.2 ⟨fun kept hkept => ?_, List.subset_append_right _ _⟩
      exact List.mem_append_left _ (ih.subset (List.mem_of_mem_filter hkept))
    · by_cases heq : other.id = event.id
      · exact ⟨event, List.mem_append_right _ (List.mem_singleton_self _), heq.symm⟩
      · obtain ⟨kept, hkept, hid⟩ := ih.covers other ((List.mem_append.1 hother).resolve_right fun h => heq (by rw [List.mem_singleton.1 h]))
        exact ⟨kept, List.mem_append_left _ (List.mem_filter.2 ⟨hkept, by simpa [hid] using heq⟩), hid⟩

theorem Listed.mem {all listed : List (BrowserEvent P)} (h : Listed all listed)
    (hsame : ∀ a ∈ all, ∀ b ∈ all, a.id = b.id → a = b) {event : BrowserEvent P} : event ∈ listed ↔ event ∈ all := by
  refine ⟨fun hmem => h.subset hmem, fun hmem => ?_⟩
  obtain ⟨kept, hkept, heq⟩ := h.covers event hmem
  exact hsame kept (h.subset hkept) event hmem heq ▸ hkept

/-- An event is read from one of the rows. -/
def ReadFrom (payloads : Payloads P) (db : Db) (rows : List RawEvent) (event : BrowserEvent P) : Prop :=
  ∃ raw ∈ rows, readRow payloads db raw = .ok event

theorem ReadFrom.eq_of_id {rows rows' : List RawEvent} {a b : BrowserEvent P} (hvalid : db.Valid) (hrows : rows ⊆ db.events)
    (hrows' : rows' ⊆ db.events) (ha : ReadFrom payloads db rows a) (hb : ReadFrom payloads db rows' b) (hid : a.id = b.id) : a = b := by
  obtain ⟨raw, hraw, hread⟩ := ha
  obtain ⟨raw', hraw', hread'⟩ := hb
  have hsame : raw = raw' := hvalid.events.eq_of_key_eq (hrows hraw) (hrows' hraw')
    (((decoded_of_read hread).id_eq.symm.trans hid).trans (decoded_of_read hread').id_eq)
  subst hsame
  exact Except.ok.inj (hread.symm.trans hread')

theorem selected_subset : selected db selector ⊆ db.events := fun _ h => (mem_selected.1 h).1

theorem queryEvents_of_subset {rows : List RawEvent} (hevents : queryEvents payloads db (ordered db selector) = .ok events)
    (hrows : rows ⊆ selected db selector) :
    ∃ found, queryEvents payloads db rows = .ok found ∧ ∀ event, event ∈ found ↔ ReadFrom payloads db rows event := by
  have hall := mapM_total.1 ⟨events, hevents⟩
  obtain ⟨found, hfound⟩ := mapM_total.2 fun raw hraw => hall raw (mem_ordered.2 (hrows hraw))
  exact ⟨found, hfound, fun event => mem_mapM hfound⟩

theorem nearestRows_subset {focus : SessionTime} {rows : List RawEvent} (h : rows ∈ nearestRows db selector focus 2) :
    rows ⊆ selected db selector := by
  intro raw hraw
  simp only [nearestRows, List.mem_cons, List.not_mem_nil, or_false] at h
  rcases h with rfl | rfl
  · exact List.mem_of_mem_filter (mem_sortByKey.1 (List.mem_reverse.1 (List.mem_of_mem_take hraw)))
  · exact List.mem_of_mem_filter (mem_sortByKey.1 (List.mem_of_mem_take hraw))

theorem nearestCandidates_eq (hvalid : db.Valid) (hevents : queryEvents payloads db (ordered db selector) = .ok events)
    (hfocus : FocusTimes selector focusTimes) (hne : focusTimes ≠ []) :
    ∃ found, nearestCandidates payloads db selector focusTimes 2 = .ok found ∧
      ∀ event, event ∈ found ↔ ReadFrom payloads db (focusTimes.flatMap fun focus => nearestRows db selector focus 2).flatten event := by
  have hpassed : ¬ (focusTimes = [] ∨ 16 < focusTimes.length ∨ ¬ (1 ≤ 2 ∧ 2 ≤ 2) ∨
      ∃ time ∈ focusTimes, ¬ (selector.range.fst ≤ time ∧ time ≤ selector.range.snd)) := by
    rintro (hnil | hmany | htwo | ⟨time, htime, hout⟩)
    · exact hne hnil
    · exact hfocus.1.not_gt hmany
    · exact htwo (by decide)
    · exact hout (hfocus.2 time htime)
  have hsubset : ∀ rows ∈ focusTimes.flatMap fun focus => nearestRows db selector focus 2, rows ⊆ selected db selector := by
    intro rows hrows
    obtain ⟨focus, -, hrows⟩ := List.mem_flatMap.1 hrows
    exact nearestRows_subset hrows
  obtain ⟨found, hfound⟩ := mapM_total.2 fun rows hrows => (queryEvents_of_subset hevents (hsubset rows hrows)).imp fun _ h => h.1
  have hmem (event : BrowserEvent P) : event ∈ found.flatten ↔
      ReadFrom payloads db (focusTimes.flatMap fun focus => nearestRows db selector focus 2).flatten event := by
    constructor
    · intro hevent
      obtain ⟨page, hpage, hevent⟩ := List.mem_flatten.1 hevent
      obtain ⟨rows, hrows, hquery⟩ := (mem_mapM hfound).1 hpage
      obtain ⟨raw, hraw, hread⟩ := (mem_mapM hquery).1 hevent
      exact ⟨raw, List.mem_flatten.2 ⟨rows, hrows, hraw⟩, hread⟩
    · rintro ⟨raw, hraw, hread⟩
      obtain ⟨rows, hrows, hraw⟩ := List.mem_flatten.1 hraw
      obtain ⟨page, hquery, hpage⟩ := queryEvents_of_subset hevents (hsubset rows hrows)
      exact List.mem_flatten.2 ⟨page, (mem_mapM hfound).2 ⟨rows, hrows, hquery⟩, (hpage event).2 ⟨raw, hraw, hread⟩⟩
  have hrows : (focusTimes.flatMap fun focus => nearestRows db selector focus 2).flatten ⊆ db.events := by
    intro raw hraw
    obtain ⟨rows, hrows, hraw⟩ := List.mem_flatten.1 hraw
    exact selected_subset (hsubset rows hrows hraw)
  have hsame : ∀ a ∈ found.flatten, ∀ b ∈ found.flatten, a.id = b.id → a = b := fun a ha b hb hid =>
    ((hmem a).1 ha).eq_of_id hvalid hrows hrows ((hmem b).1 hb) hid
  refine ⟨sortByKey BrowserEvent.place (found.flatten.foldl insertEvent []), ?_, fun event => ?_⟩
  · rw [nearestCandidates, (refuse_eq_ok (u := ())).2 hpassed, ok_bind, hfound]
    rfl
  · rw [mem_sortByKey, (insert_listed _).mem hsame, hmem]

theorem compactCandidates_eq (limit : EventCompactLimit) (hvalid : db.Valid) (hevents : queryEvents payloads db (ordered db selector) = .ok events)
    (hfocus : FocusTimes selector focusTimes) :
    ∃ candidates, compactCandidates payloads db selector focusTimes limit = .ok candidates ∧
      ∀ event, event ∈ candidates ↔ ReadFrom payloads db (candidateRows db selector focusTimes limit) event := by
  have hfirst : (sortByKey RawEvent.rank (selected db selector)).take limit.candidates.rows ⊆ selected db selector :=
    fun raw hraw => mem_sortByKey.1 (List.mem_of_mem_take hraw)
  obtain ⟨first, hquery, hmem⟩ := queryEvents_of_subset hevents hfirst
  have hpriority : priorityCandidates payloads db selector limit.candidates = .ok first := hquery
  by_cases hne : focusTimes = []
  · refine ⟨first, ?_, fun event => ?_⟩
    · rw [compactCandidates, hpriority]
      exact if_pos hne
    · rw [hmem, hne, candidateRows, List.flatMap_nil, List.flatten_nil, List.append_nil]
  · obtain ⟨nearby, hnearby, hnear⟩ := nearestCandidates_eq hvalid hevents hfocus hne
    refine ⟨first ++ nearby, ?_, fun event => ?_⟩
    · rw [compactCandidates, hpriority, hnearby]
      exact if_neg hne
    · rw [List.mem_append, hmem, hnear, candidateRows]
      simp only [ReadFrom, List.mem_append, or_and_right, exists_or]

end Candidates

section Selection

variable {payloads : Payloads P} {db : Db} {selector : BrowserEventSelector} {focusTimes : List SessionTime} {limit : EventCompactLimit}
  {events candidates : List (BrowserEvent P)}

/-- The events that are not gaps. -/
def matching (payloads : Payloads P) (events : List (BrowserEvent P)) : List (BrowserEvent P) :=
  events.filter fun event => !isCollectionGap payloads event

/-- The priority of an event in a compact selection. -/
def priority (payloads : Payloads P) (event : BrowserEvent P) : Nat := payloads.compactPriority event.payload

/-- The order in which candidates are taken. -/
def candidateKey (payloads : Payloads P) (focusTimes : List SessionTime) (event : BrowserEvent P) :
    Nat ×ₗ Nat ×ₗ SessionTime ×ₗ Nat ×ₗ BrowserEventId :=
  rankedKey payloads (event, nearestDistance event.sessionTime focusTimes)

theorem priority_le_of_key {a b : BrowserEvent P} (h : candidateKey payloads focusTimes a ≤ candidateKey payloads focusTimes b) :
    priority payloads a ≤ priority payloads b := by
  rcases Prod.Lex.toLex_le_toLex.1 h with hlt | ⟨heq, -⟩
  · exact hlt.le
  · exact heq.le

theorem map_compactSelected : (compactSelected payloads focusTimes limit candidates).map (·.event) =
    sortByKey BrowserEvent.place (best (candidateKey payloads focusTimes) limit.rows (uniqueEvents payloads candidates)) := by
  simp only [compactSelected, sortByKey_map, List.map_map, ← List.map_take, best]
  exact List.map_id _

variable {event : BrowserEvent P}

theorem mem_uniqueEvents (hsame : ∀ a ∈ candidates, ∀ b ∈ candidates, a.id = b.id → a = b) :
    event ∈ uniqueEvents payloads candidates ↔ event ∈ candidates ∧ isCollectionGap payloads event = false := by
  rw [uniqueEvents, mem_sortByKey, (orInsert_listed _).mem, List.mem_filter, Bool.not_eq_true']
  exact fun a ha b hb => hsame a (List.mem_of_mem_filter ha) b (List.mem_of_mem_filter hb)

theorem nodup_uniqueEvents : (uniqueEvents payloads candidates).Nodup :=
  (perm_sortByKey _ _).nodup_iff.2 (List.Nodup.of_map _ (orInsert_listed _).unique)

/-- A selection is as large as it can be, in the order of time, and prefers better priorities. -/
structure Compact (payloads : Payloads P) (limit : EventCompactLimit) (events chosen : List (BrowserEvent P)) : Prop where
  length_eq : chosen.length = min limit.rows (matching payloads events).length
  ordered : chosen.Pairwise fun a b => a.place < b.place
  subset : chosen ⊆ matching payloads events
  prefers : ∀ omitted ∈ matching payloads events, omitted ∉ chosen → ∀ event ∈ chosen, priority payloads event ≤ priority payloads omitted

/-- Up to every priority, enough of the events are candidates. -/
def Reached (payloads : Payloads P) (db : Db) (selector : BrowserEventSelector) (focusTimes : List SessionTime) (limit : EventCompactLimit)
    (events : List (BrowserEvent P)) : Prop :=
  ∀ p, min limit.rows ((matching payloads events).countP fun event => decide (priority payloads event ≤ p)) ≤
    (matching payloads events).countP fun event =>
      decide (priority payloads event ≤ p) && (candidateRows db selector focusTimes limit).any (·.eventId = event.id)

theorem ReadFrom.mem (hevents : queryEvents payloads db (ordered db selector) = .ok events) {rows : List RawEvent}
    (hrows : rows ⊆ selected db selector) (h : ReadFrom payloads db rows event) : event ∈ events := by
  obtain ⟨raw, hraw, hread⟩ := h
  exact (mem_mapM hevents).2 ⟨raw, mem_ordered.2 (hrows hraw), hread⟩

theorem candidateRows_subset : candidateRows db selector focusTimes limit ⊆ selected db selector := by
  intro raw hraw
  rcases List.mem_append.1 hraw with hraw | hraw
  · exact mem_sortByKey.1 (List.mem_of_mem_take hraw)
  · obtain ⟨rows, hrows, hmem⟩ := List.mem_flatten.1 hraw
    obtain ⟨focus, -, hrows⟩ := List.mem_flatMap.1 hrows
    exact nearestRows_subset hrows hmem

theorem readFrom_candidateRows (hvalid : db.Valid) (hevents : queryEvents payloads db (ordered db selector) = .ok events)
    (hevent : event ∈ events) : ReadFrom payloads db (candidateRows db selector focusTimes limit) event ↔
      (candidateRows db selector focusTimes limit).any (·.eventId = event.id) = true := by
  rw [List.any_eq_true]
  constructor
  · rintro ⟨raw, hraw, hread⟩
    exact ⟨raw, hraw, decide_eq_true (decoded_of_read hread).id_eq.symm⟩
  · rintro ⟨raw, hraw, hid⟩
    obtain ⟨raw', hraw', hread⟩ := (mem_mapM hevents).1 hevent
    have hsame : raw = raw' := hvalid.events.eq_of_key_eq (selected_subset (candidateRows_subset hraw))
      (selected_subset (mem_ordered.1 hraw')) ((of_decide_eq_true hid).trans (decoded_of_read hread).id_eq)
    exact ⟨raw, hraw, hsame ▸ hread⟩

/-- A compact selection is the best of all that matches exactly when enough of it is among the candidates. -/
theorem compact_selection_iff (payloads : Payloads P) (selector : BrowserEventSelector) (focusTimes : List SessionTime)
    (limit : EventCompactLimit) (hvalid : db.Valid) (hfocus : FocusTimes selector focusTimes)
    (hevents : queryEvents payloads db (ordered db selector) = .ok events) :
    ∃ found, compactEvents payloads db selector focusTimes limit = .ok found ∧
      (Compact payloads limit events (found.map (·.event)) ↔ Reached payloads db selector focusTimes limit events) := by
  obtain ⟨candidates, hcandidates, hmem⟩ := compactCandidates_eq limit hvalid hevents hfocus
  refine ⟨compactSelected payloads focusTimes limit candidates, by rw [compactEvents, hcandidates]; rfl, ?_⟩
  rw [map_compactSelected]
  have hrows : candidateRows db selector focusTimes limit ⊆ db.events := fun raw hraw => selected_subset (candidateRows_subset hraw)
  have hsame : ∀ a ∈ candidates, ∀ b ∈ candidates, a.id = b.id → a = b := fun a ha b hb hid =>
    ((hmem a).1 ha).eq_of_id hvalid hrows hrows ((hmem b).1 hb) hid
  have hplaces := pairwise_place hvalid hevents
  have hnodup : (matching payloads events).Nodup := (hplaces.imp fun hlt heq => hlt.ne (congrArg _ heq)).filter _
  -- the candidates that are left are those of the events that match
  have hunique : (uniqueEvents payloads candidates).Perm ((matching payloads events).filter fun event =>
      (candidateRows db selector focusTimes limit).any (·.eventId = event.id)) := by
    refine (List.perm_ext_iff_of_nodup nodup_uniqueEvents (hnodup.filter _)).2 fun event => ?_
    rw [mem_uniqueEvents hsame, hmem, List.mem_filter, matching, List.mem_filter, Bool.not_eq_true']
    constructor
    · rintro ⟨hread, hgap⟩
      have hevent := hread.mem hevents candidateRows_subset
      exact ⟨⟨hevent, hgap⟩, (readFrom_candidateRows hvalid hevents hevent).1 hread⟩
    · rintro ⟨⟨hevent, hgap⟩, hany⟩
      exact ⟨(readFrom_candidateRows hvalid hevents hevent).2 hany, hgap⟩
  have hsub : uniqueEvents payloads candidates ⊆ matching payloads events := fun event hevent =>
    List.mem_of_mem_filter (hunique.subset hevent)
  have hchosen : best (candidateKey payloads focusTimes) limit.rows (uniqueEvents payloads candidates) ⊆ uniqueEvents payloads candidates :=
    fun event hevent => Selections.mem_of_best hevent
  have hreached : Reached payloads db selector focusTimes limit events ↔ ∀ p, min limit.rows (upTo (priority payloads) p
      (matching payloads events)) ≤ upTo (priority payloads) p (uniqueEvents payloads candidates) := by
    refine forall_congr' fun p => ?_
    rw [upTo, upTo, hunique.countP_eq, List.countP_filter]
  rw [hreached, ← best_iff (fun _ _ => priority_le_of_key) hsub nodup_uniqueEvents hnodup]
  constructor
  · rintro ⟨hlength, -, -, hprefers⟩
    refine ⟨((perm_sortByKey _ _).length_eq.symm.trans hlength), fun a ha hnot b hb => hprefers a ha ?_ b (mem_sortByKey.2 hb)⟩
    rwa [mem_sortByKey]
  · rintro ⟨hlength, hle⟩
    have hids : UniqueKeys BrowserEvent.place (best (candidateKey payloads focusTimes) limit.rows (uniqueEvents payloads candidates)) := by
      refine List.Nodup.map_on (fun a ha b hb heq => ?_) (Selections.nodup_best nodup_uniqueEvents)
      have hid : a.id = b.id := congrArg (fun place => (ofLex (ofLex place).2).2) heq
      exact hsame a ((mem_uniqueEvents hsame).1 (hchosen ha)).1 b ((mem_uniqueEvents hsame).1 (hchosen hb)).1 hid
    refine ⟨((perm_sortByKey _ _).length_eq.trans hlength), pairwise_lt_sortByKey hids, fun event hevent => hsub (hchosen (mem_sortByKey.1 hevent)),
      fun a ha hnot b hb => hle a ha ?_ b (mem_sortByKey.1 hb)⟩
    rwa [mem_sortByKey] at hnot

end Selection

inductive SampleKind
  | gap | response

/-- Gaps and failed responses, with their priorities. -/
def sampleKinds : Payloads SampleKind where
  encode
    | .gap => "gap"
    | .response => "response"
  decode text := if text = "gap" then some .gap else if text = "response" then some .response else none
  kind
    | .gap => "collection_gap"
    | .response => "network_response_received"
  className
    | .gap => "operational"
    | .response => "network"
  compactPriority
    | .gap => 8
    | .response => 16
  gapRange
    | .gap => some (NonemptyInterval.pure ⟨0⟩)
    | .response => none
  accepts _ := true
  batchBytes _ := 0
  reference _ := "r"

def sampleEvent (ordinal : UInt8) (kind : SampleKind) : BrowserEvent SampleKind :=
  ⟨⟨someUuid (10 + ordinal)⟩, ⟨someUuid 2⟩, ⟨someUuid 3⟩, 1, ordinal.toNat, ⟨0⟩, none, ⟨0⟩, .error, kind⟩

/-- The bytes that a row accounts for. -/
def sampleBytes : SampleKind → Nat
  | .gap => 420
  | .response => 432

/-- Four gaps and a failed response. -/
def crowdedEvents : List (BrowserEvent SampleKind) :=
  [sampleEvent 1 .gap, sampleEvent 2 .gap, sampleEvent 3 .gap, sampleEvent 4 .gap, sampleEvent 5 .response]

def crowded : Db where
  events := crowdedEvents.map fun event => rawEvent sampleKinds event (sampleBytes event.payload) event.ordinal
  timeline := crowdedEvents.map (timelineRow sampleKinds)
  usage := crowdedEvents.map fun event => usageRow event (sampleBytes event.payload)
  unavailable := []
  nextSequence := 6

def EventCompactLimit.one : EventCompactLimit := ⟨1, Nat.one_pos, by decide⟩

theorem crowded_valid : crowded.Valid where
  events := (by decide : (crowded.events.map RawEvent.eventId).Nodup)
  timeline := (by decide : (crowded.timeline.map TimelineRow.sortKey).Nodup)
  usage := (by decide : (crowded.usage.map UsageRow.objectKey).Nodup)

theorem read_crowded : queryEvents sampleKinds crowded (ordered crowded sampleSelector) = .ok crowdedEvents := rfl

/-- One place is to be filled, and the four rows that are read for it are gaps, so that nothing is returned though a failed response
matches. -/
theorem compact_selection_crowded_out : ¬ ∀ (db : Db) (selector : BrowserEventSelector) (focusTimes : List SessionTime)
    (limit : EventCompactLimit) (events : List (BrowserEvent SampleKind)) (found : List (SelectedBrowserEvent SampleKind)), db.Valid →
    FocusTimes selector focusTimes → queryEvents sampleKinds db (ordered db selector) = .ok events →
    compactEvents sampleKinds db selector focusTimes limit = .ok found → Compact sampleKinds limit events (found.map (·.event)) := by
  intro h
  have hcompact := h crowded sampleSelector [] .one crowdedEvents [] crowded_valid ⟨by decide, nofun⟩ read_crowded rfl
  exact absurd hcompact.length_eq (by decide)

theorem compact_selection_iff_one : ∃ found, compactEvents plain (holding sampleRow) sampleSelector [] .one = .ok found ∧
    (Compact plain .one [sample] (found.map (·.event)) ↔ Reached plain (holding sampleRow) sampleSelector [] .one [sample]) :=
  compact_selection_iff plain sampleSelector [] .one (holding_valid sampleRow) ⟨by decide, nofun⟩ rfl

end Krometrail.EventIndex
