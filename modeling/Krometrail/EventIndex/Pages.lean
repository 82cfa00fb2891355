import Krometrail.EventIndex.StoreRuns
import Krometrail.Lib.Selections

/-!
# Queries of browser events

What the index answers to a selector: a page in the order of time, the rows of the best priorities, and the rows nearest to given
times.  A condition of a query compares the blobs of the columns byte by byte; since they are big-endian and of one width, this
is the order of the values (`before_iff`).
-/

namespace Krometrail.EventIndex

open BigEndian (toBytes)
open Keyed (UniqueKeys)
open Sorting (sortByKey)

variable {P : Type}

inductive BrowserEventClass
  | console | exception | network | navigation | lifecycle | target | dialog | capture | operational
  deriving DecidableEq

def BrowserEventClass.name : BrowserEventClass → String
  | .console => "console"
  | .exception => "exception"
  | .network => "network"
  | .navigation => "navigation"
  | .lifecycle => "lifecycle"
  | .target => "target"
  | .dialog => "dialog"
  | .capture => "capture"
  | .operational => "operational"

def severityRank : BrowserEventSeverity → Nat
  | .debug => 0
  | .info => 1
  | .warning => 2
  | .error => 3

/-- No class means every class. -/
structure BrowserEventSelector where
  sessionId : SessionId
  targetId : TargetId
  range : SessionRange
  classes : List BrowserEventClass
  minimumSeverity : BrowserEventSeverity
  deriving DecidableEq

structure BrowserEventCursor where
  selector : BrowserEventSelector
  sessionTime : SessionTime
  ordinal : Nat
  eventId : BrowserEventId

def BrowserEventCursor.new (selector : BrowserEventSelector) (sessionTime : SessionTime) (ordinal : Nat) (eventId : BrowserEventId) :
    Result BrowserEventCursor := do
  refuse (¬ (selector.range.fst ≤ sessionTime ∧ sessionTime ≤ selector.range.snd) ∨ eventId.uuid.isNil)
    (invalid "browser event cursor is outside its selector")
  return ⟨selector, sessionTime, ordinal, eventId⟩

def maxEventPageRows : Nat := 1000

/-- An `EventPageLimit`. -/
structure EventPageLimit where
  rows : Nat
  rows_pos : 0 < rows
  rows_le : rows ≤ maxEventPageRows

def maxEventCandidateRows : Nat := 256

/-- An `EventCandidateLimit`. -/
structure EventCandidateLimit where
  rows : Nat
  rows_pos : 0 < rows
  rows_le : rows ≤ maxEventCandidateRows

def invalidQuery (message : String) : KrometrailError := .new .invalidInput message

/-- `codec::u64_blob` of a time. -/
def timeBlob (time : SessionTime) : List UInt8 := toBytes 8 time.nanos.toNat

def ordinalBlob (ordinal : Nat) : List UInt8 := toBytes 8 ordinal

/-- `selector_filter`. -/
def BrowserEventSelector.filter (selector : BrowserEventSelector) (raw : RawEvent) : Bool :=
  decide (raw.sessionId = selector.sessionId) && decide (raw.targetId = selector.targetId) &&
    decide (timeBlob selector.range.fst ≤ timeBlob raw.sessionTime) && decide (timeBlob raw.sessionTime ≤ timeBlob selector.range.snd) &&
    decide (severityRank selector.minimumSeverity ≤ severityRank raw.severity) &&
    (selector.classes.isEmpty || (selector.classes.map BrowserEventClass.name).contains raw.className)

/-- The condition on what comes after a cursor. -/
def BrowserEventCursor.before (cursor : BrowserEventCursor) (raw : RawEvent) : Bool :=
  decide (timeBlob cursor.sessionTime < timeBlob raw.sessionTime) ||
    (decide (timeBlob raw.sessionTime = timeBlob cursor.sessionTime) && decide (ordinalBlob cursor.ordinal < ordinalBlob raw.ordinal)) ||
    (decide (timeBlob raw.sessionTime = timeBlob cursor.sessionTime) && decide (ordinalBlob raw.ordinal = ordinalBlob cursor.ordinal) &&
      decide (cursor.eventId.blob < raw.eventId.blob))

/-- `session_time_be,event_ordinal_be,event_id`. -/
def RawEvent.place (raw : RawEvent) : SessionTime ×ₗ Nat ×ₗ BrowserEventId := toLex (raw.sessionTime, toLex (raw.ordinal, raw.eventId))

def BrowserEvent.place (event : BrowserEvent P) : SessionTime ×ₗ Nat ×ₗ BrowserEventId :=
  toLex (event.sessionTime, toLex (event.ordinal, event.id))

/-- `compact_priority,session_time_be,event_ordinal_be,event_id`. -/
def RawEvent.rank (raw : RawEvent) : Nat ×ₗ SessionTime ×ₗ Nat ×ₗ BrowserEventId := toLex (raw.compactPriority, raw.place)

section Answers

variable (payloads : Payloads P) (db : Db) (selector : BrowserEventSelector)

def selected : List RawEvent := db.events.filter selector.filter

def countEvents : Nat := (selected db selector).length

/-- The index's `chronological_events`. -/
def chronologicalRows (cursor : Option BrowserEventCursor) (limit : EventPageLimit) : Result (List (BrowserEvent P)) := do
  refuse (∃ c ∈ cursor, c.selector ≠ selector) (invalidQuery "browser event cursor does not match its selector")
  queryEvents payloads db ((sortByKey RawEvent.place ((selected db selector).filter fun raw => cursor.all (·.before raw))).take limit.rows)

def priorityCandidates (limit : EventCandidateLimit) : Result (List (BrowserEvent P)) :=
  queryEvents payloads db ((sortByKey RawEvent.rank (selected db selector)).take limit.rows)

/-- The rows up to a time, the latest first, and those from it on. -/
def nearestRows (focus : SessionTime) (eachSide : Nat) : List (List RawEvent) :=
  [(sortByKey RawEvent.place ((selected db selector).filter fun raw => decide (timeBlob raw.sessionTime ≤ timeBlob focus))).reverse.take
      eachSide,
    (sortByKey RawEvent.place ((selected db selector).filter fun raw => decide (timeBlob focus ≤ timeBlob raw.sessionTime))).take eachSide]

/-- `events.insert(event.id(), event)`, in a map listed by identifiers. -/
def insertEvent (events : List (BrowserEvent P)) (event : BrowserEvent P) : List (BrowserEvent P) :=
  events.filter (·.id ≠ event.id) ++ [event]

def nearestCandidates (focusTimes : List SessionTime) (eachSide : Nat) : Result (List (BrowserEvent P)) := do
  refuse (focusTimes = [] ∨ 16 < focusTimes.length ∨ ¬ (1 ≤ eachSide ∧ eachSide ≤ 2) ∨
      ∃ time ∈ focusTimes, ¬ (selector.range.fst ≤ time ∧ time ≤ selector.range.snd))
    (invalidQuery "browser event nearest request is out of range")
  let found ← (focusTimes.flatMap fun focus => nearestRows db selector focus eachSide).mapM (queryEvents payloads db)
  return sortByKey BrowserEvent.place (found.flatten.foldl insertEvent [])

end Answers

section Columns

variable {db : Db} {selector : BrowserEventSelector} {raw raw' : RawEvent}

theorem time_lt (time : SessionTime) : time.nanos.toNat < 256 ^ 8 := time.nanos.toNat_lt

variable {time time' : SessionTime}

theorem timeBlob_le_iff : timeBlob time ≤ timeBlob time' ↔ time ≤ time' :=
  BigEndian.toBytes_le_iff (time_lt time) (time_lt time')

theorem timeBlob_lt_iff : timeBlob time < timeBlob time' ↔ time < time' :=
  BigEndian.toBytes_lt_iff (time_lt time) (time_lt time')

theorem timeBlob_injective : timeBlob time = timeBlob time' ↔ time = time' := by
  rw [timeBlob, timeBlob, BigEndian.toBytes_inj (time_lt time) (time_lt time'), UInt64.toNat_inj]
  exact ⟨fun h => congrArg SessionTime.mk h, fun h => congrArg SessionTime.nanos h⟩

theorem blob_lt_iff {id id' : BrowserEventId} : id.blob < id'.blob ↔ id < id' :=
  BigEndian.lt_iff_ofBytes_lt (id.uuid.length_bytes.trans id'.uuid.length_bytes.symm)

/-- The ordinals fit the column. -/
def Db.Sized (db : Db) : Prop := ∀ raw ∈ db.events, raw.ordinal ≤ u64Max

theorem before_iff {cursor : BrowserEventCursor} (hcursor : cursor.ordinal ≤ u64Max) (hraw : raw.ordinal ≤ u64Max) :
    cursor.before raw = true ↔ (toLex (cursor.sessionTime, toLex (cursor.ordinal, cursor.eventId)) : SessionTime ×ₗ Nat ×ₗ BrowserEventId) < raw.place := by
  have hbound : u64Max < 256 ^ 8 := by decide
  have hordinal := BigEndian.toBytes_lt_iff (hcursor.trans_lt hbound) (hraw.trans_lt hbound)
  have hsame := BigEndian.toBytes_inj (hraw.trans_lt hbound) (hcursor.trans_lt hbound)
  unfold BrowserEventCursor.before RawEvent.place ordinalBlob
  simp only [Bool.or_eq_true, Bool.and_eq_true, decide_eq_true_eq, timeBlob_lt_iff, timeBlob_injective, blob_lt_iff, hordinal, hsame,
    Prod.Lex.toLex_lt_toLex, eq_comm (a := raw.sessionTime), eq_comm (a := raw.ordinal)]
  constructor
  · rintro ((htime | ⟨htime, hordinal⟩) | ⟨⟨htime, hordinal⟩, hid⟩)
    · exact .inl htime
    · exact .inr ⟨htime, .inl hordinal⟩
    · exact .inr ⟨htime, .inr ⟨hordinal, hid⟩⟩
  · rintro (htime | ⟨htime, hordinal | ⟨hordinal, hid⟩⟩)
    · exact .inl (.inl htime)
    · exact .inl (.inr ⟨htime, hordinal⟩)
    · exact .inr ⟨⟨htime, hordinal⟩, hid⟩

end Columns

/-! ### Rows that are read -/

section Reading

variable {payloads : Payloads P} {db : Db} {selector : BrowserEventSelector} {raw : RawEvent} {event : BrowserEvent P}

/-- A row is decoded with the columns that it is selected and ordered by. -/
structure Decoded (payloads : Payloads P) (raw : RawEvent) (event : BrowserEvent P) : Prop where
  id_eq : event.id = raw.eventId
  id_ne_nil : raw.eventId.uuid.isNil = false
  sessionId_eq : event.sessionId = raw.sessionId
  targetId_eq : event.targetId = raw.targetId
  ordinal_eq : event.ordinal = raw.ordinal
  sessionTime_eq : event.sessionTime = raw.sessionTime
  severity_eq : event.severity = raw.severity
  className_eq : payloads.className event.payload = raw.className
  compactPriority_eq : payloads.compactPriority event.payload = raw.compactPriority

theorem decoded (h : raw.decodeEvent payloads = .ok event) : Decoded payloads raw event := by
  obtain ⟨-, -, hvalid⟩ := decodeEvent_eq h
  simp only [RawEvent.decodeEvent, Results.bind_eq_ok, Results.pure_eq_ok, refuse_eq_ok, not_or, not_not] at h
  obtain ⟨scope, hscope, source, -, payload, -, -, -, accounted, -, -, hprojection, -, -, rfl⟩ := h
  obtain ⟨rfl, -⟩ := decodeScope_eq hscope
  obtain ⟨-, hclass, hpriority, -⟩ := hprojection
  simp only [BrowserEvent.valid, Bool.and_eq_true, Bool.not_eq_true'] at hvalid
  exact ⟨rfl, hvalid.1.1.1.1.1, rfl, rfl, rfl, rfl, rfl, hclass.symm, hpriority.symm⟩

theorem Decoded.place_eq (h : Decoded payloads raw event) : event.place = raw.place := by
  rw [BrowserEvent.place, RawEvent.place, h.sessionTime_eq, h.ordinal_eq, h.id_eq]

def readRow (payloads : Payloads P) (db : Db) (raw : RawEvent) : Result (BrowserEvent P) := do
  let event ← raw.decodeEvent payloads
  validateTimelineReference payloads event db
  return event

theorem queryEvents_eq (rows : List RawEvent) : queryEvents payloads db rows = rows.mapM (readRow payloads db) := rfl

theorem decoded_of_read (h : readRow payloads db raw = .ok event) : Decoded payloads raw event := by
  obtain ⟨event', hevent, hrest⟩ := Results.bind_eq_ok.1 h
  obtain ⟨-, -, hsame⟩ := Results.bind_eq_ok.1 hrest
  cases hsame
  exact decoded hevent

def BrowserEventSelector.Matches (payloads : Payloads P) (selector : BrowserEventSelector) (event : BrowserEvent P) : Prop :=
  (event.sessionId = selector.sessionId ∧ event.targetId = selector.targetId) ∧
    (selector.range.fst ≤ event.sessionTime ∧ event.sessionTime ≤ selector.range.snd) ∧
    severityRank selector.minimumSeverity ≤ severityRank event.severity ∧
    (selector.classes = [] ∨ ∃ c ∈ selector.classes, payloads.className event.payload = c.name)

theorem filter_iff (h : Decoded payloads raw event) : selector.filter raw = true ↔ selector.Matches payloads event := by
  simp only [BrowserEventSelector.filter, BrowserEventSelector.Matches, Bool.and_eq_true, Bool.or_eq_true, decide_eq_true_eq,
    timeBlob_le_iff, List.isEmpty_iff, List.contains_iff_mem, List.mem_map, h.sessionId_eq, h.targetId_eq, h.sessionTime_eq, h.severity_eq,
    h.className_eq, eq_comm (b := raw.className), and_assoc]

theorem mem_selected : raw ∈ selected db selector ↔ raw ∈ db.events ∧ selector.filter raw = true := List.mem_filter

theorem unique_place (hvalid : db.Valid) : UniqueKeys RawEvent.place (selected db selector) := by
  have hids : ((selected db selector).map RawEvent.eventId).Nodup := hvalid.events.filter _
  have hcompose : (selected db selector).map RawEvent.eventId =
      ((selected db selector).map RawEvent.place).map fun place => (ofLex (ofLex place).2).2 := by
    rw [List.map_map]
    rfl
  rw [hcompose] at hids
  exact List.Nodup.of_map _ hids

end Reading

end Krometrail.EventIndex

/-!
## Pages of browser events

A client reads the events of a range page by page, each from the cursor of the page before.  Gaps in the collection are left out of
a page but not of the cursor, so that every page goes on where the last one ended, and the pages together hold every other
event once, in order.
-/

namespace Krometrail.EventIndex

open Keyed (UniqueKeys)
open Paging (filter_lt_of_split pairwise_lt_sortByKey sortByKey_filter)
open Sorting (sortByKey mem_sortByKey perm_sortByKey)

variable {P : Type}

/-! ### The service -/

def mapSourceError (message : String) (error : KrometrailError) : KrometrailError :=
  let recovery := match error.code with
    | .notFound => some "resolve the temporal range again before requesting context"
    | .persistenceFailed => some "inspect recording storage before retrying the context query"
    | _ => none
  let base := KrometrailError.new error.code message
  match recovery with
  | none => base
  | some recovery => (base.withRetry .afterRecovery).withRecovery recovery

inductive BrowserEventSelectionReason
  | compactCorrelation (compactPriority : Nat) (nearestFocusDistanceNanos : Option Nat)
  | chronological

structure SelectedBrowserEvent (P : Type) where
  event : BrowserEvent P
  reason : BrowserEventSelectionReason

/-- The payload is a `CollectionGap`. -/
def isCollectionGap (payloads : Payloads P) (event : BrowserEvent P) : Bool := (payloads.gapRange event.payload).isSome

def EventPageLimit.one : EventPageLimit := ⟨1, Nat.one_pos, by decide⟩

section Service

variable (payloads : Payloads P) (db : Db) (selector : BrowserEventSelector)

/-- The cursor after a page, if it has a row. -/
def pageCursor (page : List (BrowserEvent P)) : Result (Option BrowserEventCursor) :=
  match page.getLast? with
  | none => .ok none
  | some event => do return some (← BrowserEventCursor.new selector event.sessionTime event.ordinal event.id)

/-- The cursor, where a row comes after it. -/
def continuation : Option BrowserEventCursor → Result (Option BrowserEventCursor)
  | none => .ok none
  | some cursor => do
    let probe ← (chronologicalRows payloads db selector (some cursor) .one).mapError
      (mapSourceError "browser event page continuation could not be read")
    return if probe.isEmpty then none else some cursor

/-- The service's `chronological_events`. -/
def chronologicalEvents (cursor : Option BrowserEventCursor) (limit : EventPageLimit) :
    Result (List (SelectedBrowserEvent P) × Option BrowserEventCursor) := do
  let page ← (chronologicalRows payloads db selector cursor limit).mapError
    (mapSourceError "chronological browser events could not be read")
  let cursor ← pageCursor selector page
  let nextCursor ← continuation payloads db selector cursor
  return ((page.filter fun event => !isCollectionGap payloads event).map fun event => { event, reason := .chronological }, nextCursor)

/-- The pages from a cursor on until there is no next one, with a limit for each page; `none` where more than `fuel` pages are
read. -/
def followPages (limits : Nat → EventPageLimit) : Nat → Nat → Option BrowserEventCursor → Option (Result (List (List (SelectedBrowserEvent P))))
  | 0, _, _ => none
  | fuel + 1, number, cursor =>
    match chronologicalEvents payloads db selector cursor (limits number) with
    | .error error => some (.error error)
    | .ok (page, none) => some (.ok [page])
    | .ok (page, some next) => (followPages limits fuel (number + 1) (some next)).map fun rest => rest.map (page :: ·)

end Service

/-! ### Places between pages -/

section Places

variable {payloads : Payloads P} {db : Db} {selector : BrowserEventSelector} {cursor : Option BrowserEventCursor} {rest : List RawEvent}

/-- The selected rows in the order of time. -/
def ordered (db : Db) (selector : BrowserEventSelector) : List RawEvent := sortByKey RawEvent.place (selected db selector)

variable {raw : RawEvent}

theorem mem_ordered : raw ∈ ordered db selector ↔ raw ∈ selected db selector := mem_sortByKey

/-- The cursor is of the last row before `rest`. -/
inductive Before (db : Db) (selector : BrowserEventSelector) : Option BrowserEventCursor → List RawEvent → Prop
  | start : Before db selector none (ordered db selector)
  | after (front : List RawEvent) (raw : RawEvent) (rest : List RawEvent) (split : ordered db selector = front ++ raw :: rest) :
    Before db selector (some ⟨selector, raw.sessionTime, raw.ordinal, raw.eventId⟩) rest

theorem Before.sublist (h : Before db selector cursor rest) : rest.Sublist (ordered db selector) := by
  cases h with
  | start => exact List.Sublist.refl _
  | after front raw rest split => exact split ▸ (List.sublist_cons_self raw rest).trans (List.sublist_append_right front _)

theorem Before.rows (hvalid : db.Valid) (hsized : db.Sized) (h : Before db selector cursor rest) :
    sortByKey RawEvent.place ((selected db selector).filter fun raw => cursor.all (·.before raw)) = rest := by
  have hstrict : (ordered db selector).Pairwise fun a b => a.place < b.place := pairwise_lt_sortByKey (unique_place hvalid)
  cases h with
  | start =>
    have hall : (selected db selector).filter (fun raw => (none : Option BrowserEventCursor).all (·.before raw)) = selected db selector :=
      List.filter_eq_self.2 fun _ _ => rfl
    rw [hall]
    rfl
  | after front raw rest split =>
    have hmem {other : RawEvent} (hother : other ∈ ordered db selector) : other.ordinal ≤ u64Max :=
      hsized other (mem_selected.1 (mem_ordered.1 hother)).1
    have hraw : raw ∈ ordered db selector := by simp [split]
    rw [sortByKey_filter (unique_place hvalid)]
    have hfilter : (ordered db selector).filter (fun other => (some (⟨selector, raw.sessionTime, raw.ordinal, raw.eventId⟩ :
        BrowserEventCursor)).all (·.before other)) = (ordered db selector).filter fun other => decide (raw.place < other.place) := by
      refine List.filter_congr fun other hother => ?_
      rw [Option.all_some, Bool.eq_iff_iff, decide_eq_true_iff]
      exact before_iff (hmem hraw) (hmem hother)
    refine hfilter.trans ?_
    rw [split] at hstrict ⊢
    exact filter_lt_of_split hstrict

theorem Before.selector_eq (h : Before db selector cursor rest) : ¬ ∃ c ∈ cursor, c.selector ≠ selector := by
  rintro ⟨c, hc, hne⟩
  cases h with
  | start => exact absurd hc (by simp)
  | after front raw rest split =>
    cases hc
    exact hne rfl

theorem chronologicalRows_eq (hvalid : db.Valid) (hsized : db.Sized) (h : Before db selector cursor rest) (limit : EventPageLimit) :
    chronologicalRows payloads db selector cursor limit = queryEvents payloads db (rest.take limit.rows) := by
  rw [chronologicalRows, h.rows hvalid hsized, (refuse_eq_ok (u := ())).2 h.selector_eq, Results.ok_bind]

theorem Before.mem (h : Before db selector cursor rest) (hraw : raw ∈ rest) : raw ∈ selected db selector :=
  mem_ordered.1 (h.sublist.subset hraw)

theorem BrowserEventCursor.new_eq {event : BrowserEvent P} (hraw : raw ∈ selected db selector) (h : Decoded payloads raw event) :
    BrowserEventCursor.new selector event.sessionTime event.ordinal event.id = .ok ⟨selector, raw.sessionTime, raw.ordinal, raw.eventId⟩ := by
  have hmatches := (filter_iff h).1 (mem_selected.1 hraw).2
  have hpassed : ¬ (¬ (selector.range.fst ≤ event.sessionTime ∧ event.sessionTime ≤ selector.range.snd) ∨ event.id.uuid.isNil = true) := by
    rw [h.id_eq, h.id_ne_nil]
    rintro (hrange | hnil)
    · exact hrange hmatches.2.1
    · exact absurd hnil (by decide)
  rw [BrowserEventCursor.new, (refuse_eq_ok (u := ())).2 hpassed, Results.ok_bind, h.sessionTime_eq, h.ordinal_eq, h.id_eq]
  rfl

theorem pageCursor_eq {page : List (BrowserEvent P)} {limit : EventPageLimit} (h : Before db selector cursor rest)
    (hpage : queryEvents payloads db (rest.take limit.rows) = .ok page) (hne : rest ≠ []) :
    ∃ next, pageCursor selector page = .ok (some next) ∧ Before db selector (some next) (rest.drop limit.rows) := by
  obtain ⟨front, hfront⟩ : ∃ front, ordered db selector = front ++ rest := by
    cases h with
    | start => exact ⟨[], rfl⟩
    | after front raw rest split => exact ⟨front ++ [raw], by rw [split, List.append_assoc, List.singleton_append]⟩
  have htake : rest.take limit.rows ≠ [] := by
    rw [ne_eq, List.take_eq_nil_iff, not_or]
    exact ⟨limit.rows_pos.ne', hne⟩
  obtain ⟨init, raw, hinit⟩ := List.eq_nil_or_concat _ |>.resolve_left htake
  rw [List.concat_eq_append] at hinit
  rw [hinit, queryEvents_eq] at hpage
  simp only [List.mapM_append, List.mapM_cons, List.mapM_nil, Results.bind_eq_ok, Results.pure_eq_ok] at hpage
  obtain ⟨events, -, -, ⟨event, hread, -, rfl, rfl⟩, rfl⟩ := hpage
  have hraw : raw ∈ selected db selector := h.mem (List.mem_of_mem_take (hinit ▸ List.mem_append_right init (List.mem_singleton_self raw)))
  refine ⟨⟨selector, raw.sessionTime, raw.ordinal, raw.eventId⟩, ?_, .after (front ++ init) raw _ ?_⟩
  · rw [pageCursor, List.getLast?_concat]
    dsimp only
    rw [BrowserEventCursor.new_eq hraw (decoded_of_read hread)]
    rfl
  · have hrest := List.take_append_drop limit.rows rest
    rw [hinit, List.append_assoc, List.singleton_append] at hrest
    rw [hfront, List.append_assoc, hrest]

end Places

section Following

variable {payloads : Payloads P} {db : Db} {selector : BrowserEventSelector} {cursor : Option BrowserEventCursor} {rest : List RawEvent}
  {events : List (BrowserEvent P)}

theorem queryEvents_split (n : Nat) : queryEvents payloads db rest = .ok events ↔
    ∃ page others, queryEvents payloads db (rest.take n) = .ok page ∧ queryEvents payloads db (rest.drop n) = .ok others ∧
      page ++ others = events := by
  conv_lhs => rw [← List.take_append_drop n rest, queryEvents_eq, List.mapM_append]
  simp only [queryEvents_eq, Results.bind_eq_ok, Results.pure_eq_ok]
  constructor
  · rintro ⟨page, hpage, others, hothers, h⟩
    exact ⟨page, others, hpage, hothers, h⟩
  · rintro ⟨page, others, hpage, hothers, h⟩
    exact ⟨page, hpage, others, hothers, h⟩

/-- The events of a page that are not gaps. -/
def returned (payloads : Payloads P) (page : List (BrowserEvent P)) : List (SelectedBrowserEvent P) :=
  (page.filter fun event => !isCollectionGap payloads event).map fun event => { event, reason := .chronological }

theorem returned_append (page others : List (BrowserEvent P)) :
    returned payloads (page ++ others) = returned payloads page ++ returned payloads others := by
  rw [returned, List.filter_append, List.map_append]
  rfl

theorem chronologicalEvents_eq_ok (hvalid : db.Valid) (hsized : db.Sized) (h : Before db selector cursor rest) {limit : EventPageLimit}
    {found : List (SelectedBrowserEvent P) × Option BrowserEventCursor} (hfound : chronologicalEvents payloads db selector cursor limit = .ok found) :
    ∃ page, queryEvents payloads db (rest.take limit.rows) = .ok page ∧ found.1 = returned payloads page ∧
      (rest.drop limit.rows = [] ∧ found.2 = none ∨
        ∃ next, found.2 = some next ∧ rest.drop limit.rows ≠ [] ∧ Before db selector (some next) (rest.drop limit.rows)) := by
  simp only [chronologicalEvents, chronologicalRows_eq hvalid hsized h, Results.bind_eq_ok, Results.mapError_eq_ok,
    Results.pure_eq_ok] at hfound
  obtain ⟨page, hpage, last, hlast, next, hnext, rfl⟩ := hfound
  refine ⟨page, hpage, rfl, ?_⟩
  by_cases hne : rest = []
  · subst hne
    rw [List.take_nil, queryEvents_eq, List.mapM_nil, Results.pure_eq_ok] at hpage
    subst hpage
    cases hlast
    cases hnext
    exact .inl ⟨List.drop_nil, rfl⟩
  · obtain ⟨place, hplace, hbefore⟩ := pageCursor_eq h hpage hne
    obtain rfl := Except.ok.inj (hplace.symm.trans hlast)
    simp only [continuation, chronologicalRows_eq hvalid hsized hbefore, Results.bind_eq_ok, Results.mapError_eq_ok,
      Results.pure_eq_ok] at hnext
    obtain ⟨probe, hprobe, rfl⟩ := hnext
    have hlength := (Results.mapM_eq_ok hprobe).length_eq
    by_cases hdrop : rest.drop limit.rows = []
    · rw [hdrop, List.take_nil, List.length_nil] at hlength
      exact .inl ⟨hdrop, by rw [List.length_eq_zero_iff.1 hlength.symm]; rfl⟩
    · refine .inr ⟨place, if_neg ?_, hdrop, hbefore⟩
      rw [List.isEmpty_iff]
      rintro rfl
      have hone : EventPageLimit.one.rows = 1 := rfl
      rw [List.length_nil, List.length_take, hone] at hlength
      have hleft := List.length_pos_iff.2 hdrop
      omega

theorem chronologicalEvents_total (hvalid : db.Valid) (hsized : db.Sized) (h : Before db selector cursor rest) {limit : EventPageLimit}
    {page probe : List (BrowserEvent P)} (hpage : queryEvents payloads db (rest.take limit.rows) = .ok page)
    (hprobe : queryEvents payloads db ((rest.drop limit.rows).take EventPageLimit.one.rows) = .ok probe) :
    ∃ found, chronologicalEvents payloads db selector cursor limit = .ok found := by
  simp only [chronologicalEvents, chronologicalRows_eq hvalid hsized h, hpage, Except.mapError, Results.ok_bind]
  by_cases hne : rest = []
  · subst hne
    rw [List.take_nil, queryEvents_eq, List.mapM_nil, Results.pure_eq_ok] at hpage
    subst hpage
    exact ⟨_, rfl⟩
  · obtain ⟨place, hplace, hbefore⟩ := pageCursor_eq h hpage hne
    simp only [hplace, continuation, chronologicalRows_eq hvalid hsized hbefore, hprobe, Except.mapError, Results.ok_bind]
    exact ⟨_, rfl⟩

/-- What the pages from a cursor on hold. -/
structure Held (payloads : Payloads P) (db : Db) (rest : List RawEvent) (result : Result (List (List (SelectedBrowserEvent P)))) : Prop where
  total : ∀ events, queryEvents payloads db rest = .ok events → ∃ pages, result = .ok pages
  events : ∀ pages, result = .ok pages → ∃ events, queryEvents payloads db rest = .ok events ∧ pages.flatten = returned payloads events

theorem followPages_held (payloads : Payloads P) (hvalid : db.Valid) (hsized : db.Sized) (limits : Nat → EventPageLimit) {fuel : Nat}
    (number : Nat) (h : Before db selector cursor rest) (hfuel : rest.length < fuel) :
    ∃ result, followPages payloads db selector limits fuel number cursor = some result ∧ Held payloads db rest result := by
  induction fuel generalizing number cursor rest with
  | zero => exact absurd hfuel (Nat.not_lt_zero _)
  | succ fuel ih =>
    unfold followPages
    split
    · rename_i error herror
      refine ⟨_, rfl, fun events hevents => ?_, nofun⟩
      obtain ⟨page, others, hpage, hothers, -⟩ := (queryEvents_split (limits number).rows).1 hevents
      obtain ⟨probe, -, hprobe, -, -⟩ := (queryEvents_split EventPageLimit.one.rows).1 hothers
      obtain ⟨found, hfound⟩ := chronologicalEvents_total hvalid hsized h hpage hprobe
      cases herror.symm.trans hfound
    · rename_i found hfound
      obtain ⟨page, hpage, rfl, ⟨hdrop, -⟩ | ⟨next, hnext, -⟩⟩ := chronologicalEvents_eq_ok hvalid hsized h hfound
      · have hall : rest.take (limits number).rows = rest := List.take_of_length_le (List.drop_eq_nil_iff.1 hdrop)
        rw [hall] at hpage
        refine ⟨_, rfl, fun _ _ => ⟨_, rfl⟩, fun pages hpages => ⟨page, hpage, ?_⟩⟩
        rw [← Except.ok.inj hpages, List.flatten_singleton]
      · cases hnext
    · rename_i found next hfound
      obtain ⟨page, hpage, rfl, ⟨-, hnone⟩ | ⟨place, hplace, hdrop, hbefore⟩⟩ := chronologicalEvents_eq_ok hvalid hsized h hfound
      · cases hnone
      · cases hplace
        have hpos := (limits number).rows_pos
        have hshorter : (rest.drop (limits number).rows).length < fuel := by
          have hleft := List.length_pos_iff.2 hdrop
          rw [List.length_drop] at hleft ⊢
          omega
        obtain ⟨result, hresult, hheld⟩ := ih (number + 1) hbefore hshorter
        refine ⟨_, by rw [hresult]; rfl, fun events hevents => ?_, fun pages hpages => ?_⟩
        · obtain ⟨-, others, -, hothers, -⟩ := (queryEvents_split (limits number).rows).1 hevents
          obtain ⟨pages, rfl⟩ := hheld.total others hothers
          exact ⟨_, rfl⟩
        · cases result with
          | error error => cases hpages
          | ok others =>
            cases hpages
            obtain ⟨events, hevents, hflat⟩ := hheld.events others rfl
            refine ⟨page ++ events, (queryEvents_split _).2 ⟨page, events, hpage, hevents, rfl⟩, ?_⟩
            rw [List.flatten_cons, hflat, returned_append]

theorem pairwise_place (hvalid : db.Valid) (hevents : queryEvents payloads db (ordered db selector) = .ok events) :
    events.Pairwise fun a b => a.place < b.place := by
  have hplaces : events.map BrowserEvent.place = (ordered db selector).map RawEvent.place :=
    Results.map_mapM hevents fun _ _ h => (decoded_of_read h).place_eq
  rw [← List.pairwise_map (f := BrowserEvent.place) (R := (· < ·)), hplaces, List.pairwise_map]
  exact pairwise_lt_sortByKey (unique_place hvalid)

theorem mem_read (hevents : queryEvents payloads db (ordered db selector) = .ok events) {event : BrowserEvent P} :
    event ∈ events ↔ selector.Matches payloads event ∧ ∃ raw ∈ db.events, readRow payloads db raw = .ok event := by
  rw [Results.mem_mapM hevents]
  constructor
  · rintro ⟨raw, hraw, hread⟩
    obtain ⟨hmem, hfilter⟩ := mem_selected.1 (mem_ordered.1 hraw)
    exact ⟨(filter_iff (decoded_of_read hread)).1 hfilter, raw, hmem, hread⟩
  · rintro ⟨hmatches, raw, hmem, hread⟩
    exact ⟨raw, mem_ordered.2 (mem_selected.2 ⟨hmem, (filter_iff (decoded_of_read hread)).2 hmatches⟩), hread⟩

/-- Reading on from page to page ends, whatever the limits are; it succeeds when every row that is selected can be read, and then
returns every event that matches and is not a gap, once and in the order of time. -/
theorem chronological_pages_complete (payloads : Payloads P) (selector : BrowserEventSelector) (limits : Nat → EventPageLimit) {db : Db}
    (hvalid : db.Valid) (hsized : db.Sized) {fuel : Nat} (hfuel : (selected db selector).length < fuel) :
    ∃ result, followPages payloads db selector limits fuel 0 none = some result ∧
      ((∃ pages, result = .ok pages) ↔ ∀ raw ∈ selected db selector, ∃ event, readRow payloads db raw = .ok event) ∧
      ∀ pages, result = .ok pages →
        (pages.flatten.map (·.event)).Pairwise (fun a b => a.place < b.place) ∧
        ∀ event, event ∈ pages.flatten.map (·.event) ↔ selector.Matches payloads event ∧ isCollectionGap payloads event = false ∧
          ∃ raw ∈ db.events, readRow payloads db raw = .ok event := by
  have hlength : (ordered db selector).length < fuel := (perm_sortByKey _ _).length_eq.trans_lt hfuel
  obtain ⟨result, hresult, hheld⟩ := followPages_held payloads hvalid hsized limits 0 .start hlength
  refine ⟨result, hresult, ?_, fun pages hpages => ?_⟩
  · have htotal : (∃ events, queryEvents payloads db (ordered db selector) = .ok events) ↔
        ∀ raw ∈ selected db selector, ∃ event, readRow payloads db raw = .ok event := by
      simp only [← @mem_ordered db selector, queryEvents_eq, Results.mapM_total]
    rw [← htotal]
    exact ⟨fun ⟨pages, hpages⟩ => (hheld.events pages hpages).imp fun _ h => h.1, fun ⟨events, hevents⟩ => hheld.total events hevents⟩
  · obtain ⟨events, hevents, hflat⟩ := hheld.events pages hpages
    have hmap : pages.flatten.map (·.event) = events.filter fun event => !isCollectionGap payloads event := by
      rw [hflat, returned, List.map_map]
      exact List.map_id _
    rw [hmap]
    refine ⟨(pairwise_place hvalid hevents).filter _, fun event => ?_⟩
    rw [List.mem_filter, mem_read hevents, Bool.not_eq_true']
    exact ⟨fun ⟨⟨hmatches, hstored⟩, hgap⟩ => ⟨hmatches, hgap, hstored⟩, fun ⟨hmatches, hgap, hstored⟩ => ⟨⟨hmatches, hstored⟩, hgap⟩⟩

end Following

def sampleSelector : BrowserEventSelector := ⟨⟨someUuid 2⟩, ⟨someUuid 3⟩, NonemptyInterval.pure ⟨0⟩, [], .debug⟩

theorem readRow_sample : readRow plain (holding sampleRow) sampleRow = .ok sample := rfl

/-- One row is one page. -/
theorem chronological_pages_complete_one :
    ∃ pages, followPages plain (holding sampleRow) sampleSelector (fun _ => .one) 2 0 none = some (.ok pages) ∧
      sample ∈ pages.flatten.map (·.event) := by
  have hsized : (holding sampleRow).Sized := fun raw hraw => by
    obtain rfl := List.mem_singleton.1 hraw
    decide
  have hfuel : (selected (holding sampleRow) sampleSelector).length < 2 := Nat.lt_succ_of_le (List.length_filter_le _ _)
  obtain ⟨result, hresult, htotal, hpages⟩ :=
    chronological_pages_complete plain sampleSelector (fun _ => .one) (holding_valid sampleRow) hsized hfuel
  obtain ⟨pages, rfl⟩ := htotal.2 fun raw hraw => by
    obtain rfl := List.mem_singleton.1 (mem_selected.1 hraw).1
    exact ⟨sample, readRow_sample⟩
  have hmatches : sampleSelector.Matches plain sample := ⟨⟨rfl, rfl⟩, ⟨le_rfl, le_rfl⟩, le_rfl, .inl rfl⟩
  exact ⟨pages, hresult, ((hpages pages rfl).2 sample).2 ⟨hmatches, rfl, sampleRow, List.mem_singleton_self _, readRow_sample⟩⟩

end Krometrail.EventIndex
