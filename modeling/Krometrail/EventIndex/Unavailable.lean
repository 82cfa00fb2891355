import Krometrail.EventIndex.Reconciled

/-!
# Recording unavailable ranges

`record_unavailable_tx` merges a record into the stored range of its scope that ends last when the record goes on from
it, by ordinal or by time, and inserts a row otherwise.  What it does to the rows is one of two changes (`Recorded`), and
neither makes a row that `decode_unavailable` refuses.
-/

namespace Krometrail.EventIndex

open Results

variable {P : Type} {rows rows' : List UnavailableRow} {row : UnavailableRow}

/-- A `BrowserEventUnavailableRange`; ordinals and counts are not zero. -/
structure BrowserEventUnavailableRange where
  sessionId : SessionId
  targetId : TargetId
  range : SessionRange
  firstOrdinal : Option ℕ+
  lastOrdinal : Option ℕ+
  eventCount : ℕ+
  reason : UnavailableReason

/-- Both ordinals are known or neither is, and the first is not above the last. -/
def OrdinalsOrdered (first last : Option ℕ+) : Prop :=
  first.isSome = last.isSome ∧ ∀ a ∈ first, ∀ b ∈ last, a ≤ b

instance (first last : Option ℕ+) : Decidable (OrdinalsOrdered first last) := inferInstanceAs (Decidable (_ ∧ _))

def BrowserEventUnavailableRange.new (sessionId : SessionId) (targetId : TargetId) (range : SessionRange)
    (firstOrdinal lastOrdinal : Option ℕ+) (eventCount : ℕ+) (reason : UnavailableReason) :
    Result BrowserEventUnavailableRange := do
  refuse (sessionId.uuid.isNil ∨ targetId.uuid.isNil) (invalid "browser event unavailable scope IDs must not be nil")
  refuse (¬OrdinalsOrdered firstOrdinal lastOrdinal) (invalid "browser event unavailable ordinal range is invalid")
  return ⟨sessionId, targetId, range, firstOrdinal, lastOrdinal, eventCount, reason⟩

/-- `NonZeroU64::new(value).ok_or(error)`. -/
def nonZero (value : Nat) (error : KrometrailError) : Result ℕ+ :=
  if h : 0 < value then .ok ⟨value, h⟩ else .error error

/-- `BrowserEventOrdinal::new` of a stored number. -/
def decodeOrdinal : Option Nat → Result (Option ℕ+)
  | none => .ok none
  | some value => (nonZero value (persistenceError "stored browser event unavailable ordinal is malformed")).map some

def decodeUnavailable (row : UnavailableRow) : Result BrowserEventUnavailableRange := do
  let range ← (SessionRange.new row.start row.stop).mapError fun _ =>
    persistenceError "stored browser event unavailable range is malformed"
  let firstOrdinal ← decodeOrdinal row.firstOrdinal
  let lastOrdinal ← decodeOrdinal row.lastOrdinal
  let eventCount ← nonZero row.eventCount (persistenceError "stored browser event unavailable count is malformed")
  (BrowserEventUnavailableRange.new row.sessionId row.targetId range firstOrdinal lastOrdinal eventCount
    row.reason).mapError fun _ => persistenceError "stored browser event unavailable range is invalid"

/-- The arguments of `record_unavailable_tx`. -/
structure UnavailableRecord where
  sessionId : SessionId
  targetId : TargetId
  range : SessionRange
  firstOrdinal : Option ℕ+
  lastOrdinal : Option ℕ+
  count : Nat
  reason : UnavailableReason
  deriving DecidableEq

namespace UnavailableRecord

variable (record : UnavailableRecord)

def toRow : UnavailableRow :=
  ⟨record.sessionId, record.targetId, record.range.fst, record.range.snd, record.firstOrdinal.map PNat.val,
    record.lastOrdinal.map PNat.val, record.count, record.reason⟩

/-- The stored range with the record merged into it. -/
def mergedInto (tail : UnavailableRow) (count : Nat) : UnavailableRow :=
  { tail with
    start := min tail.start record.range.fst
    stop := max tail.stop record.range.snd
    firstOrdinal := Option.map₂ min tail.firstOrdinal (record.firstOrdinal.map PNat.val)
    lastOrdinal := Option.map₂ max tail.lastOrdinal (record.lastOrdinal.map PNat.val)
    eventCount := count }

end UnavailableRecord

def UnavailableRow.Checked (row : UnavailableRow) : Prop :=
  row.start ≤ row.stop ∧ row.firstOrdinal.isSome = row.lastOrdinal.isSome

instance (row : UnavailableRow) : Decidable row.Checked := inferInstanceAs (Decidable (_ ∧ _))

/-- `record_unavailable_tx`, over the rows of `browser_event_unavailable_ranges`. -/
def recordUnavailableTx (rows : List UnavailableRow) (record : UnavailableRecord) : Result (List UnavailableRow) :=
  let insert : Result (List UnavailableRow) := do
    let count ← nonZero record.count (persistenceError "browser event unavailable count must be non-zero")
    let _ ← (BrowserEventUnavailableRange.new record.sessionId record.targetId record.range record.firstOrdinal
      record.lastOrdinal count record.reason).mapError fun _ =>
        persistenceError "browser event unavailable range is invalid"
    return rows ++ [record.toRow]
  match unavailableTail rows record.sessionId record.targetId record.reason with
  | none => insert
  | some i =>
    match rows[i]? with
    | none => insert
    | some tail =>
      if tail.takesIn record.range.fst (record.firstOrdinal.map PNat.val) then do
        let count ← okOr (checkedAdd tail.eventCount record.count)
          (persistenceError "browser event unavailable count overflow")
        refuse (¬(record.mergedInto tail count).Checked) (persistenceError "could not merge browser event unavailable range")
        return rows.set i (record.mergedInto tail count)
      else insert

/-- What `decode_unavailable` asks of a row. -/
structure UnavailableRow.Accepted (row : UnavailableRow) : Prop where
  session : row.sessionId.uuid.isNil = false
  target : row.targetId.uuid.isNil = false
  ordered : row.start ≤ row.stop
  ordinals : ∃ first last, row.firstOrdinal = Option.map PNat.val first ∧ row.lastOrdinal = Option.map PNat.val last ∧
    OrdinalsOrdered first last
  counted : 0 < row.eventCount

theorem nonZero_val (value : ℕ+) (error : KrometrailError) : nonZero value error = .ok value := dif_pos value.pos

theorem nonZero_eq_ok {value : Nat} {error : KrometrailError} {count : ℕ+} (h : nonZero value error = .ok count) :
    count = value := by
  unfold nonZero at h
  split at h
  · cases h; rfl
  · cases h

theorem decodeOrdinal_map (ordinal : Option ℕ+) : decodeOrdinal (ordinal.map PNat.val) = .ok ordinal := by
  cases ordinal with
  | none => rfl
  | some ordinal =>
    rw [Option.map_some, decodeOrdinal, nonZero_val]
    rfl

theorem rangeNew_eq_ok {sessionId : SessionId} {targetId : TargetId} {range : SessionRange} {first last : Option ℕ+}
    {count : ℕ+} {reason : UnavailableReason} {value : BrowserEventUnavailableRange} :
    BrowserEventUnavailableRange.new sessionId targetId range first last count reason = .ok value ↔
      (sessionId.uuid.isNil = false ∧ targetId.uuid.isNil = false) ∧ OrdinalsOrdered first last ∧
        value = ⟨sessionId, targetId, range, first, last, count, reason⟩ := by
  simp only [BrowserEventUnavailableRange.new, bind_eq_ok, pure_eq_ok, refuse_eq_ok, not_or,
    Bool.not_eq_true, not_not]
  constructor
  · rintro ⟨-, hscope, -, hordered, rfl⟩
    exact ⟨hscope, hordered, rfl⟩
  · rintro ⟨hscope, hordered, rfl⟩
    exact ⟨(), hscope, (), hordered, rfl⟩

theorem UnavailableRow.Accepted.decodes (h : row.Accepted) : ∃ value, decodeUnavailable row = .ok value := by
  obtain ⟨first, last, hfirst, hlast, hordinals⟩ := h.ordinals
  obtain ⟨count, hcount⟩ : ∃ count : ℕ+, row.eventCount = count := ⟨⟨row.eventCount, h.counted⟩, rfl⟩
  have hrange : SessionRange.new row.start row.stop = .ok ⟨⟨row.start, row.stop⟩, h.ordered⟩ := dif_pos h.ordered
  refine ⟨⟨row.sessionId, row.targetId, ⟨⟨row.start, row.stop⟩, h.ordered⟩, first, last, count, row.reason⟩, ?_⟩
  rw [decodeUnavailable, hrange, hfirst, hlast, hcount, decodeOrdinal_map, decodeOrdinal_map, nonZero_val]
  simp only [Except.mapError, ok_bind]
  rw [rangeNew_eq_ok.2 ⟨⟨h.session, h.target⟩, hordinals, rfl⟩]

/-- The session, the target and the reason of a row. -/
abbrev UnavailableScope : Type := SessionId × TargetId × UnavailableReason

def UnavailableRow.scope (row : UnavailableRow) : UnavailableScope := (row.sessionId, row.targetId, row.reason)

def UnavailableRecord.scope (record : UnavailableRecord) : UnavailableScope :=
  (record.sessionId, record.targetId, record.reason)

/-- The row reaches over the range. -/
def UnavailableRow.Spans (row : UnavailableRow) (range : SessionRange) : Prop := row.start ≤ range.fst ∧ range.snd ≤ row.stop

/-- One row of the scope of the record comes last, or takes the record in. -/
inductive Recorded (rows : List UnavailableRow) (record : UnavailableRecord) : List UnavailableRow → Prop
  | inserted {row : UnavailableRow} : row.scope = record.scope → row.Accepted → row.eventCount = record.count →
      row.Spans record.range → Recorded rows record (rows ++ [row])
  | merged {front back : List UnavailableRow} {tail row : UnavailableRow} : rows = front ++ tail :: back →
      tail.scope = record.scope → row.scope = record.scope → row.Accepted →
      row.eventCount = tail.eventCount + record.count → (∀ range, tail.Spans range → row.Spans range) →
      row.Spans record.range → Recorded rows record (front ++ row :: back)

theorem scope_of_unavailableTail {sessionId : SessionId} {targetId : TargetId} {reason : UnavailableReason} {i : Nat}
    (h : unavailableTail rows sessionId targetId reason = some i) :
    ∃ tail, rows[i]? = some tail ∧ tail.scope = (sessionId, targetId, reason) := by
  obtain ⟨⟨tail, j⟩, hfold, rfl⟩ := Option.map_eq_some_iff.1 h
  -- the fold keeps one of the rows that it has met
  have hmem {f : Option (UnavailableRow × Nat) → UnavailableRow × Nat → Option (UnavailableRow × Nat)}
      (hf : ∀ held row, f held row = some row ∨ f held row = held) :
      ∀ (l : List (UnavailableRow × Nat)) (start : Option (UnavailableRow × Nat)), l.foldl f start = some (tail, j) →
        (tail, j) ∈ l ∨ start = some (tail, j) := by
    intro l
    induction l with
    | nil => exact fun start hstart => .inr hstart
    | cons row l ih =>
      intro start hstart
      rcases ih _ hstart with hin | hnext
      · exact .inl (List.mem_cons_of_mem _ hin)
      · rcases hf start row with heq | heq
        · cases heq.symm.trans hnext
          exact .inl List.mem_cons_self
        · exact .inr (heq.symm.trans hnext)
  obtain ⟨hin, hscope⟩ := List.mem_filter.1 ((hmem (fun held row => by
    cases held with
    | none => exact .inl rfl
    | some held =>
      dsimp only
      split <;> simp) _ _ hfold).resolve_right (by simp))
  obtain ⟨hsession, htarget, hreason⟩ := of_decide_eq_true hscope
  refine ⟨tail, List.mem_zipIdx_iff_getElem?.1 hin, ?_⟩
  rw [UnavailableRow.scope, hsession, htarget, hreason]

theorem map₂_min_val (a b : Option ℕ+) : Option.map₂ min (a.map PNat.val) (b.map PNat.val) = (Option.map₂ min a b).map PNat.val := by
  have hmono : Monotone PNat.val := fun _ _ h => h
  cases a <;> cases b <;> simp [hmono.map_min]

theorem map₂_max_val (a b : Option ℕ+) : Option.map₂ max (a.map PNat.val) (b.map PNat.val) = (Option.map₂ max a b).map PNat.val := by
  have hmono : Monotone PNat.val := fun _ _ h => h
  cases a <;> cases b <;> simp [hmono.map_max]

theorem OrdinalsOrdered.merge {first last first' last' : Option ℕ+} (h : OrdinalsOrdered first last)
    (hsome : (Option.map₂ min first first').isSome = (Option.map₂ max last last').isSome) :
    OrdinalsOrdered (Option.map₂ min first first') (Option.map₂ max last last') := by
  refine ⟨hsome, fun a ha b hb => ?_⟩
  obtain ⟨low, low', hlow, -, rfl⟩ := Option.mem_map₂_iff.1 ha
  obtain ⟨high, high', hhigh, -, rfl⟩ := Option.mem_map₂_iff.1 hb
  calc min low low'
      ≤ low := min_le_left _ _
    _ ≤ high := h.2 low hlow high hhigh
    _ ≤ max high high' := le_max_left _ _

theorem accepted_mergedInto {record : UnavailableRecord} {tail : UnavailableRow} {count : Nat} (h : tail.Accepted)
    (hcount : tail.eventCount ≤ count) (hchecked : (record.mergedInto tail count).Checked) :
    (record.mergedInto tail count).Accepted := by
  obtain ⟨first, last, hfirst, hlast, hordered⟩ := h.ordinals
  obtain ⟨hle, hsome⟩ := hchecked
  have hfirst' : (record.mergedInto tail count).firstOrdinal = (Option.map₂ min first record.firstOrdinal).map PNat.val := by
    rw [UnavailableRecord.mergedInto, hfirst, map₂_min_val]
  have hlast' : (record.mergedInto tail count).lastOrdinal = (Option.map₂ max last record.lastOrdinal).map PNat.val := by
    rw [UnavailableRecord.mergedInto, hlast, map₂_max_val]
  rw [hfirst', hlast', Option.isSome_map, Option.isSome_map] at hsome
  exact ⟨h.session, h.target, hle, ⟨_, _, hfirst', hlast', hordered.merge hsome⟩, h.counted.trans_le hcount⟩

theorem recorded_of_tx {record : UnavailableRecord} (haccepted : ∀ row ∈ rows, row.Accepted)
    (h : recordUnavailableTx rows record = .ok rows') : Recorded rows record rows' := by
  have hinsert (h : (do
      let count ← nonZero record.count (persistenceError "browser event unavailable count must be non-zero")
      let _ ← (BrowserEventUnavailableRange.new record.sessionId record.targetId record.range record.firstOrdinal
        record.lastOrdinal count record.reason).mapError fun _ =>
          persistenceError "browser event unavailable range is invalid"
      return rows ++ [record.toRow] : Result (List UnavailableRow)) = .ok rows') : Recorded rows record rows' := by
    simp only [bind_eq_ok, pure_eq_ok, mapError_eq_ok] at h
    obtain ⟨count, hcount, value, hnew, rfl⟩ := h
    obtain ⟨⟨hsession, htarget⟩, hordinals, -⟩ := rangeNew_eq_ok.1 hnew
    refine .inserted rfl ⟨hsession, htarget, record.range.fst_le_snd, ⟨_, _, rfl, rfl, hordinals⟩, ?_⟩ rfl ⟨le_rfl, le_rfl⟩
    show 0 < record.count
    rw [← nonZero_eq_ok hcount]
    exact count.pos
  unfold recordUnavailableTx at h
  dsimp only at h
  cases htail : unavailableTail rows record.sessionId record.targetId record.reason with
  | none =>
    rw [htail] at h
    exact hinsert h
  | some i =>
    obtain ⟨tail, hget, hscope⟩ := scope_of_unavailableTail htail
    rw [htail] at h
    dsimp only at h
    rw [hget] at h
    dsimp only at h
    split at h
    · obtain ⟨count, hcount, h⟩ := bind_eq_ok.1 h
      obtain ⟨u, hchecked, h⟩ := bind_eq_ok.1 h
      obtain rfl := pure_eq_ok.1 h
      obtain ⟨-, rfl⟩ := checkedAdd_eq_some.1 (okOr_eq_ok.1 hcount)
      obtain ⟨hi, rfl⟩ := List.getElem?_eq_some_iff.1 hget
      rw [List.set_eq_take_append_cons_drop, if_pos hi]
      have hsplit : rows = rows.take i ++ rows[i] :: rows.drop (i + 1) := by
        rw [← List.drop_eq_getElem_cons hi, List.take_append_drop]
      refine .merged hsplit hscope hscope ?_ rfl ?_ ?_
      · exact accepted_mergedInto (haccepted _ (List.getElem_mem hi)) (by omega) (not_not.1 (refuse_eq_ok.1 hchecked))
      · exact fun range hspans => ⟨(min_le_left _ _).trans hspans.1, hspans.2.trans (le_max_left _ _)⟩
      · exact ⟨min_le_right _ _, le_max_right _ _⟩
    · exact hinsert h

end Krometrail.EventIndex
