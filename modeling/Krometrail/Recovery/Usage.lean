import Krometrail.Recovery.Segment

/-!
# Reconciling the accounting

The last phase of a pass brings the accounting rows of the class `segment` to the segment rows: one for each of them,
of its session and size, and no other.
-/

namespace Krometrail

open Relations Results

theorem segmentUsageKey_injective : Function.Injective segmentUsageKey := by
  rintro ⟨⟨a, _⟩⟩ ⟨⟨b, _⟩⟩ h
  simpa [segmentUsageKey] using h

namespace SqliteIndex

/-- The segment accounting says of every segment row what it is, and nothing else. -/
def UsageExact (index : SqliteIndex) : Prop :=
  ∀ entry : UsageRow, entry.usageClass = .segment →
    (entry ∈ index.usage ↔ ∃ row ∈ index.segments, row.registration.usageRow = entry)

/-- Nothing but the accounting differs. -/
def SameButUsage (index index' : SqliteIndex) : Prop := { index with usage := index'.usage } = index'

variable {index index' : SqliteIndex}

theorem sameButUsage_usage {usage : Relation fun row : UsageRow => (row.usageClass, row.objectKey)} :
    SameButUsage index { index with usage } := rfl

theorem SameButUsage.trans {index'' : SqliteIndex} (h : SameButUsage index index') (h' : SameButUsage index' index'')
    : SameButUsage index index'' := by
  rw [SameButUsage, ← h', ← h]

theorem SameButUsage.segments (h : SameButUsage index index') : index'.segments = index.segments := by
  rw [← h]

theorem SameButUsage.frames (h : SameButUsage index index') : index'.frames = index.frames := by
  rw [← h]

end SqliteIndex

section

variable {index index' : SqliteIndex} {usage existing existing' : List UsageRow} {reconciled reconciled' : Nat}
  {registration : SegmentRegistration} {before : List SegmentRegistration}

/-- The keys of the segments that the loop has gone through. -/
def keysOf (before : List SegmentRegistration) : List (List UInt8) := before.map fun r => segmentUsageKey r.segmentId

theorem nodup_keysOf (index : SqliteIndex) : (keysOf (index.segments.rows.map (·.registration))).Nodup := by
  have hids := index.segments.nodup_keys.map segmentUsageKey_injective
  rw [List.map_map] at hids
  rw [keysOf, List.map_map]
  exact hids

/-- The accounting when the loop has gone through `before`. -/
structure UsageProgress (start : SqliteIndex) (before : List SegmentRegistration) (index : SqliteIndex)
    (existing : List UsageRow) : Prop where
  same : SqliteIndex.SameButUsage start index
  existing : ∀ entry, entry ∈ existing ↔
    entry ∈ start.usage ∧ entry.usageClass = .segment ∧ entry.objectKey ∉ keysOf before
  usage : ∀ entry, entry.usageClass = .segment → (entry ∈ index.usage ↔
    (∃ r ∈ before, r.usageRow = entry) ∨ entry ∈ start.usage ∧ entry.objectKey ∉ keysOf before)

theorem updateUsage_segment (index : SqliteIndex) (registration : SegmentRegistration) :
    index.updateUsage registration.usageRow = .ok { index with usage := index.usage.upsert registration.usageRow } := by
  refine if_neg fun hempty => ?_
  have hlength := congrArg List.length hempty
  rw [show registration.usageRow.objectKey = registration.segmentId.uuid.bytes from rfl,
    registration.segmentId.uuid.length_bytes] at hlength
  exact absurd hlength (by decide)

theorem matching_iff (hclass : ∀ entry ∈ existing, entry.usageClass = .segment)
    (hkeys : ∀ entry ∈ existing, ∀ entry' ∈ existing, entry.objectKey = entry'.objectKey → entry = entry') :
    ((existing.find? fun entry => entry.objectKey = segmentUsageKey registration.segmentId).any fun entry =>
      entry.sessionId = some registration.sessionId ∧ entry.byteLen = registration.fileBytes) = true ↔
      registration.usageRow ∈ existing := by
  constructor
  · intro h
    cases hfind : existing.find? (fun entry => entry.objectKey = segmentUsageKey registration.segmentId) with
    | none => simp [hfind] at h
    | some entry =>
      have hmem := List.mem_of_find?_eq_some hfind
      have hkey : entry.objectKey = segmentUsageKey registration.segmentId := by simpa using List.find?_some hfind
      have hfields : entry.sessionId = some registration.sessionId ∧ entry.byteLen = registration.fileBytes := by
        simpa [hfind] using h
      have hsegment := hclass entry hmem
      rcases entry with ⟨usageClass, objectKey, sessionId, byteLen⟩
      obtain ⟨rfl, rfl⟩ : sessionId = _ ∧ byteLen = _ := hfields
      obtain rfl : usageClass = _ := hsegment
      obtain rfl : objectKey = _ := hkey
      exact hmem
  · intro hmem
    cases hfind : existing.find? (fun entry => entry.objectKey = segmentUsageKey registration.segmentId) with
    | none =>
      have := List.find?_eq_none.1 hfind _ hmem
      simp [SegmentRegistration.usageRow] at this
    | some entry =>
      have hkey : entry.objectKey = segmentUsageKey registration.segmentId := by simpa using List.find?_some hfind
      rw [hkeys entry (List.mem_of_find?_eq_some hfind) _ hmem hkey]
      simp [SegmentRegistration.usageRow]

theorem UsageProgress.step {start : SqliteIndex} (h : UsageProgress start before index existing)
    (hnew : segmentUsageKey registration.segmentId ∉ keysOf before)
    (hrun : reconcileUsageRow (index, existing, reconciled) registration = .ok (index', existing', reconciled')) :
    UsageProgress start (before ++ [registration]) index' existing' := by
  have hkeys : ∀ {key}, key ∉ keysOf (before ++ [registration]) ↔
      key ∉ keysOf before ∧ key ≠ segmentUsageKey registration.segmentId := by
    simp [keysOf, and_comm]
  have hexisting : ∀ entry, entry ∈ existing.filter
        (fun entry => !decide (entry.objectKey = segmentUsageKey registration.segmentId)) ↔
      entry ∈ start.usage ∧ entry.usageClass = .segment ∧ entry.objectKey ∉ keysOf (before ++ [registration]) := by
    intro entry
    rw [List.mem_filter, h.existing, hkeys, Bool.not_eq_true', decide_eq_false_iff_not, and_assoc, and_assoc]
  have hmatching : _ ↔ registration.usageRow ∈ existing := matching_iff (fun entry hentry => ((h.existing entry).1 hentry).2.1)
    (fun entry hentry entry' hentry' hkey => by
      obtain ⟨hmem, hclass, -⟩ := (h.existing entry).1 hentry
      obtain ⟨hmem', hclass', -⟩ := (h.existing entry').1 hentry'
      exact Relation.eq_of_key hmem hmem' (Prod.ext (hclass.trans hclass'.symm) hkey))
  -- what the loop has not gone through yet is as at the start
  have husage : ∀ entry, entry.usageClass = .segment → (entry ∈ index'.usage ↔
      entry = registration.usageRow ∨ entry ∈ index.usage ∧ entry.objectKey ≠ segmentUsageKey registration.segmentId) →
      (entry ∈ index'.usage ↔ (∃ r ∈ before ++ [registration], r.usageRow = entry) ∨
        entry ∈ start.usage ∧ entry.objectKey ∉ keysOf (before ++ [registration])) := by
    intro entry hclass hentry
    have hbefore : (∃ r ∈ before, r.usageRow = entry) → entry.objectKey ≠ segmentUsageKey registration.segmentId := by
      rintro ⟨r, hr, rfl⟩ hkey
      exact hnew (hkey ▸ List.mem_map_of_mem hr)
    simp only [hentry, h.usage entry hclass, hkeys, List.mem_append, List.mem_singleton]
    constructor
    · rintro (rfl | ⟨⟨r, hr, rfl⟩ | ⟨hmem, hfresh⟩, hne⟩)
      · exact .inl ⟨registration, .inr rfl, rfl⟩
      · exact .inl ⟨r, .inl hr, rfl⟩
      · exact .inr ⟨hmem, hfresh, hne⟩
    · rintro (⟨r, hr | rfl, rfl⟩ | ⟨hmem, hfresh, hne⟩)
      · exact .inr ⟨.inl ⟨r, hr, rfl⟩, hbefore ⟨r, hr, rfl⟩⟩
      · exact .inl rfl
      · exact .inr ⟨.inr ⟨hmem, hfresh⟩, hne⟩
  unfold reconcileUsageRow at hrun
  dsimp only at hrun
  split at hrun
  · rename_i hmatches
    have hmem := hmatching.1 hmatches
    simp only [pure_eq_ok, Prod.mk.injEq] at hrun
    obtain ⟨rfl, rfl, -⟩ := hrun
    refine ⟨h.same, hexisting, fun entry hclass => husage entry hclass ?_⟩
    have hpresent : registration.usageRow ∈ index.usage := by
      obtain ⟨hstart, hsegment, hfresh⟩ := (h.existing _).1 hmem
      exact (h.usage _ hsegment).2 (.inr ⟨hstart, hfresh⟩)
    constructor
    · intro hentry
      by_cases hkey : entry.objectKey = segmentUsageKey registration.segmentId
      · exact .inl (Relation.eq_of_key hentry hpresent (Prod.ext hclass hkey))
      · exact .inr ⟨hentry, hkey⟩
    · rintro (rfl | ⟨hentry, -⟩)
      · exact hpresent
      · exact hentry
  · simp only [updateUsage_segment, ok_bind, pure_eq_ok, Prod.mk.injEq] at hrun
    obtain ⟨rfl, rfl, -⟩ := hrun
    refine ⟨h.same.trans SqliteIndex.sameButUsage_usage, hexisting, fun entry hclass => husage entry hclass ?_⟩
    rw [Relation.mem_upsert]
    refine or_congr_right (and_congr_right fun _ => not_congr ?_)
    rw [Prod.mk.injEq]
    exact ⟨fun hkey => hkey.2, fun hkey => ⟨hclass, hkey⟩⟩

theorem mem_usage_removeUsages (entry : UsageRow) (existing : List UsageRow) (index : SqliteIndex)
    (hclass : entry.usageClass = .segment) :
    (SqliteIndex.SameButUsage index (existing.foldl (fun index entry => index.removeUsage .segment entry.objectKey) index)) ∧
      (entry ∈ (existing.foldl (fun index entry => index.removeUsage .segment entry.objectKey) index).usage ↔
        entry ∈ index.usage ∧ ∀ entry' ∈ existing, entry.objectKey ≠ entry'.objectKey) := by
  induction existing generalizing index with
  | nil => simp [SqliteIndex.SameButUsage]
  | cons head existing ih =>
    rw [List.foldl_cons]
    obtain ⟨hsame, hmem⟩ := ih (index.removeUsage .segment head.objectKey)
    refine ⟨SqliteIndex.SameButUsage.trans SqliteIndex.sameButUsage_usage hsame, ?_⟩
    rw [hmem, SqliteIndex.removeUsage, Relation.mem_delete]
    simp [hclass, and_assoc]

theorem reconcileUsage_spec {report report' : RecoveryReport} (h : reconcileUsage index report = .ok (index', report')) :
    SqliteIndex.SameButUsage index index' ∧ index'.UsageExact := by
  simp only [reconcileUsage, bind_eq_ok, pure_eq_ok, Prod.mk.injEq] at h
  obtain ⟨⟨index₁, existing, reconciled⟩, hloop, rfl, -⟩ := h
  have hkeys := nodup_keysOf index
  have hprogress : UsageProgress index (index.segments.rows.map (·.registration)) index₁ existing := by
    refine foldlM_prefix (P := fun before state => UsageProgress index before state.1 state.2.1) ?_ ?_ hloop
    · rintro before registration after ⟨index₂, existing₂, reconciled₂⟩ ⟨index₃, existing₃, reconciled₃⟩ hsplit hbefore hstep
      rw [hsplit, keysOf, List.map_append, List.map_cons, List.nodup_append] at hkeys
      exact hbefore.step (fun hmem => hkeys.2.2 _ hmem _ List.mem_cons_self rfl) hstep
    · refine ⟨rfl, fun entry => ?_, fun entry hclass => ?_⟩
      · simp [keysOf]
      · simp [keysOf]
  have hremoved := fun entry (hclass : entry.usageClass = .segment) =>
    mem_usage_removeUsages entry existing index₁ hclass
  have hsame := hprogress.same.trans (hremoved ⟨.segment, [], none, 0⟩ rfl).1
  refine ⟨hsame, fun entry hclass => ?_⟩
  have hsegments : (∃ row ∈ index.segments, row.registration.usageRow = entry) ↔
      ∃ r ∈ index.segments.rows.map (·.registration), r.usageRow = entry := by
    simp
  rw [hsame.segments, hsegments, (hremoved entry hclass).2, hprogress.usage entry hclass]
  constructor
  · rintro ⟨hrow | ⟨hmem, hfresh⟩, hkept⟩
    · exact hrow
    · exact absurd rfl (hkept entry ((hprogress.existing entry).2 ⟨hmem, hclass, hfresh⟩))
  · rintro ⟨r, hr, rfl⟩
    refine ⟨.inl ⟨r, hr, rfl⟩, fun entry' hentry' hkey => ?_⟩
    exact ((hprogress.existing entry').1 hentry').2.2 (hkey ▸ List.mem_map_of_mem hr)

theorem reconcileUsage_settled {report : RecoveryReport} (h : index.UsageExact) :
    reconcileUsage index report = .ok (index, report) := by
  have hclass : ∀ entry ∈ index.usage.rows.filter (fun entry => entry.usageClass = .segment),
      entry ∈ index.usage ∧ entry.usageClass = .segment := by
    simp
  -- the rows that the loop takes off are those of the segments it goes through
  have hloop : ∀ (before : List SegmentRegistration) (existing : List UsageRow),
      (∀ r ∈ before, ∃ row ∈ index.segments, row.registration = r) → (keysOf before).Nodup →
      (∀ entry ∈ existing, entry ∈ index.usage ∧ entry.usageClass = .segment) →
      (∀ r ∈ before, r.usageRow ∈ existing) →
      before.foldlM reconcileUsageRow (index, existing, report.usageRowsReconciled) =
        .ok (index, existing.filter (fun entry => !decide (entry.objectKey ∈ keysOf before)), report.usageRowsReconciled) := by
    intro before
    induction before with
    | nil =>
      intro existing _ _ _ _
      simp [keysOf, pure, Except.pure]
    | cons registration before ih =>
      intro existing hrows hnodup hexisting hpresent
      have hmatching := (matching_iff
        (fun entry hentry => (hexisting entry hentry).2)
        (fun entry hentry entry' hentry' hkey => Relation.eq_of_key (hexisting entry hentry).1 (hexisting entry' hentry').1
          (Prod.ext ((hexisting entry hentry).2.trans (hexisting entry' hentry').2.symm) hkey))).2
        (hpresent registration List.mem_cons_self)
      have hturn : reconcileUsageRow (index, existing, report.usageRowsReconciled) registration = .ok (index,
          existing.filter (fun entry => !decide (entry.objectKey = segmentUsageKey registration.segmentId)),
          report.usageRowsReconciled) := by
        unfold reconcileUsageRow
        dsimp only
        rw [if_pos hmatching]
        rfl
      obtain ⟨hfresh, hnodup⟩ := List.nodup_cons.1 hnodup
      rw [List.foldlM_cons, hturn, ok_bind, ih _ (fun r hr => hrows r (List.mem_cons_of_mem _ hr)) hnodup
        (fun entry hentry => hexisting entry (List.mem_filter.1 hentry).1)]
      · rw [List.filter_filter]
        congr 4
        funext entry
        simp [keysOf, Bool.and_comm]
      · intro r hr
        refine List.mem_filter.2 ⟨hpresent r (List.mem_cons_of_mem _ hr), ?_⟩
        rw [Bool.not_eq_true', decide_eq_false_iff_not]
        intro hkey
        exact hfresh (List.mem_map.2 ⟨r, hr, hkey⟩)
  have hkeys := nodup_keysOf index
  have hnone : (index.usage.rows.filter fun entry => entry.usageClass = .segment).filter
      (fun entry => !decide (entry.objectKey ∈ keysOf (index.segments.rows.map (·.registration)))) = [] := by
    rw [List.filter_eq_nil_iff]
    intro entry hentry
    obtain ⟨hmem, hsegment⟩ := hclass entry hentry
    obtain ⟨row, hrow, rfl⟩ := (h entry hsegment).1 hmem
    have hkey : row.registration.usageRow.objectKey ∈ keysOf (index.segments.rows.map (·.registration)) :=
      List.mem_map.2 ⟨row.registration, List.mem_map_of_mem hrow, rfl⟩
    simp [hkey]
  rw [reconcileUsage]
  dsimp only
  rw [hloop _ _ (by simp) hkeys hclass, hnone]
  · rfl
  · intro r hr
    obtain ⟨row, hrow, rfl⟩ := List.mem_map.1 hr
    exact List.mem_filter.2 ⟨(h _ rfl).2 ⟨row, hrow, rfl⟩, by simp [SegmentRegistration.usageRow]⟩

end

end Krometrail
