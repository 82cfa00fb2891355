import Krometrail.Artifacts.Publications

/-!
# What changes the artifact of a publication

A publication changes the rows, the usage and the files of its own artifact only (`Touches`).  A removal leaves another
artifact as it is, with the frames of its sources, or takes all of it but its temporary file (`Affected`).
-/

namespace Krometrail.Publications

open Cache (Sha256Digest)
open Store (Reach Victim DeletionBatch)

namespace Store

variable {sha256 : List UInt8 → Sha256Digest} {store store' : Store} {p : Publication} {id : ArtifactId}

structure Touches (p : Publication) (store store' : Store) : Prop where
  frames : store'.frames = store.frames
  others : ∀ id, id ≠ p.artifactId → store'.remains id = store.remains id
  rows : ∀ row ∈ store'.rows, row ∈ store.rows ∨ row.artifactId = p.artifactId ∧ row.sessionId = p.sessionId
  usage : ∀ u ∈ store'.usage, u ∈ store.usage ∨ u = (p.artifactId, p.sessionId)

theorem Touches.refl : Touches p store store :=
  ⟨rfl, fun _ _ => rfl, fun _ h => .inl h, fun _ h => .inl h⟩

theorem Touches.trans {store'' : Store} (h : Touches p store store') (h' : Touches p store' store'') :
    Touches p store store'' where
  frames := h'.frames.trans h.frames
  others id hid := (h'.others id hid).trans (h.others id hid)
  rows row hrow := (h'.rows row hrow).elim (h.rows row) .inr
  usage u hu := (h'.usage u hu).elim (h.usage u) .inr

@[simp] theorem remains_setTemp (temp : Option (List UInt8)) :
    (store.setTemp id temp).remains id = { store.remains id with temp } := by
  simp [remains, setTemp, artifactRow]

@[simp] theorem remains_setFinal (final : Option (List UInt8)) :
    (store.setFinal id final).remains id = { store.remains id with final } := by
  simp [remains, setFinal, artifactRow]

@[simp] theorem validateSourceIds_setTemp (temp : Option (List UInt8)) :
    (store.setTemp id temp).validateSourceIds p = store.validateSourceIds p := rfl

@[simp] theorem validateSourceIds_setFinal (final : Option (List UInt8)) :
    (store.setFinal id final).validateSourceIds p = store.validateSourceIds p := rfl

theorem touches_setTemp (temp : Option (List UInt8)) : Touches p store (store.setTemp p.artifactId temp) where
  frames := rfl
  others id hid := by simp [remains, setTemp, artifactRow, hid]
  rows _ h := .inl h
  usage _ h := .inl h

theorem touches_setFinal (final : Option (List UInt8)) : Touches p store (store.setFinal p.artifactId final) where
  frames := rfl
  others id hid := by simp [remains, setFinal, artifactRow, hid]
  rows _ h := .inl h
  usage _ h := .inl h

theorem stageArtifact_staged (h : store.stageArtifact sha256 p = some (.staged store')) :
    Touches p store store' ∧ store'.validateSourceIds p = true ∧
      store'.remains p.artifactId =
        { store.remains p.artifactId with row := some (p.row sha256 .staging), usage := true } := by
  unfold stageArtifact at h
  split at h
  · cases Option.some.inj h
  · split at h
    · rename_i hconditions
      obtain ⟨hsources, hrow, husage⟩ := hconditions
      obtain rfl := StageArtifact.staged.inj (Option.some.inj h)
      refine ⟨⟨rfl, ?_, ?_, ?_⟩, hsources, ?_⟩
      · intro id hid
        have hne : p.artifactId ≠ id := fun heq => hid heq.symm
        simp [remains, artifactRow, Publication.row, hne]
      · intro row hmem
        rcases List.mem_append.1 hmem with hmem | hmem
        · exact .inl hmem
        · obtain rfl := List.mem_singleton.1 hmem
          exact .inr ⟨rfl, rfl⟩
      · intro u hmem
        rcases List.mem_append.1 hmem with hmem | hmem
        · exact .inl hmem
        · exact .inr (List.mem_singleton.1 hmem)
      · have hnone : store.rows.find? (fun row => row.artifactId = p.artifactId) = none := hrow
        simp [remains, artifactRow, hnone, Publication.row]
    · cases h

theorem artifactRow_map {f : ArtifactRow → ArtifactRow} (hid : ∀ row, (f row).artifactId = row.artifactId) :
    ((store.rows.map f).find? fun row => row.artifactId = id) = (store.artifactRow id).map f := by
  rw [List.find?_map, artifactRow]
  congr 2
  funext row
  simp only [Function.comp_apply, hid]

theorem finalizeArtifact_some (hrows : ∀ row ∈ store.rows, row.artifactId = p.artifactId → row.sessionId = p.sessionId)
    (h : store.finalizeArtifact p = some store') :
    Touches p store store' ∧ store'.validateSourceIds p = true ∧
      ∃ row, store.artifactRow p.artifactId = some row ∧
        store'.remains p.artifactId = { store.remains p.artifactId with row := some { row with state := .ready } } := by
  obtain ⟨row, hrow, h⟩ := Option.bind_eq_some_iff.1 h
  obtain ⟨⟨hstate, hkey, -, -, hsources⟩, rfl⟩ := Option.ite_none_right_eq_some.1 h |>.imp_right Option.some.inj
  let update : ArtifactRow → ArtifactRow := fun r =>
    if r.artifactId = p.artifactId ∧ r.state = .staging ∧ r.cacheKey = p.cacheKey then { r with state := .ready } else r
  have hkept : ∀ r, (update r).artifactId = r.artifactId := by
    intro r
    simp only [update]
    split <;> rfl
  have hid : row.artifactId = p.artifactId := by simpa using List.find?_some hrow
  refine ⟨⟨rfl, ?_, ?_, fun u hu => .inl hu⟩, hsources, row, hrow, ?_⟩
  · intro id hne
    have hother : (store.artifactRow id).map update = store.artifactRow id := by
      cases hfound : store.artifactRow id with
      | none => rfl
      | some r =>
        have hr : r.artifactId = id := by simpa using List.find?_some hfound
        simp [update, hr, hne]
    simp only [remains, Remains.mk.injEq, and_self, and_true]
    exact (artifactRow_map hkept).trans hother
  · intro r hmem
    obtain ⟨r, hr, rfl⟩ := List.mem_map.1 hmem
    by_cases hupdated : r.artifactId = p.artifactId ∧ r.state = .staging ∧ r.cacheKey = p.cacheKey
    · rw [if_pos hupdated]
      exact .inr ⟨hupdated.1, hrows r hr hupdated.1⟩
    · rw [if_neg hupdated]
      exact .inl hr
  · simp only [remains, Remains.mk.injEq, and_self, and_true]
    refine (artifactRow_map hkept).trans ?_
    simp only [hrow, Option.map_some, update]
    rw [if_pos ⟨hid, hstate, hkey⟩]

theorem finalizeArtifact_isSome (hrow : store.artifactRow p.artifactId = some (p.row sha256 .staging))
    (hsources : store.validateSourceIds p = true) : (store.finalizeArtifact p).isSome = true := by
  simp [finalizeArtifact, hrow, Publication.row, hsources]

/-- What a removal may do to the artifact of a publication that is under way. -/
inductive Affected (p : Publication) (store store' : Store) : Prop
  | same : store'.remains p.artifactId = store.remains p.artifactId →
      ((store.remains p.artifactId).row ≠ none →
        ∀ source ∈ p.sources, store'.frame source.frameId = store.frame source.frameId) → Affected p store store'
  | evicted : store'.remains p.artifactId =
      { store.remains p.artifactId with row := none, usage := false, final := none } → Affected p store store'

theorem Touches.affected {q : Publication} (h : Touches q store store') (hne : p.artifactId ≠ q.artifactId) :
    Affected p store store' :=
  .same (h.others _ hne) fun _ _ _ => by rw [frame, h.frames, ← frame]

structure Shrinks (store store' : Store) : Prop where
  rows : ∀ row ∈ store'.rows, row ∈ store.rows
  usage : ∀ u ∈ store'.usage, u ∈ store.usage
  finals : ∀ id bytes, store'.finals id = some bytes → store.finals id = some bytes
  temps : store'.temps = store.temps

theorem Shrinks.trans {store'' : Store} (h : Shrinks store store') (h' : Shrinks store' store'') : Shrinks store store'' where
  rows row hrow := h.rows row (h'.rows row hrow)
  usage u hu := h.usage u (h'.usage u hu)
  finals id bytes hbytes := h.finals id bytes (h'.finals id bytes hbytes)
  temps := h'.temps.trans h.temps

theorem shrinks_stageRemoval (store : Store) (artifacts : List ArtifactId) : Shrinks store (store.stageRemoval artifacts) where
  rows _ h := h
  usage _ h := h
  finals id bytes h := by
    simp only [stageRemoval] at h
    split at h
    · cases h
    · exact h
  temps := rfl

theorem shrinks_removeDeletionMetadata (store : Store) (batch : DeletionBatch) :
    Shrinks store (store.removeDeletionMetadata batch) where
  rows _ h := (List.mem_filter.1 h).1
  usage _ h := h
  finals _ _ h := h
  temps := rfl

theorem shrinks_finalizeDeletion (store : Store) (batch : DeletionBatch) : Shrinks store (store.finalizeDeletion batch) where
  rows _ h := h
  usage _ h := (List.mem_filter.1 h).1
  finals _ _ h := h
  temps := rfl

theorem shrinks_removeObjects (store : Store) (batch : DeletionBatch) (reach : Reach) :
    Shrinks store (store.removeObjects batch reach) := by
  have hmetadata := (shrinks_stageRemoval store batch.artifacts).trans (shrinks_removeDeletionMetadata _ batch)
  cases reach with
  | prepared => exact ⟨fun _ h => h, fun _ h => h, fun _ _ h => h, rfl⟩
  | staging files => exact shrinks_stageRemoval _ _
  | metadataRemoved => exact hmetadata
  | finalized => exact hmetadata.trans (shrinks_finalizeDeletion _ batch)
  | done => exact hmetadata.trans (shrinks_finalizeDeletion _ batch)

section Removal

variable {batch : DeletionBatch} {reach : Reach}

theorem find?_filter_of_kept {α : Type*} {l : List α} {f q : α → Bool} (h : ∀ a ∈ l, q a = true → f a = true) :
    (l.filter f).find? q = l.find? q := by
  induction l with
  | nil => rfl
  | cons a l ih =>
    have htail : (l.filter f).find? q = l.find? q := ih fun b hb => h b (List.mem_cons_of_mem _ hb)
    by_cases hq : q a = true
    · rw [List.filter_cons_of_pos (h a List.mem_cons_self hq), List.find?_cons_of_pos hq, List.find?_cons_of_pos hq]
    · rw [List.find?_cons_of_neg hq, List.filter_cons]
      split
      · rw [List.find?_cons_of_neg hq, htail]
      · exact htail

theorem artifactRow_removeDeletionMetadata (store : Store) (batch : DeletionBatch) (id : ArtifactId)
    (hsession : ∀ row ∈ store.rows, row.artifactId = id → batch.session ≠ some row.sessionId) :
    (store.removeDeletionMetadata batch).artifactRow id = if id ∈ batch.artifacts then none else store.artifactRow id := by
  rw [artifactRow, removeDeletionMetadata]
  split
  · rename_i hmem
    refine List.find?_eq_none.2 fun row hrow hid => ?_
    have hid : row.artifactId = id := of_decide_eq_true hid
    have hkept := (List.mem_filter.1 hrow).2
    simp [hid, hmem] at hkept
  · rename_i hmem
    refine find?_filter_of_kept fun row hrow hid => ?_
    have hid : row.artifactId = id := of_decide_eq_true hid
    simp [hid, hmem, hsession row hrow hid]

theorem usage_finalizeDeletion (store : Store) (batch : DeletionBatch) (id : ArtifactId)
    (hsession : ∀ u ∈ store.usage, u.1 = id → batch.session ≠ some u.2) :
    (store.finalizeDeletion batch).usage.any (·.1 = id) =
      if id ∈ batch.artifacts then false else store.usage.any (·.1 = id) := by
  rw [finalizeDeletion, List.any_filter]
  split
  · rename_i hmem
    refine List.any_eq_false.2 fun u _ => ?_
    by_cases hid : u.1 = id
    · simp [hid, hmem]
    · simp [hid]
  · rename_i hmem
    rw [Bool.eq_iff_iff, List.any_eq_true, List.any_eq_true]
    refine exists_congr fun u => and_congr_right fun hu => ?_
    by_cases hid : u.1 = id
    · simp [hid, hmem, hsession u hu hid]
    · simp [hid]

theorem remains_finalized (store : Store) (batch : DeletionBatch) (id : ArtifactId)
    (hrows : ∀ row ∈ store.rows, row.artifactId = id → batch.session ≠ some row.sessionId)
    (husage : ∀ u ∈ store.usage, u.1 = id → batch.session ≠ some u.2) (hreach : reach = .finalized ∨ reach = .done) :
    (store.removeObjects batch reach).remains id =
      if id ∈ batch.artifacts then { store.remains id with row := none, usage := false, final := none }
      else store.remains id := by
  have hremoved : store.removeObjects batch reach =
      ((store.stageRemoval batch.artifacts).removeDeletionMetadata batch).finalizeDeletion batch := by
    rcases hreach with rfl | rfl <;> rfl
  have hrow := artifactRow_removeDeletionMetadata (store.stageRemoval batch.artifacts) batch id hrows
  have hany := usage_finalizeDeletion ((store.stageRemoval batch.artifacts).removeDeletionMetadata batch) batch id husage
  rw [hremoved, remains, hany]
  change Remains.mk (((store.stageRemoval batch.artifacts).removeDeletionMetadata batch).artifactRow id) _ _ _ = _
  rw [hrow]
  by_cases hmem : id ∈ batch.artifacts
  · simp [hmem, remains, finalizeDeletion, removeDeletionMetadata, stageRemoval]
  · simp [hmem, remains, finalizeDeletion, removeDeletionMetadata, stageRemoval, artifactRow]

theorem Shrinks.nothing (h : Shrinks store store') (hnothing : store.remains id = .nothing) : store'.remains id = .nothing := by
  obtain ⟨hrow, husage, hfinal, htemp⟩ := Remains.mk.inj hnothing
  have hrow' : store'.artifactRow id = none :=
    List.find?_eq_none.2 fun row hmem => List.find?_eq_none.1 hrow row (h.rows row hmem)
  have husage' : store'.usage.any (·.1 = id) = false :=
    List.any_eq_false.2 fun u hmem => List.any_eq_false.1 husage u (h.usage u hmem)
  have hfinal' : store'.finals id = none := by
    cases hbytes : store'.finals id with
    | none => rfl
    | some bytes => cases hfinal.symm.trans (h.finals id bytes hbytes)
  rw [remains, hrow', husage', hfinal', h.temps, htemp]
  rfl

theorem remains_of_not_mem (hrows : ∀ row ∈ store.rows, row.artifactId = id → batch.session ≠ some row.sessionId)
    (husage : ∀ u ∈ store.usage, u.1 = id → batch.session ≠ some u.2) (hmem : id ∉ batch.artifacts) :
    (store.removeObjects batch reach).remains id = store.remains id := by
  cases reach with
  | prepared => rfl
  | staging files =>
    have htake : id ∉ batch.artifacts.take files := fun h => hmem (List.mem_of_mem_take h)
    simp [removeObjects, remains, stageRemoval, artifactRow, htake]
  | metadataRemoved =>
    have hrow := artifactRow_removeDeletionMetadata (store.stageRemoval batch.artifacts) batch id hrows
    rw [removeObjects, remains, hrow]
    simp [hmem, remains, removeDeletionMetadata, stageRemoval, artifactRow]
  | finalized => rw [remains_finalized store batch id hrows husage (.inl rfl), if_neg hmem]
  | done => rw [remains_finalized store batch id hrows husage (.inr rfl), if_neg hmem]

theorem frame_removeObjects {frameId : FrameId}
    (hkept : ∀ frame ∈ store.frames, frame.frameId = frameId → frame.segmentId ∉ batch.segments) :
    (store.removeObjects batch reach).frame frameId = store.frame frameId := by
  have hfilter : (store.frames.filter fun frame => frame.segmentId ∉ batch.segments).find? (·.frameId = frameId) =
      store.frames.find? (·.frameId = frameId) :=
    find?_filter_of_kept fun frame hframe hid => decide_eq_true (hkept frame hframe (of_decide_eq_true hid))
  cases reach with
  | prepared => rfl
  | staging files => rfl
  | metadataRemoved => exact hfilter
  | finalized => exact hfilter
  | done => exact hfilter

theorem affected_removeObjects
    (hrows : ∀ row ∈ store.rows, row.artifactId = p.artifactId → batch.session ≠ some row.sessionId)
    (husage : ∀ u ∈ store.usage, u.1 = p.artifactId → batch.session ≠ some u.2)
    (hcascade : store.artifactRow p.artifactId ≠ none → p.artifactId ∉ batch.artifacts → ∀ source ∈ p.sources,
      ∀ frame ∈ store.frames, frame.frameId = source.frameId → frame.segmentId ∉ batch.segments)
    (hwhole : reach.isWhole = true ∨ (p.artifactId ∈ batch.artifacts → store.remains p.artifactId = .nothing)) :
    Affected p store (store.removeObjects batch reach) := by
  by_cases hmem : p.artifactId ∈ batch.artifacts
  · rcases hwhole with hwhole | hnothing
    · rcases of_decide_eq_true hwhole with rfl | hreach
      · exact .same rfl fun _ _ _ => rfl
      · exact .evicted (by rw [remains_finalized store batch p.artifactId hrows husage hreach, if_pos hmem])
    · have hremains := hnothing hmem
      refine .same (((shrinks_removeObjects store batch reach).nothing hremains).trans hremains.symm) fun hrow => ?_
      rw [hremains] at hrow
      exact absurd rfl hrow
  · refine .same (remains_of_not_mem hrows husage hmem) fun hrow source hsource => ?_
    exact frame_removeObjects (hcascade hrow hmem source hsource)

theorem mem_artifactsForSegment {row : ArtifactRow} {source : Source} {frame : Frame} (hrow : row ∈ store.rows)
    (hsource : source ∈ row.sources) (hframe : frame ∈ store.frames) (hid : frame.frameId = source.frameId) :
    row.artifactId ∈ store.artifactsForSegment frame.segmentId := by
  refine List.mem_map_of_mem (List.mem_filter.2 ⟨hrow, List.any_eq_true.2 ⟨source, hsource, ?_⟩⟩)
  exact List.any_eq_true.2 ⟨frame, hframe, decide_eq_true ⟨hid, rfl⟩⟩

theorem deletionBatch_cascade (victim : Victim) {row : ArtifactRow} (hrow : row ∈ store.rows)
    (hmem : row.artifactId ∉ (store.deletionBatch victim).artifacts) {source : Source} (hsource : source ∈ row.sources)
    {frame : Frame} (hframe : frame ∈ store.frames) (hid : frame.frameId = source.frameId) :
    frame.segmentId ∉ (store.deletionBatch victim).segments := by
  have hlisted := mem_artifactsForSegment hrow hsource hframe hid
  intro hsegment
  cases victim with
  | artifact => cases hsegment
  | segment segment =>
    obtain rfl := List.mem_singleton.1 hsegment
    exact hmem hlisted
  | session session => exact hmem (List.mem_append_right _ (List.mem_flatMap.2 ⟨_, hsegment, hlisted⟩))

end Removal

end Store

end Krometrail.Publications
