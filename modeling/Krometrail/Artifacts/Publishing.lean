import Krometrail.Artifacts.RowEffects
import Krometrail.Lib.Cells

/-!
# The atomicity of publications

What the store has of the artifact of a call follows from the phase of the call (`Fits`): nothing before staging; then a row
with its usage, or neither after an eviction; the temporary file while it is written, and the final one, as long as the row
is there, once it is renamed.  Every step keeps this when it is undisturbed.
-/

namespace Krometrail.Publications

open Cache (Sha256Digest)
open Runs (Run System)
open Store (Reach Victim DeletionBatch Affected Touches Shrinks)

variable {sha256 : List UInt8 → Sha256Digest}

/-! ### What fits a phase -/

section Fits

variable (sha256) (p : Publication) (store : Store)

/-- The staged row is there with its usage and its sources, or neither is. -/
def Linked : Prop :=
  (store.remains p.artifactId).row = none ∧ (store.remains p.artifactId).usage = false ∨
    (store.remains p.artifactId).row = some (p.row sha256 .staging) ∧ (store.remains p.artifactId).usage = true ∧
      store.validateSourceIds p = true

/-- All of the ready artifact is there, or nothing. -/
def Stored : Prop :=
  store.remains p.artifactId = .nothing ∨
    store.remains p.artifactId = ⟨some (p.row sha256 .ready), true, some p.encodedBytes, none⟩ ∧
      store.validateSourceIds p = true

def Fits : Phase → Prop
  | .staged | .capacious | .writing .queued | .writing .clear | .writing .create =>
    Linked sha256 p store ∧ (store.remains p.artifactId).final = none ∧ (store.remains p.artifactId).temp = none
  | .writing .write => Linked sha256 p store ∧ (store.remains p.artifactId).final = none
  | .writing .sync | .writing .synced | .writing .rename =>
    Linked sha256 p store ∧ (store.remains p.artifactId).final = none ∧
      (store.remains p.artifactId).temp = some p.encodedBytes
  | .writing .renamed | .writing .syncDirectory | .writing .durable | .filed =>
    Linked sha256 p store ∧
      ((store.remains p.artifactId).row ≠ none → (store.remains p.artifactId).final = some p.encodedBytes) ∧
        (store.remains p.artifactId).temp = none
  | .undoing => Linked sha256 p store ∧ (store.remains p.artifactId).temp = none
  | .finalized => Stored sha256 p store
  | .reading .ready snapshot =>
    Stored sha256 p store ∧ snapshot.row = p.row sha256 .ready ∧
      (store.remains p.artifactId ≠ .nothing → snapshot = store.artifactSnapshot snapshot.row)
  | .checking .ready snapshot verdict =>
    Stored sha256 p store ∧ snapshot.row = p.row sha256 .ready ∧
      (store.remains p.artifactId ≠ .nothing → snapshot = store.artifactSnapshot snapshot.row ∧ verdict = .valid)
  | .returned => True
  | _ => store.remains p.artifactId = .nothing

end Fits

variable {p : Publication} {store store' : Store} {phase : Phase}

theorem validateSourceIds_congr (h : ∀ source ∈ p.sources, store'.frame source.frameId = store.frame source.frameId) :
    store'.validateSourceIds p = store.validateSourceIds p := by
  have hall : (p.sources.all fun source => (store'.frame source.frameId).any fun frame =>
      frame.sessionId = p.sessionId ∧ frame.targetId = p.targetId) =
      p.sources.all fun source => (store.frame source.frameId).any fun frame =>
        frame.sessionId = p.sessionId ∧ frame.targetId = p.targetId := by
    rw [Bool.eq_iff_iff, List.all_eq_true, List.all_eq_true]
    exact forall₂_congr fun source hsource => by rw [h source hsource]
  rw [Store.validateSourceIds, hall, ← Store.validateSourceIds]

variable {row : ArtifactRow}

theorem artifactSnapshot_congr (hsources : row.sources = p.sources)
    (h : ∀ source ∈ p.sources, store'.frame source.frameId = store.frame source.frameId) :
    store'.artifactSnapshot row = store.artifactSnapshot row := by
  rw [Store.artifactSnapshot, Store.artifactSnapshot, hsources]
  congr 1
  exact List.filterMap_congr fun source hsource => h source hsource

theorem Linked.affected (h : Linked sha256 p store) (ha : Affected p store store') : Linked sha256 p store' := by
  cases ha with
  | same hremains hframes =>
    rcases h with h | ⟨hrow, husage, hsources⟩
    · exact .inl (by rwa [hremains])
    · have hne : (store.remains p.artifactId).row ≠ none := by simp [hrow]
      exact .inr (by rw [hremains, validateSourceIds_congr (hframes hne)]; exact ⟨hrow, husage, hsources⟩)
  | evicted hremains => exact .inl (by simp [hremains])

theorem Stored.affected (h : Stored sha256 p store) (ha : Affected p store store') : Stored sha256 p store' := by
  cases ha with
  | same hremains hframes =>
    rcases h with h | ⟨hall, hsources⟩
    · exact .inl (hremains.trans h)
    · have hne : (store.remains p.artifactId).row ≠ none := by simp [hall]
      exact .inr ⟨hremains.trans hall, by rw [validateSourceIds_congr (hframes hne), hsources]⟩
  | evicted hremains =>
    rcases h with h | ⟨hall, -⟩
    · exact .inl (by rw [hremains, h]; rfl)
    · exact .inl (by rw [hremains, hall]; rfl)

theorem snapshot_affected {snapshot : ArtifactReadSnapshot} (h : Stored sha256 p store)
    (hsnapshot : snapshot.row = p.row sha256 .ready) (ha : Affected p store store') (hsome : store'.remains p.artifactId ≠ .nothing) :
    store.remains p.artifactId ≠ .nothing ∧ store'.artifactSnapshot snapshot.row = store.artifactSnapshot snapshot.row := by
  cases ha with
  | same hremains hframes =>
    rw [hremains] at hsome
    rcases h with h | ⟨hall, -⟩
    · exact absurd h hsome
    · have hne : (store.remains p.artifactId).row ≠ none := by simp [hall]
      exact ⟨hsome, artifactSnapshot_congr (by rw [hsnapshot]; rfl) (hframes hne)⟩
  | evicted hremains =>
    refine absurd ?_ hsome
    rcases h with h | ⟨hall, -⟩
    · rw [hremains, h]
      rfl
    · rw [hremains, hall]
      rfl

theorem nothing_affected (h : store.remains p.artifactId = .nothing) (ha : Affected p store store') :
    store'.remains p.artifactId = .nothing := by
  cases ha with
  | same hremains _ => exact hremains.trans h
  | evicted hremains => exact hremains.trans (by rw [h]; rfl)

theorem final_affected {bytes : List UInt8}
    (h : (store.remains p.artifactId).row ≠ none → (store.remains p.artifactId).final = some bytes)
    (ha : Affected p store store') (hrow : (store'.remains p.artifactId).row ≠ none) :
    (store'.remains p.artifactId).final = some bytes := by
  cases ha with
  | same hremains _ =>
    rw [hremains] at hrow ⊢
    exact h hrow
  | evicted hremains => exact absurd (by rw [hremains]) hrow

theorem temp_affected (ha : Affected p store store') :
    (store'.remains p.artifactId).temp = (store.remains p.artifactId).temp := by
  cases ha with
  | same hremains _ => rw [hremains]
  | evicted hremains => rw [hremains]

theorem final_none_affected (h : (store.remains p.artifactId).final = none) (ha : Affected p store store') :
    (store'.remains p.artifactId).final = none := by
  cases ha with
  | same hremains _ => rw [hremains, h]
  | evicted hremains => rw [hremains]

theorem Fits.affected (h : Fits sha256 p store phase) (ha : Affected p store store') : Fits sha256 p store' phase := by
  have htemp := temp_affected ha
  cases phase with
  | staged => exact ⟨h.1.affected ha, final_none_affected h.2.1 ha, htemp.trans h.2.2⟩
  | capacious => exact ⟨h.1.affected ha, final_none_affected h.2.1 ha, htemp.trans h.2.2⟩
  | writing step =>
    cases step with
    | queued => exact ⟨h.1.affected ha, final_none_affected h.2.1 ha, htemp.trans h.2.2⟩
    | clear => exact ⟨h.1.affected ha, final_none_affected h.2.1 ha, htemp.trans h.2.2⟩
    | create => exact ⟨h.1.affected ha, final_none_affected h.2.1 ha, htemp.trans h.2.2⟩
    | write => exact ⟨h.1.affected ha, final_none_affected h.2 ha⟩
    | sync => exact ⟨h.1.affected ha, final_none_affected h.2.1 ha, htemp.trans h.2.2⟩
    | synced => exact ⟨h.1.affected ha, final_none_affected h.2.1 ha, htemp.trans h.2.2⟩
    | rename => exact ⟨h.1.affected ha, final_none_affected h.2.1 ha, htemp.trans h.2.2⟩
    | renamed => exact ⟨h.1.affected ha, final_affected h.2.1 ha, htemp.trans h.2.2⟩
    | syncDirectory => exact ⟨h.1.affected ha, final_affected h.2.1 ha, htemp.trans h.2.2⟩
    | durable => exact ⟨h.1.affected ha, final_affected h.2.1 ha, htemp.trans h.2.2⟩
  | filed => exact ⟨h.1.affected ha, final_affected h.2.1 ha, htemp.trans h.2.2⟩
  | undoing => exact ⟨h.1.affected ha, htemp.trans h.2⟩
  | finalized => exact Stored.affected h ha
  | reading purpose snapshot =>
    cases purpose with
    | ready =>
      refine ⟨h.1.affected ha, h.2.1, fun hsome => ?_⟩
      obtain ⟨hne, hsame⟩ := snapshot_affected h.1 h.2.1 ha hsome
      exact (h.2.2 hne).trans hsame.symm
    | lookup => exact nothing_affected h ha
    | existing => exact nothing_affected h ha
  | checking purpose snapshot verdict =>
    cases purpose with
    | ready =>
      refine ⟨h.1.affected ha, h.2.1, fun hsome => ?_⟩
      obtain ⟨hne, hsame⟩ := snapshot_affected h.1 h.2.1 ha hsome
      exact ⟨(h.2.2 hne).1.trans hsame.symm, (h.2.2 hne).2⟩
    | lookup => exact nothing_affected h ha
    | existing => exact nothing_affected h ha
  | returned => trivial
  | begun => exact nothing_affected h ha
  | locked => exact nothing_affected h ha
  | invalidating => exact nothing_affected h ha
  | missed => exact nothing_affected h ha
  | validated => exact nothing_affected h ha
  | found => exact nothing_affected h ha

theorem Linked.sources (h : Linked sha256 p store) (hrow : (store.remains p.artifactId).row = some row) :
    row.sources = p.sources := by
  rcases h with ⟨hnone, -⟩ | ⟨hstaged, -⟩
  · cases hrow.symm.trans hnone
  · obtain rfl := Option.some.inj (hrow.symm.trans hstaged)
    rfl

theorem Stored.sources (h : Stored sha256 p store) (hrow : (store.remains p.artifactId).row = some row) :
    row.sources = p.sources := by
  rcases h with hnothing | ⟨hall, -⟩
  · rw [hnothing] at hrow
    cases hrow
  · rw [hall] at hrow
    cases hrow
    rfl

theorem Fits.sources (h : Fits sha256 p store phase) (hactive : phase ≠ .returned)
    (hrow : (store.remains p.artifactId).row = some row) : row.sources = p.sources := by
  have hnothing : store.remains p.artifactId = .nothing → row.sources = p.sources := fun hnothing => by
    rw [hnothing] at hrow
    cases hrow
  cases phase with
  | staged => exact h.1.sources hrow
  | capacious => exact h.1.sources hrow
  | writing step => cases step <;> exact h.1.sources hrow
  | filed => exact h.1.sources hrow
  | undoing => exact h.1.sources hrow
  | finalized => exact Stored.sources h hrow
  | reading purpose snapshot =>
    cases purpose with
    | ready => exact h.1.sources hrow
    | lookup => exact hnothing h
    | existing => exact hnothing h
  | checking purpose snapshot verdict =>
    cases purpose with
    | ready => exact h.1.sources hrow
    | lookup => exact hnothing h
    | existing => exact hnothing h
  | returned => exact absurd rfl hactive
  | begun => exact hnothing h
  | locked => exact hnothing h
  | invalidating => exact hnothing h
  | missed => exact hnothing h
  | validated => exact hnothing h
  | found => exact hnothing h

/-! ### The step of a call -/

/-- What a step of a call does to the store. -/
inductive Change (s : State) (call : Call) (reach : Reach) : Store → Prop
  | touches {store' : Store} : Touches call.publication s.store store' → Change s call reach store'
  | removes {id : ArtifactId} : id ∈ call.artifactId :: call.phase.removes →
      Change s call reach (s.store.removeObjects ⟨[id], [], none⟩ reach)

/-- The phase of the call fits, and its step leaves nothing behind. -/
def Sound (sha256 : List UInt8 → Sha256Digest) (s : State) (call : Call) (input : Input) : Prop :=
  Fits sha256 call.publication s.store call.phase ∧ s.leavesNothing call input = true

/-- A step of a call moves that call only, and, when it is sound, to a phase that fits or to an atomic return. -/
structure Advances (sha256 : List UInt8 → Sha256Digest) (s : State) (i : Nat) (call : Call) (input : Input) (s' : State) :
    Prop where
  calls : ∃ phase, s'.calls = s.calls.set i { call with phase } ∧
    (Sound sha256 s call input → Fits sha256 call.publication s'.store phase)
  deleted : s'.deleted = s.deleted
  drained : s'.drained = s.drained
  returns : ∃ rs, s'.returns = s.returns ++ rs ∧ (Sound sha256 s call input → ∀ r ∈ rs, r.Atomic sha256)
  change : Change s call input.reach s'.store

section Steps

variable {s s' : State} {i : Nat} {call : Call} {input : Input}

theorem advances_goTo (hchange : Change s call input.reach store')
    (h : Sound sha256 s call input → Fits sha256 call.publication store' phase) :
    Advances sha256 s i call input ((s.withStore store').goTo i call phase) where
  calls := ⟨phase, rfl, h⟩
  deleted := rfl
  drained := rfl
  returns := ⟨[], (List.append_nil _).symm, nofun⟩
  change := hchange

theorem advances_stay (h : Sound sha256 s call input → Fits sha256 call.publication s.store phase) :
    Advances sha256 s i call input (s.goTo i call phase) :=
  advances_goTo (.touches .refl) h

theorem advances_ret {outcome : Outcome} (hchange : Change s call input.reach store')
    (h : Sound sha256 s call input → Return.Atomic sha256 ⟨call.publication, outcome, store'.remains call.artifactId⟩) :
    Advances sha256 s i call input ((s.withStore store').ret i call outcome) where
  calls := ⟨.returned, rfl, fun _ => trivial⟩
  deleted := rfl
  drained := rfl
  returns := by
    refine ⟨_, rfl, fun hsound r hr => ?_⟩
    obtain rfl := List.mem_singleton.1 hr
    exact h hsound
  change := hchange

theorem atomic_failed {remains : Remains} (h : remains = .nothing) : Return.Atomic sha256 ⟨p, .failed, remains⟩ :=
  ⟨fun _ => h, nofun⟩

theorem atomic_existing {remains : Remains} : Return.Atomic sha256 ⟨p, .existing, remains⟩ :=
  ⟨nofun, nofun⟩

theorem advances_fail (h : Sound sha256 s call input → s.store.remains call.artifactId = .nothing) :
    Advances sha256 s i call input (s.ret i call .failed) :=
  advances_ret (.touches .refl) fun hsound => atomic_failed (h hsound)

theorem touches_temp (call : Call) (s : State) (reach : Reach) (temp : Option (List UInt8)) :
    Change s call reach (s.store.setTemp call.artifactId temp) :=
  .touches (Store.touches_setTemp temp)

theorem touches_final (call : Call) (s : State) (reach : Reach) (final : Option (List UInt8)) :
    Change s call reach (s.store.setFinal call.artifactId final) :=
  .touches (Store.touches_setFinal final)

theorem Sound.nothing (hphase : call.phase = phase)
    (hfits : Fits sha256 call.publication s.store phase = (s.store.remains call.publication.artifactId = .nothing))
    (h : Sound sha256 s call input) : s.store.remains call.artifactId = .nothing := by
  have hfit := h.1
  rwa [hphase, hfits] at hfit

theorem advances_giveUp (himage : Sound sha256 s call input → call.publication.kind = .image →
      s.store.remains call.artifactId = .nothing)
    (hvideo : Sound sha256 s call input → Linked sha256 call.publication s.store ∧
      (s.store.remains call.publication.artifactId).temp = none) :
    Advances sha256 s i call input (s.giveUp i call) := by
  unfold State.giveUp
  split
  · rename_i hkind
    exact advances_fail fun hsound => himage hsound hkind
  · exact advances_stay hvideo

theorem advances_stage (hphase : call.phase = .validated) :
    Advances sha256 s i call input (s.stage sha256 i call input) := by
  have hnothing : Sound sha256 s call input → s.store.remains call.artifactId = .nothing := Sound.nothing hphase rfl
  unfold State.stage
  split
  · exact advances_fail hnothing
  · rename_i hgo
    split
    · exact advances_fail hnothing
    · exact advances_stay hnothing
    · rename_i store hstaged
      obtain ⟨htouches, hsources, hremains⟩ := Store.stageArtifact_staged hstaged
      split
      · refine advances_goTo (.touches htouches) fun hsound => ?_
        have hempty := Remains.mk.inj (hnothing hsound)
        refine ⟨.inr ⟨by rw [hremains], by rw [hremains], hsources⟩, ?_, ?_⟩
        · rw [hremains]
          exact hempty.2.2.1
        · rw [hremains]
          exact hempty.2.2.2
      · rename_i hend
        refine advances_ret (.touches htouches) fun hsound => ?_
        -- a sound staging that was not rolled back is complete
        have hleaves := hsound.2
        simp only [State.leavesNothing, hphase, decide_eq_true_eq] at hleaves
        exact absurd (hleaves.resolve_right fun hback => hgo (.inr (.inr hback))) hend

theorem advances_useFound {row : ArtifactRow} (hphase : call.phase = .found row) :
    Advances sha256 s i call input (s.useFound i call input row) := by
  have hnothing : Sound sha256 s call input → s.store.remains call.artifactId = .nothing := Sound.nothing hphase rfl
  unfold State.useFound
  split
  · split
    · exact advances_stay hnothing
    · exact advances_fail hnothing
  · rename_i hstate
    have hmem : row.artifactId ∈ call.artifactId :: call.phase.removes := by simp [hphase, Phase.removes, hstate]
    exact advances_ret (.removes hmem) fun hsound =>
      atomic_failed ((Store.shrinks_removeObjects _ _ _).nothing (hnothing hsound))

variable {snapshot : ArtifactReadSnapshot}

theorem advances_invalidate (hphase : call.phase = .invalidating snapshot) :
    Advances sha256 s i call input (s.invalidate i call input snapshot) := by
  have hnothing : Sound sha256 s call input → s.store.remains call.artifactId = .nothing := Sound.nothing hphase rfl
  have hmem : snapshot.row.artifactId ∈ call.artifactId :: call.phase.removes := by simp [hphase, Phase.removes]
  have hkept := fun hsound =>
    (Store.shrinks_removeObjects s.store ⟨[snapshot.row.artifactId], [], none⟩ input.reach).nothing (hnothing hsound)
  by_cases hok : input.ok = false
  · rw [State.invalidate, if_pos hok]
    exact advances_fail hnothing
  · by_cases hcurrent : (s.store.artifactRow snapshot.row.artifactId).map s.store.artifactSnapshot = some snapshot
    · rw [State.invalidate, if_neg hok, if_pos hcurrent]
      by_cases hreach : input.reach = .done
      · simp only [hreach, if_true]
        exact hreach ▸ advances_goTo (.removes hmem) hkept
      · simp only [hreach, if_false]
        exact advances_ret (.removes hmem) fun hsound => atomic_failed (hkept hsound)
    · rw [State.invalidate, if_neg hok, if_neg hcurrent]
      exact advances_stay hnothing

theorem frames_of_validateSourceIds (h : store.validateSourceIds p = true) :
    (p.sources.filterMap fun source => store.frame source.frameId).length = p.sources.length ∧
      ∀ frame ∈ p.sources.filterMap (fun source => store.frame source.frameId),
        frame.sessionId = p.sessionId ∧ frame.targetId = p.targetId := by
  have hall := List.all_eq_true.1 (of_decide_eq_true h).2
  have hfound : ∀ source ∈ p.sources, ∃ frame, store.frame source.frameId = some frame ∧
      frame.sessionId = p.sessionId ∧ frame.targetId = p.targetId := by
    intro source hsource
    obtain ⟨frame, hframe, hsame⟩ := (Option.any_eq_true _ _).1 (hall source hsource)
    exact ⟨frame, hframe, of_decide_eq_true hsame⟩
  constructor
  · refine List.filterMap_length_eq_length.2 fun source hsource => ?_
    obtain ⟨frame, hframe, -⟩ := hfound source hsource
    simp [hframe]
  · intro frame hmem
    obtain ⟨source, hsource, hframe⟩ := List.mem_filterMap.1 hmem
    obtain ⟨found, hfound, hsame⟩ := hfound source hsource
    obtain rfl := Option.some.inj (hframe.symm.trans hfound)
    exact hsame

theorem validateStoredArtifact_row : validateStoredArtifact sha256 (p.row sha256 .ready) p.encodedBytes p.sources = true := by
  simp [validateStoredArtifact, Publication.row]

theorem readFiles_valid (hok : input.ok = true) (hintact : input.sources = .intact)
    (hfinal : s.store.finals call.artifactId = some call.publication.encodedBytes)
    (hsources : s.store.validateSourceIds call.publication = true) :
    s.readFiles sha256 call input (s.store.artifactSnapshot (call.publication.row sha256 .ready)) = .valid := by
  obtain ⟨hlength, hframes⟩ := frames_of_validateSourceIds hsources
  have hsame : (call.publication.sources.filterMap fun source => s.store.frame source.frameId).any (fun frame =>
      frame.sessionId ≠ call.publication.sessionId ∨ frame.targetId ≠ call.publication.targetId) = false := by
    refine List.any_eq_false.2 fun frame hframe => ?_
    simp [hframes frame hframe]
  have hcount : ¬(input.sources = .unreadable ∨
      (call.publication.sources.filterMap fun source => s.store.frame source.frameId).length ≠
        call.publication.sources.length) := by
    rintro (hunreadable | hne)
    · cases hintact.symm.trans hunreadable
    · exact hne hlength
  refine (if_neg hcount).trans ((if_neg (Bool.eq_false_iff.1 hsame)).trans ((if_neg ?_).trans ?_))
  · simp [hintact, hok]
  · split
    · rename_i hnone
      cases hfinal.symm.trans hnone
    · rename_i bytes hbytes
      cases hfinal.symm.trans hbytes
      exact if_pos validateStoredArtifact_row

theorem advances_reading {purpose : Purpose} (hphase : call.phase = .reading purpose snapshot) :
    Advances sha256 s i call input (s.goTo i call (.checking purpose snapshot (s.readFiles sha256 call input snapshot))) := by
  refine advances_stay fun hsound => ?_
  have hfits := hsound.1
  rw [hphase] at hfits
  cases purpose with
  | lookup => exact hfits
  | existing => exact hfits
  | ready =>
    obtain ⟨hstored, hrow, hsnapshot⟩ := hfits
    refine ⟨hstored, hrow, fun hsome => ⟨hsnapshot hsome, ?_⟩⟩
    obtain ⟨hall, hsources⟩ := hstored.resolve_left hsome
    have hleaves := hsound.2
    simp only [State.leavesNothing, hphase, decide_eq_true_eq] at hleaves
    obtain ⟨hok, hintact⟩ := hleaves.resolve_left hsome
    rw [hsnapshot hsome, hrow]
    exact readFiles_valid hok hintact (Remains.mk.inj hall).2.2.1 hsources

theorem revalidate_ready {verdict : Verdict} (hphase : call.phase = .checking .ready snapshot verdict)
    (hsound : Sound sha256 s call input) :
    s.store.remains call.artifactId = .nothing ∧ s.revalidate input snapshot verdict ≠ .valid ∨
      s.store.remains call.artifactId =
          ⟨some (call.publication.row sha256 .ready), true, some call.publication.encodedBytes, none⟩ ∧
        s.revalidate input snapshot verdict = .valid := by
  have hfits := hsound.1
  rw [hphase] at hfits
  obtain ⟨hstored, hrow, hsnapshot⟩ := hfits
  have hid : snapshot.row.artifactId = call.artifactId := by rw [hrow]; rfl
  by_cases hgone : s.store.remains call.artifactId = .nothing
  · left
    refine ⟨hgone, ?_⟩
    have hnone : s.store.artifactRow call.artifactId = none := (Remains.mk.inj hgone).1
    unfold State.revalidate
    simp only [hid, hnone]
    split
    · simp
    · split
      · simp
      · simp
  · right
    obtain ⟨hall, -⟩ := hstored.resolve_left hgone
    obtain ⟨hcurrent, hverdict⟩ := hsnapshot hgone
    have hleaves := hsound.2
    simp only [State.leavesNothing, hphase, decide_eq_true_eq] at hleaves
    obtain ⟨hok, hlive⟩ := hleaves.resolve_left hgone
    have hsome : s.store.artifactRow call.artifactId = some snapshot.row := (Remains.mk.inj hall).1.trans (by rw [hrow])
    have hready : snapshot.row.state = .ready := by rw [hrow]; rfl
    have hsession : snapshot.row.sessionId = call.sessionId := by rw [hrow]; rfl
    refine ⟨hall, ?_⟩
    unfold State.revalidate
    simp [hid, hsome, hready, hsession, hlive, hok, ← hcurrent, hverdict]

theorem advances_checking {purpose : Purpose} {verdict : Verdict} (hphase : call.phase = .checking purpose snapshot verdict) :
    Advances sha256 s i call input (s.answer i call snapshot purpose (s.revalidate input snapshot verdict)) := by
  cases purpose with
  | lookup =>
    have hnothing : Sound sha256 s call input → s.store.remains call.artifactId = .nothing := Sound.nothing hphase rfl
    cases s.revalidate input snapshot verdict with
    | valid => exact advances_ret (.touches .refl) fun _ => atomic_existing
    | notFound => exact advances_stay hnothing
    | invalidated => exact advances_stay hnothing
    | failed => exact advances_fail hnothing
  | existing =>
    have hnothing : Sound sha256 s call input → s.store.remains call.artifactId = .nothing := Sound.nothing hphase rfl
    cases s.revalidate input snapshot verdict with
    | valid =>
      refine advances_ret (.touches .refl) fun hsound => ?_
      by_cases hkind : snapshot.row.kind = call.publication.kind
      · rw [if_pos hkind]
        exact atomic_existing
      · rw [if_neg hkind]
        exact atomic_failed (hnothing hsound)
    | notFound => exact advances_fail hnothing
    | invalidated => exact advances_fail hnothing
    | failed => exact advances_fail hnothing
  | ready =>
    have hready := fun hsound : Sound sha256 s call input => revalidate_ready hphase hsound
    have hfailed : s.revalidate input snapshot verdict ≠ .valid → Sound sha256 s call input →
        s.store.remains call.artifactId = .nothing := by
      intro hne hsound
      exact (hready hsound).elim And.left fun h => absurd h.2 hne
    cases hverdict : s.revalidate input snapshot verdict with
    | valid =>
      refine advances_ret (.touches .refl) fun hsound => ⟨nofun, fun _ => ?_⟩
      obtain ⟨hall, -⟩ := (hready hsound).resolve_left fun h => h.2 hverdict
      exact ⟨_, _, by rw [hall], rfl, by rw [hall], validateStoredArtifact_row⟩
    | notFound => exact advances_fail (hfailed (by rw [hverdict]; exact nofun))
    | invalidated => exact advances_fail (hfailed (by rw [hverdict]; exact nofun))
    | failed => exact advances_fail (hfailed (by rw [hverdict]; exact nofun))

theorem advances_finalized {row : ArtifactRow} (hphase : call.phase = .finalized)
    (hrow : s.store.artifactRow call.artifactId = some row) :
    Advances sha256 s i call input (s.goTo i call (.reading .ready (s.store.artifactSnapshot row))) := by
  refine advances_stay fun hsound => ?_
  have hfits := hsound.1
  rw [hphase] at hfits
  have hstored : Stored sha256 call.publication s.store := hfits
  have hrowRemains : (s.store.remains call.publication.artifactId).row = some row := hrow
  obtain ⟨hall, -⟩ := hstored.resolve_left fun hnothing => by rw [hnothing] at hrowRemains; nomatch hrowRemains
  rw [hall] at hrowRemains
  cases hrowRemains
  exact ⟨hstored, rfl, fun _ => rfl⟩

/-! ### The capacity, the file and the finalization -/

theorem advances_reserve (hphase : call.phase = .staged) : Advances sha256 s i call input (s.reserve i call input) := by
  have hfits : Sound sha256 s call input → Linked sha256 call.publication s.store ∧
      (s.store.remains call.publication.artifactId).final = none ∧
        (s.store.remains call.publication.artifactId).temp = none := by
    intro hsound
    have h := hsound.1
    rwa [hphase] at h
  have himage : input.ok ≠ true → Sound sha256 s call input → call.publication.kind = .image →
      s.store.remains call.artifactId = .nothing := by
    intro hok hsound hkind
    have hleaves := hsound.2
    simp only [State.leavesNothing, hphase, decide_eq_true_eq] at hleaves
    exact hleaves.resolve_right fun h => hok (h hkind)
  unfold State.reserve
  split
  · split
    · exact advances_stay hfits
    · rename_i hok
      exact advances_giveUp (himage hok) fun hsound => ⟨(hfits hsound).1, (hfits hsound).2.2⟩
  · rename_i hvideo
    split
    · exact advances_stay hfits
    · refine advances_giveUp (fun _ hkind => ?_) fun hsound => ⟨(hfits hsound).1, (hfits hsound).2.2⟩
      cases hvideo.symm.trans hkind

theorem linked_setTemp {temp : Option (List UInt8)} (h : Linked sha256 p store) :
    Linked sha256 p (store.setTemp p.artifactId temp) := by
  simpa [Linked] using h

theorem linked_setFinal {final : Option (List UInt8)} (h : Linked sha256 p store) :
    Linked sha256 p (store.setFinal p.artifactId final) := by
  simpa [Linked] using h

theorem advances_undo (h : Sound sha256 s call input → Linked sha256 call.publication s.store ∧
      (s.store.remains call.publication.artifactId).temp = none) :
    Advances sha256 s i call input (s.goTo i call .undoing) :=
  advances_stay h

theorem advances_check {cleaned : Store} (hchange : Change s call input.reach cleaned)
    (hcleaned : Sound sha256 s call input → Linked sha256 call.publication cleaned ∧
      (cleaned.remains call.publication.artifactId).temp = none)
    (hleft : Sound sha256 s call input → call.isCancelled = true → input.ok ≠ true →
      Linked sha256 call.publication s.store ∧ (s.store.remains call.publication.artifactId).temp = none)
    (hnext : Sound sha256 s call input → Fits sha256 call.publication s.store phase) :
    Advances sha256 s i call input
      (if call.isCancelled then (if input.ok then s.withStore cleaned else s).goTo i call .undoing
        else s.goTo i call phase) := by
  by_cases hcancelled : call.isCancelled = true
  · rw [if_pos hcancelled]
    by_cases hok : input.ok = true
    · rw [if_pos hok]
      exact advances_goTo hchange hcleaned
    · rw [if_neg hok]
      exact advances_undo fun hsound => hleft hsound hcancelled hok
  · rw [if_neg hcancelled]
    exact advances_stay hnext

theorem advances_publishFile {step : FileStep} (hphase : call.phase = .writing step) :
    Advances sha256 s i call input (s.publishFile i call input step) := by
  have hfits : Sound sha256 s call input → Fits sha256 call.publication s.store (.writing step) := fun h => hphase ▸ h.1
  have hleaves := fun hsound : Sound sha256 s call input => hsound.2
  have htemp := touches_temp call s input.reach
  have hfinal := touches_final call s input.reach
  simp only [State.leavesNothing, hphase] at hleaves
  unfold State.publishFile
  cases step with
  | queued =>
    dsimp only
    split
    · exact advances_undo fun hsound => ⟨(hfits hsound).1, (hfits hsound).2.2⟩
    · exact advances_stay hfits
  | clear =>
    dsimp only
    split
    · refine advances_goTo (htemp none) fun hsound => ⟨linked_setTemp (hfits hsound).1, ?_, ?_⟩
      · simpa [Call.artifactId] using (hfits hsound).2.1
      · simp [Call.artifactId]
    · exact advances_undo fun hsound => ⟨(hfits hsound).1, (hfits hsound).2.2⟩
  | create =>
    dsimp only
    split
    · refine advances_goTo (htemp (some [])) fun hsound => ⟨linked_setTemp (hfits hsound).1, ?_⟩
      simpa [Call.artifactId] using (hfits hsound).2.1
    · exact advances_undo fun hsound => ⟨(hfits hsound).1, (hfits hsound).2.2⟩
  | write =>
    dsimp only
    split
    · refine advances_goTo (htemp _) fun hsound => ⟨linked_setTemp (hfits hsound).1, ?_, ?_⟩
      · simpa [Call.artifactId] using (hfits hsound).2
      · simp [Call.artifactId]
    · rename_i hok
      exact advances_undo fun hsound => absurd (hleaves hsound) hok
  | sync =>
    dsimp only
    split
    · exact advances_stay hfits
    · rename_i hok
      exact advances_undo fun hsound => absurd (hleaves hsound) hok
  | synced =>
    refine advances_check (htemp none) (fun hsound => ⟨linked_setTemp (hfits hsound).1, ?_⟩) ?_ hfits
    · simp [Call.artifactId]
    · intro hsound hcancelled hok
      exact absurd (of_decide_eq_true (hleaves hsound) hcancelled) hok
  | rename =>
    dsimp only
    split
    · refine advances_goTo (.touches ((Store.touches_setFinal _).trans (Store.touches_setTemp _))) fun hsound => ?_
      refine ⟨linked_setTemp (linked_setFinal (hfits hsound).1), fun _ => ?_, ?_⟩
      · simp only [Call.artifactId, Store.remains_setTemp, Store.remains_setFinal]
        exact (hfits hsound).2.2
      · simp [Call.artifactId]
    · rename_i hok
      exact advances_undo fun hsound => absurd (hleaves hsound) hok
  | renamed =>
    refine advances_check (hfinal none) (fun hsound => ⟨linked_setFinal (hfits hsound).1, ?_⟩) ?_ hfits
    · simpa [Call.artifactId] using (hfits hsound).2.2
    · exact fun hsound _ _ => ⟨(hfits hsound).1, (hfits hsound).2.2⟩
  | syncDirectory =>
    dsimp only
    split
    · exact advances_stay hfits
    · exact advances_undo fun hsound => ⟨(hfits hsound).1, (hfits hsound).2.2⟩
  | durable =>
    refine advances_check (hfinal none) (fun hsound => ⟨linked_setFinal (hfits hsound).1, ?_⟩) ?_ hfits
    · simpa [Call.artifactId] using (hfits hsound).2.2
    · exact fun hsound _ _ => ⟨(hfits hsound).1, (hfits hsound).2.2⟩

/-- The image path leaves nothing when its reclaim fails, or when its transaction does after the row was evicted. -/
theorem advances_finalize (hphase : call.phase = .filed)
    (hrows : ∀ row ∈ s.store.rows, row.artifactId = call.artifactId → row.sessionId = call.sessionId) :
    Advances sha256 s i call input (s.finalize i call input) := by
  have hfits : Sound sha256 s call input → Fits sha256 call.publication s.store .filed := fun h => hphase ▸ h.1
  have himage : Sound sha256 s call input → call.publication.kind = .image →
      s.store.remains call.artifactId ≠ .nothing →
      input.ok = true ∧ ((call.isCancelled = true ∨ call.sessionId ∈ s.deleted) ∨
        input.commits = true ∧ (s.store.artifactRow call.artifactId).isSome = true) := by
    intro hsound hkind hsome
    have hleaves := hsound.2
    simp only [State.leavesNothing, hphase, decide_eq_true_eq] at hleaves
    exact hleaves.resolve_left hsome hkind
  have hundo : Sound sha256 s call input → Linked sha256 call.publication s.store ∧
      (s.store.remains call.publication.artifactId).temp = none := fun hsound => ⟨(hfits hsound).1, (hfits hsound).2.2⟩
  unfold State.finalize
  split
  · rename_i hreclaim
    refine advances_giveUp (fun hsound hkind => by_contra fun hsome => ?_) hundo
    rcases hreclaim with hok | ⟨hvideo, -⟩
    · exact Bool.false_ne_true (hok.symm.trans (himage hsound hkind hsome).1)
    · cases hvideo.symm.trans hkind
  · split
    · exact advances_undo hundo
    · rename_i hgo
      have hcommits : Sound sha256 s call input → call.publication.kind = .image →
          s.store.remains call.artifactId ≠ .nothing →
          input.commits = true ∧ (s.store.artifactRow call.artifactId).isSome = true :=
        fun hsound hkind hsome => (himage hsound hkind hsome).2.resolve_left hgo
      split
      · rename_i store hfinalized
        split
        · obtain ⟨htouches, hsources, row, hrow, hremains⟩ := Store.finalizeArtifact_some hrows hfinalized
          refine advances_goTo (.touches htouches) fun hsound => ?_
          obtain ⟨hlinked, hfinal, htemp⟩ := hfits hsound
          have hsome : (s.store.remains call.publication.artifactId).row = some row := hrow
          have hne : (s.store.remains call.publication.artifactId).row ≠ none := by simp [hsome]
          obtain ⟨hstaged, husage, -⟩ := hlinked.resolve_left fun h => hne h.1
          obtain rfl := Option.some.inj (hsome.symm.trans hstaged)
          refine .inr ⟨?_, hsources⟩
          rw [hremains]
          simp only [husage, hfinal hne, htemp]
          rfl
        · rename_i hnot
          refine advances_giveUp (fun hsound hkind => by_contra fun hsome => ?_) hundo
          exact hnot (hcommits hsound hkind hsome).1
      · rename_i hnone
        refine advances_giveUp (fun hsound hkind => by_contra fun hsome => ?_) hundo
        obtain ⟨row, hrow⟩ := Option.isSome_iff_exists.1 (hcommits hsound hkind hsome).2
        have hsomeRow : (s.store.remains call.publication.artifactId).row = some row := hrow
        obtain ⟨hstaged, -, hsources⟩ := (hfits hsound).1.resolve_left fun h => nomatch hsomeRow.symm.trans h.1
        have := Store.finalizeArtifact_isSome hstaged hsources
        rw [hnone] at this
        cases this

theorem advances_undoing (hphase : call.phase = .undoing) :
    Advances sha256 s i call input
      ((s.withStore (s.store.removeObjects ⟨[call.artifactId], [], none⟩ input.reach)).ret i call .failed) := by
  refine advances_ret (.removes List.mem_cons_self) fun hsound => atomic_failed ?_
  have hfits := hsound.1
  rw [hphase] at hfits
  have hleaves := hsound.2
  simp only [State.leavesNothing, hphase, decide_eq_true_eq] at hleaves
  rcases hleaves with hgone | hreach
  · exact (Store.shrinks_removeObjects _ _ _).nothing hgone
  · have htemp : (s.store.remains call.artifactId).temp = none := hfits.2
    rw [Store.remains_finalized s.store ⟨[call.artifactId], [], none⟩ call.artifactId
      nofun nofun hreach, if_pos List.mem_cons_self]
    simp only [htemp]
    rfl

theorem advances_of_advance
    (hrows : ∀ row ∈ s.store.rows, row.artifactId = call.artifactId → row.sessionId = call.sessionId)
    (h : s.advance sha256 i call input = some s') : Advances sha256 s i call input s' := by
  unfold State.advance at h
  split at h
  · rename_i hphase
    split at h
    · cases h
    · cases h
      exact advances_stay (Sound.nothing hphase rfl)
  · rename_i hphase
    split at h
    · cases h
      exact advances_fail (Sound.nothing hphase rfl)
    · split at h <;> cases h
      · exact advances_stay (Sound.nothing hphase rfl)
      · exact advances_stay (Sound.nothing hphase rfl)
  · rename_i purpose snapshot hphase
    cases h
    exact advances_reading hphase
  · rename_i purpose snapshot verdict hphase
    cases h
    exact advances_checking hphase
  · rename_i snapshot hphase
    cases h
    exact advances_invalidate hphase
  · rename_i hphase
    cases h
    split
    · exact advances_stay (Sound.nothing hphase rfl)
    · exact advances_fail (Sound.nothing hphase rfl)
  · rename_i hphase
    cases h
    exact advances_stage hphase
  · rename_i row hphase
    cases h
    exact advances_useFound hphase
  · rename_i hphase
    cases h
    exact advances_reserve hphase
  · rename_i hphase
    cases h
    have hfits : Sound sha256 s call input → Fits sha256 call.publication s.store .capacious := fun h => hphase ▸ h.1
    refine advances_stay fun hsound => ?_
    split
    · exact hfits hsound
    · exact ⟨(hfits hsound).1, (hfits hsound).2.2⟩
  · rename_i step hphase
    cases h
    exact advances_publishFile hphase
  · rename_i hphase
    cases h
    exact advances_finalize hphase hrows
  · rename_i hphase
    cases h
    exact advances_undoing hphase
  · rename_i hphase
    have hstored : Sound sha256 s call input → Stored sha256 call.publication s.store := fun hsound => by
      have hfits := hsound.1
      rwa [hphase] at hfits
    split at h <;> cases h
    · rename_i row hrow
      split
      · exact advances_finalized hphase hrow
      · rename_i hok
        refine advances_fail fun hsound => ?_
        have hleaves := hsound.2
        simp only [State.leavesNothing, hphase, decide_eq_true_eq] at hleaves
        exact hleaves.resolve_right hok
    · rename_i hnone
      refine advances_fail fun hsound => (hstored hsound).resolve_right fun hall => ?_
      cases hnone.symm.trans (Remains.mk.inj hall.1).1
  · cases h

end Steps

/-- The ids of the calls differ, and what the tables have of them is theirs; the calls of a drained session have returned.
No failure breaks this. -/
structure State.Tracked (s : State) : Prop where
  distinct : ∀ (i j : Nat) (a b : Call), s.calls[i]? = some a → s.calls[j]? = some b →
    a.artifactId = b.artifactId → i = j
  rows : ∀ call ∈ s.calls, ∀ row ∈ s.store.rows, row.artifactId = call.artifactId → row.sessionId = call.sessionId
  usage : ∀ call ∈ s.calls, ∀ u ∈ s.store.usage, u.1 = call.artifactId → u.2 = call.sessionId
  deleted : ∀ session ∈ s.drained, session ∈ s.deleted
  drained : ∀ session ∈ s.drained, ∀ call ∈ s.calls, call.sessionId = session → call.isActive = false

/-- What the store has fits the phases of the calls, and every return was atomic. -/
structure State.Clean (sha256 : List UInt8 → Sha256Digest) (s : State) : Prop where
  fits : ∀ call ∈ s.calls, Fits sha256 call.publication s.store call.phase
  returns : ∀ r ∈ s.returns, r.Atomic sha256

variable {s s' : State} {i : Nat} {call : Call} {input : Input}

theorem isActive_of_advance (h : s.advance sha256 i call input = some s') : call.isActive = true := by
  refine decide_eq_true fun hphase => ?_
  rw [State.advance, hphase] at h
  cases h

theorem phase_of_not_isActive (h : ¬call.isActive = true) : call.phase = .returned := by
  by_contra hphase
  exact h (decide_eq_true hphase)

variable {reach : Reach} {session : SessionId} {action : Action}

theorem Change.owned (h : Change s call reach store') (other : Call)
    (hsame : other.artifactId = call.artifactId → other.sessionId = call.sessionId)
    (hrows : ∀ row ∈ s.store.rows, row.artifactId = other.artifactId → row.sessionId = other.sessionId)
    (husage : ∀ u ∈ s.store.usage, u.1 = other.artifactId → u.2 = other.sessionId) :
    (∀ row ∈ store'.rows, row.artifactId = other.artifactId → row.sessionId = other.sessionId) ∧
      ∀ u ∈ store'.usage, u.1 = other.artifactId → u.2 = other.sessionId := by
  cases h with
  | touches htouches =>
    constructor
    · intro row hrow hid
      rcases htouches.rows row hrow with hold | ⟨hown, hsession⟩
      · exact hrows row hold hid
      · exact hsession.trans (hsame (hid.symm.trans hown)).symm
    · intro u hu hid
      rcases htouches.usage u hu with hold | rfl
      · exact husage u hold hid
      · exact (hsame hid.symm).symm
  | removes =>
    have hshrinks := Store.shrinks_removeObjects s.store
    exact ⟨fun row hrow => hrows row ((hshrinks _ _).rows row hrow), fun u hu => husage u ((hshrinks _ _).usage u hu)⟩

theorem Change.affected (h : Change s call input.reach store') (hs : s.Tracked) (hi : s.calls[i]? = some call)
    (hwhole : s.completes call.phase.removes input.reach = true) {j : Nat} {other : Call} (hj : s.calls[j]? = some other)
    (hne : j ≠ i) (hactive : other.isActive = true) : Affected other.publication s.store store' := by
  have hid : other.artifactId ≠ call.artifactId := fun heq => hne (hs.distinct j i other call hj hi heq)
  cases h with
  | touches htouches => exact htouches.affected hid
  | @removes id hmem =>
    refine Store.affected_removeObjects nofun nofun
      nofun ?_
    rcases of_decide_eq_true hwhole with hreach | hall
    · exact .inl hreach
    · refine .inr fun hlisted => ?_
      obtain rfl := List.mem_singleton.1 hlisted
      have hremoves := (List.mem_cons.1 hmem).resolve_left hid
      exact of_decide_eq_true (List.all_eq_true.1 hall other (List.mem_of_getElem? hj)) hactive hremoves

/-- The calls are those of another state, up to their phases, tokens and signals, where the call at `i` has been active. -/
theorem State.Tracked.of_calls (hs : s.Tracked) (hdeleted : ∀ session ∈ s.drained, session ∈ s'.deleted)
    (hdrained : s'.drained = s.drained)
    (hcalls : ∀ (j : Nat) (other : Call), s'.calls[j]? = some other → ∃ before, s.calls[j]? = some before ∧
      before.publication = other.publication ∧ (before.isActive = false → other.isActive = false))
    (howned : ∀ other ∈ s.calls,
      (∀ row ∈ s'.store.rows, row.artifactId = other.artifactId → row.sessionId = other.sessionId) ∧
        ∀ u ∈ s'.store.usage, u.1 = other.artifactId → u.2 = other.sessionId) : s'.Tracked := by
  have hmem : ∀ other ∈ s'.calls, ∃ before ∈ s.calls, before.publication = other.publication ∧
      (before.isActive = false → other.isActive = false) := by
    intro other hother
    obtain ⟨j, hj⟩ := List.mem_iff_getElem?.1 hother
    obtain ⟨before, hbefore, hsame⟩ := hcalls j other hj
    exact ⟨before, List.mem_of_getElem? hbefore, hsame⟩
  refine ⟨?_, ?_, ?_, hdrained ▸ hdeleted, ?_⟩
  · intro j k a b hj hk heq
    obtain ⟨a', ha, hasame, -⟩ := hcalls j a hj
    obtain ⟨b', hb, hbsame, -⟩ := hcalls k b hk
    refine hs.distinct j k a' b' ha hb ?_
    rw [Call.artifactId, Call.artifactId, hasame, hbsame]
    exact heq
  · intro other hother row hrow hid
    obtain ⟨before, hbefore, hsame, -⟩ := hmem other hother
    rw [Call.artifactId, ← hsame] at hid
    rw [Call.sessionId, ← hsame]
    exact (howned before hbefore).1 row hrow hid
  · intro other hother u hu hid
    obtain ⟨before, hbefore, hsame, -⟩ := hmem other hother
    rw [Call.artifactId, ← hsame] at hid
    rw [Call.sessionId, ← hsame]
    exact (howned before hbefore).2 u hu hid
  · intro session hsession other hother hsame
    obtain ⟨before, hbefore, hpublication, hinactive⟩ := hmem other hother
    rw [Call.sessionId, ← hpublication] at hsame
    exact hinactive (hs.drained session (hdrained ▸ hsession) before hbefore hsame)

theorem Advances.cases_calls (h : Advances sha256 s i call input s') {j : Nat} {other : Call} (hj : s'.calls[j]? = some other) :
    (∃ phase, j = i ∧ other = { call with phase } ∧
      (Sound sha256 s call input → Fits sha256 call.publication s'.store phase)) ∨
        j ≠ i ∧ s.calls[j]? = some other := by
  obtain ⟨phase, hcalls, hfits⟩ := h.calls
  rw [hcalls] at hj
  exact (Cells.cases_of_set hj).imp_left fun ⟨hji, hother⟩ => ⟨phase, hji, hother, hfits⟩

theorem State.Tracked.advances (hs : s.Tracked) (hi : s.calls[i]? = some call) (hactive : call.isActive = true)
    (h : Advances sha256 s i call input s') : s'.Tracked := by
  refine hs.of_calls (fun session hsession => h.deleted ▸ hs.deleted session hsession) h.drained ?_ ?_
  · intro j other hj
    rcases h.cases_calls hj with ⟨phase, rfl, rfl, -⟩ | ⟨-, hj⟩
    · exact ⟨call, hi, rfl, fun hinactive => nomatch hactive.symm.trans hinactive⟩
    · exact ⟨other, hj, rfl, id⟩
  · intro other hother
    obtain ⟨j, hj⟩ := List.mem_iff_getElem?.1 hother
    refine h.change.owned other (fun heq => ?_) (hs.rows other hother) (hs.usage other hother)
    obtain rfl := hs.distinct j i other call hj hi heq
    rw [Option.some.inj (hj.symm.trans hi)]

theorem State.Clean.advances (hc : s.Clean sha256) (hs : s.Tracked) (hi : s.calls[i]? = some call)
    (hsound : Sound sha256 s call input) (hwhole : s.completes call.phase.removes input.reach = true)
    (h : Advances sha256 s i call input s') : s'.Clean sha256 := by
  constructor
  · intro other hother
    obtain ⟨j, hj⟩ := List.mem_iff_getElem?.1 hother
    rcases h.cases_calls hj with ⟨phase, -, rfl, hfits⟩ | ⟨hne, hj⟩
    · exact hfits hsound
    · by_cases hactive : other.isActive = true
      · exact (hc.fits other (List.mem_of_getElem? hj)).affected (h.change.affected hs hi hwhole hj hne hactive)
      · rw [phase_of_not_isActive hactive]
        trivial
  · obtain ⟨rs, hreturns, hrs⟩ := h.returns
    rw [hreturns]
    intro r hr
    rcases List.mem_append.1 hr with hr | hr
    · exact hc.returns r hr
    · exact hrs hsound r hr

theorem State.Tracked.begin {q : Publication} (hs : s.Tracked) (hfresh : s.isFresh q.artifactId = true)
    (hlive : q.sessionId ∉ s.deleted) : State.Tracked { s with calls := s.calls ++ [⟨q, .begun, false, false⟩] } := by
  obtain ⟨hother, hnothing⟩ := of_decide_eq_true hfresh
  have hne : ∀ call ∈ s.calls, call.artifactId ≠ q.artifactId := fun call hcall =>
    of_decide_eq_true (List.all_eq_true.1 hother call hcall)
  obtain ⟨hrow, husage, -, -⟩ := Remains.mk.inj hnothing
  have hcases : ∀ call ∈ s.calls ++ [⟨q, .begun, false, false⟩],
      call ∈ s.calls ∨ call = ⟨q, .begun, false, false⟩ :=
    fun call hcall => (List.mem_append.1 hcall).imp_right List.mem_singleton.1
  refine ⟨?_, ?_, ?_, hs.deleted, ?_⟩
  · intro j k a b hj hk heq
    rcases Cells.cases_of_push hj with hj | ⟨rfl, rfl⟩
    · rcases Cells.cases_of_push hk with hk | ⟨rfl, rfl⟩
      · exact hs.distinct j k a b hj hk heq
      · exact absurd heq (hne a (List.mem_of_getElem? hj))
    · rcases Cells.cases_of_push hk with hk | ⟨rfl, rfl⟩
      · exact absurd heq.symm (hne b (List.mem_of_getElem? hk))
      · rfl
  · intro call hcall row hmem hid
    rcases hcases call hcall with hcall | rfl
    · exact hs.rows call hcall row hmem hid
    · exact absurd (decide_eq_true hid) (List.find?_eq_none.1 hrow row hmem)
  · intro call hcall u hmem hid
    rcases hcases call hcall with hcall | rfl
    · exact hs.usage call hcall u hmem hid
    · exact absurd (decide_eq_true hid) (List.any_eq_false.1 husage u hmem)
  · intro session hsession call hcall hsame
    rcases hcases call hcall with hcall | rfl
    · exact hs.drained session hsession call hcall hsame
    · subst hsame
      exact absurd (hs.deleted _ hsession) hlive

theorem session_of_mayRemove {reclaimer : Option Nat} {victim : Victim} (h : s.mayRemove reclaimer victim = true)
    (hsession : (s.store.deletionBatch victim).session = some session) : session ∈ s.drained := by
  cases victim with
  | artifact => cases hsession
  | segment => cases hsession
  | session id =>
    cases hsession
    exact of_decide_eq_true (Bool.and_eq_true_iff.1 h).2

theorem State.Clean.remove (hc : s.Clean sha256) (hs : s.Tracked) {reclaimer : Option Nat} {victim : Victim}
    (hmay : s.mayRemove reclaimer victim = true) (hwhole : s.completes (s.store.deletionBatch victim).artifacts reach = true) :
    State.Clean sha256 (s.withStore (s.store.removeObjects (s.store.deletionBatch victim) reach)) := by
  refine ⟨fun call hcall => ?_, hc.returns⟩
  by_cases hactive : call.isActive = true
  · refine (hc.fits call hcall).affected (Store.affected_removeObjects ?_ ?_ ?_ ?_)
    · -- a session is removed when its calls have returned
      intro row hrow hid hsession
      have hdrained := session_of_mayRemove hmay hsession
      cases hactive.symm.trans (hs.drained _ hdrained call hcall (hs.rows call hcall row hrow hid).symm)
    · intro u hu hid hsession
      have hdrained := session_of_mayRemove hmay hsession
      cases hactive.symm.trans (hs.drained _ hdrained call hcall (hs.usage call hcall u hu hid).symm)
    · -- a segment that holds a source of the row takes the row with it
      intro hsome hmem source hsource frame hframe hid
      obtain ⟨row, hrow⟩ := Option.ne_none_iff_exists'.1 hsome
      have hsources := (hc.fits call hcall).sources (of_decide_eq_true hactive) hrow
      have hrowId : row.artifactId = call.publication.artifactId := by simpa using List.find?_some hrow
      have hlisted : row ∈ s.store.rows := List.mem_of_find?_eq_some hrow
      exact Store.deletionBatch_cascade victim hlisted (hrowId ▸ hmem) (hsources ▸ hsource) hframe hid
    · refine (of_decide_eq_true hwhole).imp_right fun hall hmem => ?_
      exact of_decide_eq_true (List.all_eq_true.1 hall call hcall) hactive hmem
  · rw [phase_of_not_isActive hactive]
    trivial

/-- The calls of the other list have the publications and the phases of those of the state. -/
def State.Relabels (s : State) (calls : List Call) : Prop :=
  ∀ (j : Nat) (other : Call), calls[j]? = some other → ∃ before, s.calls[j]? = some before ∧
    before.publication = other.publication ∧ before.phase = other.phase

theorem relabels_signal (hi : s.calls[i]? = some call) : s.Relabels (s.calls.set i { call with signalled := true }) := by
  intro j other hj
  rcases Cells.cases_of_set hj with ⟨rfl, rfl⟩ | ⟨-, hj⟩
  · exact ⟨call, hi, rfl, rfl⟩
  · exact ⟨other, hj, rfl, rfl⟩

theorem relabels_markDeleted (session : SessionId) : s.Relabels (s.calls.map fun call =>
    if call.sessionId = session ∧ call.isActive then { call with cancelled := true } else call) := by
  intro j other hj
  rw [List.getElem?_map] at hj
  obtain ⟨before, hbefore, rfl⟩ := Option.map_eq_some_iff.1 hj
  refine ⟨before, hbefore, ?_⟩
  by_cases hmarked : before.sessionId = session ∧ before.isActive = true
  · rw [if_pos hmarked]
    exact ⟨rfl, rfl⟩
  · rw [if_neg hmarked]
    exact ⟨rfl, rfl⟩

theorem State.Tracked.relabel (hs : s.Tracked) {calls : List Call} {deleted : List SessionId} (hcalls : s.Relabels calls)
    (hdeleted : ∀ session ∈ s.deleted, session ∈ deleted) : State.Tracked { s with calls, deleted } := by
  refine hs.of_calls (fun session hsession => hdeleted session (hs.deleted session hsession)) rfl ?_ fun other hother =>
    ⟨hs.rows other hother, hs.usage other hother⟩
  intro j other hj
  obtain ⟨before, hbefore, hpublication, hphase⟩ := hcalls j other hj
  refine ⟨before, hbefore, hpublication, fun hinactive => ?_⟩
  rwa [Call.isActive, ← hphase]

theorem State.Clean.relabel (hc : s.Clean sha256) {calls : List Call} {deleted : List SessionId} (hcalls : s.Relabels calls) :
    State.Clean sha256 { s with calls, deleted } := by
  refine ⟨fun other hother => ?_, hc.returns⟩
  obtain ⟨j, hj⟩ := List.mem_iff_getElem?.1 hother
  obtain ⟨before, hbefore, hpublication, hphase⟩ := hcalls j other hj
  rw [← hpublication, ← hphase]
  exact hc.fits before (List.mem_of_getElem? hbefore)

theorem State.Tracked.step (sha256 : List UInt8 → Sha256Digest) (hs : s.Tracked) (h : s.exec sha256 action = some s')
    : s'.Tracked := by
  cases action with
  | begin q =>
    obtain ⟨hfresh, rfl⟩ := Option.ite_none_right_eq_some.1 h |>.imp_right Option.some.inj
    by_cases hdeleted : q.sessionId ∈ s.deleted
    · rw [if_pos hdeleted]
      exact { hs with }
    · rw [if_neg hdeleted]
      exact hs.begin hfresh hdeleted
  | advance i input =>
    obtain ⟨call, hi, hadvance⟩ := Option.bind_eq_some_iff.1 h
    exact hs.advances hi (isActive_of_advance hadvance) (advances_of_advance (hs.rows call (List.mem_of_getElem? hi)) hadvance)
  | signal i =>
    obtain ⟨call, hi, rfl⟩ := Option.map_eq_some_iff.1 h
    exact hs.relabel (relabels_signal hi) fun _ hsession => hsession
  | markDeleted session =>
    cases h
    exact hs.relabel (relabels_markDeleted session) fun _ hother => List.mem_cons_of_mem _ hother
  | drain session =>
    obtain ⟨⟨hdeleted, hreturned⟩, rfl⟩ := Option.ite_none_right_eq_some.1 h |>.imp_right Option.some.inj
    refine { hs with deleted := ?_, drained := ?_ }
    · intro other hother
      rcases List.mem_cons.1 hother with rfl | hother
      · exact hdeleted
      · exact hs.deleted other hother
    · intro other hother call hcall hsame
      rcases List.mem_cons.1 hother with rfl | hother
      · exact of_decide_eq_true (List.all_eq_true.1 hreturned call hcall) hsame
      · exact hs.drained other hother call hcall hsame
  | remove reclaimer victim reach =>
    obtain ⟨-, rfl⟩ := Option.ite_none_right_eq_some.1 h |>.imp_right Option.some.inj
    have hshrinks := Store.shrinks_removeObjects s.store (s.store.deletionBatch victim) reach
    exact ⟨hs.distinct, fun call hcall row hrow => hs.rows call hcall row (hshrinks.rows row hrow),
      fun call hcall u hu => hs.usage call hcall u (hshrinks.usage u hu), hs.deleted, hs.drained⟩

theorem State.Clean.step (hc : s.Clean sha256) (hs : s.Tracked) (hguard : s.undisturbed action = true)
    (h : s.exec sha256 action = some s') : s'.Clean sha256 := by
  cases action with
  | begin q =>
    obtain ⟨hfresh, rfl⟩ := Option.ite_none_right_eq_some.1 h |>.imp_right Option.some.inj
    have hnothing := (of_decide_eq_true hfresh).2
    by_cases hdeleted : q.sessionId ∈ s.deleted
    · rw [if_pos hdeleted]
      refine ⟨hc.fits, fun r hr => ?_⟩
      rcases List.mem_append.1 hr with hr | hr
      · exact hc.returns r hr
      · obtain rfl := List.mem_singleton.1 hr
        exact atomic_failed hnothing
    · rw [if_neg hdeleted]
      refine ⟨fun call hcall => ?_, hc.returns⟩
      rcases List.mem_append.1 hcall with hcall | hcall
      · exact hc.fits call hcall
      · obtain rfl := List.mem_singleton.1 hcall
        exact hnothing
  | advance i input =>
    obtain ⟨call, hi, hadvance⟩ := Option.bind_eq_some_iff.1 h
    rw [State.undisturbed, hi, Option.all_some, decide_eq_true_eq] at hguard
    have hcall := List.mem_of_getElem? hi
    exact hc.advances hs hi ⟨hc.fits call hcall, hguard.1⟩ hguard.2 (advances_of_advance (hs.rows call hcall) hadvance)
  | signal i =>
    obtain ⟨call, hi, rfl⟩ := Option.map_eq_some_iff.1 h
    exact hc.relabel (relabels_signal hi)
  | markDeleted session =>
    cases h
    exact hc.relabel (relabels_markDeleted session)
  | drain session =>
    obtain ⟨-, rfl⟩ := Option.ite_none_right_eq_some.1 h |>.imp_right Option.some.inj
    exact ⟨hc.fits, hc.returns⟩
  | remove reclaimer victim reach =>
    obtain ⟨hmay, rfl⟩ := Option.ite_none_right_eq_some.1 h |>.imp_right Option.some.inj
    exact hc.remove hs hmay hguard

theorem State.StoresNothing.of_eq (h : s'.store = s.store) : s.StoresNothing session s' := by
  refine ⟨fun row hrow _ => ?_, fun u hu _ => ?_, fun call _ _ bytes => ⟨fun hbytes => ?_, fun hbytes => ?_⟩⟩
  · rwa [h] at hrow
  · rwa [h] at hu
  · rwa [h] at hbytes
  · rwa [h] at hbytes

end Krometrail.Publications
