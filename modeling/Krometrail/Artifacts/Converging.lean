import Krometrail.Lib.Halting
import Krometrail.Artifacts.Reconciling

/-!
# When the recovery of the artifact store converges

One pass leaves a store in which every row is ready and complete, every file of the directory has a row, and the usage is
that of the rows; a second pass leaves such a store as it is (`Settled.recover`).  The pass fails on a staging row with a
complete file whose sources are not retained, and it leaves a file behind whose row goes because of another file.
-/

namespace Krometrail.ArtifactRecovery

open Cache (Sha256Digest)
open Relations Results Sorting

variable {extension : List Char} {raw : RawArtifact} {row : ArtifactRow} {rows : List ArtifactRow}

theorem splitExtension_fileName (id : ArtifactId) (h : '.' ∉ extension) :
    splitExtension (fileName id extension) = (UuidText.hyphenated id.uuid, some extension) := by
  have hreverse : (fileName id extension).reverse = extension.reverse ++ '.' :: (UuidText.hyphenated id.uuid).reverse := by
    simp [fileName]
  have hkeep : ∀ c ∈ extension.reverse, (decide (c ≠ '.')) = true := fun c hc => by
    simpa using fun heq : c = '.' => h (heq ▸ List.mem_reverse.1 hc)
  have hdrop : (fileName id extension).reverse.dropWhile (· ≠ '.') = '.' :: (UuidText.hyphenated id.uuid).reverse := by
    rw [hreverse, List.dropWhile_append_of_pos hkeep]
    rfl
  have htake : (fileName id extension).reverse.takeWhile (· ≠ '.') = extension.reverse := by
    rw [hreverse, List.takeWhile_append_of_pos hkeep]
    simp
  have hlength : (UuidText.hyphenated id.uuid).reverse.length = 36 := by
    rw [List.length_reverse, UuidText.length_hyphenated]
  unfold splitExtension
  rw [hdrop, htake, List.reverse_reverse]
  generalize hbefore : (UuidText.hyphenated id.uuid).reverse = before at hlength
  cases before with
  | nil => cases hlength
  | cons c before =>
    dsimp only
    rw [← hbefore, List.reverse_reverse]

theorem namedBy_fileName (id : ArtifactId) (h : extension ∈ ["png".toList, "mp4".toList, "tmp".toList])
    : namedBy (fileName id extension) = some id := by
  have hdot : '.' ∉ extension := by
    revert extension
    decide
  rw [namedBy, splitExtension_fileName id hdot]
  dsimp only
  rw [if_pos h, UuidText.parse_hyphenated]
  rfl

theorem fileName_injective {id id' : ArtifactId} {extension' : List Char} (h : '.' ∉ extension) (h' : '.' ∉ extension')
    (heq : fileName id extension = fileName id' extension') : extension = extension' := by
  have hsplit := (splitExtension_fileName id h).symm.trans ((congrArg splitExtension heq).trans (splitExtension_fileName id' h'))
  exact Option.some.inj (congrArg Prod.snd hsplit)

theorem kind_extension_mem (kind : Kind) : kind.extension ∈ ["png".toList, "mp4".toList, "tmp".toList] := by
  cases kind with
  | image => exact List.mem_cons_self
  | temporalVideo => exact List.mem_cons_of_mem _ List.mem_cons_self

theorem kind_extension (kind : Kind) : '.' ∉ kind.extension ∧ kind.extension ≠ "tmp".toList := by
  cases kind with
  | image => exact (by decide : '.' ∉ "png".toList ∧ "png".toList ≠ "tmp".toList)
  | temporalVideo => exact (by decide : '.' ∉ "mp4".toList ∧ "mp4".toList ≠ "tmp".toList)

theorem namedBy_tempPath (id : ArtifactId) : namedBy (tempPath id) = some id := namedBy_fileName id (by decide)

/-! ### Decoded rows -/

/-- What the decoded row has of the stored one. -/
structure Decodes (raw : RawArtifact) (row : ArtifactRow) : Prop where
  decoded : decodeArtifact raw = .ok row
  artifactId : row.artifactId = raw.artifactId
  sessionId : row.sessionId = raw.sessionId
  targetId : row.targetId = raw.targetId
  state : row.state = raw.state
  byteLen : row.byteLen = raw.byteLen
  cacheKey : row.cacheKey = raw.cacheKey
  relativePath : row.relativePath = fileName row.artifactId row.kind.extension

theorem decodes_iff : decodeArtifact raw = .ok row ↔ Decodes raw row := by
  refine ⟨fun h => ?_, Decodes.decoded⟩
  have hdecoded := h
  unfold decodeArtifact at h
  split at h
  · cases h
  split at h
  · cases h
  rename_i hpath
  split at h
  · cases h
  split at h
  · cases h
  split at h
  · cases h
  split at h
  · cases h
  cases h
  exact ⟨hdecoded, rfl, rfl, rfl, rfl, rfl, rfl, not_not.1 hpath⟩

theorem decodeArtifact_state (h : decodeArtifact raw = .ok row) (state : ArtifactState)
    : decodeArtifact { raw with state } = .ok { row with state } := by
  unfold decodeArtifact at h ⊢
  dsimp only
  split_ifs at h ⊢
  cases h
  rfl

theorem Decodes.namedBy (h : Decodes raw row) : namedBy row.relativePath = some row.artifactId := by
  rw [h.relativePath]
  exact namedBy_fileName _ (kind_extension_mem _)

theorem Decodes.ne_tempPath (h : Decodes raw row) (id : ArtifactId) : row.relativePath ≠ tempPath id := by
  rw [h.relativePath]
  intro heq
  obtain ⟨hdot, hne⟩ := kind_extension row.kind
  exact hne (fileName_injective hdot (by decide) heq)

variable {codec : Codec} {store store' : Store} {row : ArtifactRow}

theorem mem_artifactRows (h : store.artifactRows = .ok rows) : row ∈ rows ↔ ∃ raw ∈ store.artifacts, Decodes raw row := by
  simp only [mem_mapM h, decodes_iff]
  rfl

theorem nodup_artifactRows (h : store.artifactRows = .ok rows) : (rows.map (·.artifactId)).Nodup := by
  have hids : rows.map ArtifactRow.artifactId = store.artifacts.rows.map RawArtifact.artifactId :=
    map_mapM h fun raw row hdecode => (decodes_iff.1 hdecode).artifactId
  rw [hids]
  exact store.artifacts.nodup_keys

theorem eq_of_artifactId (h : store.artifactRows = .ok rows) {row' : ArtifactRow} (hrow : row ∈ rows) (hrow' : row' ∈ rows)
    (heq : row.artifactId = row'.artifactId) : row = row' :=
  List.inj_on_of_nodup_map (nodup_artifactRows h) hrow hrow' heq

theorem valid_congr (hread : store'.read row.relativePath = store.read row.relativePath)
    (hsources : store'.artifactSources row.artifactId = store.artifactSources row.artifactId) :
    store'.valid codec row = store.valid codec row := by
  unfold Store.valid
  rw [hread, hsources]

theorem read_eq_some {name : List Char} {bytes : List UInt8} : store.read name = some bytes ↔ ⟨name, bytes⟩ ∈ store.files := by
  unfold Store.read
  constructor
  · intro h
    obtain ⟨file, hfile, rfl⟩ := Option.map_eq_some_iff.1 h
    obtain ⟨hmem, rfl⟩ := Relation.find?_eq_some.1 hfile
    exact hmem
  · intro h
    rw [Relation.find?_eq_some.2 ⟨h, rfl⟩]
    rfl

theorem read_congr {name : List Char} (h : ∀ file : File, file.name = name → (file ∈ store'.files ↔ file ∈ store.files)) :
    store'.read name = store.read name := by
  unfold Store.read
  rw [Relation.find?_congr h]

/-- Every source of the row is retained, for its session and target, and there is one. -/
def Retained (store : Store) (row : ArtifactRow) : Prop :=
  store.artifactSources row.artifactId ≠ [] ∧ ∀ source ∈ store.artifactSources row.artifactId,
    ∃ frame ∈ store.frames, frame.frameId = source.frameId ∧ frame.sessionId = row.sessionId ∧ frame.targetId = row.targetId

theorem validateSourceIds_eq_ok : store.validateSourceIds row.sessionId row.targetId (store.artifactSources row.artifactId) =
    .ok () ↔ Retained store row := by
  unfold Store.validateSourceIds Retained
  by_cases hnil : store.artifactSources row.artifactId = []
  · simp [hnil]
  rw [if_neg hnil, Halting.forM_eq_ok, and_iff_right hnil]
  refine forall₂_congr fun source _ => ?_
  cases hframe : store.frames.find? source.frameId with
  | none =>
    refine iff_of_false nofun fun ⟨frame, hmem, hid, _⟩ => ?_
    exact Relation.find?_eq_none.1 hframe frame hmem hid
  | some frame =>
    obtain ⟨hmem, hid⟩ := Relation.find?_eq_some.1 hframe
    dsimp only
    split
    · rename_i hother
      refine iff_of_false nofun fun ⟨frame', hmem', hid', hsession, htarget⟩ => ?_
      obtain rfl := Relation.eq_of_key hmem' hmem (hid'.trans hid.symm)
      exact hother.elim (· hsession) (· htarget)
    · rename_i hsame
      rw [not_or, not_not, not_not] at hsame
      exact iff_of_true rfl ⟨frame, hmem, hid, hsame.1, hsame.2⟩

/-! ### One pass over the rows -/

/-- A staging row with a complete file is to be finalized. -/
def Finalizes (codec : Codec) (store : Store) (row : ArtifactRow) : Prop := row.state = .staging ∧ store.valid codec row = true

/-- The plan once the rows of `done` have been gone through. -/
structure Planned (codec : Codec) (store : Store) (done : List ArtifactRow) (plan : Plan) : Prop where
  sources : plan.store.sources = store.sources
  frames : plan.store.frames = store.frames
  usage : plan.store.usage = store.usage
  files : ∀ file, file ∈ plan.store.files ↔ file ∈ store.files ∧ ∀ row ∈ done, file.name ≠ tempPath row.artifactId
  invalid : plan.invalid = done.filter fun row => !store.valid codec row
  kept : ∀ raw, (∀ row ∈ done, row.artifactId = raw.artifactId → ¬ Finalizes codec store row) →
    (raw ∈ plan.store.artifacts ↔ raw ∈ store.artifacts)
  finalized : ∀ raw, (∃ row ∈ done, row.artifactId = raw.artifactId ∧ Finalizes codec store row) →
    (raw ∈ plan.store.artifacts ↔ raw.state = .ready ∧ { raw with state := .staging } ∈ store.artifacts)
  retained : ∀ row ∈ done, Finalizes codec store row → Retained store row

theorem planned_nil (codec : Codec) (store : Store) : Planned codec store [] ⟨store, [], .zero⟩ where
  sources := rfl
  frames := rfl
  usage := rfl
  files _ := by simp
  invalid := rfl
  kept _ _ := Iff.rfl
  finalized _ h := by simp at h
  retained := nofun

section

variable {done : List ArtifactRow} {plan : Plan} {raw : RawArtifact}

theorem Planned.artifactSources (h : Planned codec store done plan) (id : ArtifactId) :
    plan.store.artifactSources id = store.artifactSources id := by
  unfold Store.artifactSources
  rw [h.sources]

theorem Planned.valid (h : Planned codec store done plan) (hrow : Decodes raw row) :
    plan.store.valid codec row = store.valid codec row := by
  refine valid_congr (read_congr fun file hname => ?_) (h.artifactSources _)
  rw [h.files, and_iff_left]
  intro other _ htemp
  exact hrow.ne_tempPath other.artifactId (hname.symm.trans htemp)

theorem Planned.retained_iff (h : Planned codec store done plan) : Retained plan.store row ↔ Retained store row := by
  unfold Retained
  rw [h.artifactSources, h.frames]

theorem Planned.finalizeArtifact (h : Planned codec store done plan) (hraw : raw ∈ store.artifacts) (hrow : Decodes raw row)
    (hnew : ∀ other ∈ done, other.artifactId ≠ row.artifactId) (hstate : row.state = .staging)
    {result : Bool × Store} :
    plan.store.finalizeArtifact row (plan.store.artifactSources row.artifactId) = .ok result ↔ Retained store row ∧
      result = (true, { plan.store with artifacts := plan.store.artifacts.upsert { raw with state := .ready } }) := by
  have hmem : raw ∈ plan.store.artifacts :=
    (h.kept raw fun other hother heq => absurd (heq.trans hrow.artifactId.symm) (hnew other hother)).2 hraw
  have hfind : plan.store.artifacts.find? row.artifactId = some raw := Relation.find?_eq_some.2 ⟨hmem, hrow.artifactId.symm⟩
  unfold Store.finalizeArtifact
  rw [hfind, okOr_some, ok_bind, hrow.decoded, ok_bind, if_neg (by simp [hstate]), ← h.retained_iff,
    ← validateSourceIds_eq_ok, if_pos ⟨hrow.state ▸ hstate, hrow.cacheKey.symm⟩]
  cases hsources : plan.store.validateSourceIds row.sessionId row.targetId
      (plan.store.artifactSources row.artifactId) with
  | error error => exact iff_of_false nofun fun h => nomatch h.1
  | ok =>
    rw [ok_bind, pure_eq_ok, eq_comm, and_iff_right rfl]

/-- What the turn of a row does to the plan before its temporary file is looked at. -/
structure Turned (codec : Codec) (store : Store) (raw : RawArtifact) (row : ArtifactRow) (plan turned : Plan) : Prop where
  retained : Finalizes codec store row → Retained store row
  sources : turned.store.sources = plan.store.sources
  frames : turned.store.frames = plan.store.frames
  usage : turned.store.usage = plan.store.usage
  files : turned.store.files = plan.store.files
  invalid : turned.invalid = plan.invalid ++ [row].filter fun row => !store.valid codec row
  finalized : Finalizes codec store row →
    turned.store.artifacts = plan.store.artifacts.upsert { raw with state := .ready }
  kept : ¬ Finalizes codec store row → turned.store.artifacts = plan.store.artifacts

theorem Planned.turned (h : Planned codec store done plan) (hraw : raw ∈ store.artifacts) (hrow : Decodes raw row)
    (hnew : ∀ other ∈ done, other.artifactId ≠ row.artifactId) {turned : Plan}
    (hturned : plan.settle codec row = .ok turned) : Turned codec store raw row plan turned := by
  unfold Plan.settle at hturned
  rw [h.valid hrow] at hturned
  cases hstate : row.state with
  | staging =>
    cases hvalid : store.valid codec row with
    | true =>
      rw [hstate, hvalid] at hturned
      obtain ⟨result, hresult, hturned⟩ := bind_eq_ok.1 hturned
      obtain ⟨hretained, rfl⟩ := (h.finalizeArtifact hraw hrow hnew hstate).1 hresult
      cases hturned
      exact ⟨fun _ => hretained, rfl, rfl, rfl, rfl, by simp [hvalid], fun _ => rfl,
        fun hnot => absurd ⟨hstate, hvalid⟩ hnot⟩
    | false =>
      rw [hstate, hvalid] at hturned
      cases hturned
      have hnot : ¬ Finalizes codec store row := fun hfinal => Bool.false_ne_true (hvalid.symm.trans hfinal.2)
      exact ⟨fun hfinal => absurd hfinal hnot, rfl, rfl, rfl, rfl, by simp [hvalid], fun hfinal => absurd hfinal hnot,
        fun _ => rfl⟩
  | ready =>
    have hnot : ¬ Finalizes codec store row := fun hfinal => nomatch hstate.symm.trans hfinal.1
    cases hvalid : store.valid codec row with
    | true =>
      rw [hstate, hvalid] at hturned
      cases hturned
      exact ⟨fun hfinal => absurd hfinal hnot, rfl, rfl, rfl, rfl, by simp [hvalid], fun hfinal => absurd hfinal hnot,
        fun _ => rfl⟩
    | false =>
      rw [hstate, hvalid] at hturned
      cases hturned
      exact ⟨fun hfinal => absurd hfinal hnot, rfl, rfl, rfl, rfl, by simp [hvalid], fun hfinal => absurd hfinal hnot,
        fun _ => rfl⟩

theorem Planned.settle_total (h : Planned codec store done plan) (hraw : raw ∈ store.artifacts) (hrow : Decodes raw row)
    (hnew : ∀ other ∈ done, other.artifactId ≠ row.artifactId)
    (hretained : Finalizes codec store row → Retained store row) : ∃ turned, plan.settle codec row = .ok turned := by
  unfold Plan.settle
  rw [h.valid hrow]
  cases hstate : row.state <;> cases hvalid : store.valid codec row
  case staging.true =>
    have hfinal := (h.finalizeArtifact hraw hrow hnew hstate).2 ⟨hretained ⟨hstate, hvalid⟩, rfl⟩
    exact ⟨_, bind_eq_ok.2 ⟨_, hfinal, rfl⟩⟩
  all_goals exact ⟨_, rfl⟩

theorem mem_removeTemp {id : ArtifactId} {file : File} :
    file ∈ (plan.removeTemp id).store.files ↔ file ∈ plan.store.files ∧ file.name ≠ tempPath id := by
  unfold Plan.removeTemp
  split
  · simp
  · rename_i hnone
    refine ⟨fun hfile => ⟨hfile, fun hname => hnone ?_⟩, And.left⟩
    rw [← hname, read_eq_some.2 hfile]
    rfl

theorem removeTemp_other (plan : Plan) (id : ArtifactId) :
    (plan.removeTemp id).store.sources = plan.store.sources ∧ (plan.removeTemp id).store.frames = plan.store.frames ∧
      (plan.removeTemp id).store.usage = plan.store.usage ∧ (plan.removeTemp id).store.artifacts = plan.store.artifacts ∧
      (plan.removeTemp id).invalid = plan.invalid := by
  unfold Plan.removeTemp
  split
  · exact ⟨rfl, rfl, rfl, rfl, rfl⟩
  · exact ⟨rfl, rfl, rfl, rfl, rfl⟩

theorem Turned.mem_other {turned : Plan} (h : Turned codec store raw row plan turned) (hfinal : Finalizes codec store row)
    {other : RawArtifact} (hne : other.artifactId ≠ raw.artifactId) :
    other ∈ turned.store.artifacts ↔ other ∈ plan.store.artifacts := by
  rw [h.finalized hfinal, Relation.mem_upsert, or_iff_right, and_iff_left hne]
  rintro rfl
  exact hne rfl

theorem Planned.step (h : Planned codec store done plan) (hraw : raw ∈ store.artifacts) (hrow : Decodes raw row)
    (hnew : ∀ other ∈ done, other.artifactId ≠ row.artifactId) {next : Plan} (hnext : plan.row codec row = .ok next) :
    Planned codec store (done ++ [row]) next := by
  obtain ⟨turned, hturned, hnext⟩ := bind_eq_ok.1 hnext
  cases hnext
  have hturn := h.turned hraw hrow hnew hturned
  obtain ⟨hsources, hframes, husage, hartifacts, hinvalid⟩ := removeTemp_other turned row.artifactId
  refine ⟨hsources.trans (hturn.sources.trans h.sources), hframes.trans (hturn.frames.trans h.frames),
    husage.trans (hturn.usage.trans h.usage), fun file => ?_, ?_, fun other hother => ?_, fun other hother => ?_, ?_⟩
  · rw [mem_removeTemp, hturn.files, h.files, List.forall_mem_append, List.forall_mem_singleton, and_assoc]
  · rw [hinvalid, hturn.invalid, h.invalid, List.filter_append]
  · rw [hartifacts]
    rw [List.forall_mem_append, List.forall_mem_singleton] at hother
    rw [← h.kept other hother.1]
    by_cases hfinal : Finalizes codec store row
    · exact hturn.mem_other hfinal fun heq => hother.2 (hrow.artifactId.trans heq.symm) hfinal
    · rw [hturn.kept hfinal]
  · rw [hartifacts]
    obtain ⟨earlier, hearlier, hid, hfinal⟩ := hother
    rcases List.mem_append.1 hearlier with hdone | hlast
    · rw [← h.finalized other ⟨earlier, hdone, hid, hfinal⟩]
      by_cases hrowFinal : Finalizes codec store row
      · refine hturn.mem_other hrowFinal fun heq => hnew earlier hdone ?_
        exact hid.trans (heq.trans hrow.artifactId.symm)
      · rw [hturn.kept hrowFinal]
    · obtain rfl := List.mem_singleton.1 hlast
      have hkey : other.artifactId = raw.artifactId := hid.symm.trans hrow.artifactId
      have hstaging : { raw with state := .staging } = raw := by rw [← hfinal.1, hrow.state]
      rw [hturn.finalized hfinal, Relation.mem_upsert, or_iff_left fun hold => hold.2 hkey]
      constructor
      · rintro rfl
        exact ⟨rfl, hstaging.symm ▸ hraw⟩
      · rintro ⟨hready, hold⟩
        have heq := Relation.eq_of_key hold hraw hkey
        rw [← heq, ← hready]
  · rw [List.forall_mem_append, List.forall_mem_singleton]
    exact ⟨h.retained, hturn.retained⟩

theorem Planned.run {rows : List ArtifactRow} (hrows : store.artifactRows = .ok rows) {rest : List ArtifactRow}
    (hsplit : rows = done ++ rest) (h : Planned codec store done plan) :
    ((∃ last, rest.foldlM (Plan.row codec) plan = .ok last) ↔ ∀ row ∈ rest, Finalizes codec store row → Retained store row) ∧
      ∀ last, rest.foldlM (Plan.row codec) plan = .ok last → Planned codec store rows last := by
  induction rest generalizing done plan with
  | nil =>
    rw [List.append_nil] at hsplit
    refine ⟨iff_of_true ⟨plan, rfl⟩ nofun, fun last hlast => ?_⟩
    cases hlast
    exact hsplit ▸ h
  | cons row rest ih =>
    have hmem : row ∈ rows := hsplit ▸ List.mem_append_right _ List.mem_cons_self
    obtain ⟨raw, hraw, hrow⟩ := (mem_artifactRows hrows).1 hmem
    have hnew : ∀ other ∈ done, other.artifactId ≠ row.artifactId := fun other hother heq => by
      have hnodup := nodup_artifactRows hrows
      rw [hsplit, List.map_append, List.nodup_append] at hnodup
      exact hnodup.2.2 _ (List.mem_map_of_mem hother) _ (List.mem_map_of_mem List.mem_cons_self) heq
    have hnext : rows = (done ++ [row]) ++ rest := by rw [hsplit, List.append_assoc]; rfl
    rw [List.foldlM_cons]
    constructor
    · constructor
      · rintro ⟨last, hlast⟩
        obtain ⟨next, hstep, hlast⟩ := bind_eq_ok.1 hlast
        have hplanned := h.step hraw hrow hnew hstep
        rw [List.forall_mem_cons]
        exact ⟨hplanned.retained row (List.mem_append_right _ (List.mem_singleton_self row)),
          (ih hnext hplanned).1.1 ⟨last, hlast⟩⟩
      · intro hretained
        rw [List.forall_mem_cons] at hretained
        obtain ⟨turned, hturned⟩ := h.settle_total hraw hrow hnew hretained.1
        have hstep : plan.row codec row = .ok (turned.removeTemp row.artifactId) := bind_eq_ok.2 ⟨turned, hturned, rfl⟩
        obtain ⟨last, hlast⟩ := (ih hnext (h.step hraw hrow hnew hstep)).1.2 hretained.2
        exact ⟨last, bind_eq_ok.2 ⟨_, hstep, hlast⟩⟩
    · intro last hlast
      obtain ⟨next, hstep, hlast⟩ := bind_eq_ok.1 hlast
      exact (ih hnext (h.step hraw hrow hnew hstep)).2 last hlast

end

variable {done : List ArtifactRow}

theorem removeArtifacts_spec (invalid : List ArtifactRow) (store : Store) :
    let removed := invalid.foldl Store.removeArtifact store
    (∀ raw, raw ∈ removed.artifacts ↔ raw ∈ store.artifacts ∧ ∀ row ∈ invalid, raw.artifactId ≠ row.artifactId) ∧
    (∀ source, source ∈ removed.sources ↔ source ∈ store.sources ∧ ∀ row ∈ invalid, source.artifactId ≠ row.artifactId) ∧
    (∀ file, file ∈ removed.files ↔ file ∈ store.files ∧ ∀ row ∈ invalid, file.name ≠ row.relativePath) := by
  induction invalid generalizing store with
  | nil => simp
  | cons row invalid ih =>
    obtain ⟨hartifacts, hsources, hfiles⟩ := ih (store.removeArtifact row)
    refine ⟨fun raw => ?_, fun source => ?_, fun file => ?_⟩
    · rw [List.foldl_cons, hartifacts, List.forall_mem_cons, ← and_assoc]
      simp [Store.removeArtifact]
    · rw [List.foldl_cons, hsources, List.forall_mem_cons, ← and_assoc]
      simp [Store.removeArtifact]
    · rw [List.foldl_cons, hfiles, List.forall_mem_cons, ← and_assoc]
      simp [Store.removeArtifact]

theorem artifactSources_removed {invalid : List ArtifactRow} {id : ArtifactId} (h : ∀ row ∈ invalid, id ≠ row.artifactId) :
    (invalid.foldl Store.removeArtifact store).artifactSources id = store.artifactSources id := by
  induction invalid generalizing store with
  | nil => rfl
  | cons row invalid ih =>
    rw [List.forall_mem_cons] at h
    rw [List.foldl_cons, ih h.2]
    unfold Store.artifactSources Store.removeArtifact Relation.delete
    rw [List.filter_filter]
    congr 1
    refine List.filter_congr fun source _ => ?_
    by_cases hid : source.artifactId = id
    · simp [hid, h.1]
    · simp [hid]

theorem artifactId_of_bytes {id id' : ArtifactId} (h : id.uuid.bytes = id'.uuid.bytes) : id = id' := by
  obtain ⟨⟨bytes, _⟩⟩ := id
  obtain ⟨⟨bytes', _⟩⟩ := id'
  obtain rfl : bytes = bytes' := h
  rfl

/-- What the usage is once the rows of `done` have been compared. -/
def Updated (stored : Relation UsageRow.objectKey) (done : List ArtifactRow) (usage : Relation UsageRow.objectKey) : Prop :=
  ∀ u, u ∈ usage ↔ (∃ row ∈ done, u = row.usage) ∨ u ∈ stored ∧ ∀ row ∈ done, u.objectKey ≠ row.usage.objectKey

theorem Updated.step {stored : Relation UsageRow.objectKey} {state : Relation UsageRow.objectKey × Nat}
    (h : Updated stored done state.1) (hnew : ∀ other ∈ done, other.artifactId ≠ row.artifactId) :
    Updated stored (done ++ [row]) (updateUsage stored state row).1 := by
  have hkeys : ∀ other ∈ done, other.usage.objectKey ≠ row.usage.objectKey := fun other hother heq =>
    hnew other hother (artifactId_of_bytes heq)
  intro u
  simp only [List.mem_append, List.mem_singleton, or_and_right, exists_or, exists_eq_left, or_imp, forall_and, forall_eq]
  unfold updateUsage
  split
  · rename_i hfound
    obtain ⟨hmem, -⟩ := Relation.find?_eq_some.1 hfound
    rw [h u]
    constructor
    · rintro (hdone | ⟨hstored, hothers⟩)
      · exact .inl (.inl hdone)
      · by_cases hkey : u.objectKey = row.usage.objectKey
        · exact .inl (.inr (Relation.eq_of_key hstored hmem hkey))
        · exact .inr ⟨hstored, hothers, hkey⟩
    · rintro ((hdone | rfl) | ⟨hstored, hothers, -⟩)
      · exact .inl hdone
      · exact .inr ⟨hmem, fun other hother heq => hkeys other hother heq.symm⟩
      · exact .inr ⟨hstored, hothers⟩
  · rw [Relation.mem_upsert, h u]
    constructor
    · rintro (rfl | ⟨hdone | ⟨hstored, hothers⟩, hkey⟩)
      · exact .inl (.inr rfl)
      · exact .inl (.inl hdone)
      · exact .inr ⟨hstored, hothers, hkey⟩
    · rintro ((⟨other, hother, rfl⟩ | rfl) | ⟨hstored, hothers, hkey⟩)
      · exact .inr ⟨.inl ⟨other, hother, rfl⟩, hkeys other hother⟩
      · exact .inl rfl
      · exact .inr ⟨.inr ⟨hstored, hothers⟩, hkey⟩

variable {rows : List ArtifactRow}

theorem Updated.run {stored : Relation UsageRow.objectKey} {rest : List ArtifactRow} (hnodup : (rows.map (·.artifactId)).Nodup)
    (hsplit : rows = done ++ rest) {state : Relation UsageRow.objectKey × Nat} (h : Updated stored done state.1) :
    Updated stored rows (rest.foldl (updateUsage stored) state).1 := by
  induction rest generalizing done state with
  | nil => rwa [hsplit, List.append_nil]
  | cons row rest ih =>
    have hnext : rows = (done ++ [row]) ++ rest := by rw [hsplit, List.append_assoc]; rfl
    refine ih hnext (h.step fun other hother heq => ?_)
    rw [hsplit, List.map_append, List.nodup_append] at hnodup
    exact hnodup.2.2 _ (List.mem_map_of_mem hother) _ (List.mem_map_of_mem List.mem_cons_self) heq

theorem reconcileUsage_spec (hrows : store.artifactRows = .ok rows) :
    ∃ usage changed, reconcileUsage store = .ok ({ store with usage }, changed) ∧
      ∀ u, u ∈ usage ↔ ∃ row ∈ rows, u = row.usage := by
  refine ⟨_, _, bind_eq_ok.2 ⟨rows, hrows, rfl⟩, fun u => ?_⟩
  have hstart : Updated store.usage [] (store.usage, 0).1 := fun u => by simp
  have hupdated := hstart.run (nodup_artifactRows hrows) (List.nil_append rows).symm
  rw [Relation.mem_delete, hupdated u]
  constructor
  · rintro ⟨hrow | ⟨-, hothers⟩, hkept⟩
    · exact hrow
    · obtain ⟨row, hrow, hkey⟩ := List.mem_map.1 (not_not.1 (of_decide_eq_false hkept))
      exact absurd hkey.symm (hothers row hrow)
  · rintro ⟨row, hrow, rfl⟩
    refine ⟨.inl ⟨row, hrow, rfl⟩, decide_eq_false (not_not.2 ?_)⟩
    exact List.mem_map.2 ⟨row, hrow, rfl⟩

/-- Every row is ready and complete, every file has a row and is not a temporary one, and the usage is that of the rows. -/
structure Settled (codec : Codec) (store : Store) (rows : List ArtifactRow) : Prop where
  decoded : store.artifactRows = .ok rows
  ready : ∀ row ∈ rows, row.state = .ready
  complete : ∀ row ∈ rows, store.valid codec row = true
  temps : ∀ row ∈ rows, store.read (tempPath row.artifactId) = none
  named : ∀ file ∈ store.files, orphan (rows.map (·.artifactId)) file = false
  usage : ∀ u, u ∈ store.usage ↔ ∃ row ∈ rows, u = row.usage

theorem Settled.plan_eq (h : Settled codec store rows) : plan codec store = .ok ⟨store, [], .zero⟩ := by
  have hturn : ∀ row ∈ rows, Plan.row codec ⟨store, [], .zero⟩ row = .ok ⟨store, [], .zero⟩ := fun row hrow => by
    have hsettle : Plan.settle codec ⟨store, [], .zero⟩ row = .ok ⟨store, [], .zero⟩ := by
      unfold Plan.settle
      rw [h.ready row hrow, h.complete row hrow]
    refine bind_eq_ok.2 ⟨_, hsettle, ?_⟩
    unfold Plan.removeTemp
    rw [h.temps row hrow]
    rfl
  have horphans : store.files.rows.filter (orphan (rows.map (·.artifactId))) = [] :=
    List.filter_eq_nil_iff.2 fun file hfile => by rw [h.named file hfile]; exact Bool.false_ne_true
  refine bind_eq_ok.2 ⟨rows, h.decoded, bind_eq_ok.2 ⟨_, foldlM_fixed hturn, ?_⟩⟩
  dsimp only
  rw [horphans, Relation.delete_eq_self h.named]
  rfl

theorem Settled.reconcileUsage_eq (h : Settled codec store rows) : reconcileUsage store = .ok (store, 0) := by
  have hfixed : rows.foldl (updateUsage store.usage) (store.usage, 0) = (store.usage, 0) := by
    refine List.foldlRecOn rows _ (motive := fun state => state = (store.usage, 0)) rfl fun state hstate row hrow => ?_
    have hfound : store.usage.find? row.artifactId.uuid.bytes = some row.usage :=
      Relation.find?_eq_some.2 ⟨(h.usage _).2 ⟨row, hrow, rfl⟩, rfl⟩
    rw [updateUsage, if_pos hfound, hstate]
  have hnone : ∀ u ∈ store.usage, leftover rows u = false := fun u hu => by
    obtain ⟨row, hrow, rfl⟩ := (h.usage u).1 hu
    exact decide_eq_false (not_not.2 (List.mem_map.2 ⟨row, hrow, rfl⟩))
  have hempty : store.usage.rows.filter (leftover rows) = [] :=
    List.filter_eq_nil_iff.2 fun u hu => by rw [hnone u hu]; exact Bool.false_ne_true
  refine bind_eq_ok.2 ⟨rows, h.decoded, ?_⟩
  rw [hfixed, hempty]
  dsimp only
  rw [Relation.delete_eq_self hnone]
  rfl

theorem Settled.recover (h : Settled codec store rows) : recoverArtifacts codec store = .ok (.zero, store) :=
  bind_eq_ok.2 ⟨_, h.plan_eq, bind_eq_ok.2 ⟨_, h.reconcileUsage_eq, rfl⟩⟩

/-- The store when the orphans and the invalid artifacts are gone. -/
def Plan.cleared (plan : Plan) (known : List ArtifactId) : Store :=
  plan.invalid.foldl Store.removeArtifact { plan.store with files := plan.store.files.delete (orphan known) }

section

variable {rows : List ArtifactRow} {last : Plan} (hrows : store.artifactRows = .ok rows) (h : Planned codec store rows last)

theorem mem_invalid (h : Planned codec store rows last) :
    row ∈ last.invalid ↔ row ∈ rows ∧ store.valid codec row = false := by
  simp [h.invalid]

theorem mem_cleared_files (h : Planned codec store rows last) {file : File} : file ∈ (last.cleared (rows.map (·.artifactId))).files ↔
    file ∈ store.files ∧ (∀ row ∈ rows, file.name ≠ tempPath row.artifactId) ∧
      orphan (rows.map (·.artifactId)) file = false ∧
      ∀ row ∈ rows, store.valid codec row = false → file.name ≠ row.relativePath := by
  rw [Plan.cleared, (removeArtifacts_spec _ _).2.2, Relation.mem_delete, h.files, and_assoc, and_assoc]
  simp only [mem_invalid h, and_imp]

include hrows

theorem eq_of_mem {raw : RawArtifact} (hrow : Decodes raw row) {other : ArtifactRow} (hraw : raw ∈ store.artifacts)
    (hother : other ∈ rows) (hid : other.artifactId = raw.artifactId) : other = row :=
  eq_of_artifactId hrows hother ((mem_artifactRows hrows).2 ⟨raw, hraw, hrow⟩) (hid.trans hrow.artifactId.symm)

include h

theorem mem_cleared_artifacts {raw' : RawArtifact} : raw' ∈ (last.cleared (rows.map (·.artifactId))).artifacts ↔
    ∃ raw ∈ store.artifacts, ∃ row, Decodes raw row ∧ store.valid codec row = true ∧ raw' = { raw with state := .ready } := by
  rw [Plan.cleared, (removeArtifacts_spec _ _).1]
  constructor
  · rintro ⟨hmem, hothers⟩
    by_cases hfinal : ∃ row ∈ rows, row.artifactId = raw'.artifactId ∧ Finalizes codec store row
    · obtain ⟨hready, hraw⟩ := (h.finalized raw' hfinal).1 hmem
      obtain ⟨row, hrow, hid, hfinal⟩ := hfinal
      obtain ⟨raw, hraw', hdecodes⟩ := (mem_artifactRows hrows).1 hrow
      have heq := Relation.eq_of_key hraw' hraw (hdecodes.artifactId.symm.trans hid)
      exact ⟨raw, hraw', row, hdecodes, hfinal.2, by rw [heq, ← hready]⟩
    · have hkept := fun row hrow hid hfinalizes => hfinal ⟨row, hrow, hid, hfinalizes⟩
      have hraw := (h.kept raw' hkept).1 hmem
      obtain ⟨row, hdecode⟩ := (mapM_total.1 ⟨rows, hrows⟩) raw' hraw
      have hdecodes := decodes_iff.1 hdecode
      have hrow := (mem_artifactRows hrows).2 ⟨raw', hraw, hdecodes⟩
      have hvalid : store.valid codec row = true := by
        by_contra hnot
        exact hothers row ((mem_invalid h).2 ⟨hrow, Bool.eq_false_iff.2 hnot⟩) hdecodes.artifactId.symm
      refine ⟨raw', hraw, row, hdecodes, hvalid, ?_⟩
      have hready : raw'.state = .ready := by
        cases hstate : raw'.state with
        | ready => rfl
        | staging => exact absurd ⟨hdecodes.state.trans hstate, hvalid⟩ (hkept row hrow hdecodes.artifactId)
      rw [← hready]
  · rintro ⟨raw, hraw, row, hdecodes, hvalid, rfl⟩
    have hrow := (mem_artifactRows hrows).2 ⟨raw, hraw, hdecodes⟩
    refine ⟨?_, fun other hother hid => ?_⟩
    · cases hstate : row.state with
      | staging =>
        refine (h.finalized { raw with state := .ready } ⟨row, hrow, hdecodes.artifactId, hstate, hvalid⟩).2 ⟨rfl, ?_⟩
        rw [← hstate, hdecodes.state]
        exact hraw
      | ready =>
        have hsame : { raw with state := .ready } = raw := by rw [← hstate, hdecodes.state]
        rw [hsame]
        refine (h.kept raw fun other hother hid hfinal => ?_).2 hraw
        obtain rfl := eq_of_mem hrows hdecodes hraw hother hid
        cases hstate.symm.trans hfinal.1
    · obtain ⟨hmem, hinvalid⟩ := (mem_invalid h).1 hother
      obtain rfl := eq_of_mem hrows hdecodes hraw hmem hid.symm
      exact Bool.false_ne_true (hinvalid.symm.trans hvalid)

theorem cleared_rows : ∃ rows', (last.cleared (rows.map (·.artifactId))).artifactRows = .ok rows' ∧
    ∀ row', row' ∈ rows' ↔ ∃ row ∈ rows, store.valid codec row = true ∧ row' = { row with state := .ready } := by
  have hdecode : ∀ raw' ∈ (last.cleared (rows.map (·.artifactId))).artifacts, ∃ row', decodeArtifact raw' = .ok row' := by
    intro raw' hraw'
    obtain ⟨raw, hraw, row, hdecodes, -, rfl⟩ := (mem_cleared_artifacts hrows h).1 hraw'
    exact ⟨_, decodeArtifact_state hdecodes.decoded .ready⟩
  obtain ⟨rows', hrows'⟩ := mapM_total.2 hdecode
  refine ⟨rows', hrows', fun row' => ?_⟩
  rw [mem_artifactRows hrows']
  constructor
  · rintro ⟨raw', hraw', hdecodes'⟩
    obtain ⟨raw, hraw, row, hdecodes, hvalid, rfl⟩ := (mem_cleared_artifacts hrows h).1 hraw'
    refine ⟨row, (mem_artifactRows hrows).2 ⟨raw, hraw, hdecodes⟩, hvalid, ?_⟩
    exact Except.ok.inj (hdecodes'.decoded.symm.trans (decodeArtifact_state hdecodes.decoded .ready))
  · rintro ⟨row, hrow, hvalid, rfl⟩
    obtain ⟨raw, hraw, hdecodes⟩ := (mem_artifactRows hrows).1 hrow
    exact ⟨_, (mem_cleared_artifacts hrows h).2 ⟨raw, hraw, row, hdecodes, hvalid, rfl⟩,
      decodes_iff.1 (decodeArtifact_state hdecodes.decoded .ready)⟩

theorem cleared_valid {usage : Relation UsageRow.objectKey} (hrow : row ∈ rows) (hvalid : store.valid codec row = true) :
    Store.valid codec { last.cleared (rows.map (·.artifactId)) with usage } { row with state := .ready } = true := by
  obtain ⟨raw, hraw, hdecodes⟩ := (mem_artifactRows hrows).1 hrow
  have hothers : ∀ other ∈ last.invalid, row.artifactId ≠ other.artifactId := fun other hother hid => by
    obtain ⟨hmem, hinvalid⟩ := (mem_invalid h).1 hother
    obtain rfl := eq_of_artifactId hrows hrow hmem hid
    exact Bool.false_ne_true (hinvalid.symm.trans hvalid)
  have hsources : (last.cleared (rows.map (·.artifactId))).artifactSources row.artifactId = store.artifactSources row.artifactId :=
    (artifactSources_removed hothers).trans (h.artifactSources _)
  have hread : (last.cleared (rows.map (·.artifactId))).read row.relativePath = store.read row.relativePath := by
    refine read_congr fun file hname => ?_
    rw [mem_cleared_files h, and_iff_left]
    refine ⟨fun other _ htemp => hdecodes.ne_tempPath _ (hname.symm.trans htemp), ?_, fun other hother hinvalid hpath => ?_⟩
    · rw [orphan, hname, hdecodes.namedBy]
      simpa using ⟨row, hrow, rfl⟩
    · obtain ⟨raw', hraw', hdecodes'⟩ := (mem_artifactRows hrows).1 hother
      have hid := (hdecodes.namedBy.symm.trans (congrArg namedBy (hname.symm.trans hpath))).trans hdecodes'.namedBy
      obtain rfl := eq_of_artifactId hrows hrow hother (Option.some.inj hid)
      exact Bool.false_ne_true (hinvalid.symm.trans hvalid)
  exact (valid_congr hread hsources).trans hvalid

end

/-- What recovery is to leave. -/
structure Converged (codec : Codec) (store : Store) : Prop where
  ready : ∀ raw ∈ store.artifacts, raw.state = .ready
  complete : ∀ raw ∈ store.artifacts, ∃ row, decodeArtifact raw = .ok row ∧ store.valid codec row = true
  named : ∀ file ∈ store.files, ∀ id ∈ namedBy file.name, ∃ raw ∈ store.artifacts, raw.artifactId = id
  usage : ∀ u, u ∈ store.usage ↔ ∃ raw ∈ store.artifacts, u = ⟨raw.artifactId.uuid.bytes, some raw.sessionId, raw.byteLen⟩

/-- Recovery succeeds, leaves a converged store, and changes nothing when it runs again. -/
def Converges (codec : Codec) (store : Store) : Prop :=
  ∃ report store', recoverArtifacts codec store = .ok (report, store') ∧ Converged codec store' ∧
    recoverArtifacts codec store' = .ok (.zero, store')

/-- Every row can be read, the sources of a staging row with a complete file are retained, and a row without one has no files
but its own and its temporary one. -/
structure Recoverable (codec : Codec) (store : Store) : Prop where
  decodes : ∀ raw ∈ store.artifacts, ∃ row, decodeArtifact raw = .ok row
  retained : ∀ raw ∈ store.artifacts, ∀ row, decodeArtifact raw = .ok row → Finalizes codec store row → Retained store row
  alone : ∀ raw ∈ store.artifacts, ∀ row, decodeArtifact raw = .ok row → store.valid codec row = false →
    ∀ file ∈ store.files, namedBy file.name = some row.artifactId →
      file.name = row.relativePath ∨ file.name = tempPath row.artifactId

theorem Settled.converged {rows : List ArtifactRow} (h : Settled codec store rows) : Converged codec store := by
  have hrow : ∀ raw ∈ store.artifacts, ∃ row ∈ rows, Decodes raw row := fun raw hraw => by
    obtain ⟨row, hdecode⟩ := mapM_total.1 ⟨rows, h.decoded⟩ raw hraw
    have hdecodes := decodes_iff.1 hdecode
    exact ⟨row, (mem_artifactRows h.decoded).2 ⟨raw, hraw, hdecodes⟩, hdecodes⟩
  refine ⟨fun raw hraw => ?_, fun raw hraw => ?_, fun file hfile id hid => ?_, fun u => ?_⟩
  · obtain ⟨row, hrow, hdecodes⟩ := hrow raw hraw
    exact hdecodes.state.symm.trans (h.ready row hrow)
  · obtain ⟨row, hrow, hdecodes⟩ := hrow raw hraw
    exact ⟨row, hdecodes.decoded, h.complete row hrow⟩
  · have hnamed := h.named file hfile
    rw [orphan, hid, Option.any_some, decide_eq_false_iff_not, not_not] at hnamed
    obtain ⟨row, hrow, rfl⟩ := List.mem_map.1 hnamed
    obtain ⟨raw, hraw, hdecodes⟩ := (mem_artifactRows h.decoded).1 hrow
    exact ⟨raw, hraw, hdecodes.artifactId.symm⟩
  · rw [h.usage]
    constructor
    · rintro ⟨row, hrow, rfl⟩
      obtain ⟨raw, hraw, hdecodes⟩ := (mem_artifactRows h.decoded).1 hrow
      refine ⟨raw, hraw, ?_⟩
      rw [ArtifactRow.usage, hdecodes.artifactId, hdecodes.sessionId, hdecodes.byteLen]
    · rintro ⟨raw, hraw, rfl⟩
      obtain ⟨row, hrow, hdecodes⟩ := hrow raw hraw
      refine ⟨row, hrow, ?_⟩
      rw [ArtifactRow.usage, hdecodes.artifactId, hdecodes.sessionId, hdecodes.byteLen]

theorem recoverArtifacts_eq {rows : List ArtifactRow} {last : Plan} (hrows : store.artifactRows = .ok rows)
    (hlast : rows.foldlM (Plan.row codec) ⟨store, [], .zero⟩ = .ok last) (h : Planned codec store rows last) :
    ∃ report usage rows', recoverArtifacts codec store =
        .ok (report, { last.cleared (rows.map (·.artifactId)) with usage }) ∧
      (last.cleared (rows.map (·.artifactId))).artifactRows = .ok rows' ∧
      (∀ row', row' ∈ rows' ↔ ∃ row ∈ rows, store.valid codec row = true ∧ row' = { row with state := .ready }) ∧
      ∀ u, u ∈ usage ↔ ∃ row' ∈ rows', u = row'.usage := by
  obtain ⟨rows', hrows', hmem⟩ := cleared_rows hrows h
  obtain ⟨usage, changed, hreconcile, husage⟩ := reconcileUsage_spec hrows'
  have hplan : ∃ report, plan codec store = .ok ⟨{ last.store with
      files := last.store.files.delete (orphan (rows.map (·.artifactId))) }, last.invalid, report⟩ :=
    ⟨_, bind_eq_ok.2 ⟨rows, hrows, bind_eq_ok.2 ⟨last, hlast, rfl⟩⟩⟩
  obtain ⟨report, hplan⟩ := hplan
  refine ⟨{ report with usageRowsReconciled := changed }, usage, rows', ?_, hrows', hmem, husage⟩
  exact bind_eq_ok.2 ⟨_, hplan, bind_eq_ok.2 ⟨_, hreconcile, rfl⟩⟩

/-- Recovery converges exactly when the store is recoverable. -/
theorem converges_iff (codec : Codec) (store : Store) : Converges codec store ↔ Recoverable codec store := by
  constructor
  · rintro ⟨report, store', hrecover, hconverged, -⟩
    obtain ⟨plan, hplan, hrest⟩ := bind_eq_ok.1 hrecover
    obtain ⟨rows, hrows, hplan⟩ := bind_eq_ok.1 hplan
    obtain ⟨last, hlast, -⟩ := bind_eq_ok.1 hplan
    have hrun := (planned_nil codec store).run hrows (List.nil_append rows).symm
    have hplanned := hrun.2 last hlast
    have hretained := hrun.1.1 ⟨last, hlast⟩
    obtain ⟨report', usage, rows', heq, -, -, -⟩ := recoverArtifacts_eq hrows hlast hplanned
    obtain rfl := congrArg Prod.snd (Except.ok.inj (heq.symm.trans hrecover))
    refine ⟨mapM_total.1 ⟨rows, hrows⟩, fun raw hraw row hdecode => ?_, fun raw hraw row hdecode hinvalid file hfile hnamed => ?_⟩
    · exact hretained row ((mem_artifactRows hrows).2 ⟨raw, hraw, decodes_iff.1 hdecode⟩)
    · -- a file of the removed row stays, and its row is gone
      by_contra hother
      rw [not_or] at hother
      have hdecodes := decodes_iff.1 hdecode
      have hrow := (mem_artifactRows hrows).2 ⟨raw, hraw, hdecodes⟩
      have hstays : file ∈ (last.cleared (rows.map (·.artifactId))).files := by
        refine (mem_cleared_files hplanned).2 ⟨hfile, fun other hmem htemp => ?_, ?_, fun other hmem _ hpath => ?_⟩
        · have hid := (hnamed.symm.trans (congrArg namedBy htemp)).trans (namedBy_tempPath _)
          exact hother.2 (Option.some.inj hid ▸ htemp)
        · rw [orphan, hnamed]
          simpa using ⟨row, hrow, rfl⟩
        · obtain ⟨raw', -, hdecodes'⟩ := (mem_artifactRows hrows).1 hmem
          have hid := (hnamed.symm.trans (congrArg namedBy hpath)).trans hdecodes'.namedBy
          obtain rfl := eq_of_artifactId hrows hrow hmem (Option.some.inj hid)
          exact hother.1 hpath
      obtain ⟨raw', hraw', hid⟩ := hconverged.named file hstays row.artifactId hnamed
      obtain ⟨raw'', hraw'', row'', hdecodes'', hvalid, rfl⟩ := (mem_cleared_artifacts hrows hplanned).1 hraw'
      have hrow'' := (mem_artifactRows hrows).2 ⟨raw'', hraw'', hdecodes''⟩
      obtain rfl := eq_of_artifactId hrows hrow'' hrow (hdecodes''.artifactId.trans hid)
      exact Bool.false_ne_true (hinvalid.symm.trans hvalid)
  · intro h
    obtain ⟨rows, hrows⟩ := mapM_total.2 h.decodes
    have hrun := (planned_nil codec store).run hrows (List.nil_append rows).symm
    obtain ⟨last, hlast⟩ := hrun.1.2 fun row hrow => by
      obtain ⟨raw, hraw, hdecodes⟩ := (mem_artifactRows hrows).1 hrow
      exact h.retained raw hraw row hdecodes.decoded
    have hplanned := hrun.2 last hlast
    obtain ⟨report, usage, rows', heq, hrows', hmem, husage⟩ := recoverArtifacts_eq hrows hlast hplanned
    have hsettled : Settled codec { last.cleared (rows.map (·.artifactId)) with usage } rows' := by
      refine ⟨hrows', fun row' hrow' => ?_, fun row' hrow' => ?_, fun row' hrow' => ?_, fun file hfile => ?_, husage⟩
      · obtain ⟨row, -, -, rfl⟩ := (hmem row').1 hrow'
        rfl
      · obtain ⟨row, hrow, hvalid, rfl⟩ := (hmem row').1 hrow'
        exact cleared_valid hrows hplanned hrow hvalid
      · obtain ⟨row, hrow, -, rfl⟩ := (hmem row').1 hrow'
        by_contra hsome
        obtain ⟨bytes, hbytes⟩ := Option.ne_none_iff_exists'.1 hsome
        exact ((mem_cleared_files hplanned).1 (read_eq_some.1 hbytes)).2.1 row hrow rfl
      · obtain ⟨hfile, htemps, hknown, hpaths⟩ := (mem_cleared_files hplanned).1 hfile
        cases hnamed : namedBy file.name with
        | none => rw [orphan, hnamed, Option.any_none]
        | some id =>
          rw [orphan, hnamed, Option.any_some, decide_eq_false_iff_not, not_not] at hknown ⊢
          obtain ⟨row, hrow, rfl⟩ := List.mem_map.1 hknown
          obtain ⟨raw, hraw, hdecodes⟩ := (mem_artifactRows hrows).1 hrow
          refine List.mem_map.2 ⟨{ row with state := .ready }, (hmem _).2 ⟨row, hrow, ?_, rfl⟩, rfl⟩
          by_contra hnot
          have hinvalid := Bool.eq_false_iff.2 hnot
          rcases h.alone raw hraw row hdecodes.decoded hinvalid file hfile hnamed with hpath | htemp
          · exact hpaths row hrow hinvalid hpath
          · exact htemps row hrow htemp
    exact ⟨report, _, heq, hsettled.converged, hsettled.recover⟩

def sampleDigest (byte : UInt8) : Sha256Digest := .filled byte

def sampleBytes : List UInt8 := pngSignature ++ [1]

/-- A manifest of one source frame; the bytes of the image have a digest of their own. -/
def sampleCodec : Codec where
  sha256 bytes := if bytes = sampleBytes then sampleDigest 1 else sampleDigest 2
  imageManifest _ := some ⟨⟨someUuid 1⟩, .storyboard, 0, 1, sampleDigest 1, "storyboard", "1", [⟨someUuid 4⟩]⟩
  videoManifest _ := none

/-- A staging row with its complete file, whose source frame is that of another session. -/
def foreignStore : Store where
  artifacts := ⟨[⟨⟨someUuid 1⟩, ⟨someUuid 2⟩, ⟨someUuid 3⟩, .staging, .image .storyboard, 0, 1, "x", sampleDigest 2, sampleDigest 1,
    fileName ⟨someUuid 1⟩ "png".toList, 9, sampleDigest 3, 1, "a", "storyboard", "1"⟩], by decide⟩
  sources := ⟨[⟨⟨someUuid 1⟩, 0, ⟨someUuid 4⟩, sampleDigest 4⟩], by decide⟩
  frames := ⟨[⟨⟨someUuid 4⟩, ⟨someUuid 5⟩, ⟨someUuid 3⟩⟩], by decide⟩
  usage := ⟨[], by decide⟩
  files := ⟨[⟨fileName ⟨someUuid 1⟩ "png".toList, sampleBytes⟩], by decide⟩

/-- The finalisation refuses the row, and the recovery fails. -/
theorem recovery_refused : ¬ ∀ codec store, Converges codec store := by
  intro h
  obtain ⟨report, store', hrecover, -⟩ := h sampleCodec foreignStore
  have hfails : (recoverArtifacts sampleCodec foreignStore).toOption.isNone = true := by decide +kernel
  rw [hrecover] at hfails
  cases hfails

end Krometrail.ArtifactRecovery
