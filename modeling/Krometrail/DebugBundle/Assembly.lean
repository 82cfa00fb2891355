import Krometrail.DebugBundle.Markers

/-!
# The assembled markers

The markers of a bundle are those of the caller, that of the anchor and the candidates of the timeline: for each interaction, navigation and
marker the one that its first row makes.  When they are too many, the candidates that are farthest from the anchor are left out.
-/

namespace Krometrail.DebugBundle

open Results
open Epochs (hyphenated)
open Sorting (sortByKey mem_sortByKey perm_sortByKey pairwise_sortByKey)

/-- The identity that a row names. -/
def identity (row : TimelineObservation) : Option ArtifactMarkerId :=
  match row.payload with
  | .interaction id => some (.interaction id)
  | .navigation id => some (.navigation id)
  | .marker id => some (.marker id)
  | .other => none

/-- The marker that a row makes: that of an interaction is made of its anchor, where it is loaded. -/
def rowMarker (evidence : MarkerEvidence) (row : TimelineObservation) : Option ArtifactMarker :=
  match row.payload with
  | .interaction id => (interactionOf evidence.interactions id).map fun loaded =>
    ⟨.interaction loaded.anchor.interactionId, loaded.anchor.timing.dispatchedAt, "interaction",
      "Interaction " ++ hyphenated ⟨loaded.anchor.interactionId.uuid⟩ ++ ": " ++ loaded.operation⟩
  | .navigation id => some (navigationMarker id row.sessionTime)
  | .marker id => some (genericMarker id row.sessionTime)
  | .other => none

/-- What a bundle takes of the timeline: the marker of the first row of an identity, in the range. -/
structure Candidate (evidence : MarkerEvidence) (mandatoryIds : List ArtifactMarkerId) (rows : List TimelineObservation)
    (marker : ArtifactMarker) : Prop where
  first : ∃ before row after, rows = before ++ row :: after ∧ rowMarker evidence row = some marker ∧
    ∀ other ∈ before, identity other ≠ some marker.id
  additional : marker.id ∉ mandatoryIds
  inRange : DebugBundle.inRange evidence.range marker

variable {evidence : MarkerEvidence} {mandatoryIds : List ArtifactMarkerId} {rows done : List TimelineObservation}
  {row : TimelineObservation} {marker : ArtifactMarker} {state state' : Collected} {id : ArtifactMarkerId}

theorem interactionOf_eq {interactions : List OperatedAnchor} {id : InteractionId} {loaded : OperatedAnchor}
    (h : interactionOf interactions id = some loaded) : loaded.anchor.interactionId = id := by
  have hfound := List.find?_some h
  exact of_decide_eq_true hfound

theorem identity_of_rowMarker (h : rowMarker evidence row = some marker) : identity row = some marker.id := by
  unfold rowMarker at h
  unfold identity
  split at h
  · obtain ⟨loaded, hloaded, rfl⟩ := Option.map_eq_some_iff.1 h
    rw [interactionOf_eq hloaded]
  · exact Option.some.inj h ▸ rfl
  · exact Option.some.inj h ▸ rfl
  · cases h

theorem nonEmpty_eq_ok {text message label : String} (h : nonEmpty text message = .ok label) : label = text := by
  obtain ⟨-, -, h⟩ := bind_eq_ok.1 h
  exact (Except.ok.inj h).symm

theorem interactionMarker_eq {loaded : OperatedAnchor} (h : interactionMarker loaded = .ok marker) :
    marker = ⟨.interaction loaded.anchor.interactionId, loaded.anchor.timing.dispatchedAt, "interaction",
      "Interaction " ++ hyphenated ⟨loaded.anchor.interactionId.uuid⟩ ++ ": " ++ loaded.operation⟩ := by
  obtain ⟨label, hlabel, h⟩ := bind_eq_ok.1 h
  rw [← Except.ok.inj h, nonEmpty_eq_ok hlabel]

/-! ### The loop over the timeline -/

/-- An identity has been seen. -/
def Collected.sees (state : Collected) : ArtifactMarkerId → Bool
  | .interaction id => decide (id ∈ state.seenInteractions)
  | .navigation id => decide (id ∈ state.seenNavigations)
  | .marker id => decide (id ∈ state.seenMarkers)
  | .caller _ => false

/-- The marker of a row that is new, where it is a candidate. -/
def fresh (evidence : MarkerEvidence) (mandatoryIds : List ArtifactMarkerId) (state : Collected) (row : TimelineObservation) :
    List ArtifactMarker :=
  (rowMarker evidence row).toList.filter fun marker =>
    !state.sees marker.id && decide (marker.id ∉ mandatoryIds) && decide (inRange evidence.range marker)

/-- What a turn of the loop does. -/
structure Turn (evidence : MarkerEvidence) (mandatoryIds : List ArtifactMarkerId) (state : Collected) (row : TimelineObservation)
    (state' : Collected) : Prop where
  sees : ∀ id, state'.sees id = true ↔ state.sees id = true ∨ identity row = some id
  candidates : state'.candidates = state.candidates ++ fresh evidence mandatoryIds state row
  warnings : ∀ matched returned limit, .markersTruncated matched returned limit ∈ state'.warnings ↔
    .markersTruncated matched returned limit ∈ state.warnings

theorem fresh_of_seen (hid : identity row = some id) (hseen : state.sees id = true) : fresh evidence mandatoryIds state row = [] := by
  refine List.filter_eq_nil_iff.2 fun marker hmarker => ?_
  have hsame := identity_of_rowMarker (Option.mem_toList.1 hmarker)
  rw [hid] at hsame
  simp [← Option.some.inj hsame, hseen]

theorem turn_seen (hid : identity row = some id) (hseen : state.sees id = true) : Turn evidence mandatoryIds state row state where
  sees id' := ⟨.inl, fun h => h.elim (fun h => h) fun h => Option.some.inj (hid.symm.trans h) ▸ hseen⟩
  candidates := by rw [fresh_of_seen hid hseen, List.append_nil]
  warnings _ _ _ := Iff.rfl

theorem fresh_of_new (hid : identity row = some id) (hnew : state.sees id = false) : fresh evidence mandatoryIds state row =
    if id ∈ mandatoryIds then [] else (rowMarker evidence row).toList.filter fun marker => decide (inRange evidence.range marker) := by
  have hsame (marker : ArtifactMarker) (hmarker : marker ∈ (rowMarker evidence row).toList) : marker.id = id :=
    Option.some.inj ((identity_of_rowMarker (Option.mem_toList.1 hmarker)).symm.trans hid)
  split
  · rename_i hmandatory
    refine List.filter_eq_nil_iff.2 fun marker hmarker => ?_
    simp [hsame marker hmarker, hmandatory]
  · rename_i hmandatory
    refine List.filter_congr fun marker hmarker => ?_
    simp [hsame marker hmarker, hnew, hmandatory]

theorem turn_new (hid : identity row = some id) (hnew : state.sees id = false)
    (hsees : ∀ id', state'.sees id' = true ↔ state.sees id' = true ∨ id' = id)
    (hcandidates : state'.candidates = state.candidates ++
      if id ∈ mandatoryIds then [] else (rowMarker evidence row).toList.filter fun marker => decide (inRange evidence.range marker))
    (hwarnings : ∀ matched returned limit, .markersTruncated matched returned limit ∈ state'.warnings ↔
      .markersTruncated matched returned limit ∈ state.warnings) : Turn evidence mandatoryIds state row state' where
  sees id' := by rw [hsees, hid, Option.some_inj, eq_comm (a := id')]
  candidates := by rw [hcandidates, fresh_of_new hid hnew]
  warnings := hwarnings

theorem filter_some (marker : ArtifactMarker) (range : ResolvedRange) :
    ((some marker).toList.filter fun marker => decide (inRange range marker)) = if inRange range marker then [marker] else [] := by
  rw [Option.toList_some, List.filter_singleton]
  simp

theorem collect_turn (h : collect evidence mandatoryIds state row = .ok state') : Turn evidence mandatoryIds state row state' := by
  unfold collect at h
  split at h
  · rename_i id hpayload
    have hid : identity row = some (.interaction id) := by rw [identity, hpayload]
    have hmarker : rowMarker evidence row = (interactionOf evidence.interactions id).map fun loaded =>
      ⟨.interaction loaded.anchor.interactionId, loaded.anchor.timing.dispatchedAt, "interaction",
        "Interaction " ++ hyphenated ⟨loaded.anchor.interactionId.uuid⟩ ++ ": " ++ loaded.operation⟩ := by rw [rowMarker, hpayload]
    split at h
    · rename_i hseen
      exact Except.ok.inj h ▸ turn_seen hid (decide_eq_true hseen)
    · rename_i hnew
      have hsees (id' : ArtifactMarkerId) : ({ state with seenInteractions := id :: state.seenInteractions } : Collected).sees id' = true ↔
          state.sees id' = true ∨ id' = .interaction id := by
        cases id' <;> simp [Collected.sees, or_comm]
      dsimp only at h
      split at h
      · rename_i hmandatory
        cases h
        exact turn_new hid (decide_eq_false hnew) hsees (by rw [if_pos hmandatory, List.append_nil]) fun _ _ _ => Iff.rfl
      · rename_i hmandatory
        split at h
        · rename_i hnone
          cases h
          exact turn_new hid (decide_eq_false hnew) hsees (by simp [hmandatory, hmarker, hnone]) fun _ _ _ => Iff.rfl
        · rename_i loaded hloaded
          obtain ⟨marker, hlabelled, h⟩ := bind_eq_ok.1 h
          obtain rfl := interactionMarker_eq hlabelled
          rw [hloaded, Option.map_some] at hmarker
          cases h
          refine turn_new hid (decide_eq_false hnew) ?_ ?_ ?_
          · split <;> exact hsees
          · rw [if_neg hmandatory, hmarker, filter_some]
            split <;> simp
          · split <;> exact fun _ _ _ => Iff.rfl
  · rename_i id hpayload
    have hid : identity row = some (.navigation id) := by rw [identity, hpayload]
    have hmarker : rowMarker evidence row = some (navigationMarker id row.sessionTime) := by rw [rowMarker, hpayload]
    split at h
    · rename_i hseen
      exact Except.ok.inj h ▸ turn_seen hid (decide_eq_true hseen)
    · rename_i hnew
      have hsees (id' : ArtifactMarkerId) : ({ state with seenNavigations := id :: state.seenNavigations } : Collected).sees id' = true ↔
          state.sees id' = true ∨ id' = .navigation id := by
        cases id' <;> simp [Collected.sees, or_comm]
      dsimp only at h
      split at h
      · rename_i hmandatory
        cases h
        exact turn_new hid (decide_eq_false hnew) hsees (by rw [if_pos hmandatory, List.append_nil]) fun _ _ _ => Iff.rfl
      · rename_i hmandatory
        cases h
        refine turn_new hid (decide_eq_false hnew) ?_ ?_ ?_
        · split <;> exact hsees
        · rw [if_neg hmandatory, hmarker, filter_some]
          split <;> simp
        · split <;> exact fun _ _ _ => Iff.rfl
  · rename_i id hpayload
    have hid : identity row = some (.marker id) := by rw [identity, hpayload]
    have hmarker : rowMarker evidence row = some (genericMarker id row.sessionTime) := by rw [rowMarker, hpayload]
    split at h
    · rename_i hseen
      exact Except.ok.inj h ▸ turn_seen hid (decide_eq_true hseen)
    · rename_i hnew
      have hsees (id' : ArtifactMarkerId) : ({ state with seenMarkers := id :: state.seenMarkers } : Collected).sees id' = true ↔
          state.sees id' = true ∨ id' = .marker id := by
        cases id' <;> simp [Collected.sees, or_comm]
      dsimp only at h
      split at h
      · rename_i hmandatory
        cases h
        exact turn_new hid (decide_eq_false hnew) hsees (by rw [if_pos hmandatory, List.append_nil]) fun _ _ _ => Iff.rfl
      · rename_i hmandatory
        cases h
        refine turn_new hid (decide_eq_false hnew) ?_ ?_ ?_
        · split <;> exact hsees
        · rw [if_neg hmandatory, hmarker, filter_some]
          split <;> simp
        · split
          · simp
          · exact fun _ _ _ => Iff.rfl
  · rename_i hpayload
    cases h
    have hid : identity row = none := by rw [identity, hpayload]
    have hmarker : rowMarker evidence row = none := by rw [rowMarker, hpayload]
    exact ⟨by simp [hid], by simp [fresh, hmarker], fun _ _ _ => Iff.rfl⟩

theorem candidate_concat : Candidate evidence mandatoryIds (done ++ [row]) marker ↔ Candidate evidence mandatoryIds done marker ∨
    (rowMarker evidence row = some marker ∧ (∀ other ∈ done, identity other ≠ some marker.id)) ∧ marker.id ∉ mandatoryIds ∧
      inRange evidence.range marker := by
  constructor
  · rintro ⟨⟨before, first, after, hsplit, hmarker, hfirst⟩, hadditional, hrange⟩
    rcases after.eq_nil_or_concat with rfl | ⟨init, last, rfl⟩
    · obtain ⟨rfl, heq⟩ := List.append_inj' hsplit rfl
      obtain rfl := (List.cons.inj heq).1
      exact .inr ⟨⟨hmarker, hfirst⟩, hadditional, hrange⟩
    · rw [List.concat_eq_append, ← List.cons_append, ← List.append_assoc] at hsplit
      exact .inl ⟨⟨before, first, init, (List.append_inj' hsplit rfl).1, hmarker, hfirst⟩, hadditional, hrange⟩
  · rintro (⟨⟨before, first, after, rfl, hmarker, hfirst⟩, hadditional, hrange⟩ | ⟨⟨hmarker, hfirst⟩, hadditional, hrange⟩)
    · exact ⟨⟨before, first, after ++ [row], by rw [List.append_assoc, List.cons_append], hmarker, hfirst⟩, hadditional, hrange⟩
    · exact ⟨⟨done, row, [], rfl, hmarker, hfirst⟩, hadditional, hrange⟩

/-- What the loop has collected of some rows. -/
structure CollectedFrom (evidence : MarkerEvidence) (mandatoryIds : List ArtifactMarkerId) (warnings : List BundleWarning)
    (done : List TimelineObservation) (state : Collected) : Prop where
  sees : ∀ id, state.sees id = true ↔ ∃ row ∈ done, identity row = some id
  candidates : ∀ marker, marker ∈ state.candidates ↔ Candidate evidence mandatoryIds done marker
  unique : (state.candidates.map ArtifactMarker.id).Nodup
  warnings : ∀ matched returned limit, .markersTruncated matched returned limit ∈ state.warnings ↔
    .markersTruncated matched returned limit ∈ warnings

theorem Candidate.identity (h : Candidate evidence mandatoryIds rows marker) : ∃ row ∈ rows, identity row = some marker.id := by
  obtain ⟨before, row, after, rfl, hmarker, -⟩ := h.first
  exact ⟨row, by simp, identity_of_rowMarker hmarker⟩

theorem CollectedFrom.step {warnings : List BundleWarning} (h : CollectedFrom evidence mandatoryIds warnings done state)
    (hturn : Turn evidence mandatoryIds state row state') : CollectedFrom evidence mandatoryIds warnings (done ++ [row]) state' := by
  have hfresh (marker : ArtifactMarker) : marker ∈ fresh evidence mandatoryIds state row ↔
      (rowMarker evidence row = some marker ∧ (∀ other ∈ done, identity other ≠ some marker.id)) ∧ marker.id ∉ mandatoryIds ∧
        inRange evidence.range marker := by
    have hseen : state.sees marker.id = false ↔ ∀ other ∈ done, identity other ≠ some marker.id := by
      rw [← Bool.not_eq_true, h.sees]
      push Not
      rfl
    rw [fresh, List.mem_filter, Option.mem_toList, Bool.and_eq_true, Bool.and_eq_true, Bool.not_eq_true', hseen, decide_eq_true_iff,
      decide_eq_true_iff]
    tauto
  refine ⟨fun id => ?_, fun marker => ?_, ?_, fun matched returned limit => ?_⟩
  · rw [hturn.sees, h.sees]
    simp [or_and_right, exists_or]
  · rw [hturn.candidates, List.mem_append, h.candidates, candidate_concat, hfresh]
  · rw [hturn.candidates, List.map_append, List.nodup_append]
    refine ⟨h.unique, ?_, ?_⟩
    · refine List.Nodup.sublist (List.filter_sublist.map _) ?_
      cases rowMarker evidence row <;> simp
    · rintro _ hmem _ hnew rfl
      obtain ⟨old, hold, heq⟩ := List.mem_map.1 hmem
      obtain ⟨new, hnew, heq'⟩ := List.mem_map.1 hnew
      obtain ⟨other, hother, hidentity⟩ := ((h.candidates old).1 hold).identity
      exact ((hfresh new).1 hnew).1.2 other hother (by rw [hidentity, heq, heq'])
  · rw [hturn.warnings, h.warnings]

theorem collected {warnings : List BundleWarning}
    (h : rows.foldlM (collect evidence mandatoryIds) ⟨[], warnings, [], [], []⟩ = .ok state) :
    CollectedFrom evidence mandatoryIds warnings rows state := by
  refine foldlM_prefix (P := CollectedFrom evidence mandatoryIds warnings) (fun done row rest b b' _ hdone hturn =>
    hdone.step (collect_turn hturn)) ⟨fun id => ?_, fun marker => ?_, ?_, fun _ _ _ => Iff.rfl⟩ h
  · cases id <;> simp [Collected.sees]
  · refine ⟨nofun, fun h => ?_⟩
    obtain ⟨row, hrow, -⟩ := h.identity
    cases hrow
  · exact List.nodup_nil

/-! ### The result -/

/-- The typed identity of the anchor. -/
def anchorId (range : ResolvedRange) : Option ArtifactMarkerId :=
  match range.resolvedAnchor.reference with
  | .interaction id => some (.interaction id)
  | .navigation id => some (.navigation id)
  | .marker id => some (.marker id)
  | .interval | .sourceFrames .. => none

theorem anchorMarker_eq {range : ResolvedRange} {interactions : List OperatedAnchor} {found : AnchorMarkerResult}
    (h : anchorMarker range interactions = .ok found) :
    found.marker.map ArtifactMarker.id = anchorId range ∧ ∀ m ∈ found.marker, m.sessionTime = range.resolvedAnchor.effectiveTime := by
  cases href : range.resolvedAnchor.reference with
  | interaction id =>
    simp only [anchorMarker, href, bind_eq_ok] at h
    obtain ⟨⟨label, synthetic⟩, -, h⟩ := h
    cases h
    exact ⟨by rw [anchorId, href]; rfl, fun m hm => by rw [← Option.some.inj hm]⟩
  | navigation id | marker id =>
    simp only [anchorMarker, href] at h
    cases h
    exact ⟨by rw [anchorId, href]; rfl, fun m hm => by rw [← Option.some.inj hm]⟩
  | interval | sourceFrames start stop =>
    simp only [anchorMarker, href] at h
    cases h
    exact ⟨by rw [anchorId, href]; rfl, by simp⟩

/-- The identities of the caller's markers and of the anchor. -/
def requiredIds (evidence : MarkerEvidence) : List ArtifactMarkerId :=
  let callerIds := evidence.callerMarkers.map ArtifactMarker.id
  callerIds ++ ((anchorId evidence.range).filter fun id => decide (id ∉ callerIds)).toList

def IsCandidate (evidence : MarkerEvidence) (marker : ArtifactMarker) : Prop :=
  Candidate evidence (requiredIds evidence) evidence.timeline.observations marker

/-- The list that `combine` makes. -/
structure Combined (anchor : SessionTime) (mandatory candidates : List ArtifactMarker)
    (assembled : AssembledMarkers) : Prop where
  distinct : (assembled.markers.map ArtifactMarker.id).Nodup
  ordered : assembled.markers.Pairwise fun a b => presentationOrder a ≤ presentationOrder b
  required : mandatory ⊆ assembled.markers
  bounded : assembled.markers.length ≤ maxBundleArtifactMarkers
  subset : assembled.markers ⊆ mandatory ++ candidates
  nearest : ∀ m ∈ candidates, m ∉ assembled.markers → assembled.markers.length = maxBundleArtifactMarkers ∧
    ∀ kept ∈ assembled.markers, kept ∈ candidates → candidateRank anchor kept ≤ candidateRank anchor m
  warned : ∀ matched returned limit, .markersTruncated matched returned limit ∈ assembled.warnings ↔
    (∃ m ∈ candidates, m ∉ assembled.markers) ∧ matched = mandatory.length + candidates.length ∧
      returned = assembled.markers.length ∧ limit = maxBundleArtifactMarkers

section Combining

variable {anchor : SessionTime} {mandatory candidates : List ArtifactMarker} {warnings : List BundleWarning}

/-- The mandatory markers and the nearest candidates. -/
def chosen (anchor : SessionTime) (mandatory candidates : List ArtifactMarker) : List ArtifactMarker :=
  mandatory ++ (sortByKey (candidateRank anchor) candidates).take (maxBundleArtifactMarkers - mandatory.length)

theorem combine_markers : (combine mandatory (sortByKey (candidateRank anchor) candidates) warnings).markers =
    sortByKey presentationOrder (chosen anchor mandatory candidates) := by
  unfold combine
  dsimp only
  split
  · rfl
  · rename_i htotal
    rw [chosen, List.take_of_length_le (by omega)]

theorem length_chosen (hcount : mandatory.length ≤ maxBundleArtifactMarkers) :
    (chosen anchor mandatory candidates).length = min maxBundleArtifactMarkers (mandatory.length + candidates.length) := by
  rw [chosen, List.length_append, List.length_take, (perm_sortByKey _ _).length_eq]
  omega

theorem distinct_chosen (hunique : ((mandatory ++ candidates).map ArtifactMarker.id).Nodup) :
    ((chosen anchor mandatory candidates).map ArtifactMarker.id).Nodup := by
  have hall : ((mandatory ++ sortByKey (candidateRank anchor) candidates).map ArtifactMarker.id).Nodup :=
    (((perm_sortByKey (candidateRank anchor) candidates).append_left mandatory).map _).nodup_iff.2 hunique
  exact hall.sublist (((List.take_sublist _ _).append_left mandatory).map _)

theorem mem_drop_of_omitted {m : ArtifactMarker} (hm : m ∈ candidates) (homitted : m ∉ chosen anchor mandatory candidates) :
    m ∈ (sortByKey (candidateRank anchor) candidates).drop (maxBundleArtifactMarkers - mandatory.length) := by
  have hmem : m ∈ sortByKey (candidateRank anchor) candidates := mem_sortByKey.2 hm
  rw [← List.take_append_drop (maxBundleArtifactMarkers - mandatory.length) (sortByKey (candidateRank anchor) candidates),
    List.mem_append] at hmem
  exact hmem.resolve_left fun htake => homitted (List.mem_append_right _ htake)

theorem omitted_iff (hunique : ((mandatory ++ candidates).map ArtifactMarker.id).Nodup) (hcount : mandatory.length ≤ maxBundleArtifactMarkers) :
    (∃ m ∈ candidates, m ∉ chosen anchor mandatory candidates) ↔ maxBundleArtifactMarkers < mandatory.length + candidates.length := by
  have hlength : (chosen anchor mandatory candidates).length = _ := length_chosen hcount
  constructor
  · rintro ⟨m, hm, homitted⟩
    have hdrop := List.length_pos_of_mem (mem_drop_of_omitted hm homitted)
    rw [List.length_drop, (perm_sortByKey _ _).length_eq] at hdrop
    omega
  · intro hmany
    by_contra! hall
    have hsubset : (mandatory ++ candidates).Subperm (chosen anchor mandatory candidates) :=
      List.subperm_of_subset (List.Nodup.of_map _ hunique) (List.append_subset.2 ⟨List.subset_append_left _ _, hall⟩)
    have hle := hsubset.length_le
    rw [List.length_append] at hle
    omega

theorem combined (hunique : ((mandatory ++ candidates).map ArtifactMarker.id).Nodup) (hcount : mandatory.length ≤ maxBundleArtifactMarkers)
    (hwarnings : ∀ matched returned limit, .markersTruncated matched returned limit ∉ warnings) :
    Combined anchor mandatory candidates (combine mandatory (sortByKey (candidateRank anchor) candidates) warnings) := by
  have hperm : (combine mandatory (sortByKey (candidateRank anchor) candidates) warnings).markers.Perm (chosen anchor mandatory candidates) :=
    combine_markers ▸ perm_sortByKey _ _
  have hlength := hperm.length_eq.trans (length_chosen hcount)
  refine ⟨(hperm.map _).nodup_iff.2 (distinct_chosen hunique), combine_markers ▸ pairwise_sortByKey _ _,
    fun m hm => hperm.mem_iff.2 (List.mem_append_left _ hm), hlength.trans_le (min_le_left _ _), fun m hm => ?_, fun m hm homitted => ?_,
    fun matched returned limit => ?_⟩
  · rcases List.mem_append.1 (hperm.mem_iff.1 hm) with hm | hm
    · exact List.mem_append_left _ hm
    · exact List.mem_append_right _ (mem_sortByKey.1 (List.mem_of_mem_take hm))
  · have homitted : m ∉ chosen anchor mandatory candidates := fun h => homitted (hperm.mem_iff.2 h)
    refine ⟨by have := (omitted_iff hunique hcount).1 ⟨m, hm, homitted⟩; omega, fun kept hkept hcandidate => ?_⟩
    have htake := (List.mem_append.1 (hperm.mem_iff.1 hkept)).resolve_left fun hmandatory => by
      rw [List.map_append] at hunique
      exact List.disjoint_of_nodup_append hunique (List.mem_map_of_mem hmandatory) (List.mem_map_of_mem hcandidate)
    have hpairwise := pairwise_sortByKey (candidateRank anchor) candidates
    rw [← List.take_append_drop (maxBundleArtifactMarkers - mandatory.length) (sortByKey (candidateRank anchor) candidates)] at hpairwise
    exact (List.pairwise_append.1 hpairwise).2.2 kept htake m (mem_drop_of_omitted hm homitted)
  · have homitted : (∃ m ∈ candidates, m ∉ (combine mandatory (sortByKey (candidateRank anchor) candidates) warnings).markers) ↔
        maxBundleArtifactMarkers < mandatory.length + candidates.length := by
      simp only [hperm.mem_iff]
      exact omitted_iff hunique hcount
    rw [homitted]
    unfold combine
    dsimp only
    split
    · rename_i htotal
      rw [(perm_sortByKey _ _).length_eq] at htotal
      simp only [List.mem_append, hwarnings, false_or, List.mem_singleton, BundleWarning.markersTruncated.injEq,
        (perm_sortByKey (candidateRank anchor) candidates).length_eq, (perm_sortByKey presentationOrder _).length_eq]
      exact ⟨fun h => ⟨htotal, h⟩, fun h => h.2⟩
    · rename_i htotal
      rw [(perm_sortByKey _ _).length_eq] at htotal
      exact ⟨fun h => absurd h (hwarnings _ _ _), fun h => absurd h.1 htotal⟩

end Combining

/-! ### Bundles -/

structure Assembled (evidence : MarkerEvidence) (assembled : AssembledMarkers) : Prop where
  distinct : (assembled.markers.map ArtifactMarker.id).Nodup
  ordered : assembled.markers.Pairwise fun a b => presentationOrder a ≤ presentationOrder b
  callers : evidence.callerMarkers ⊆ assembled.markers
  /-- The anchor's marker is there, or the caller's own of that identity and time. -/
  anchor : ∀ id ∈ anchorId evidence.range, ∃ found, anchorMarker evidence.range evidence.interactions = .ok found ∧
    ∃ m ∈ found.marker, m.id = id ∧ m.sessionTime = evidence.range.resolvedAnchor.effectiveTime ∧
      (m ∈ assembled.markers ∨ ∃ caller ∈ evidence.callerMarkers, caller.id = id ∧ caller.sessionTime = m.sessionTime)
  bounded : assembled.markers.length ≤ maxBundleArtifactMarkers
  /-- Nothing else is there. -/
  sources : ∀ m ∈ assembled.markers, m.id ∈ requiredIds evidence ∨ IsCandidate evidence m
  nearest : ∀ m, IsCandidate evidence m → m ∉ assembled.markers → assembled.markers.length = maxBundleArtifactMarkers ∧
    ∀ kept ∈ assembled.markers, IsCandidate evidence kept →
      candidateRank evidence.range.resolvedAnchor.effectiveTime kept ≤ candidateRank evidence.range.resolvedAnchor.effectiveTime m
  warned : ∃ candidates : List ArtifactMarker, candidates.Nodup ∧ (∀ m, m ∈ candidates ↔ IsCandidate evidence m) ∧
    ∀ matched returned limit, .markersTruncated matched returned limit ∈ assembled.warnings ↔
      (∃ m ∈ candidates, m ∉ assembled.markers) ∧ matched = (requiredIds evidence).length + candidates.length ∧
        returned = assembled.markers.length ∧ limit = maxBundleArtifactMarkers
  /-- Where the rows are in the range, as a query of it returns them, every identity with a marker in the range has its candidate. -/
  named : (∀ row ∈ evidence.timeline.observations,
      evidence.range.resolvedRange.fst ≤ row.sessionTime ∧ row.sessionTime ≤ evidence.range.resolvedRange.snd) →
    ∀ row ∈ evidence.timeline.observations, ∀ m ∈ rowMarker evidence row, inRange evidence.range m → m.id ∉ requiredIds evidence →
      ∃ candidate, IsCandidate evidence candidate ∧ candidate.id = m.id

theorem payload_of_identity {first : TimelineObservation} (hrow : identity row = some id) (hfirst : identity first = some id) :
    first.payload = row.payload := by
  unfold identity at hrow hfirst
  cases hpayload : row.payload <;> cases hother : first.payload <;> rw [hpayload] at hrow <;> rw [hother] at hfirst <;> grind

theorem rowMarker_of_identity {first : TimelineObservation} (hrow : rowMarker evidence row = some marker)
    (hsame : identity first = some marker.id) (hfirst : evidence.range.resolvedRange.fst ≤ first.sessionTime ∧
      first.sessionTime ≤ evidence.range.resolvedRange.snd) (hrange : inRange evidence.range marker) :
    ∃ m, rowMarker evidence first = some m ∧ m.id = marker.id ∧ inRange evidence.range m := by
  have hpayload := payload_of_identity (identity_of_rowMarker hrow) hsame
  unfold rowMarker at hrow ⊢
  rw [hpayload]
  split at hrow
  · exact ⟨marker, hrow, rfl, hrange⟩
  · exact ⟨_, rfl, Option.some.inj hrow ▸ rfl, hfirst⟩
  · exact ⟨_, rfl, Option.some.inj hrow ▸ rfl, hfirst⟩
  · cases hrow

theorem named_of_rows (hrows : ∀ row ∈ rows, evidence.range.resolvedRange.fst ≤ row.sessionTime ∧
      row.sessionTime ≤ evidence.range.resolvedRange.snd) (hrow : row ∈ rows) (hmarker : rowMarker evidence row = some marker)
    (hrange : inRange evidence.range marker) (hadditional : marker.id ∉ mandatoryIds) :
    ∃ candidate, Candidate evidence mandatoryIds rows candidate ∧ candidate.id = marker.id := by
  have hsome : (rows.find? fun other => decide (identity other = some marker.id)).isSome :=
    List.find?_isSome.2 ⟨row, hrow, decide_eq_true (identity_of_rowMarker hmarker)⟩
  obtain ⟨first, hfound⟩ := Option.isSome_iff_exists.1 hsome
  obtain ⟨hsame, before, after, hsplit, hbefore⟩ := List.find?_eq_some_iff_append.1 hfound
  obtain ⟨candidate, hcandidate, hid, hin⟩ :=
    rowMarker_of_identity hmarker (of_decide_eq_true hsame) (hrows first (List.mem_of_find?_eq_some hfound)) hrange
  refine ⟨candidate, ⟨⟨before, first, after, hsplit, hcandidate, fun other hother heq => ?_⟩, hid ▸ hadditional, hin⟩, hid⟩
  have := hbefore other hother
  simp [heq, hid] at this

theorem map_mandatory {anchor : Option ArtifactMarker} (hanchor : anchor.map ArtifactMarker.id = anchorId evidence.range) :
    (evidence.callerMarkers ++
        (anchor.filter fun m => decide (m.id ∉ evidence.callerMarkers.map ArtifactMarker.id)).toList).map ArtifactMarker.id =
      requiredIds evidence := by
  rw [List.map_append, requiredIds, ← hanchor]
  cases anchor with
  | none => rfl
  | some m =>
    rw [Option.map_some, Option.filter_some, Option.filter_some]
    split <;> rfl

theorem nodup_requiredIds (hcallers : AcceptedCallers evidence.callerMarkers) : (requiredIds evidence).Nodup := by
  refine List.nodup_append.2 ⟨hcallers.unique, ?_, ?_⟩
  · cases (anchorId evidence.range).filter _ <;> simp
  · rintro id hid _ hanchor rfl
    simp only [Option.mem_toList, Option.filter_eq_some_iff, decide_eq_true_eq] at hanchor
    exact hanchor.2 hid

/-- The markers of a bundle are assembled as they should be. -/
theorem assembled_markers {assembled : AssembledMarkers} (hcallers : AcceptedCallers evidence.callerMarkers)
    (h : assembleMarkers evidence = .ok assembled) : Assembled evidence assembled := by
  simp only [assembleMarkers, bind_eq_ok, refuse_eq_ok, pure_eq_ok] at h
  obtain ⟨anchor, hanchor, -, hagrees, state, hstate, rfl⟩ := h
  obtain ⟨hanchorId, hanchorTime⟩ := anchorMarker_eq hanchor
  set added := anchor.marker.filter fun m => decide (m.id ∉ evidence.callerMarkers.map ArtifactMarker.id) with hadded
  have hids : (evidence.callerMarkers ++ added.toList).map ArtifactMarker.id = requiredIds evidence := map_mandatory hanchorId
  have hcollected := collected hstate
  rw [hids] at hcollected
  have hunique : ((evidence.callerMarkers ++ added.toList ++ state.candidates).map ArtifactMarker.id).Nodup := by
    rw [List.map_append, hids]
    refine List.nodup_append.2 ⟨nodup_requiredIds hcallers, hcollected.unique, ?_⟩
    rintro id hid _ hcandidate rfl
    obtain ⟨m, hm, rfl⟩ := List.mem_map.1 hcandidate
    exact ((hcollected.candidates m).1 hm).additional hid
  have hcount : (evidence.callerMarkers ++ added.toList).length ≤ maxBundleArtifactMarkers := by
    have hcallers := hcallers.count
    have hadded : added.toList.length ≤ 1 := by cases added <;> simp
    rw [maxBundleCallerMarkers] at hcallers
    rw [List.length_append, maxBundleArtifactMarkers]
    omega
  have hwarnings : ∀ matched returned limit, .markersTruncated matched returned limit ∉ state.warnings := by
    intro matched returned limit
    rw [hcollected.warnings]
    split <;> split <;> simp
  have hcombined : Combined evidence.range.resolvedAnchor.effectiveTime (evidence.callerMarkers ++ added.toList) state.candidates
      (combine _ _ _) := combined hunique hcount hwarnings
  have hlength : (evidence.callerMarkers ++ added.toList).length = (requiredIds evidence).length := by rw [← hids, List.length_map]
  refine ⟨hcombined.distinct, hcombined.ordered, fun m hm => hcombined.required (List.mem_append_left _ hm), fun id hid => ?_,
    hcombined.bounded, fun m hm => ?_, fun m hm homitted => ?_, ?_, fun hrows row hrow m hm hrange hadditional =>
      named_of_rows hrows hrow hm hrange hadditional⟩
  · rw [← hanchorId] at hid
    obtain ⟨m, hm, rfl⟩ := Option.map_eq_some_iff.1 hid
    refine ⟨anchor, hanchor, m, hm, rfl, hanchorTime m hm, ?_⟩
    cases hfind : evidence.callerMarkers.find? fun caller => decide (caller.id = m.id) with
    | none =>
      have hother : m.id ∉ evidence.callerMarkers.map ArtifactMarker.id := fun hmem => by
        obtain ⟨caller, hcaller, heq⟩ := List.mem_map.1 hmem
        exact absurd (decide_eq_true heq) (List.find?_eq_none.1 hfind caller hcaller)
      refine .inl (hcombined.required (List.mem_append_right _ (Option.mem_toList.2 ?_)))
      rw [hadded, hm, Option.filter_some, if_pos (decide_eq_true hother)]
    | some caller =>
      have hsame := List.find?_some hfind
      refine .inr ⟨caller, List.mem_of_find?_eq_some hfind, of_decide_eq_true hsame, ?_⟩
      by_contra hne
      exact hagrees ⟨m, hm, caller, hfind, hne⟩
  · rcases List.mem_append.1 (hcombined.subset hm) with hm | hm
    · exact .inl (hids ▸ List.mem_map_of_mem hm)
    · exact .inr ((hcollected.candidates m).1 hm)
  · obtain ⟨hfull, hnearest⟩ := hcombined.nearest m ((hcollected.candidates m).2 hm) homitted
    exact ⟨hfull, fun kept hkept hcandidate => hnearest kept hkept ((hcollected.candidates kept).2 hcandidate)⟩
  · exact ⟨state.candidates, List.Nodup.of_map _ hcollected.unique, hcollected.candidates, hlength ▸ hcombined.warned⟩

/-- One marker of the timeline, next to one of the caller. -/
def sampleEvidence : MarkerEvidence where
  range := Epochs.resizedRange
  callerMarkers := [⟨.caller "note", ⟨10⟩, "note", "a note"⟩]
  timeline := ⟨1, [⟨⟨someUuid 1⟩, ⟨someUuid 2⟩, ⟨10⟩, .marker ⟨someUuid 9⟩⟩], false⟩
  interactions := []

theorem assembled_markers_sample : ∃ assembled, assembleMarkers sampleEvidence = .ok assembled ∧ Assembled sampleEvidence assembled :=
  ⟨_, rfl, assembled_markers ⟨by decide, by decide⟩ rfl⟩

end Krometrail.DebugBundle
