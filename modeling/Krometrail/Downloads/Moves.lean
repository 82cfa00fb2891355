import Krometrail.Downloads.Inventory

/-!
# What a step of the inventory does

Every step is made of a few moves.  Each of them keeps the entries and their begin sequences, leaves a terminal entry as it
is, and gives what it changes the sequence that the counter held (`Kept`); and each keeps the inventory well formed as
long as the counter is not at its end (`Valid`).
-/

namespace Krometrail.Downloads

open Keyed Sorting Relation

/-- A change of an entry keeps what identifies it and takes the drawn sequence. -/
structure Changes (f : Nat → Entry → Entry) : Prop where
  guid : ∀ sequence entry, (f sequence entry).guid = entry.guid
  id : ∀ sequence entry, (f sequence entry).download.id = entry.download.id
  begun : ∀ sequence entry, (f sequence entry).begunSequence = entry.begunSequence
  sequence : ∀ sequence entry, (f sequence entry).download.sequence = sequence

theorem changes_transition (value : DownloadState) (received total : Option Nat) :
    Changes (Entry.transition value received total) := ⟨fun _ _ => rfl, fun _ _ => rfl, fun _ _ => rfl, fun _ _ => rfl⟩

theorem changes_complete (size : Nat) (total : Option Nat) : Changes (Entry.complete size total) :=
  ⟨fun _ _ => rfl, fun _ _ => rfl, fun _ _ => rfl, fun _ _ => rfl⟩

theorem changes_fail : Changes Entry.fail := ⟨fun _ _ => rfl, fun _ _ => rfl, fun _ _ => rfl, fun _ _ => rfl⟩

def State.insert (entry : Entry) (state : State) : State :=
  { state.drawn with byGuid := state.byGuid.orderedInsert (fun a b => a.guid ≤ b.guid) entry }

inductive Move : State → State → Prop
  | configure (state : State) (accepting : Bool) (transportGeneration : Nat) :
    Move state { state with accepting, transportGeneration }
  | change (state : State) (guid : String) {f : Nat → Entry → Entry} (hf : Changes f) : Move state (state.change guid f)
  | insert (state : State) (entry : Entry) (hguid : state.get entry.guid = none)
    (hroom : state.byGuid.length < maxManagedDownloads) (hsequence : entry.download.sequence = state.nextSequence)
    (hbegun : entry.begunSequence = state.nextSequence) : Move state (state.insert entry)
  | reject (state : State) (download : ManagedDownload) (hsequence : download.sequence = state.nextSequence) :
    Move state { state.drawn with overflowRejection := some download }

variable {state state' : State} {entry : Entry} {guid : String}

theorem get_eq_none : state.get guid = none ↔ ∀ entry ∈ state.byGuid, entry.guid ≠ guid := by
  simp [State.get]

theorem get_eq_some (h : state.get guid = some entry) : entry ∈ state.byGuid ∧ entry.guid = guid := by
  have hfound := List.find?_some h
  exact ⟨List.mem_of_find?_eq_some h, of_decide_eq_true hfound⟩

theorem transition_moves (guid : String) (value : DownloadState) (received total : Option Nat) (state : State) :
    ReflTransGen Move state (transition guid value received total state) :=
  .single (.change _ guid (changes_transition value received total))

theorem complete_moves (guid : String) (size : Nat) (total : Option Nat) (state : State) :
    ReflTransGen Move state (complete guid size total state) := by
  unfold complete
  split
  · exact .refl
  · exact .single (.change _ guid (changes_complete size total))

theorem begin_moves (generation : Nat) (params : BeginParams) (id : DownloadId) (state : State) :
    ReflTransGen Move state (begin generation params id state) := by
  unfold begin
  cases params.guid with
  | none => exact .refl
  | some guid =>
  dsimp only
  split
  · exact .refl
  split
  · exact .refl
  rename_i hopen
  split
  · exact .single (.reject _ _ rfl)
  · rename_i hroom
    simp only [not_or, Bool.not_eq_true, Option.isSome_eq_false_iff, Option.isNone_iff_eq_none] at hopen
    exact .single (.insert state ⟨guid, _, _, _⟩ hopen.2.2 (not_le.1 hroom) rfl rfl)

theorem progress_moves (generation : Nat) (params : ProgressParams) (verified : Option Nat) (state : State) :
    ReflTransGen Move state (progress generation params verified state) := by
  unfold progress
  split
  · exact .refl
  split
  · exact .refl
  dsimp only
  split
  · exact transition_moves ..
  split
  · split
    · exact complete_moves ..
    · exact transition_moves ..
  · exact transition_moves ..
  · exact transition_moves ..

theorem rebind_moves (io : RebindOutcomes) (state : State) : ReflTransGen Move state (rebind io state).2 := by
  unfold rebind
  split
  · exact .refl
  · refine .head (.configure state state.accepting (saturatingAdd state.transportGeneration 1)) ?_
    generalize List.map _ _ = stale
    generalize { state with transportGeneration := _ } = bound
    induction stale generalizing bound with
    | nil => exact .refl
    | cons guid stale ih => exact .head (.change bound guid changes_fail) (ih _)

theorem exec_moves (state : State) (input : Input) : ReflTransGen Move state (exec state input) := by
  cases input with
  | begin generation params id => exact begin_moves generation params id state
  | progress generation params verified => exact progress_moves generation params verified state
  | cancel id sent =>
    simp only [exec, cancel]
    split
    · exact .refl
    split
    · exact .refl
    split
    · exact .refl
    · exact transition_moves ..
  | rebind io => exact rebind_moves io state
  | shutdown removed => exact .single (.configure state false state.transportGeneration)

theorem moves_foldl (inputs : List Input) (state : State) : ReflTransGen Move state (inputs.foldl exec state) := by
  induction inputs generalizing state with
  | nil => exact .refl
  | cons input inputs ih => exact (exec_moves state input).trans (ih _)

/-- The entry later on: as it was, or with a sequence from `counter` on if it was not terminal. -/
structure Follows (counter : Nat) (entry entry' : Entry) : Prop where
  guid : entry'.guid = entry.guid
  id : entry'.download.id = entry.download.id
  begun : entry'.begunSequence = entry.begunSequence
  changed : entry' = entry ∨ isTerminal entry.download.state = false ∧ counter ≤ entry'.download.sequence

theorem Follows.refl (counter : Nat) (entry : Entry) : Follows counter entry entry := ⟨rfl, rfl, rfl, .inl rfl⟩

theorem Follows.trans {counter counter' : Nat} {entry entry' entry'' : Entry} (h : Follows counter entry entry')
    (h' : Follows counter' entry' entry'') (hle : counter ≤ counter') : Follows counter entry entry'' := by
  refine ⟨h'.guid.trans h.guid, h'.id.trans h.id, h'.begun.trans h.begun, ?_⟩
  rcases h.changed with rfl | ⟨hopen, hlater⟩
  · exact h'.changed.imp_right fun ⟨hopen, hlater⟩ => ⟨hopen, hle.trans hlater⟩
  · rcases h'.changed with rfl | ⟨-, hlater'⟩
    · exact .inr ⟨hopen, hlater⟩
    · exact .inr ⟨hopen, hle.trans hlater'⟩

/-- Since the first state no entry has gone, and what has changed or come has a sequence that was not yet drawn in it. -/
structure Kept (s s' : State) : Prop where
  counter : s.nextSequence ≤ s'.nextSequence
  entries : ∀ entry ∈ s.byGuid, ∃ entry' ∈ s'.byGuid, Follows s.nextSequence entry entry'
  origin : ∀ entry' ∈ s'.byGuid, (∃ entry ∈ s.byGuid, Follows s.nextSequence entry entry') ∨
    (∀ entry ∈ s.byGuid, entry.guid ≠ entry'.guid) ∧ s.nextSequence ≤ entry'.begunSequence ∧
      s.nextSequence ≤ entry'.download.sequence
  rejection : s'.overflowRejection = s.overflowRejection ∨
    ∃ download, s'.overflowRejection = some download ∧ s.nextSequence ≤ download.sequence

theorem Kept.refl (s : State) : Kept s s where
  counter := le_rfl
  entries entry hentry := ⟨entry, hentry, .refl _ _⟩
  origin entry hentry := .inl ⟨entry, hentry, .refl _ _⟩
  rejection := .inl rfl

theorem Kept.trans {s s' s'' : State} (h : Kept s s') (h' : Kept s' s'') : Kept s s'' where
  counter := h.counter.trans h'.counter
  entries entry hentry := by
    obtain ⟨entry', hentry', hfollows⟩ := h.entries entry hentry
    obtain ⟨entry'', hentry'', hfollows'⟩ := h'.entries entry' hentry'
    exact ⟨entry'', hentry'', hfollows.trans hfollows' h.counter⟩
  origin entry'' hentry'' := by
    rcases h'.origin entry'' hentry'' with ⟨entry', hentry', hfollows'⟩ | ⟨hnew, hbegun, hsequence⟩
    · rcases h.origin entry' hentry' with ⟨entry, hentry, hfollows⟩ | ⟨hnew, hbegun, hsequence⟩
      · exact .inl ⟨entry, hentry, hfollows.trans hfollows' h.counter⟩
      · refine .inr ⟨fun entry hentry => hfollows'.guid ▸ hnew entry hentry, hfollows'.begun ▸ hbegun, ?_⟩
        rcases hfollows'.changed with rfl | ⟨-, hlater⟩
        · exact hsequence
        · exact h.counter.trans hlater
    · refine .inr ⟨fun entry hentry hguid => ?_, h.counter.trans hbegun, h.counter.trans hsequence⟩
      obtain ⟨entry', hentry', hfollows⟩ := h.entries entry hentry
      exact hnew entry' hentry' (hfollows.guid.trans hguid)
  rejection := by
    rcases h'.rejection with heq | ⟨download, heq, hle⟩
    · rw [heq]
      exact h.rejection
    · exact .inr ⟨download, heq, h.counter.trans hle⟩

/-- The inventory is well formed: the sequences that it shows are distinct and have been drawn. -/
structure Valid (s : State) : Prop where
  positive : 1 < s.nextSequence
  bounded : s.nextSequence ≤ u64Max
  keys : UniqueKeys Entry.guid s.byGuid
  distinct : s.byGuid.Pairwise fun a b => a.download.sequence ≠ b.download.sequence
  issued : ∀ entry ∈ s.byGuid, entry.download.sequence < s.nextSequence
  begun : ∀ entry ∈ s.byGuid, entry.begunSequence < s.nextSequence
  rejected : ∀ download ∈ s.overflowRejection, download.sequence < s.nextSequence ∧
    ∀ entry ∈ s.byGuid, entry.download.sequence ≠ download.sequence
  room : s.byGuid.length ≤ maxManagedDownloads

theorem valid_initial : Valid State.initial where
  positive := by decide
  bounded := by decide
  keys := unique_nil
  distinct := List.Pairwise.nil
  issued _ h := nomatch h
  begun _ h := nomatch h
  rejected _ h := nomatch h
  room := by decide

theorem le_drawn {s : State} (h : s.nextSequence ≤ u64Max) : s.nextSequence ≤ s.drawn.nextSequence := by
  show _ ≤ min _ _
  omega

theorem drawn_eq {s : State} (h : s.drawn.nextSequence < u64Max) : s.drawn.nextSequence = s.nextSequence + 1 := by
  change min _ _ < _ at h
  show min _ _ = _
  omega

theorem bounded_drawn {s : State} : s.drawn.nextSequence ≤ u64Max := min_le_right _ _

section

variable {f : Nat → Entry → Entry}

theorem Changes.follows (hf : Changes f) (guid : String) (sequence : Nat) (entry : Entry) :
    Follows sequence entry (changeEntry guid f sequence entry) := by
  unfold changeEntry
  split
  · rename_i h
    exact ⟨hf.guid _ _, hf.id _ _, hf.begun _ _, .inr ⟨eq_false_of_ne_true h.2, (hf.sequence _ _).ge⟩⟩
  · exact .refl _ _

theorem Changes.sequence_changeEntry (hf : Changes f) (guid : String) (sequence : Nat) (entry : Entry) :
    (changeEntry guid f sequence entry).download.sequence = entry.download.sequence ∨
      entry.guid = guid ∧ (changeEntry guid f sequence entry).download.sequence = sequence := by
  unfold changeEntry
  split
  · rename_i h
    exact .inr ⟨h.1, hf.sequence _ _⟩
  · exact .inl rfl

end

theorem Move.kept (h : Move state state') (hbounded : state.nextSequence ≤ u64Max) : Kept state state' := by
  cases h with
  | configure => exact { Kept.refl state with }
  | @change guid f hf =>
    refine ⟨le_drawn hbounded, fun entry hentry => ?_, fun entry' hentry' => ?_, .inl rfl⟩
    · exact ⟨_, List.mem_map_of_mem hentry, hf.follows guid _ entry⟩
    · obtain ⟨entry, hentry, rfl⟩ := List.mem_map.1 hentry'
      exact .inl ⟨entry, hentry, hf.follows guid _ entry⟩
  | insert entry hguid hroom hsequence hbegun =>
    refine ⟨le_drawn hbounded, fun other hother => ?_, fun other hother => ?_, .inl rfl⟩
    · exact ⟨other, (List.mem_orderedInsert _).2 (.inr hother), .refl _ _⟩
    · rcases (List.mem_orderedInsert _).1 hother with rfl | hother
      · exact .inr ⟨get_eq_none.1 hguid, hbegun.ge, hsequence.ge⟩
      · exact .inl ⟨other, hother, .refl _ _⟩
  | reject download hsequence =>
    exact ⟨le_drawn hbounded, (Kept.refl state).entries, (Kept.refl state).origin, .inr ⟨download, rfl, hsequence.ge⟩⟩

theorem keys_change {f : Nat → Entry → Entry} (hf : Changes f) (guid : String) (h : UniqueKeys Entry.guid state.byGuid) :
    UniqueKeys Entry.guid (state.change guid f).byGuid := by
  have hguids : (state.change guid f).byGuid.map Entry.guid = state.byGuid.map Entry.guid := by
    show (state.byGuid.map _).map _ = _
    rw [List.map_map]
    exact List.map_congr_left fun entry _ => (hf.follows guid _ entry).guid
  rw [UniqueKeys, hguids]
  exact h

theorem keys_insert (hguid : state.get entry.guid = none) (h : UniqueKeys Entry.guid state.byGuid) :
    UniqueKeys Entry.guid (state.insert entry).byGuid := by
  have hperm : (state.insert entry).byGuid.Perm (entry :: state.byGuid) := List.perm_orderedInsert _ _ _
  rw [UniqueKeys, (hperm.map _).nodup_iff, List.map_cons, List.nodup_cons]
  refine ⟨fun hmem => ?_, h⟩
  obtain ⟨other, hother, heq⟩ := List.mem_map.1 hmem
  exact get_eq_none.1 hguid other hother heq

theorem Move.keys (h : Move state state') (hkeys : UniqueKeys Entry.guid state.byGuid) :
    UniqueKeys Entry.guid state'.byGuid := by
  cases h with
  | configure => exact hkeys
  | change guid hf => exact keys_change hf guid hkeys
  | insert entry hguid => exact keys_insert hguid hkeys
  | reject => exact hkeys

theorem Valid.change {f : Nat → Entry → Entry} (hf : Changes f) (hvalid : Valid state)
    (hend : (state.change guid f).nextSequence < u64Max) : Valid (state.change guid f) := by
  have hcounter : (state.change guid f).nextSequence = state.nextSequence + 1 := drawn_eq hend
  have hissued : ∀ entry ∈ (state.change guid f).byGuid, entry.download.sequence ≤ state.nextSequence := by
    intro entry' hentry'
    obtain ⟨entry, hentry, rfl⟩ := List.mem_map.1 hentry'
    have hold := hvalid.issued entry hentry
    rcases hf.sequence_changeEntry guid state.nextSequence entry with heq | ⟨-, heq⟩
    · exact (heq.trans_lt hold).le
    · exact heq.le
  refine ⟨?_, bounded_drawn, ?_, ?_, ?_, ?_, ?_, ?_⟩
  · rw [hcounter]
    have := hvalid.positive
    omega
  · exact keys_change hf guid hvalid.keys
  · show (state.byGuid.map _).Pairwise _
    rw [List.pairwise_map]
    refine ((List.pairwise_map.1 hvalid.keys).and hvalid.distinct).imp_of_mem ?_
    rintro a b ha hb ⟨hguid, hne⟩
    have holda := hvalid.issued a ha
    have holdb := hvalid.issued b hb
    rcases hf.sequence_changeEntry guid state.nextSequence a with heqa | ⟨hguida, heqa⟩ <;>
      rcases hf.sequence_changeEntry guid state.nextSequence b with heqb | ⟨hguidb, heqb⟩
    · rwa [heqa, heqb]
    · rw [heqa, heqb]
      exact holda.ne
    · rw [heqa, heqb]
      exact holdb.ne'
    · exact absurd (hguida.trans hguidb.symm) hguid
  · intro entry hentry
    rw [hcounter]
    exact Nat.lt_succ_of_le (hissued entry hentry)
  · intro entry' hentry'
    obtain ⟨entry, hentry, rfl⟩ := List.mem_map.1 hentry'
    have hold := hvalid.begun entry hentry
    rw [hcounter, (hf.follows guid _ entry).begun]
    omega
  · intro download hdownload
    obtain ⟨hold, hne⟩ := hvalid.rejected download hdownload
    refine ⟨hold.trans_le (le_drawn hvalid.bounded), fun entry' hentry' => ?_⟩
    obtain ⟨entry, hentry, rfl⟩ := List.mem_map.1 hentry'
    rcases hf.sequence_changeEntry guid state.nextSequence entry with heq | ⟨-, heq⟩
    · rw [heq]
      exact hne entry hentry
    · rw [heq]
      exact hold.ne'
  · show (state.byGuid.map _).length ≤ _
    rw [List.length_map]
    exact hvalid.room

theorem Valid.insert (hguid : state.get entry.guid = none) (hroom : state.byGuid.length < maxManagedDownloads)
    (hsequence : entry.download.sequence = state.nextSequence) (hbegun : entry.begunSequence = state.nextSequence)
    (hvalid : Valid state) (hend : (state.insert entry).nextSequence < u64Max) : Valid (state.insert entry) := by
  have hcounter : (state.insert entry).nextSequence = state.nextSequence + 1 := drawn_eq hend
  have hperm : (state.insert entry).byGuid.Perm (entry :: state.byGuid) := List.perm_orderedInsert _ _ _
  refine ⟨?_, bounded_drawn, ?_, ?_, ?_, ?_, ?_, ?_⟩
  · rw [hcounter]
    have := hvalid.positive
    omega
  · exact keys_insert hguid hvalid.keys
  · rw [hperm.pairwise_iff fun hne => hne.symm, List.pairwise_cons]
    refine ⟨fun other hother => ?_, hvalid.distinct⟩
    rw [hsequence]
    exact (hvalid.issued other hother).ne'
  · intro other hother
    rw [hcounter]
    rcases List.mem_cons.1 (hperm.mem_iff.1 hother) with rfl | hother
    · rw [hsequence]
      exact Nat.lt_succ_self _
    · exact Nat.lt_succ_of_lt (hvalid.issued other hother)
  · intro other hother
    rw [hcounter]
    rcases List.mem_cons.1 (hperm.mem_iff.1 hother) with rfl | hother
    · rw [hbegun]
      exact Nat.lt_succ_self _
    · exact Nat.lt_succ_of_lt (hvalid.begun other hother)
  · intro download hdownload
    obtain ⟨hold, hne⟩ := hvalid.rejected download hdownload
    refine ⟨hold.trans_le (le_drawn hvalid.bounded), fun other hother => ?_⟩
    rcases List.mem_cons.1 (hperm.mem_iff.1 hother) with rfl | hother
    · rw [hsequence]
      exact hold.ne'
    · exact hne other hother
  · rw [hperm.length_eq]
    exact hroom

theorem Valid.reject {download : ManagedDownload} (hsequence : download.sequence = state.nextSequence) (hvalid : Valid state)
    (hend : state.drawn.nextSequence < u64Max) : Valid { state.drawn with overflowRejection := some download } := by
  have hcounter : state.drawn.nextSequence = state.nextSequence + 1 := drawn_eq hend
  refine ⟨?_, bounded_drawn, hvalid.keys, hvalid.distinct, ?_, ?_, ?_, hvalid.room⟩
  · exact hvalid.positive.trans_le (le_drawn hvalid.bounded)
  · exact fun entry hentry => (hvalid.issued entry hentry).trans_le (le_drawn hvalid.bounded)
  · exact fun entry hentry => (hvalid.begun entry hentry).trans_le (le_drawn hvalid.bounded)
  · intro other hother
    cases hother
    rw [hsequence]
    refine ⟨hcounter.symm ▸ Nat.lt_succ_self _, fun entry hentry => ?_⟩
    exact (hvalid.issued entry hentry).ne

theorem Move.valid (h : Move state state') (hvalid : Valid state) (hend : state'.nextSequence < u64Max) : Valid state' := by
  cases h with
  | configure => exact { hvalid with }
  | change guid hf => exact hvalid.change hf hend
  | insert entry hguid hroom hsequence hbegun => exact hvalid.insert hguid hroom hsequence hbegun hend
  | reject download hsequence => exact hvalid.reject hsequence hend

theorem Kept.bounded (h : ReflTransGen Move state state') (hbounded : state.nextSequence ≤ u64Max) :
    Kept state state' ∧ state'.nextSequence ≤ u64Max := by
  induction h with
  | refl => exact ⟨.refl _, hbounded⟩
  | tail _ hmove ih =>
    refine ⟨ih.1.trans (hmove.kept ih.2), ?_⟩
    cases hmove with
    | configure => exact ih.2
    | change => exact bounded_drawn
    | insert => exact bounded_drawn
    | reject => exact bounded_drawn

theorem keys_moves (h : ReflTransGen Move state state') (hkeys : UniqueKeys Entry.guid state.byGuid) :
    UniqueKeys Entry.guid state'.byGuid := by
  induction h with
  | refl => exact hkeys
  | tail _ hmove ih => exact hmove.keys ih

theorem Valid.moves (h : ReflTransGen Move state state') (hvalid : Valid state) (hend : state'.nextSequence < u64Max) :
    Valid state' := by
  induction h with
  | refl => exact hvalid
  | tail hmoves hmove ih =>
    have hbounded := (Kept.bounded hmoves hvalid.bounded).2
    exact hmove.valid (ih ((hmove.kept hbounded).counter.trans_lt hend)) hend

end Krometrail.Downloads
