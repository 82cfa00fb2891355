import Krometrail.Downloads.Moves
import Krometrail.Lib.Runs

/-!
# Cursors of the download inventory

A cursor is the last sequence that was drawn.  Whatever happens behind it, a later inventory shows what has changed since
with a sequence above it, and the downloads begun since are those whose entry came since.
-/

namespace Krometrail.Downloads

open Keyed Sorting Relation

/-- The state that inputs lead to. -/
def stateAfter (inputs : List Input) : State := inputs.foldl exec State.initial

theorem stateAfter_append (before after : List Input) :
    stateAfter (before ++ after) = after.foldl exec (stateAfter before) :=
  List.foldl_append

variable {s s' : State}

theorem Valid.lt_iff (h : Valid s) {n : Nat} : s.cursor < n ↔ s.nextSequence ≤ n := by
  have := h.positive
  unfold State.cursor
  omega

theorem mem_downloads {download : ManagedDownload} : download ∈ (inventory s).downloads ↔
    (∃ entry ∈ s.byGuid, entry.download = download) ∨ s.overflowRejection = some download := by
  simp [inventory]

/-- An inventory: its sequences increase up to the cursor, and it has at most one download beyond the bound. -/
structure WellFormed (s : State) : Prop where
  increasing : (inventory s).downloads.Pairwise fun a b => a.sequence < b.sequence
  atMost : ∀ download ∈ (inventory s).downloads, download.sequence ≤ (inventory s).cursor
  managed : s.byGuid.length ≤ maxManagedDownloads
  bound : (inventory s).downloads.length ≤ maxManagedDownloads + 1

/-- What an inventory of `s'` shows that was taken behind the cursor of `s`. -/
structure ShowsSince (s s' : State) : Prop where
  /-- An entry is as it was, or it was not terminal and has a sequence above the cursor. -/
  changed : ∀ entry ∈ s.byGuid, ∃ entry' ∈ s'.byGuid, entry'.guid = entry.guid ∧ entry'.download.id = entry.download.id ∧
    (entry' = entry ∨ isTerminal entry.download.state = false ∧ s.cursor < entry'.download.sequence)
  /-- A rejection by the bound is as it was, or has a sequence above the cursor. -/
  rejected : s'.overflowRejection = s.overflowRejection ∨
    ∃ download, s'.overflowRejection = some download ∧ s.cursor < download.sequence
  unlisted : ∀ download ∈ (inventory s').downloads, download ∈ (inventory s).downloads ∨ s.cursor < download.sequence
  begun : (begunAfter s.cursor s').Perm
    ((s'.byGuid.filter fun entry' => ∀ entry ∈ s.byGuid, entry.guid ≠ entry'.guid).map Entry.fact)

theorem Valid.wellFormed (h : Valid s) : WellFormed s := by
  have hbound : (inventory s).downloads.length ≤ maxManagedDownloads + 1 := by
    have hroom := h.room
    have hrejection : s.overflowRejection.toList.length ≤ 1 := by
      cases s.overflowRejection <;> simp
    have hlength := (perm_sortByKey (·.sequence) (s.byGuid.map (·.download) ++ s.overflowRejection.toList)).length_eq
    rw [List.length_append, List.length_map] at hlength
    show (sortByKey _ _).length ≤ _
    omega
  refine ⟨?_, fun download hdownload => ?_, h.room, hbound⟩
  · have hdistinct : (s.byGuid.map (·.download) ++ s.overflowRejection.toList).Pairwise
        fun a b => a.sequence ≠ b.sequence := by
      rw [List.pairwise_append, List.pairwise_map]
      refine ⟨h.distinct, ?_, fun a ha b hb => ?_⟩
      · cases s.overflowRejection <;> simp
      · obtain ⟨entry, hentry, rfl⟩ := List.mem_map.1 ha
        exact (h.rejected b (Option.mem_toList.1 hb)).2 entry hentry
    have hsorted := pairwise_sortByKey (·.sequence) (s.byGuid.map (·.download) ++ s.overflowRejection.toList)
    refine (hsorted.and ((perm_sortByKey _ _).symm.pairwise hdistinct fun hne => hne.symm)).imp ?_
    exact fun ⟨hle, hne⟩ => lt_of_le_of_ne hle hne
  · have hlt : download.sequence < s.nextSequence := by
      rcases mem_downloads.1 hdownload with ⟨entry, hentry, rfl⟩ | hrejection
      · exact h.issued entry hentry
      · exact (h.rejected download hrejection).1
    exact Nat.le_sub_one_of_lt hlt

/-- The entries of `s` have begun up to its cursor, and the new ones behind it. -/
theorem Kept.begun_iff (hkept : Kept s s') (hvalid : Valid s) {entry' : Entry} (hentry' : entry' ∈ s'.byGuid) :
    s.cursor < entry'.begunSequence ↔ ∀ entry ∈ s.byGuid, entry.guid ≠ entry'.guid := by
  rw [hvalid.lt_iff]
  rcases hkept.origin entry' hentry' with ⟨entry, hentry, hfollows⟩ | ⟨hnew, hbegun, -⟩
  · refine ⟨fun hle => ?_, fun hnew => absurd hfollows.guid.symm (hnew entry hentry)⟩
    have hold := hvalid.begun entry hentry
    rw [← hfollows.begun] at hold
    exact absurd hle (not_le.2 hold)
  · exact ⟨fun _ => hnew, fun _ => hbegun⟩

theorem Kept.showsSince (hkept : Kept s s') (hvalid : Valid s) : ShowsSince s s' := by
  refine ⟨fun entry hentry => ?_, ?_, fun download hdownload => ?_, ?_⟩
  · obtain ⟨entry', hentry', hfollows⟩ := hkept.entries entry hentry
    refine ⟨entry', hentry', hfollows.guid, hfollows.id, hfollows.changed.imp_right ?_⟩
    exact fun ⟨hopen, hle⟩ => ⟨hopen, hvalid.lt_iff.2 hle⟩
  · exact hkept.rejection.imp_right fun ⟨download, heq, hle⟩ => ⟨download, heq, hvalid.lt_iff.2 hle⟩
  · rw [mem_downloads, hvalid.lt_iff]
    rcases mem_downloads.1 hdownload with ⟨entry', hentry', rfl⟩ | hrejection
    · rcases hkept.origin entry' hentry' with ⟨entry, hentry, hfollows⟩ | ⟨-, -, hle⟩
      · rcases hfollows.changed with rfl | ⟨-, hle⟩
        · exact .inl (.inl ⟨_, hentry, rfl⟩)
        · exact .inr hle
      · exact .inr hle
    · rcases hkept.rejection with heq | ⟨other, heq, hle⟩
      · exact .inl (.inr (heq ▸ hrejection))
      · obtain rfl := Option.some.inj (heq.symm.trans hrejection)
        exact .inr hle
  · refine (perm_sortByKey _ _).trans (List.Perm.of_eq (congrArg _ (List.filter_congr fun entry' hentry' => ?_)))
    exact decide_eq_decide.2 (hkept.begun_iff hvalid hentry')

/-- Whatever steps are taken in whatever order, as long as a sequence is left to draw: the inventory is well formed, its
downloads stay and terminal ones stay as they are, and behind the cursor of any earlier state it shows with a sequence
above it whatever has changed since, and has begun since what has come since. -/
theorem inventory_protocol (before after : List Input) (hend : (stateAfter (before ++ after)).nextSequence < u64Max) :
    WellFormed (stateAfter (before ++ after)) ∧ ShowsSince (stateAfter before) (stateAfter (before ++ after)) := by
  have hbefore := moves_foldl before State.initial
  have hafter := moves_foldl after (stateAfter before)
  rw [stateAfter_append] at hend ⊢
  have hbounded := (Kept.bounded hbefore valid_initial.bounded).2
  have hkept := (Kept.bounded hafter hbounded).1
  have hvalid : Valid (stateAfter before) := valid_initial.moves hbefore (hkept.counter.trans_lt hend)
  exact ⟨(hvalid.moves hafter hend).wellFormed, hkept.showsSince hvalid⟩

/-- The begin event of a download, under the first transport. -/
def beginsAs (guid : String) (byte : UInt8) : Input := .begin 1 ⟨some guid⟩ ⟨someUuid byte⟩

def progressesAs (guid : String) (state : String) : Input := .progress 1 ⟨some guid, some 3, none, some state⟩ (some 3)

theorem inventory_protocol_completed :
    (stateAfter ([beginsAs "a" 1] ++ [progressesAs "a" "completed", beginsAs "b" 2])).nextSequence < u64Max ∧
      WellFormed (stateAfter ([beginsAs "a" 1] ++ [progressesAs "a" "completed", beginsAs "b" 2])) ∧
      ShowsSince (stateAfter [beginsAs "a" 1])
        (stateAfter ([beginsAs "a" 1] ++ [progressesAs "a" "completed", beginsAs "b" 2])) :=
  ⟨by decide +kernel, inventory_protocol _ _ (by decide +kernel)⟩

/-- As many downloads, one after the other. -/
def beginsUpTo (count : Nat) : List Input :=
  (List.range count).map fun i => beginsAs (String.singleton (Char.ofNat (97 + i))) (UInt8.ofNat i)

/-- A download beyond the bound is listed with a sequence above the cursor taken before it, and the next one takes its
place; the facts of two downloads stand in the order of their last changes. -/
theorem rejection_replaced :
    let rejected : ManagedDownload := ⟨⟨someUuid 32⟩, 34, .rejected, 0, none, false⟩
    (stateAfter (beginsUpTo 32)).cursor < rejected.sequence ∧
      rejected ∈ (inventory (stateAfter (beginsUpTo 33))).downloads ∧
      (inventory (stateAfter (beginsUpTo 33))).downloads.length = maxManagedDownloads + 1 ∧
      (∀ download ∈ (inventory (stateAfter (beginsUpTo 34))).downloads, download.id ≠ rejected.id) ∧
      (begunAfter State.initial.cursor
        (stateAfter [beginsAs "a" 1, beginsAs "b" 2, progressesAs "a" "inProgress"])).map (·.downloadId) =
          [⟨someUuid 2⟩, ⟨someUuid 1⟩] := by
  decide +kernel

end Krometrail.Downloads

/-!
## Downloads that end

The two pumps give the inventory the begin events and the progress events in their own orders, and nothing ties one to the
other.  A download whose begin event comes first is listed in a terminal state once its terminal progress event has come; a
terminal event that comes before it is lost.
-/

namespace Krometrail.Downloads

open Keyed Relation Runs

/-- The key that a begin event adds to the inventory. -/
def admitted (state : State) (generation : Nat) (params : BeginParams) : Option String :=
  params.guid.filter fun guid => isFileName guid && state.accepting && state.transportGeneration = generation &&
    (state.get guid).isNone && state.byGuid.length < maxManagedDownloads

/-- The key of a progress event of the current transport that says that the download is completed or canceled. -/
def ended (state : State) (generation : Nat) (params : ProgressParams) : Option String :=
  params.guid.filter fun _ => state.transportGeneration = generation &&
    (params.state = some "completed" || params.state = some "canceled")

/-- The inventory with what the pumps have given it: the admitted begin events and the terminal progress events, each with
its transport generation. -/
structure Pumped where
  state : State
  begun : List (Nat × String)
  ended : List (Nat × String)

def Pumped.initial : Pumped := ⟨State.initial, [], []⟩

def Pumped.exec (pumped : Pumped) (input : Input) : Pumped where
  state := Downloads.exec pumped.state input
  begun :=
    match input with
    | .begin generation params _ => ((admitted pumped.state generation params).map (generation, ·)).toList ++ pumped.begun
    | _ => pumped.begun
  ended :=
    match input with
    | .progress generation params _ =>
      ((Downloads.ended pumped.state generation params).map (generation, ·)).toList ++ pumped.ended
    | _ => pumped.ended

/-- Every download with both events is listed in a terminal state. -/
def Converged (pumped : Pumped) : Prop :=
  ∀ event ∈ pumped.begun, event ∈ pumped.ended →
    (pumped.state.get event.2).any (fun entry => isTerminal entry.download.state) = true

instance (pumped : Pumped) : Decidable (Converged pumped) := inferInstanceAs (Decidable (∀ _ ∈ _, _))

/-- No begin event is admitted behind a terminal progress event of its download. -/
def BeginsFirst (pumped : Pumped) : Input → Prop
  | .begin generation params _ => ∀ guid ∈ admitted pumped.state generation params, (generation, guid) ∉ pumped.ended
  | _ => True

/-- The pumps, the operations and their order are up to the surroundings. -/
def pumps : System Pumped Input Unit := .ofExec (· = .initial) fun pumped input => some (pumped.exec input)

variable {state : State} {entry : Entry} {guid : String}

theorem any_get_iff (hkeys : UniqueKeys Entry.guid state.byGuid) {p : Entry → Bool} :
    (state.get guid).any p = true ↔ ∃ entry ∈ state.byGuid, entry.guid = guid ∧ p entry = true := by
  constructor
  · intro h
    obtain ⟨entry, hget, hp⟩ := (Option.any_eq_true _ _).1 h
    exact ⟨entry, (get_eq_some hget).1, (get_eq_some hget).2, hp⟩
  · rintro ⟨entry, hentry, rfl, hp⟩
    rw [State.get, hkeys.find_key hentry]
    exact hp

variable {generation : Nat}

theorem mem_admitted {params : BeginParams} : guid ∈ admitted state generation params ↔
    params.guid = some guid ∧ isFileName guid = true ∧ state.accepting = true ∧ state.transportGeneration = generation ∧
      state.get guid = none ∧ state.byGuid.length < maxManagedDownloads := by
  simp [admitted, Option.filter_eq_some_iff, and_assoc]

theorem mem_ended {params : ProgressParams} : guid ∈ ended state generation params ↔
    params.guid = some guid ∧ state.transportGeneration = generation ∧
      (params.state = some "completed" ∨ params.state = some "canceled") := by
  simp [ended, Option.filter_eq_some_iff]

theorem exists_of_admitted {params : BeginParams} {id : DownloadId} (h : guid ∈ admitted state generation params)
    : ∃ entry ∈ (begin generation params id state).byGuid, entry.guid = guid := by
  obtain ⟨hguid, hname, haccepting, hgeneration, hget, hroom⟩ := mem_admitted.1 h
  have hbegin : begin generation params id state = state.insert
      ⟨guid, ⟨id, state.nextSequence, .inProgress, 0, none, false⟩, state.nextSequence, none⟩ := by
    simp [begin, hguid, hname, haccepting, hgeneration, hget, not_le.2 hroom, State.insert]
  rw [hbegin]
  exact ⟨_, (List.mem_orderedInsert _).2 (.inl rfl), rfl⟩

theorem terminal_change {f : Nat → Entry → Entry} (hf : Changes f)
    (hterminal : ∀ sequence entry, isTerminal (f sequence entry).download.state = true) (hentry : entry ∈ state.byGuid)
    (hguid : entry.guid = guid) :
    ∃ entry' ∈ (state.change guid f).byGuid, entry'.guid = guid ∧ isTerminal entry'.download.state = true := by
  refine ⟨_, List.mem_map_of_mem hentry, (hf.follows guid _ entry).guid.trans hguid, ?_⟩
  unfold changeEntry
  split
  · exact hterminal _ _
  · rename_i hopen
    rw [not_and, not_not] at hopen
    exact hopen hguid

theorem terminal_complete (size : Nat) (total : Option Nat) (hentry : entry ∈ state.byGuid) (hguid : entry.guid = guid) :
    ∃ entry' ∈ (complete guid size total state).byGuid, entry'.guid = guid ∧ isTerminal entry'.download.state = true := by
  unfold complete
  split
  · -- the entry that is found is terminal already
    rename_i hall
    cases hget : state.get guid with
    | none => exact absurd hguid (get_eq_none.1 hget entry hentry)
    | some found =>
      rw [hget] at hall
      exact ⟨found, (get_eq_some hget).1, (get_eq_some hget).2, hall⟩
  · exact terminal_change (changes_complete size total) (fun _ _ => rfl) hentry hguid

theorem terminal_progress {params : ProgressParams} (verified : Option Nat) (h : guid ∈ ended state generation params)
    (hentry : entry ∈ state.byGuid) (hguid : entry.guid = guid) :
    ∃ entry' ∈ (progress generation params verified state).byGuid, entry'.guid = guid ∧
      isTerminal entry'.download.state = true := by
  obtain ⟨hkey, hgeneration, hstate⟩ := mem_ended.1 h
  have htransition : ∀ value received total, isTerminal value = true →
      ∃ entry' ∈ (transition guid value received total state).byGuid, entry'.guid = guid ∧
        isTerminal entry'.download.state = true := fun value received total hvalue =>
    terminal_change (changes_transition value received total) (fun _ _ => hvalue) hentry hguid
  unfold progress
  rw [if_neg (not_not.2 hgeneration), hkey]
  dsimp only
  split
  · exact htransition _ _ _ rfl
  split
  · cases verified with
    | none => exact htransition _ _ _ rfl
    | some size => exact terminal_complete size _ hentry hguid
  · exact htransition _ _ _ rfl
  · rename_i hcompleted hcanceled
    rcases hstate with hstate | hstate
    · exact absurd hstate hcompleted
    · exact absurd hstate hcanceled

/-- What the steps keep: downloads that have begun have an entry, which is terminal if they have ended. -/
structure Tracked (pumped : Pumped) : Prop where
  bounded : pumped.state.nextSequence ≤ u64Max
  keys : UniqueKeys Entry.guid pumped.state.byGuid
  entries : ∀ event ∈ pumped.begun, ∃ entry ∈ pumped.state.byGuid, entry.guid = event.2
  terminal : ∀ event ∈ pumped.begun, event ∈ pumped.ended →
    ∃ entry ∈ pumped.state.byGuid, entry.guid = event.2 ∧ isTerminal entry.download.state = true

theorem tracked_initial : Tracked .initial := ⟨by decide, unique_nil, nofun, nofun⟩

theorem Tracked.converged {pumped : Pumped} (h : Tracked pumped) : Converged pumped :=
  fun event hbegun hended => (any_get_iff h.keys).2 (h.terminal event hbegun hended)

section

variable {pumped : Pumped}

theorem Tracked.kept (h : Tracked pumped) (input : Input) : Kept pumped.state (exec pumped.state input) :=
  (Kept.bounded (exec_moves pumped.state input) h.bounded).1

theorem Kept.exists_entry {s s' : State} (h : Kept s s') (hentry : ∃ entry ∈ s.byGuid, entry.guid = guid) :
    ∃ entry ∈ s'.byGuid, entry.guid = guid := by
  obtain ⟨entry, hentry, hguid⟩ := hentry
  obtain ⟨entry', hentry', hfollows⟩ := h.entries entry hentry
  exact ⟨entry', hentry', hfollows.guid.trans hguid⟩

theorem Kept.exists_terminal {s s' : State} (h : Kept s s')
    (hentry : ∃ entry ∈ s.byGuid, entry.guid = guid ∧ isTerminal entry.download.state = true) :
    ∃ entry ∈ s'.byGuid, entry.guid = guid ∧ isTerminal entry.download.state = true := by
  obtain ⟨entry, hentry, hguid, hterminal⟩ := hentry
  obtain ⟨entry', hentry', hfollows⟩ := h.entries entry hentry
  rcases hfollows.changed with rfl | ⟨hopen, -⟩
  · exact ⟨_, hentry', hguid, hterminal⟩
  · exact absurd hterminal (ne_true_of_eq_false hopen)

theorem Tracked.step (h : Tracked pumped) {input : Input} (hfirst : BeginsFirst pumped input) :
    Tracked (pumped.exec input) := by
  have hkept := h.kept input
  refine ⟨(Kept.bounded (exec_moves _ input) h.bounded).2, keys_moves (exec_moves _ input) h.keys, ?_, ?_⟩
  · intro event hevent
    cases input with
    | begin generation params id =>
      rcases List.mem_append.1 hevent with hnew | hold
      · obtain ⟨guid, hadmitted, rfl⟩ := Option.map_eq_some_iff.1 (Option.mem_toList.1 hnew)
        exact exists_of_admitted hadmitted
      · exact hkept.exists_entry (h.entries event hold)
    | progress | cancel | rebind | shutdown => exact hkept.exists_entry (h.entries event hevent)
  · intro event hbegun hended
    cases input with
    | begin generation params id =>
      rcases List.mem_append.1 hbegun with hnew | hold
      · obtain ⟨guid, hadmitted, rfl⟩ := Option.map_eq_some_iff.1 (Option.mem_toList.1 hnew)
        exact absurd hended (hfirst guid hadmitted)
      · exact hkept.exists_terminal (h.terminal event hold hended)
    | progress generation params verified =>
      rcases List.mem_append.1 hended with hnew | hold
      · obtain ⟨guid, hguid, rfl⟩ := Option.map_eq_some_iff.1 (Option.mem_toList.1 hnew)
        obtain ⟨entry, hentry, heq⟩ := h.entries _ hbegun
        exact terminal_progress verified hguid hentry heq
      · exact hkept.exists_terminal (h.terminal event hbegun hold)
    | cancel | rebind | shutdown => exact hkept.exists_terminal (h.terminal event hbegun hended)

end

/-- In a run in which no begin event is admitted behind a terminal progress event of its download, every download with both
events is listed in a terminal state. -/
theorem downloads_converge {trace : List (Pumped × Input × Unit)} {pumped : Pumped}
    (h : Run pumps BeginsFirst trace pumped) : Converged pumped := by
  refine Tracked.converged (h.invariant ?_ ?_)
  · rintro _ rfl
    exact tracked_initial
  · intro pumped input _ pumped' htracked hfirst hstep
    cases hstep
    exact htracked.step hfirst

theorem downloads_converge_completed : Converged ((Pumped.initial.exec (.begin 1 ⟨some "a"⟩ ⟨someUuid 1⟩)).exec
    (.progress 1 ⟨some "a", some 3, none, some "completed"⟩ (some 3))) := by
  have hbegin : BeginsFirst .initial (.begin 1 ⟨some "a"⟩ ⟨someUuid 1⟩) := fun _ _ => List.not_mem_nil
  have hprogress : BeginsFirst (Pumped.initial.exec (.begin 1 ⟨some "a"⟩ ⟨someUuid 1⟩))
      (.progress 1 ⟨some "a", some 3, none, some "completed"⟩ (some 3)) := trivial
  exact downloads_converge (.next (o := ()) (.next (o := ()) (.start rfl) hbegin rfl) hprogress rfl)

/-- The terminal event of a download comes first, and the download stays in progress. -/
theorem downloads_diverge : ¬ ∀ pumped, pumps.Reachable pumped → Converged pumped := by
  intro h
  obtain ⟨pumped, hreachable, hopen⟩ := exists_reachable (· = Pumped.initial)
    (fun pumped input => some (pumped.exec input)) .initial rfl
    [.progress 1 ⟨some "a", some 3, none, some "completed"⟩ (some 3), .begin 1 ⟨some "a"⟩ ⟨someUuid 1⟩]
    (fun pumped => ¬ Converged pumped) (by decide +kernel)
  exact hopen (h pumped hreachable)

end Krometrail.Downloads
