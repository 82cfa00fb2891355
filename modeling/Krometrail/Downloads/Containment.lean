import Krometrail.Downloads.Moves
import Krometrail.Lib.FileTrees

/-!
# The files that the downloads touch

The session has a private directory, and the key that the browser gives a download becomes a path from there.  A begin
event lets a key through only if it is the name of a file; a progress event takes any key.  What each call reads or removes
is listed as the locations it touches in the file system, and compared with the children of the directory whose keys were
let through.
-/

namespace Krometrail.Downloads

open FileTrees

/-- `remove_file` of `root.join(guid)`: what is removed, if anything. -/
def removeFile (root : Location) (guid : String) (disk : FileTree) : List Location := (disk.fileAt root guid).toList

def resourceNotFoundForPath : KrometrailError := .new .notFound "managed download resource is unavailable"

def resourceNotFound : KrometrailError :=
  downloadError .notFound "managed download resource is unavailable"
    "list completed downloads in the active browser session and use its canonical resource URI"

/-- `verified_file`: a regular file is its own canonical path. -/
def verifiedFile (root : Location) (guid : String) (expected : Nat) (disk : FileTree) :
    Result (Location × List UInt8) :=
  match disk.fileAt root guid with
  | none => .error resourceNotFoundForPath
  | some canonical =>
    match disk canonical with
    | some (.file contents) =>
      if contents.length ≠ expected ∨ contents.length > maxManagedDownloadBytes then .error resourceNotFoundForPath
      else if root.isPrefixOf canonical then .ok (canonical, contents)
      else .error resourceNotFoundForPath
    | _ => .error resourceNotFoundForPath

def verificationAttempts : Nat := 10

/-- `wait_for_verified_file`, with the file system as each attempt finds it: the first that verifies gives the size. -/
def waitForVerifiedFile (root : Location) (guid : String) (reported : Nat) (looks : List FileTree) :
    Option (Location × Nat) :=
  (looks.take verificationAttempts).findSome? fun disk =>
    (verifiedFile root guid reported disk).toOption.map fun file => (file.1, file.2.length)

/-- What a `ReadManagedDownloadRequest` asks for. -/
structure ReadManagedDownloadRequest where
  sessionId : SessionId
  downloadId : DownloadId
  maxBytes : Nat

/-- `read`, with what it has read from the file system. -/
def read (root : Location) (sessionId : SessionId) (request : ReadManagedDownloadRequest) (disk : FileTree)
    (state : State) : List Location × Result (List UInt8) :=
  if request.sessionId ≠ sessionId then ([], .error resourceNotFound)
  else
    match state.byGuid.find? fun entry =>
      entry.download.id = request.downloadId ∧ entry.download.state = .completed with
    | none => ([], .error resourceNotFound)
    | some entry =>
      match entry.verifiedSize with
      | none => ([], .error resourceNotFound)
      | some expected =>
        if expected > request.maxBytes ∨ expected > maxManagedDownloadBytes then ([], .error resourceNotFound)
        else
          match verifiedFile root entry.guid expected disk with
          | .error error => ([], .error error)
          | .ok (path, bytes) =>
            ([path], if bytes.length ≠ expected then .error resourceNotFound else .ok bytes)

/-- What `begin` removes: the file of a download that is over the bound. -/
def beginTouched (root : Location) (generation : Nat) (params : BeginParams) (disk : FileTree) (state : State) :
    List Location :=
  match params.guid with
  | none => []
  | some guid =>
    if ¬ isFileName guid then []
    else if ¬ state.accepting ∨ state.transportGeneration ≠ generation ∨ (state.get guid).isSome then []
    else if state.byGuid.length ≥ maxManagedDownloads then removeFile root guid disk
    else []

/-- What `progress` reads or removes: the file of a download that ends, known or not. -/
def progressTouched (root : Location) (generation : Nat) (params : ProgressParams) (looks : List FileTree)
    (disk : FileTree) (state : State) : List Location :=
  if state.transportGeneration ≠ generation then []
  else
    match params.guid with
    | none => []
    | some guid =>
      let received := params.receivedBytes.getD 0
      let total := params.totalBytes.filter (0 < ·)
      if received > maxManagedDownloadBytes ∨ total.any (maxManagedDownloadBytes < ·) then removeFile root guid disk
      else
        match params.state with
        | some "completed" =>
          match waitForVerifiedFile root guid received looks with
          | some (path, _) => [path]
          | none => removeFile root guid disk
        | some "canceled" => removeFile root guid disk
        | _ => []

/-- What `cancel` removes. -/
def cancelTouched (root : Location) (id : DownloadId) (sent : Bool) (disk : FileTree) (state : State) : List Location :=
  match state.byGuid.find? (·.download.id = id) with
  | none => []
  | some entry =>
    if isTerminal entry.download.state then []
    else if ¬ sent then []
    else removeFile root entry.guid disk

/-- What `rebind` removes, key by key, with the file system as each removal finds it. -/
def rebindTouched (root : Location) (io : RebindOutcomes) (disks : String → FileTree) (state : State) : List Location :=
  match io.result with
  | .error _ => []
  | .ok () =>
    ((state.byGuid.filter fun entry => ¬ isTerminal entry.download.state).map (·.guid)).flatMap fun guid =>
      removeFile root guid (disks guid)

/-- A call of the authority, whose session a read is told, with the file system as it finds it. -/
inductive Call
  | begin (generation : Nat) (params : BeginParams) (id : DownloadId) (disk : FileTree)
  | progress (generation : Nat) (params : ProgressParams) (looks : List FileTree) (disk : FileTree)
  | cancel (id : DownloadId) (sent : Bool) (disk : FileTree)
  | read (sessionId : SessionId) (request : ReadManagedDownloadRequest) (disk : FileTree)
  | rebind (io : RebindOutcomes) (disks : String → FileTree)

def Call.touched (root : Location) (state : State) : Call → List Location
  | .begin generation params _ disk => beginTouched root generation params disk state
  | .progress generation params looks disk => progressTouched root generation params looks disk state
  | .cancel id sent disk => cancelTouched root id sent disk state
  | .read sessionId request disk => (Downloads.read root sessionId request disk state).1
  | .rebind io disks => rebindTouched root io disks state

/-- What the call does to the inventory. -/
def Call.exec (root : Location) (state : State) : Call → State
  | .begin generation params id _ => Downloads.exec state (.begin generation params id)
  | .progress generation params looks _ =>
    Downloads.exec state (.progress generation params (params.guid.bind fun guid =>
      (waitForVerifiedFile root guid (params.receivedBytes.getD 0) looks).map (·.2)))
  | .cancel id sent _ => Downloads.exec state (.cancel id sent)
  | .read .. => state
  | .rebind io _ => Downloads.exec state (.rebind io)

/-- A step of a run; the shutdown removes the directory as a whole. -/
inductive Event
  | call (call : Call)
  | shutdown (removed : Bool)

/-- The key that a begin event gets through the checks of `begin`, whether the bound then rejects the download or not. -/
def letThrough (state : State) (generation : Nat) (params : BeginParams) : Option String :=
  params.guid.filter fun guid => isFileName guid && state.accepting && state.transportGeneration = generation &&
    (state.get guid).isNone

/-- The inventory with the keys that have been let through. -/
structure Watched where
  state : State
  guids : List String

def Watched.initial : Watched := ⟨State.initial, []⟩

def Watched.call (root : Location) (watched : Watched) (call : Call) : Watched where
  state := call.exec root watched.state
  guids :=
    match call with
    | .begin generation params _ _ => (letThrough watched.state generation params).toList ++ watched.guids
    | _ => watched.guids

def Watched.event (root : Location) (watched : Watched) : Event → Watched
  | .call call => watched.call root call
  | .shutdown removed => { watched with state := Downloads.exec watched.state (.shutdown removed) }

def watchedAfter (root : Location) (events : List Event) : Watched := events.foldl (Watched.event root) .initial

/-- The child of the session's directory that a key which was let through names. -/
def Owned (root : Location) (guids : List String) (location : Location) : Prop :=
  ∃ guid ∈ guids, location = root ++ [guid]

/-- Every file that the call reads or removes is a direct child of the directory, under a key that was let through. -/
def Contained (root : Location) (watched : Watched) (call : Call) : Prop :=
  ∀ location ∈ call.touched root watched.state, Owned root (watched.call root call).guids location

/-- The file system in which a progress event verifies or removes the file of its key. -/
def touchedIn (root : Location) (guid : String) (params : ProgressParams) (looks : List FileTree) (disk : FileTree) :
    Option FileTree :=
  let received := params.receivedBytes.getD 0
  if received > maxManagedDownloadBytes ∨ (params.totalBytes.filter (0 < ·)).any (maxManagedDownloadBytes < ·) then
    some disk
  else if params.state = some "completed" then
    some (((looks.take verificationAttempts).find? fun disk =>
      (verifiedFile root guid received disk).toOption.isSome).getD disk)
  else if params.state = some "canceled" then some disk
  else none

/-- The key of a progress event of the current transport that ends a download was let through, or is a path to nothing but
the file of such a key. -/
def Guarded (root : Location) (watched : Watched) : Call → Prop
  | .progress generation params looks disk =>
    watched.state.transportGeneration = generation → ∀ guid ∈ params.guid, guid ∈ watched.guids ∨
      ∀ tree ∈ touchedIn root guid params looks disk, ∀ location ∈ tree.fileAt root guid,
        Owned root watched.guids location
  | _ => True

variable {root : Location} {state : State} {guid : String} {disk : FileTree}

variable {location : Location} {generation : Nat} {params : BeginParams} {watched : Watched}

theorem owned_of_name {guids : List String} (hname : isFileName guid = true) (hguid : guid ∈ guids)
    (h : disk.fileAt root guid = some location) : Owned root guids location := by
  refine ⟨guid, hguid, FileTree.fileAt_of_name (fun hslash => ?_) h⟩
  simp only [isFileName, Bool.and_eq_true, List.all_eq_true] at hname
  exact of_decide_eq_true (hname.2 '/' hslash).1 rfl

theorem mem_removeFile :
    location ∈ removeFile root guid disk ↔ disk.fileAt root guid = some location := Option.mem_toList

theorem fileAt_of_verified {expected : Nat} {file : Location × List UInt8}
    (h : verifiedFile root guid expected disk = .ok file) : disk.fileAt root guid = some file.1 := by
  unfold verifiedFile at h
  split at h
  · cases h
  rename_i canonical hfile
  split at h
  · split at h
    · cases h
    split at h
    · exact hfile.trans (congrArg _ (congrArg Prod.fst (Except.ok.inj h)))
    · cases h
  · cases h

theorem waitForVerifiedFile_cases (root : Location) (guid : String) (reported : Nat) (looks : List FileTree) :
    (∃ path size tree, waitForVerifiedFile root guid reported looks = some (path, size) ∧
      (looks.take verificationAttempts).find? (fun disk => (verifiedFile root guid reported disk).toOption.isSome) =
        some tree ∧ tree.fileAt root guid = some path) ∨
    waitForVerifiedFile root guid reported looks = none ∧
      (looks.take verificationAttempts).find? (fun disk => (verifiedFile root guid reported disk).toOption.isSome) =
        none := by
  unfold waitForVerifiedFile
  generalize looks.take verificationAttempts = looks
  induction looks with
  | nil => exact .inr ⟨rfl, rfl⟩
  | cons disk looks ih =>
    rw [List.findSome?_cons, List.find?_cons]
    cases hverified : verifiedFile root guid reported disk with
    | error error => simpa [Except.toOption] using ih
    | ok file => exact .inl ⟨file.1, file.2.length, disk, rfl, rfl, fileAt_of_verified hverified⟩

theorem mem_progressTouched {params : ProgressParams} {looks : List FileTree} :
    location ∈ progressTouched root generation params looks disk state ↔
      state.transportGeneration = generation ∧ ∃ guid ∈ params.guid, ∃ tree ∈ touchedIn root guid params looks disk,
        tree.fileAt root guid = some location := by
  unfold progressTouched
  by_cases hgeneration : state.transportGeneration = generation
  swap
  · simp [hgeneration]
  rw [if_neg (not_not.2 hgeneration)]
  cases hguid : params.guid with
  | none => simp
  | some guid =>
  simp only [hgeneration, Option.mem_some_iff, true_and, exists_eq_left', touchedIn]
  split
  · simp [mem_removeFile]
  split
  · rename_i hstate
    rw [if_pos hstate]
    rcases waitForVerifiedFile_cases root guid (params.receivedBytes.getD 0) looks with
      ⟨path, size, tree, hwait, hfind, hfile⟩ | ⟨hwait, hfind⟩
    · simp [hwait, hfind, hfile, eq_comm]
    · simp [hwait, hfind, mem_removeFile]
  · rename_i hstate
    simp [hstate, mem_removeFile]
  · rename_i hcompleted hcanceled
    rw [if_neg hcompleted, if_neg hcanceled]
    simp

def State.guids (state : State) : List String := state.byGuid.map (·.guid)

theorem guids_change {f : Nat → Entry → Entry} (hf : Changes f) (guid : String) (state : State) :
    (state.change guid f).guids = state.guids := by
  simp only [State.guids, State.change, List.map_map]
  refine List.map_congr_left fun entry _ => ?_
  simp only [Function.comp_apply, changeEntry]
  split
  · exact hf.guid _ entry
  · rfl

theorem guids_transition (guid : String) (value : DownloadState) (received total : Option Nat) (state : State) :
    (transition guid value received total state).guids = state.guids := guids_change (changes_transition ..) guid state

theorem guids_complete (guid : String) (size : Nat) (total : Option Nat) (state : State) :
    (complete guid size total state).guids = state.guids := by
  unfold complete
  split
  · rfl
  · exact guids_change (changes_complete size total) guid state

theorem guids_progress (generation : Nat) (params : ProgressParams) (verified : Option Nat) (state : State) :
    (progress generation params verified state).guids = state.guids := by
  unfold progress
  split
  · rfl
  split
  · rfl
  dsimp only
  split
  · exact guids_transition ..
  split
  · split
    · exact guids_complete ..
    · exact guids_transition ..
  · exact guids_transition ..
  · exact guids_transition ..

theorem guids_cancel (id : DownloadId) (sent : Bool) (state : State) : (cancel id sent state).2.guids = state.guids := by
  unfold cancel
  split
  · rfl
  split
  · rfl
  split
  · rfl
  · exact guids_transition ..

theorem guids_rebind (io : RebindOutcomes) (state : State) : (rebind io state).2.guids = state.guids := by
  unfold rebind
  split
  · rfl
  · dsimp only
    generalize List.map _ _ = stale
    refine List.foldlRecOn stale _ (motive := fun bound => State.guids bound = state.guids) rfl fun bound h guid _ => ?_
    exact (guids_change changes_fail guid bound).trans h

theorem mem_letThrough : guid ∈ letThrough state generation params ↔
    params.guid = some guid ∧ isFileName guid = true ∧ state.accepting = true ∧ state.transportGeneration = generation ∧
      state.get guid = none := by
  simp [letThrough, Option.filter_eq_some_iff, and_assoc]

theorem guids_begin {id : DownloadId} (h : guid ∈ (begin generation params id state).guids) :
    guid ∈ letThrough state generation params ∨ guid ∈ state.guids := by
  unfold begin at h
  split at h
  · exact .inr h
  rename_i begun hbegun
  split at h
  · exact .inr h
  rename_i hname
  split at h
  · exact .inr h
  rename_i hopen
  split at h
  · exact .inr h
  · obtain ⟨entry, hentry, rfl⟩ := List.mem_map.1 h
    rcases (List.mem_orderedInsert _).1 hentry with rfl | hold
    · simp only [not_or, not_not, Bool.not_eq_true, Bool.not_eq_false, Option.isSome_eq_false_iff,
        Option.isNone_iff_eq_none] at hname hopen
      exact .inl (mem_letThrough.2 ⟨hbegun, hname, hopen⟩)
    · exact .inr (List.mem_map_of_mem hold)

/-- The keys that were let through are names of files, and the inventory has no others. -/
structure Vetted (watched : Watched) : Prop where
  names : ∀ guid ∈ watched.guids, isFileName guid = true
  known : ∀ guid ∈ watched.state.guids, guid ∈ watched.guids

theorem vetted_initial : Vetted .initial := ⟨nofun, nofun⟩

theorem Vetted.call (h : Vetted watched) (root : Location) (call : Call) : Vetted (watched.call root call) := by
  cases call with
  | begin generation params id disk =>
    refine ⟨fun guid hguid => ?_, fun guid hguid => List.mem_append.2 ?_⟩
    · rcases List.mem_append.1 hguid with hnew | hold
      · exact (mem_letThrough.1 (Option.mem_toList.1 hnew)).2.1
      · exact h.names guid hold
    · exact (guids_begin hguid).imp Option.mem_toList.2 (h.known guid)
  | progress generation params looks disk => exact ⟨h.names, fun guid hguid => h.known guid (guids_progress .. ▸ hguid)⟩
  | cancel id sent disk => exact ⟨h.names, fun guid hguid => h.known guid (guids_cancel .. ▸ hguid)⟩
  | read sessionId request disk => exact ⟨h.names, h.known⟩
  | rebind io disks => exact ⟨h.names, fun guid hguid => h.known guid (guids_rebind .. ▸ hguid)⟩

theorem Vetted.event (h : Vetted watched) (root : Location) (event : Event) : Vetted (watched.event root event) := by
  cases event with
  | call call => exact h.call root call
  | shutdown removed => exact ⟨h.names, h.known⟩

theorem vetted_watchedAfter (root : Location) (events : List Event) : Vetted (watchedAfter root events) :=
  List.foldlRecOn events _ vetted_initial fun _ h event _ => h.event root event

theorem Vetted.owned (h : Vetted watched) {entry : Entry} (hentry : entry ∈ watched.state.byGuid)
    (hfile : disk.fileAt root entry.guid = some location) : Owned root watched.guids location :=
  have hknown := h.known _ (List.mem_map_of_mem hentry)
  owned_of_name (h.names _ hknown) hknown hfile

/-- `read` touches at most the file of an entry. -/
theorem mem_read {sessionId : SessionId} {request : ReadManagedDownloadRequest}
    (h : location ∈ (read root sessionId request disk state).1) :
    ∃ entry ∈ state.byGuid, disk.fileAt root entry.guid = some location := by
  unfold read at h
  split at h
  · cases h
  split at h
  · cases h
  rename_i entry hfind
  split at h
  · cases h
  split at h
  · cases h
  split at h
  · cases h
  · rename_i path bytes hverified
    obtain rfl := List.mem_singleton.1 h
    exact ⟨entry, List.mem_of_find?_eq_some hfind, fileAt_of_verified hverified⟩

theorem mem_cancelTouched {id : DownloadId} {sent : Bool} (h : location ∈ cancelTouched root id sent disk state) :
    ∃ entry ∈ state.byGuid, disk.fileAt root entry.guid = some location := by
  unfold cancelTouched at h
  split at h
  · cases h
  rename_i entry hfind
  split at h
  · cases h
  split at h
  · cases h
  · exact ⟨entry, List.mem_of_find?_eq_some hfind, mem_removeFile.1 h⟩

theorem mem_rebindTouched {io : RebindOutcomes} {disks : String → FileTree} (h : location ∈ rebindTouched root io disks state) :
    ∃ entry ∈ state.byGuid, (disks entry.guid).fileAt root entry.guid = some location := by
  unfold rebindTouched at h
  split at h
  · cases h
  · obtain ⟨guid, hguid, hfile⟩ := List.mem_flatMap.1 h
    obtain ⟨entry, hentry, rfl⟩ := List.mem_map.1 hguid
    exact ⟨entry, List.mem_of_mem_filter hentry, mem_removeFile.1 hfile⟩

theorem mem_beginTouched (h : location ∈ beginTouched root generation params disk state) :
    ∃ guid ∈ letThrough state generation params, disk.fileAt root guid = some location := by
  unfold beginTouched at h
  split at h
  · cases h
  rename_i guid hguid
  split at h
  · cases h
  rename_i hname
  split at h
  · cases h
  rename_i hopen
  split at h
  · simp only [not_or, not_not, Bool.not_eq_true, Bool.not_eq_false, Option.isSome_eq_false_iff,
      Option.isNone_iff_eq_none] at hname hopen
    exact ⟨guid, mem_letThrough.2 ⟨hguid, hname, hopen⟩, mem_removeFile.1 h⟩
  · cases h

/-- After any run, the files that a call reads or removes are those of keys that were let through, exactly when the call is
not a progress event that ends a download under another key with a path to another file. -/
theorem touched_contained_iff (root : Location) (events : List Event) (call : Call) :
    Contained root (watchedAfter root events) call ↔ Guarded root (watchedAfter root events) call := by
  have hvetted := vetted_watchedAfter root events
  generalize watchedAfter root events = watched at hvetted ⊢
  cases call with
  | begin generation params id disk =>
    refine iff_of_true (fun location hlocation => ?_) trivial
    obtain ⟨guid, hguid, hfile⟩ := mem_beginTouched hlocation
    exact owned_of_name (mem_letThrough.1 hguid).2.1 (List.mem_append_left _ (Option.mem_toList.2 hguid)) hfile
  | progress generation params looks disk =>
    constructor
    · intro hcontained hgeneration guid hguid
      exact .inr fun tree htree location hfile =>
        hcontained location (mem_progressTouched.2 ⟨hgeneration, guid, hguid, tree, htree, hfile⟩)
    · intro hguarded location hlocation
      obtain ⟨hgeneration, guid, hguid, tree, htree, hfile⟩ := mem_progressTouched.1 hlocation
      rcases hguarded hgeneration guid hguid with hlet | helse
      · exact owned_of_name (hvetted.names guid hlet) hlet hfile
      · exact helse tree htree location hfile
  | cancel id sent disk =>
    refine iff_of_true (fun location hlocation => ?_) trivial
    obtain ⟨entry, hentry, hfile⟩ := mem_cancelTouched hlocation
    exact hvetted.owned hentry hfile
  | read sessionId request disk =>
    refine iff_of_true (fun location hlocation => ?_) trivial
    obtain ⟨entry, hentry, hfile⟩ := mem_read hlocation
    exact hvetted.owned hentry hfile
  | rebind io disks =>
    refine iff_of_true (fun location hlocation => ?_) trivial
    obtain ⟨entry, hentry, hfile⟩ := mem_rebindTouched hlocation
    exact hvetted.owned hentry hfile

/-- A file beside the directory of the session. -/
def diskWithNotes : FileTree := fun location =>
  if location = [] ∨ location = ["downloads"] ∨ location = ["downloads", "session"] then some .directory
  else if location = ["downloads", "notes"] then some (.file [1, 2, 3])
  else none

/-- A cancellation of a download that never began removes a file outside the directory. -/
theorem canceled_removes_outside : ¬ ∀ root events call, Contained root (watchedAfter root events) call := by
  intro h
  have hremoved : ["downloads", "notes"] ∈ (Call.progress 1 ⟨some "../notes", none, none, some "canceled"⟩ []
      diskWithNotes).touched ["downloads", "session"] (watchedAfter ["downloads", "session"] []).state := by
    decide +kernel
  obtain ⟨guid, hguid, -⟩ := h _ [] _ _ hremoved
  cases hguid

end Krometrail.Downloads
