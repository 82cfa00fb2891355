import Krometrail.Segments.WriterRuns

/-!
# The announcement of sealed segments

A segment is published when the worker gives its file the sealed name, and announced when a reply reports it as sealed.
Behind the rename a command can still fail, and then it announces nothing.  `published_announced` is the announcement
in every run in which no command publishes a segment and then fails.
-/

namespace Krometrail

open Results Runs Stateful

def WriterReply.sealedSegments : WriterReply → List SegmentId
  | .appended (.ok commit) => (commit.sealedSegment.toList.filter (·.state = .sealed)).map (·.segmentId)
  | .flushed (.ok registrations) => (registrations.filter (·.state = .sealed)).map (·.segmentId)
  | _ => []

def announcedIn (trace : WriterTrace) : List SegmentId := trace.flatMap fun event => event.2.2.sealedSegments

/-! ### When a command announces what it publishes -/

namespace SealOutcomes

/-- The seal gets as far as the rename. -/
structure Reaches (io : SealOutcomes) (segment : OpenSegment) : Prop where
  footer : io.footer = .written
  sync : io.sync = .ok ()
  fileLen : segment.fileLen + sealedFooterLen ≤ u64Max

/-- The seal gives the file of the segment its sealed name. -/
structure Publishes (io : SealOutcomes) (segment : OpenSegment) : Prop extends io.Reaches segment where
  renamed : io.rename = .renamed

/-- Nothing fails: the file gets its sealed name and the directory is synchronized, or another process has published the
whole file. -/
structure Completes (crc : Crc32) (disk : Disk) (io : SealOutcomes) (segment : OpenSegment) : Prop
    extends io.Reaches segment where
  published : io.rename = .renamed ∧ io.directorySync = .ok () ∨ io.rename = .displaced ∧
    sealedPublicationIsComplete crc io.inspection
      ((disk.files ⟨segment.header.segmentId, .opened⟩).map (· ++ segment.footer.encode crc)) segment.header.segmentId = true

end SealOutcomes

/-- A file is created and gets its header, and the directory is synchronized. -/
structure OpenOutcomes.Succeeds (disk : Disk) (io : OpenOutcomes) : Prop where
  created : ∃ before attempt after, List.ofFn io.attempts = before ++ attempt :: after ∧ attempt.open disk = .ok () ∧
    ∀ earlier ∈ before, earlier.open disk = .error .alreadyExists
  header : io.header = .written
  sync : io.sync = .ok ()
  directorySync : io.directorySync = .ok ()

/-- The frame becomes the first record of a new segment. -/
structure AppendOutcomes.Starts (crc : Crc32) (disk : Disk) (io : AppendOutcomes) (frame : EncodedFrame) : Prop where
  opens : io.opening.Succeeds disk
  written : io.record = .written
  encodes : ∃ record, encodeFrameRecord crc frame = .ok record ∧ segmentHeaderLen + record.length ≤ u64Max

/-- A command that publishes a segment does not fail behind that: an append that rotates goes on to open the next segment
and to write the frame, and a flush seals all its keys. -/
def AnnouncesPublished (crc : Crc32) (state : WorkerState) (input : WriterInput) : Prop :=
  state.terminalError = none → match input with
    | .append frame io => ∀ segment, state.openSegments frame.key = some segment →
        segment.shouldRotate frame state.rotation = true → io.sealing.Publishes segment →
        io.sealing.directorySync = .ok () ∧ io.Starts crc state.disk frame
    | .flush _ keys io | .flushAll keys io => ∀ before key after segment, keys = before ++ key :: after →
        (∀ key' ∈ before, ∀ segment', state.openSegments key' = some segment' →
          (io key').Completes crc state.disk segment') →
        state.openSegments key = some segment → (io key).Publishes segment →
        ∀ key' ∈ key :: after, ∀ segment', state.openSegments key' = some segment' →
          (io key').Completes crc state.disk segment'
    | .shutdown _ _ => True

section

variable {crc : Crc32} {rotation : RotationConfig} {entries : List Accepted} {live : Prop} {state state' : WorkerState}
  {input : WriterInput} {trace : WriterTrace} {segment : OpenSegment} {disk : Disk} {frame : EncodedFrame}

theorem eq_written_of_result {outcome : WriteOutcome} (h : outcome.result = .ok ()) : outcome = .written := by
  cases outcome with
  | written => rfl
  | failed kind count => cases h

/-- The published segments are those from before, and the segment when the seal publishes it. -/
def SealOutcomes.PublishesOnly (io : SealOutcomes) (segment : OpenSegment) (disk disk' : Disk) : Prop :=
  ∀ segmentId ∈ disk'.published,
    segmentId ∈ disk.published ∨ segmentId = segment.header.segmentId ∧ io.Publishes segment

variable {io : SealOutcomes} {disk' : Disk} {segmentIds : List SegmentId}

theorem SealOutcomes.Reaches.publishesOnly (h : io.Reaches segment) (bytes : List UInt8) :
    io.PublishesOnly segment disk
      (io.rename.apply segment.header.segmentId (disk.append segment.header.segmentId bytes)) := by
  intro segmentId hmem
  cases hrename : io.rename with
  | renamed =>
    rw [hrename] at hmem
    rcases List.mem_append.1 hmem with hmem | hmem
    · exact .inl hmem
    · exact .inr ⟨List.mem_singleton.1 hmem, h, hrename⟩
  | displaced =>
    rw [hrename] at hmem
    exact .inl hmem
  | failed kind =>
    rw [hrename] at hmem
    exact .inl hmem

theorem sealSegment_announces (crc : Crc32) (io : SealOutcomes) (hunsealed : disk.files ⟨segment.header.segmentId, .sealed⟩ = none)
    (hopened : disk.files ⟨segment.header.segmentId, .opened⟩ ≠ none) (hbuffered : segment.buffered = []) :
    Ends (sealSegment crc io segment disk)
      (fun registration disk' => io.Completes crc disk segment ∧ registration.state = .sealed ∧
        registration.segmentId = segment.header.segmentId ∧ disk'.files ⟨segment.header.segmentId, .sealed⟩ ≠ none ∧
        io.PublishesOnly segment disk disk')
      (fun _ disk' => ¬io.Completes crc disk segment ∧ io.PublishesOnly segment disk disk') := by
  have hfooterLen : (segment.footer.encode crc).length = sealedFooterLen := SealedFooter.length_encode crc _
  unfold sealSegment
  simp only [ends_bind, ends_modify, ends_check, ends_orThrow]
  refine ⟨fun hfooter => ⟨fun hsync => ⟨fun fileLen hfileLen => ?_, fun hnone => ?_⟩, fun kind hkind => ?_⟩,
    fun kind hkind => ?_⟩
  · have hwritten := eq_written_of_result hfooter
    rw [hfooterLen] at hfileLen
    have hreaches : io.Reaches segment := ⟨hwritten, hsync, (checkedAdd_eq_some.1 hfileLen).1⟩
    have hreached : io.footer.reached (segment.buffered ++ segment.footer.encode crc) = segment.footer.encode crc := by
      rw [hwritten, hbuffered]
      rfl
    rw [hreached]
    set footerBytes := segment.footer.encode crc
    have honly : io.PublishesOnly segment disk _ := hreaches.publishesOnly footerBytes
    have hfile : (disk.append segment.header.segmentId footerBytes).files ⟨segment.header.segmentId, .opened⟩ =
        (disk.files ⟨segment.header.segmentId, .opened⟩).map (· ++ footerBytes) := Disk.files_append_self
    have hunsealed' : (disk.append segment.header.segmentId footerBytes).files ⟨segment.header.segmentId, .sealed⟩ = none := by
      rw [Disk.files_append_of_ne (by simp), hunsealed]
    have hsealed : ((disk.append segment.header.segmentId footerBytes).rename segment.header.segmentId).files
        ⟨segment.header.segmentId, .sealed⟩ = (disk.files ⟨segment.header.segmentId, .opened⟩).map (· ++ footerBytes) := by
      rw [Disk.files_rename_sealed, hfile]
    have hpresent : (disk.files ⟨segment.header.segmentId, .opened⟩).map (· ++ footerBytes) ≠ none := by
      simpa using hopened
    refine ends_publishSegment (fun hrename hdirectory => ?_) (fun hnotFound hcomplete => ?_) fun _ _ hrename hnotFound => ?_
    · refine ⟨⟨hreaches, .inl ⟨hrename, hdirectory⟩⟩, rfl, rfl, ?_, honly⟩
      rw [hrename]
      exact hsealed.trans_ne hpresent
    · cases hrename : io.rename with
      | renamed =>
        rw [hrename] at hnotFound
        cases hnotFound
      | displaced =>
        rw [hrename] at hcomplete honly
        refine ⟨⟨hreaches, .inr ⟨hrename, ?_⟩⟩, rfl, rfl, hsealed.trans_ne hpresent, honly⟩
        rw [← hsealed]
        exact hcomplete
      | failed kind =>
        rw [hrename] at hcomplete
        change sealedPublicationIsComplete crc io.inspection ((disk.append _ _).files _) _ = true at hcomplete
        rw [hunsealed'] at hcomplete
        unfold sealedPublicationIsComplete at hcomplete
        split at hcomplete <;> simp_all
    · refine ⟨fun hcompletes => ?_, honly⟩
      rcases hcompletes.published with ⟨hrenamed, hdirectory⟩ | ⟨hdisplaced, hcomplete⟩
      · exact hrename hrenamed hdirectory
      · rw [hdisplaced] at hnotFound
        have hincomplete := hnotFound rfl
        rw [← hsealed] at hcomplete
        exact absurd hcomplete (by rw [Bool.not_eq_true]; exact hincomplete)
  · refine ⟨fun hcompletes => ?_, fun _ h => .inl h⟩
    rw [hfooterLen] at hnone
    unfold checkedAdd at hnone
    rw [if_pos hcompletes.fileLen] at hnone
    cases hnone
  · refine ⟨fun hcompletes => ?_, fun _ h => .inl h⟩
    rw [hcompletes.sync] at hkind
    cases hkind
  · refine ⟨fun hcompletes => ?_, fun _ h => .inl h⟩
    rw [hcompletes.footer] at hkind
    cases hkind

/-- What a flush has done when the keys of `done` are sealed. -/
structure Flushed (crc : Crc32) (io : SegmentKey → SealOutcomes) (state : WorkerState)
    (done : List (SegmentKey × SegmentRegistration)) (state' : WorkerState) : Prop where
  others : ∀ key, key ∉ done.map Prod.fst → state'.openSegments key = state.openSegments key
  files : ∀ key segment, state.openSegments key = some segment → key ∉ done.map Prod.fst →
    ∀ name, state'.disk.files ⟨segment.header.segmentId, name⟩ = state.disk.files ⟨segment.header.segmentId, name⟩
  sealedFiles : ∀ segmentId, state.disk.files ⟨segmentId, .sealed⟩ ≠ none → state'.disk.files ⟨segmentId, .sealed⟩ ≠ none
  registered : ∀ entry ∈ done, entry.2.state = .sealed ∧ ∃ segment, state.openSegments entry.1 = some segment ∧
    (io entry.1).Completes crc state.disk segment ∧ entry.2.segmentId = segment.header.segmentId ∧
    state'.disk.files ⟨segment.header.segmentId, .sealed⟩ ≠ none
  published : ∀ segmentId ∈ state'.disk.published, segmentId ∈ state.disk.published ∨ ∃ entry ∈ done, ∃ segment,
    state.openSegments entry.1 = some segment ∧ segmentId = segment.header.segmentId ∧ (io entry.1).Publishes segment

theorem SealOutcomes.Completes.congr (h : io.Completes crc disk segment)
    (hfile : disk'.files ⟨segment.header.segmentId, .opened⟩ = disk.files ⟨segment.header.segmentId, .opened⟩) :
    io.Completes crc disk' segment :=
  ⟨h.toReaches, by rw [hfile]; exact h.published⟩

theorem sealEntry_announces {key : SegmentKey} (h : state.Sound crc rotation entries True)
    (hsegment : state.openSegments key = some segment) :
    Ends (WorkerState.sealEntry crc io key segment state)
      (fun registration state' => io.Completes crc state.disk segment ∧ registration.state = .sealed ∧
        registration.segmentId = segment.header.segmentId ∧
        state'.disk.files ⟨segment.header.segmentId, .sealed⟩ ≠ none ∧
        io.PublishesOnly segment state.disk state'.disk ∧ Disk.Grows segment.header.segmentId state.disk state'.disk ∧
        state'.openSegments = Function.update state.openSegments key none)
      (fun _ state' => ¬io.Completes crc state.disk segment ∧ io.PublishesOnly segment state.disk state'.disk ∧
        Disk.Grows segment.header.segmentId state.disk state'.disk) := by
  have hsound := h.segments key segment hsegment
  have hopened : state.disk.files ⟨segment.header.segmentId, .opened⟩ ≠ none := by
    rw [(hsound.counts trivial).file]
    exact nofun
  have hannounces := sealSegment_announces crc io hsound.unsealed hopened (hsound.counts trivial).buffered
  unfold WorkerState.sealEntry onDisk
  rw [ends_bind, ends_modify, ends_zoom]
  refine (hannounces.and (sealSegment_grows crc io segment state.disk)).mono (fun registration disk' hdone => ?_) fun error disk' hfailed => ?_
  · obtain ⟨⟨hcompletes, hstate, hid, hfile, honly⟩, hgrows⟩ := hdone
    exact ⟨hcompletes, hstate, hid, hfile, honly, hgrows, rfl⟩
  · exact ⟨hfailed.1.1, hfailed.1.2, hfailed.2⟩

theorem sealedFiles_of_grows (hgrows : Disk.Grows segment.header.segmentId disk disk')
    (hunsealed : disk.files ⟨segment.header.segmentId, .sealed⟩ = none) {segmentId : SegmentId}
    (hfile : disk.files ⟨segmentId, .sealed⟩ ≠ none) : disk'.files ⟨segmentId, .sealed⟩ ≠ none := by
  by_cases hid : segmentId = segment.header.segmentId
  · subst hid
    exact absurd hunsealed hfile
  · rw [hgrows.others _ hid]
    exact hfile

/-- A flush that may publish a segment without announcing it is excluded by the guard: a flush that fails has published
nothing. -/
theorem flushKeys_announces {io : SegmentKey → SealOutcomes} {keys : List SegmentKey}
    (h : state.Settled crc rotation entries True) (hnodup : keys.Nodup)
    (hopen : ∀ key ∈ keys, (state.openSegments key).isSome)
    (hguard : ∀ before key after segment, keys = before ++ key :: after →
      (∀ key' ∈ before, ∀ segment', state.openSegments key' = some segment' →
        (io key').Completes crc state.disk segment') →
      state.openSegments key = some segment → (io key).Publishes segment →
      ∀ key' ∈ key :: after, ∀ segment', state.openSegments key' = some segment' →
        (io key').Completes crc state.disk segment') :
    Ends (WorkerState.flushKeys crc io keys state)
      (fun registrations state' => ∃ done, done.map Prod.fst = keys ∧ done.map Prod.snd = registrations ∧
        Flushed crc io state done state')
      (fun _ state' => (∀ segmentId ∈ state'.disk.published, segmentId ∈ state.disk.published) ∧
        ∀ segmentId, state.disk.files ⟨segmentId, .sealed⟩ ≠ none →
          state'.disk.files ⟨segmentId, .sealed⟩ ≠ none) := by
  have hinit : Flushed crc io state [] state :=
    ⟨fun _ _ => rfl, fun _ _ _ _ _ => rfl, fun _ h => h, nofun, fun _ h => .inl h⟩
  refine (ends_each (I := fun done state' => state'.Settled crc rotation entries True ∧ Flushed crc io state done state')
    ⟨h, hinit⟩ ?_).mono (fun registrations state' hdone => ?_) fun _ _ hfailed => hfailed
  · intro before key after done state' hkeys hdone hstate'
    obtain ⟨hsettled, hflushed⟩ := hstate'
    -- the keys that are sealed so far complete
    have hbefore : ∀ key' ∈ before, ∀ segment', state.openSegments key' = some segment' →
        (io key').Completes crc state.disk segment' := by
      intro key' hkey' segment' hsegment'
      rw [← hdone] at hkey'
      obtain ⟨entry, hentry, rfl⟩ := List.mem_map.1 hkey'
      obtain ⟨-, segment, hsegment, hcompletes, -⟩ := hflushed.registered entry hentry
      obtain rfl := Option.some.inj (hsegment.symm.trans hsegment')
      exact hcompletes
    have hnot : key ∉ done.map Prod.fst := by
      rw [hdone]
      rw [hkeys] at hnodup
      exact fun hmem => (List.nodup_append.1 hnodup).2.2 key hmem key List.mem_cons_self rfl
    unfold WorkerState.flushKey
    rw [ends_bind, ends_get, ends_bind, ends_orThrow]
    refine ⟨fun segment hsegment => ?_, fun hnone => ?_⟩
    · have hsegment₀ : state.openSegments key = some segment := (hflushed.others key hnot).symm.trans hsegment
      have hfile := hflushed.files key segment hsegment₀ hnot .opened
      have hunsealed := (hsettled.segments key segment hsegment).unsealed
      have hsettles : Ends (WorkerState.sealEntry crc (io key) key segment state') _ _ :=
        settled_sealEntry hsettled hsegment
      refine (hsettles.and (sealEntry_announces hsettled.toSound hsegment)).mono (fun registration state'' hsealed => ?_) fun error state'' hfailed => ?_
      · obtain ⟨⟨hsettled'', -⟩, hcompletes, hstate, hid, hpresent, honly, hgrows, hmap⟩ := hsealed
        refine ⟨hsettled'', ?_, ?_, ?_, ?_, ?_⟩
        · intro key' hkey'
          rw [List.map_append, List.mem_append, not_or] at hkey'
          have hne : key' ≠ key := by simpa using hkey'.2
          rw [hmap, Function.update_of_ne hne]
          exact hflushed.others key' hkey'.1
        · intro key' segment' hsegment' hkey' name
          rw [List.map_append, List.mem_append, not_or] at hkey'
          have hne : key' ≠ key := by simpa using hkey'.2
          have hid' : segment'.header.segmentId ≠ segment.header.segmentId := fun heq =>
            hne (h.apart key' key segment' segment hsegment' hsegment₀ heq)
          rw [hgrows.others _ hid']
          exact hflushed.files key' segment' hsegment' hkey'.1 name
        · intro segmentId hsealedFile
          exact sealedFiles_of_grows hgrows hunsealed (hflushed.sealedFiles segmentId hsealedFile)
        · intro entry hentry
          rcases List.mem_append.1 hentry with hentry | hentry
          · obtain ⟨hentryState, segment', hsegment', hcompletes', hid', hpresent'⟩ := hflushed.registered entry hentry
            exact ⟨hentryState, segment', hsegment', hcompletes', hid',
              sealedFiles_of_grows hgrows hunsealed hpresent'⟩
          · obtain rfl := List.mem_singleton.1 hentry
            exact ⟨hstate, segment, hsegment₀, hcompletes.congr hfile.symm, hid, hpresent⟩
        · intro segmentId hmem
          rcases honly segmentId hmem with hmem | ⟨rfl, hpublishes⟩
          · rcases hflushed.published segmentId hmem with hmem | ⟨entry, hentry, hpublished⟩
            · exact .inl hmem
            · exact .inr ⟨entry, List.mem_append_left _ hentry, hpublished⟩
          · exact .inr ⟨(key, registration), by simp, segment, hsegment₀, rfl, hpublishes⟩
      · obtain ⟨-, hfails, honly, hgrows⟩ := hfailed
        have hfails₀ : ¬(io key).Completes crc state.disk segment := fun hcompletes => hfails (hcompletes.congr hfile)
        refine ⟨fun segmentId hmem => ?_, fun segmentId hsealedFile =>
          sealedFiles_of_grows hgrows hunsealed (hflushed.sealedFiles segmentId hsealedFile)⟩
        rcases honly segmentId hmem with hmem | ⟨rfl, hpublishes⟩
        · rcases hflushed.published segmentId hmem with hmem | ⟨entry, hentry, segment', hsegment', -, hpublishes⟩
          · exact hmem
          · -- the key of `entry` was published, so that this seal had to succeed
            have hentryKey : entry.1 ∈ before := by
              rw [← hdone]
              exact List.mem_map_of_mem hentry
            obtain ⟨first, middle, rfl⟩ := List.append_of_mem hentryKey
            have hcompletes := hguard first entry.1 (middle ++ key :: after) segment' (by rw [hkeys]; simp)
              (fun key' hkey' => hbefore key' (by simp [hkey'])) hsegment' hpublishes key (by simp) segment hsegment₀
            exact absurd hcompletes hfails₀
        · have hcompletes := hguard before key after segment hkeys hbefore hsegment₀ hpublishes key (by simp) segment hsegment₀
          exact absurd hcompletes hfails₀
    · have hsome := hopen key (by rw [hkeys]; simp)
      rw [← hflushed.others key hnot, hnone] at hsome
      cases hsome
  · obtain ⟨done, hfst, hsnd, -, hflushed⟩ := hdone
    exact ⟨done, hfst, hsnd, hflushed⟩

/-! ### Appends -/

/-- Nothing is published, and the files under sealed names stay as they are. -/
structure Disk.KeepsSealed (disk disk' : Disk) : Prop where
  published : disk'.published = disk.published
  sealedFiles : ∀ segmentId, disk'.files ⟨segmentId, .sealed⟩ = disk.files ⟨segmentId, .sealed⟩

theorem Disk.KeepsSealed.trans {disk'' : Disk} (h : disk.KeepsSealed disk') (h' : disk'.KeepsSealed disk'') :
    disk.KeepsSealed disk'' :=
  ⟨h'.published.trans h.published, fun segmentId => (h'.sealedFiles segmentId).trans (h.sealedFiles segmentId)⟩

theorem Disk.OnlyCreates.keepsSealed (h : disk.OnlyCreates disk') : disk.KeepsSealed disk' :=
  ⟨h.published, fun _ => h.files _ (.inl rfl)⟩

theorem Disk.keepsSealed_append {segmentId : SegmentId} {bytes : List UInt8} :
    disk.KeepsSealed (disk.append segmentId bytes) :=
  ⟨rfl, fun _ => Disk.files_append_of_ne (by simp)⟩

theorem openEntry_keepsSealed {io : OpenOutcomes} :
    Ends (WorkerState.openEntry crc io frame state) (fun _ state' => state.disk.KeepsSealed state'.disk)
      (fun _ state' => state.disk.KeepsSealed state'.disk) := by
  unfold WorkerState.openEntry
  rw [ends_bind, ends_get]
  cases hentry : state.openSegments frame.key with
  | some segment => exact ⟨rfl, fun _ => rfl⟩
  | none =>
    simp only [ends_bind, onDisk, ends_zoom, ends_modify, ends_pure]
    refine ends_openSegment (fun turn hfree => ?_) fun error disk' _ hcreates => hcreates.keepsSealed
    exact (Disk.onlyCreates_append _ hfree).keepsSealed

theorem append_keepsSealed {outcome : WriteOutcome} :
    Ends (OpenSegment.append crc outcome frame (segment, disk)) (fun _ after => disk.KeepsSealed after.2)
      (fun _ after => disk.KeepsSealed after.2) :=
  ends_append (fun _ _ _ => Disk.keepsSealed_append) fun _ _ _ _ _ => Disk.keepsSealed_append

theorem createOpenFile_succeeds {before after : List CreateAttempt} {attempt : CreateAttempt}
    (hattempt : attempt.open disk = .ok ()) (hbefore : ∀ earlier ∈ before, earlier.open disk = .error .alreadyExists) :
    Ends (createOpenFile (before ++ attempt :: after) disk) (fun _ _ => True) (fun _ _ => False) := by
  induction before with
  | nil =>
    rw [List.nil_append, createOpenFile, ends_bind, ends_get, hattempt]
    exact trivial
  | cons earlier before ih =>
    rw [List.cons_append, createOpenFile, ends_bind, ends_get, hbefore earlier (by simp)]
    exact ih fun earlier hearlier => hbefore earlier (by simp [hearlier])

theorem openSegment_succeeds {io : OpenOutcomes} (h : io.Succeeds disk) :
    Ends (openSegment crc rotation io frame disk) (fun _ _ => True) (fun _ _ => False) := by
  obtain ⟨before, attempt, after, hattempts, hattempt, hbefore⟩ := h.created
  unfold openSegment
  rw [ends_bind, hattempts]
  refine (createOpenFile_succeeds hattempt hbefore).mono (fun segmentId disk' _ => ?_) fun _ _ h => h
  simp only [ends_bind, ends_modify, ends_check, ends_pure, h.header, h.sync, h.directorySync, WriteOutcome.result]
  exact ⟨fun _ => ⟨fun _ => ⟨fun _ => trivial, nofun⟩, nofun⟩, nofun⟩

theorem append_succeeds {record : List UInt8} (hrecord : encodeFrameRecord crc frame = .ok record)
    (hfileLen : segment.fileLen + record.length ≤ u64Max) (hcount : segment.recordCount + 1 ≤ u64Max)
    (hpayload : segment.totalPayload + frame.bytes.length ≤ u64Max) :
    Ends (OpenSegment.append crc .written frame (segment, disk)) (fun _ _ => True) (fun _ _ => False) := by
  have hadded : ∀ {a b : Nat}, a + b ≤ u64Max → checkedAdd a b ≠ none := by
    intro a b hle
    simp [checkedAdd, hle]
  unfold OpenSegment.append OpenSegment.write
  simp only [ends_bind, ends_get, ends_modify, ends_check, ends_orThrow, ends_pure, hrecord, Except.toOption,
    WriteOutcome.result]
  refine ⟨fun record' hrecord' => ?_, by simp⟩
  cases hrecord'
  exact ⟨fun _ => ⟨fun _ _ => ⟨fun _ _ => ⟨fun _ _ => trivial, fun h => hadded hpayload h⟩, fun h => hadded hcount h⟩,
    fun h => hadded hfileLen h⟩, by simp⟩

/-- What a command that reports `segmentIds` as sealed has done: they got their sealed names, and no other segment was
published. -/
structure Announces (state : WorkerState) (segmentIds : List SegmentId) (state' : WorkerState) : Prop where
  nodup : segmentIds.Nodup
  unsealed : ∀ segmentId ∈ segmentIds, state.disk.files ⟨segmentId, .sealed⟩ = none
  present : ∀ segmentId ∈ segmentIds, state'.disk.files ⟨segmentId, .sealed⟩ ≠ none
  published : ∀ segmentId ∈ state'.disk.published, segmentId ∈ state.disk.published ∨ segmentId ∈ segmentIds
  sealedFiles : ∀ segmentId, state.disk.files ⟨segmentId, .sealed⟩ ≠ none → state'.disk.files ⟨segmentId, .sealed⟩ ≠ none

theorem Announces.refl (state : WorkerState) : Announces state [] state :=
  ⟨List.nodup_nil, nofun, nofun, fun _ h => .inl h, fun _ h => h⟩

theorem Announces.trans_keepsSealed {state'' : WorkerState} (h : Announces state segmentIds state')
    (hkeeps : state'.disk.KeepsSealed state''.disk) : Announces state segmentIds state'' := by
  refine ⟨h.nodup, h.unsealed, fun segmentId hmem => ?_, fun segmentId hmem => ?_, fun segmentId hfile => ?_⟩
  · rw [hkeeps.sealedFiles]
    exact h.present segmentId hmem
  · rw [hkeeps.published] at hmem
    exact h.published segmentId hmem
  · rw [hkeeps.sealedFiles]
    exact h.sealedFiles segmentId hfile

theorem Announces.drop (h : Announces state segmentIds state')
    (hpublished : ∀ segmentId ∈ state'.disk.published, segmentId ∈ state.disk.published) : Announces state [] state' :=
  ⟨List.nodup_nil, nofun, nofun, fun segmentId hmem => .inl (hpublished segmentId hmem), h.sealedFiles⟩

theorem rotate_announces (h : state.Sound crc rotation entries True) :
    Ends (WorkerState.rotate crc io frame state)
      (fun sealedSegment state' =>
        Announces state ((sealedSegment.toList.filter (·.state = .sealed)).map (·.segmentId)) state' ∧
          ((∀ segmentId ∈ state'.disk.published, segmentId ∈ state.disk.published) ∨
            ∃ segment, state.openSegments frame.key = some segment ∧
              segment.shouldRotate frame state.rotation = true ∧ io.Publishes segment ∧
              state'.openSegments frame.key = none ∧
              ∀ name, name.segmentId ≠ segment.header.segmentId → state'.disk.files name = state.disk.files name))
      (fun _ state' => Announces state [] state' ∨ ∃ segment, state.openSegments frame.key = some segment ∧
        segment.shouldRotate frame state.rotation = true ∧ io.Publishes segment ∧
        ¬io.Completes crc state.disk segment) := by
  unfold WorkerState.rotate
  rw [ends_bind, ends_get]
  cases hfilter : (state.openSegments frame.key).filter (·.shouldRotate frame state.rotation) with
  | none => exact ⟨.refl state, .inl fun _ h => h⟩
  | some segment =>
    obtain ⟨hsegment, hrotate⟩ := Option.filter_eq_some_iff.1 hfilter
    have hunsealed := (h.segments frame.key segment hsegment).unsealed
    change Ends ((WorkerState.sealEntry crc io frame.key segment >>= fun registration => pure (some registration)) state) _ _
    rw [ends_bind]
    refine (sealEntry_announces h hsegment).mono (fun registration state' hsealed => ?_) fun error state' hfailed => ?_
    · obtain ⟨-, hstate, hid, hpresent, honly, hgrows, hmap⟩ := hsealed
      have hreported : (((some registration).toList.filter (·.state = .sealed)).map (·.segmentId)) =
          [segment.header.segmentId] := by simp [hstate, hid]
      rw [ends_pure, hreported]
      refine ⟨⟨List.nodup_singleton _, ?_, ?_, ?_, fun segmentId => sealedFiles_of_grows hgrows hunsealed⟩, ?_⟩
      · intro segmentId hmem
        rw [List.mem_singleton.1 hmem]
        exact hunsealed
      · intro segmentId hmem
        rw [List.mem_singleton.1 hmem]
        exact hpresent
      · intro segmentId hmem
        rcases honly segmentId hmem with hmem | ⟨heq, -⟩
        · exact .inl hmem
        · exact .inr (List.mem_singleton.2 heq)
      · by_cases hpublishes : io.Publishes segment
        · refine .inr ⟨segment, hsegment, hrotate, hpublishes, ?_, hgrows.others⟩
          rw [hmap, Function.update_self]
        · refine .inl fun segmentId hmem => ?_
          rcases honly segmentId hmem with hmem | ⟨-, hpublishes'⟩
          · exact hmem
          · exact absurd hpublishes' hpublishes
    · obtain ⟨hfails, honly, hgrows⟩ := hfailed
      by_cases hpublishes : io.Publishes segment
      · exact .inr ⟨segment, hsegment, hrotate, hpublishes, hfails⟩
      · refine .inl ⟨List.nodup_nil, nofun, nofun, fun segmentId hmem => ?_, fun segmentId => sealedFiles_of_grows hgrows hunsealed⟩
        rcases honly segmentId hmem with hmem | ⟨-, hpublishes'⟩
        · exact .inl hmem
        · exact absurd hpublishes' hpublishes

theorem openEntry_succeeds {io : OpenOutcomes} (hnone : state.openSegments frame.key = none)
    (h : io.Succeeds state.disk) :
    Ends (WorkerState.openEntry crc io frame state)
      (fun segment _ => segment.fileLen = segmentHeaderLen ∧ segment.recordCount = 0 ∧ segment.totalPayload = 0)
      (fun _ _ => False) := by
  have hshape : Ends (openSegment crc state.rotation io frame state.disk)
      (fun segment _ => segment.fileLen = segmentHeaderLen ∧ segment.recordCount = 0 ∧ segment.totalPayload = 0)
      (fun _ _ => True) :=
    ends_openSegment (fun _ _ => ⟨rfl, rfl, rfl⟩) fun _ _ _ _ => trivial
  unfold WorkerState.openEntry
  rw [ends_bind, ends_get, hnone]
  simp only [ends_bind, onDisk, ends_zoom, ends_modify, ends_pure]
  exact (hshape.and (openSegment_succeeds h)).mono (fun _ _ hopened => hopened.1) fun _ _ hfailed => hfailed.2

theorem append_announces {io : AppendOutcomes} (h : state.Sound crc rotation entries True)
    (hfresh : FreshIds state (.append frame io))
    (hguard : ∀ segment, state.openSegments frame.key = some segment → segment.shouldRotate frame state.rotation = true →
      io.sealing.Publishes segment → io.sealing.directorySync = .ok () ∧ io.Starts crc state.disk frame) :
    Ends (WorkerState.append crc io frame state)
      (fun commit state' =>
        Announces state ((commit.sealedSegment.toList.filter (·.state = .sealed)).map (·.segmentId)) state')
      (fun _ state' => Announces state [] state') := by
  unfold WorkerState.append
  rw [ends_bind]
  refine (rotate_announces h).mono (fun sealedSegment state₁ hrotated => ?_) fun error state₁ hfailed => ?_
  · obtain ⟨hannounces, hcases⟩ := hrotated
    rw [ends_bind]
    rcases hcases with hunpublished | ⟨segment, hsegment, hrotate, hpublishes, hnone, hfiles⟩
    · refine openEntry_keepsSealed.mono (fun opened state₂ hkeeps => ?_) fun _ state₂ hkeeps =>
        (hannounces.drop hunpublished).trans_keepsSealed hkeeps
      unfold onSegment
      rw [ends_zoom, ends_bind]
      refine append_keepsSealed.mono (fun address after hkeeps' => ?_) fun _ after hkeeps' => ?_
      · exact hannounces.trans_keepsSealed (hkeeps.trans hkeeps')
      · exact (hannounces.drop hunpublished).trans_keepsSealed (hkeeps.trans hkeeps')
    · -- the segment is published, and nothing behind that fails
      obtain ⟨-, hstarts⟩ := hguard segment hsegment hrotate hpublishes
      have hopen : ∀ turn, (io.opening.attempts turn).open state₁.disk = (io.opening.attempts turn).open state.disk := by
        intro turn
        have hfile := hfiles ⟨(io.opening.attempts turn).segmentId, .opened⟩ (Ne.symm ((hfresh turn).2 segment hsegment))
        unfold CreateAttempt.open
        rw [hfile]
      have hsucceeds : io.opening.Succeeds state₁.disk := by
        obtain ⟨before, attempt, after, hattempts, hattempt, hbefore⟩ := hstarts.opens.created
        have hsame : ∀ attempt' ∈ before ++ attempt :: after, attempt'.open state₁.disk = attempt'.open state.disk := by
          intro attempt' hmem
          rw [← hattempts] at hmem
          obtain ⟨turn, rfl⟩ := List.mem_ofFn.1 hmem
          exact hopen turn
        refine ⟨⟨before, attempt, after, hattempts, ?_, fun earlier hearlier => ?_⟩, hstarts.opens.header, hstarts.opens.sync,
          hstarts.opens.directorySync⟩
        · rw [hsame attempt (by simp), hattempt]
        · rw [hsame earlier (by simp [hearlier]), hbefore earlier hearlier]
      obtain ⟨record, hrecord, hlength⟩ := hstarts.encodes
      have hpayload : frame.bytes.length ≤ record.length := by
        obtain ⟨-, rfl⟩ := encodeFrameRecord_eq_bytes.1 hrecord
        rw [FrameRecord.length_bytes, FrameRecord.encodedLen]
        change _ ≤ _ + _ + frame.bytes.length
        omega
      refine ((openEntry_succeeds hnone hsucceeds).and openEntry_keepsSealed).mono (fun opened state₂ hopened => ?_)
        fun _ _ hfailed => hfailed.1.elim
      obtain ⟨⟨hfileLen, hcount, htotal⟩, hkeeps⟩ := hopened
      have hsucceeds' : Ends (OpenSegment.append crc io.record frame (opened, state₂.disk)) (fun _ _ => True)
          (fun _ _ => False) := by
        rw [hstarts.written]
        refine append_succeeds hrecord ?_ ?_ ?_
        · rw [hfileLen]
          exact hlength
        · rw [hcount]
          decide
        · rw [htotal]
          omega
      unfold onSegment
      rw [ends_zoom, ends_bind]
      refine (hsucceeds'.and append_keepsSealed).mono (fun address after hdone => ?_) fun _ _ hfailed => hfailed.1.elim
      exact hannounces.trans_keepsSealed (hkeeps.trans hdone.2)
  · rcases hfailed with hannounces | ⟨segment, hsegment, hrotate, hpublishes, hfails⟩
    · exact hannounces
    · obtain ⟨hdirectory, -⟩ := hguard segment hsegment hrotate hpublishes
      exact absurd ⟨hpublishes.toReaches, .inl ⟨hpublishes.renamed, hdirectory⟩⟩ hfails

/-! ### Runs -/

/-- What is announced has a file under its sealed name, and what is published is announced. -/
structure WorkerState.Announced (announced : List SegmentId) (state : WorkerState) : Prop where
  nodup : announced.Nodup
  present : ∀ segmentId ∈ announced, state.disk.files ⟨segmentId, .sealed⟩ ≠ none
  published : ∀ segmentId ∈ state.disk.published, segmentId ∈ announced

theorem WorkerState.Announced.step {announced : List SegmentId} (h : state.Announced announced)
    (hannounces : Announces state segmentIds state') : state'.Announced (announced ++ segmentIds) := by
  refine ⟨List.nodup_append.2 ⟨h.nodup, hannounces.nodup, ?_⟩, ?_, ?_⟩
  · rintro segmentId hold _ hnew rfl
    exact h.present segmentId hold (hannounces.unsealed segmentId hnew)
  · intro segmentId hmem
    rcases List.mem_append.1 hmem with hmem | hmem
    · exact hannounces.sealedFiles segmentId (h.present segmentId hmem)
    · exact hannounces.present segmentId hmem
  · intro segmentId hmem
    rcases hannounces.published segmentId hmem with hmem | hmem
    · exact List.mem_append_left _ (h.published segmentId hmem)
    · exact List.mem_append_right _ hmem

theorem Announces.of_disk {state'' : WorkerState} (h : Announces state segmentIds state') (hdisk : state''.disk = state'.disk)
    : Announces state segmentIds state'' :=
  h.trans_keepsSealed (by rw [hdisk]; exact ⟨rfl, fun _ => rfl⟩)

theorem Flushed.announces {io : SegmentKey → SealOutcomes} {done : List (SegmentKey × SegmentRegistration)}
    (hflushed : Flushed crc io state done state') (h : state.Sound crc rotation entries True)
    (hnodup : (done.map Prod.fst).Nodup) :
    Announces state (((done.map Prod.snd).filter (·.state = .sealed)).map (·.segmentId)) state' := by
  have hall : (done.map Prod.snd).filter (·.state = .sealed) = done.map Prod.snd := by
    refine List.filter_eq_self.2 fun registration hmem => ?_
    obtain ⟨entry, hentry, rfl⟩ := List.mem_map.1 hmem
    simpa using (hflushed.registered entry hentry).1
  rw [hall, List.map_map]
  refine ⟨?_, ?_, ?_, ?_, hflushed.sealedFiles⟩
  · refine (List.nodup_map_iff_inj_on (List.Nodup.of_map _ hnodup)).2 fun entry hentry entry' hentry' heq => ?_
    obtain ⟨-, segment, hsegment, -, hid, -⟩ := hflushed.registered entry hentry
    obtain ⟨-, segment', hsegment', -, hid', -⟩ := hflushed.registered entry' hentry'
    have hkey : entry.1 = entry'.1 := h.apart _ _ segment segment' hsegment hsegment' (hid.symm.trans (heq.trans hid'))
    exact List.inj_on_of_nodup_map hnodup hentry hentry' hkey
  · intro segmentId hmem
    obtain ⟨entry, hentry, rfl⟩ := List.mem_map.1 hmem
    obtain ⟨-, segment, hsegment, -, hid, -⟩ := hflushed.registered entry hentry
    rw [Function.comp_apply, hid]
    exact (h.segments _ segment hsegment).unsealed
  · intro segmentId hmem
    obtain ⟨entry, hentry, rfl⟩ := List.mem_map.1 hmem
    obtain ⟨-, segment, -, -, hid, hpresent⟩ := hflushed.registered entry hentry
    rw [Function.comp_apply, hid]
    exact hpresent
  · intro segmentId hmem
    rcases hflushed.published segmentId hmem with hmem | ⟨entry, hentry, segment, hsegment, rfl, -⟩
    · exact .inl hmem
    · obtain ⟨-, segment', hsegment', -, hid, -⟩ := hflushed.registered entry hentry
      obtain rfl := Option.some.inj (hsegment.symm.trans hsegment')
      exact .inr (List.mem_map.2 ⟨entry, hentry, hid⟩)

theorem keepsSealed_stop (count : SegmentKey → Nat) (keys : List SegmentKey) :
    state.disk.KeepsSealed (state.stop count keys).disk := by
  unfold WorkerState.stop
  induction keys generalizing state with
  | nil => exact ⟨rfl, fun _ => rfl⟩
  | cons key keys ih =>
    have hkey : state.disk.KeepsSealed (state.dropSegment count key).disk := by
      unfold WorkerState.dropSegment
      split
      · exact Disk.keepsSealed_append
      · exact ⟨rfl, fun _ => rfl⟩
    exact hkey.trans ih

theorem Announces.answered {α : Type} {reply : Result α → WriterReply}
    {result : EStateM.Result KrometrailError WorkerState α}
    (h : Ends result (fun value state' => Announces state (reply (.ok value)).sealedSegments state')
      (fun error state' => Announces state (reply (.error error)).sealedSegments state')) :
    Announces state (answered reply result).1.sealedSegments (answered reply result).2 := by
  cases result with
  | ok value state' => exact h
  | error error state' => exact h

theorem handle_announces (h : state.Settled crc rotation entries (state.terminalError = none))
    (hfresh : FreshIds state input) (hcollects : input.Collects state) (hguard : AnnouncesPublished crc state input) :
    Announces state (state.handle crc input).1.sealedSegments (state.handle crc input).2 := by
  -- recording a failure changes nothing on the disk
  have hrecorded : ∀ (error : KrometrailError) (state' : WorkerState), Announces state [] state' →
      Announces state [] (if error.classified.isWriterTerminal then
        { state' with terminalError := some error.classified } else state') := by
    intro error state' hannounces
    refine hannounces.of_disk ?_
    split <;> rfl
  have hflush : ∀ (keys : List SegmentKey) (io : SegmentKey → SealOutcomes), keys.Nodup →
      (∀ key ∈ keys, (state.openSegments key).isSome) → AnnouncesPublished crc state (.flushAll keys io) →
      Announces state (state.handle crc (.flushAll keys io)).1.sealedSegments (state.handle crc (.flushAll keys io)).2 := by
    intro keys io hnodup hopen hguard
    refine Announces.answered (ends_execute (fun _ _ => .refl state) fun hnone => ?_)
    have hlive := h.mono fun _ : True => hnone
    refine (flushKeys_announces hlive hnodup hopen (hguard hnone)).mono (fun registrations state' hdone => ?_)
      fun error state' hfailed => hrecorded error state' ?_
    · obtain ⟨done, hfst, rfl, hflushed⟩ := hdone
      exact hflushed.announces hlive.toSound (hfst ▸ hnodup)
    · exact ⟨List.nodup_nil, nofun, nofun, fun segmentId hmem => .inl (hfailed.1 segmentId hmem), hfailed.2⟩
  cases input with
  | append frame io =>
    refine Announces.answered (ends_execute (fun _ _ => .refl state) fun hnone => ?_)
    have hlive := h.mono fun _ : True => hnone
    exact (append_announces hlive.toSound hfresh (hguard hnone)).mono (fun _ _ hannounces => hannounces)
      fun error state' hannounces => hrecorded error state' hannounces
  | flush sessionId keys io =>
    exact hflush keys io hcollects.1 (fun key hkey => ((hcollects.2 key).1 hkey).2) hguard
  | flushAll keys io => exact hflush keys io hcollects.1 (fun key hkey => (hcollects.2 key).1 hkey) hguard
  | shutdown count keys => exact (Announces.refl state).trans_keepsSealed (keepsSealed_stop count keys)

theorem announced_of_run
    (h : Run (segmentWriter crc) (fun state input => FreshIds state input ∧ AnnouncesPublished crc state input) trace state) :
    state.Announced (announcedIn trace) := by
  induction h with
  | start hinit =>
    obtain ⟨rotation, files, hnew⟩ := hinit
    obtain ⟨validated, -, hstate⟩ := bind_eq_ok.1 hnew
    obtain rfl := pure_eq_ok.1 hstate
    exact ⟨List.nodup_nil, nofun, nofun⟩
  | @next trace state state' input reply hrun hguard hstep ih =>
    obtain ⟨rotation, hsettled, -⟩ := settled_of_run (hrun.mono fun _ _ hguard => hguard.1)
    obtain ⟨-, hcollects, hhandle⟩ := hstep
    have hannounces := handle_announces hsettled hguard.1 hcollects hguard.2
    rw [hhandle] at hannounces
    have hconcat : announcedIn (trace ++ [(state, input, reply)]) = announcedIn trace ++ reply.sealedSegments := by
      simp [announcedIn]
    rw [hconcat]
    exact ih.step hannounces

/-- In every run in which no command publishes a segment and then fails, each published segment is reported as sealed in
exactly one reply. -/
theorem published_announced
    (h : Run (segmentWriter crc) (fun state input => FreshIds state input ∧ AnnouncesPublished crc state input) trace state) :
    ∀ segmentId ∈ state.disk.published, (announcedIn trace).count segmentId = 1 := by
  intro segmentId hpublished
  have hannounced := announced_of_run h
  exact List.count_eq_one_of_mem hannounced.nodup (hannounced.published segmentId hpublished)

end

/-! ### A flush that loses a registration -/

def sampleKey : SegmentKey := (⟨zeroUuid⟩, ⟨zeroUuid⟩)

/-- The worker of an empty directory after one frame. -/
def afterFrame : WorkerState := (freshWorker.handle (fun _ => 0) (.append (frameAt 1) (sampleOutcomes .written))).2

/-- A flush of the session in which at most the directory sync fails. -/
def sampleFlush (directorySync : IoResult) : WriterInput :=
  .flush ⟨zeroUuid⟩ [sampleKey] fun _ => ⟨.written, .ok (), .renamed, .ok (), directorySync⟩

theorem handle_append_others {crc : Crc32} {io : AppendOutcomes} {frame : EncodedFrame} {state : WorkerState}
    {key : SegmentKey} (hkey : key ≠ frame.key) :
    (state.handle crc (.append frame io)).2.openSegments key = state.openSegments key := by
  have hends : Ends (WorkerState.execute (WorkerState.append crc io frame) state)
      (fun _ state' => state'.openSegments key = state.openSegments key)
      (fun _ state' => state'.openSegments key = state.openSegments key) := by
    refine ends_execute (fun _ _ => rfl) fun _ => (append_others hkey).mono (fun _ _ h => h) fun error state' h => ?_
    split <;> exact h
  unfold WorkerState.handle
  rw [answered_snd]
  exact hends.finalState

theorem collects_sampleFlush (directorySync : IoResult) : (sampleFlush directorySync).Collects afterFrame := by
  refine ⟨List.nodup_singleton _, fun key => ?_⟩
  by_cases hkey : key = sampleKey
  · subst hkey
    have hsome : (afterFrame.openSegments sampleKey).isSome = true := by decide +kernel
    exact ⟨fun _ => ⟨rfl, hsome⟩, fun _ => List.mem_singleton_self _⟩
  · have hnone : afterFrame.openSegments key = none := handle_append_others hkey
    simp [hkey, hnone]

theorem announces_append (io : AppendOutcomes) (frame : EncodedFrame) :
    AnnouncesPublished (fun _ => 0) freshWorker (.append frame io) := nofun

theorem announces_sampleFlush : AnnouncesPublished (fun _ => 0) afterFrame (sampleFlush (.ok ())) := by
  intro _ before key after segment hkeys _ hsegment _ key' hkey' segment' hsegment'
  have hlen : (afterFrame.openSegments sampleKey).map (·.fileLen) = some 176 := by decide +kernel
  have hmem : key' ∈ [sampleKey] := hkeys ▸ List.mem_append_right _ hkey'
  rw [List.mem_singleton.1 hmem] at hsegment'
  rw [hsegment', Option.map_some] at hlen
  refine ⟨⟨rfl, rfl, ?_⟩, .inl ⟨rfl, rfl⟩⟩
  rw [Option.some.inj hlen]
  decide

theorem run_flush {guard : WorkerState → WriterInput → Prop} (directorySync : IoResult)
    (happend : guard freshWorker (.append (frameAt 1) (sampleOutcomes .written)))
    (hflush : guard afterFrame (sampleFlush directorySync)) :
    Run (segmentWriter fun _ => 0) guard
      [(freshWorker, .append (frameAt 1) (sampleOutcomes .written),
          (freshWorker.handle (fun _ => 0) (.append (frameAt 1) (sampleOutcomes .written))).1),
        (afterFrame, sampleFlush directorySync, (afterFrame.handle (fun _ => 0) (sampleFlush directorySync)).1)]
      (afterFrame.handle (fun _ => 0) (sampleFlush directorySync)).2 := by
  have hinit : (segmentWriter fun _ => 0).init freshWorker := ⟨⟨10, 1000⟩, fun _ => none, rfl⟩
  have hfirst : Run (segmentWriter fun _ => 0) guard [(freshWorker, _, _)] afterFrame :=
    .next (.start hinit) happend ⟨rfl, trivial, rfl⟩
  exact .next hfirst hflush ⟨by decide +kernel, collects_sampleFlush directorySync, rfl⟩

theorem published_announced_flush : (announcedIn
      [(freshWorker, .append (frameAt 1) (sampleOutcomes .written),
          (freshWorker.handle (fun _ => 0) (.append (frameAt 1) (sampleOutcomes .written))).1),
        (afterFrame, sampleFlush (.ok ()), (afterFrame.handle (fun _ => 0) (sampleFlush (.ok ()))).1)]).count
      ⟨zeroUuid⟩ = 1 :=
  published_announced (run_flush (.ok ()) ⟨fun _ => ⟨rfl, nofun⟩, announces_append _ _⟩ ⟨trivial, announces_sampleFlush⟩)
    ⟨zeroUuid⟩ (by decide +kernel)

/-- A directory sync that fails behind the rename: the segment has its sealed name, and no reply reports it. -/
theorem failed_sync_not_announced : ¬∀ (crc : Crc32) (trace : WriterTrace) (state : WorkerState),
    Run (segmentWriter crc) FreshIds trace state →
      ∀ segmentId ∈ state.disk.published, (announcedIn trace).count segmentId = 1 := by
  intro h
  have hpublished : (afterFrame.handle (fun _ => 0) (sampleFlush (.error .other))).2.disk.published = [⟨zeroUuid⟩] := by
    decide +kernel
  have hcount := h (fun _ => 0) _ _ (run_flush (.error .other) (fun _ => ⟨rfl, nofun⟩) trivial) ⟨zeroUuid⟩ (by simp [hpublished])
  exact absurd hcount (by decide +kernel)

end Krometrail
