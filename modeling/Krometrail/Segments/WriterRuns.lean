import Krometrail.Segments.WriterInvariant

/-!
# Runs of the segment writer

What holds after every sequence of commands, whatever their file operations come to: the open segments, the addresses
that were answered, the counters, the bounds of the rotation, and that a writer that has failed terminally only repeats
its failure (`writer_invariant`).
-/

namespace Krometrail

open Results Runs Stateful

abbrev WriterTrace : Type := List (WorkerState × WriterInput × WriterReply)

/-- The frame of an append that was answered with its address. -/
def acceptedBy : WriterInput → WriterReply → List Accepted
  | .append frame _, .appended (.ok commit) => [(frame, commit.address)]
  | _, _ => []

def acceptedIn (trace : WriterTrace) : List Accepted := trace.flatMap fun event => acceptedBy event.2.1 event.2.2

def WriterReply.failure : WriterReply → Option KrometrailError
  | .appended (.error error) | .flushed (.error error) => some error
  | _ => none

def WriterInput.IsCommand : WriterInput → Prop
  | .shutdown _ _ => False
  | _ => True

section

variable {crc : Crc32} {rotation : RotationConfig} {entries : List Accepted} {live : Prop} {state state' : WorkerState}
  {input : WriterInput} {trace : WriterTrace}

variable {error : KrometrailError} {accepted : Accepted}

theorem WorkerState.Settled.failed (h : state.Settled crc rotation entries (error.isWriterTerminal = false)) :
    WorkerState.Settled crc rotation entries
      ((if error.isWriterTerminal then { state with terminalError := some error } else state).terminalError = none)
      (if error.isWriterTerminal then { state with terminalError := some error } else state) := by
  split
  · have hdead : state.Settled crc rotation entries False := h.mono False.elim
    exact ⟨⟨hdead.rotation_eq, hdead.keyed, hdead.apart, fun key segment hsegment =>
      let hsound := hdead.segments key segment hsegment
      ⟨hsound.unsealed, hsound.started, hsound.written, nofun⟩, hdead.stored⟩, nofun⟩
  · rename_i husable
    exact h.mono fun _ => by simpa using husable

theorem WorkerState.Settled.dropSegment (h : state.Settled crc rotation entries live) (count : SegmentKey → Nat)
    (key : SegmentKey) : (state.dropSegment count key).Settled crc rotation entries live := by
  unfold WorkerState.dropSegment
  split
  · rename_i segment hsegment
    exact h.removed hsegment Disk.grows_append
  · exact h

theorem WorkerState.Settled.stop (h : state.Settled crc rotation entries live) (count : SegmentKey → Nat)
    (keys : List SegmentKey) : (state.stop count keys).Settled crc rotation entries live := by
  have hdropped : (keys.foldl (WorkerState.dropSegment count) state).Settled crc rotation entries live := by
    induction keys generalizing state with
    | nil => exact h
    | cons key keys ih => exact ih (h.dropSegment count key)
  exact ⟨⟨hdropped.rotation_eq, hdropped.keyed, hdropped.apart, hdropped.segments, hdropped.stored⟩, hdropped.occupied⟩

theorem terminalError_stop (count : SegmentKey → Nat) (keys : List SegmentKey) :
    (state.stop count keys).terminalError = state.terminalError := by
  unfold WorkerState.stop
  induction keys generalizing state with
  | nil => rfl
  | cons key keys ih =>
    have hkey : (state.dropSegment count key).terminalError = state.terminalError := by
      unfold WorkerState.dropSegment
      split <;> rfl
    rw [List.foldl_cons, ih, hkey]

@[simp] theorem answered_snd {α : Type} (reply : Result α → WriterReply)
    (result : EStateM.Result KrometrailError WorkerState α) : (answered reply result).2 = finalState result := by
  cases result <;> rfl

theorem WorkerState.Settled.handle (h : state.Settled crc rotation entries (state.terminalError = none))
    (hfresh : FreshIds state input) :
    (state.handle crc input).2.Settled crc rotation (entries ++ acceptedBy input (state.handle crc input).1)
        ((state.handle crc input).2.terminalError = none) ∧
      ∀ accepted ∈ acceptedBy input (state.handle crc input).1, Placed rotation entries accepted := by
  have hflush : ∀ (keys : List SegmentKey) (io : SegmentKey → SealOutcomes),
      Ends (WorkerState.execute (WorkerState.flushKeys crc io keys) state)
        (fun _ state' => state'.Settled crc rotation entries (state'.terminalError = none))
        (fun _ state' => state'.Settled crc rotation entries (state'.terminalError = none)) := by
    intro keys io
    refine ends_execute (fun error _ => h) fun hnone => ?_
    have hlive : state.Settled crc rotation entries True := h.mono fun _ => hnone
    refine (settled_flushKeys hlive).mono (fun _ _ hdone => hdone.mono fun _ => trivial) fun error state' hfailed => ?_
    exact (hfailed.mono fun husable => ⟨husable, trivial⟩).failed
  cases input with
  | append frame io =>
    have happend : Ends (WorkerState.execute (WorkerState.append crc io frame) state)
        (fun commit state' => state'.Settled crc rotation (entries ++ [(frame, commit.address)])
          (state'.terminalError = none) ∧ Placed rotation entries (frame, commit.address))
        (fun _ state' => state'.Settled crc rotation entries (state'.terminalError = none)) := by
      refine ends_execute (fun error _ => h) fun hnone => ?_
      have hlive : state.Settled crc rotation entries True := h.mono fun _ => hnone
      exact (settled_append hlive hfresh).mono (fun _ _ hdone => ⟨hdone.1.mono fun _ => trivial, hdone.2⟩)
        fun _ _ hfailed => hfailed.failed
    cases hrun : WorkerState.execute (WorkerState.append crc io frame) state with
    | ok commit state' =>
      have hhandle : state.handle crc (.append frame io) = (.appended (.ok commit), state') :=
        congrArg (answered .appended) hrun
      rw [hrun] at happend
      rw [hhandle]
      refine ⟨happend.1, fun accepted haccepted => ?_⟩
      obtain rfl := List.mem_singleton.1 haccepted
      exact happend.2
    | error error state' =>
      have hhandle : state.handle crc (.append frame io) = (.appended (.error error), state') :=
        congrArg (answered .appended) hrun
      rw [hrun] at happend
      rw [hhandle]
      simpa [acceptedBy] using happend
  | flush sessionId keys io => simpa [WorkerState.handle, acceptedBy] using (hflush keys io).finalState
  | flushAll keys io => simpa [WorkerState.handle, acceptedBy] using (hflush keys io).finalState
  | shutdown count keys => simpa [WorkerState.handle, acceptedBy, terminalError_stop] using h.stop count keys

theorem handle_refused (hterminal : state.terminalError = some error) (hcommand : input.IsCommand) :
    (state.handle crc input).2 = state ∧ (state.handle crc input).1.failure = some error := by
  have hrefused : ∀ {α : Type} (operation : Worker α), WorkerState.execute operation state = .error error state := by
    intro α operation
    simp [WorkerState.execute, hterminal]
  cases input with
  | append frame io => simp [WorkerState.handle, hrefused, answered, WriterReply.failure]
  | flush sessionId keys io => simp [WorkerState.handle, hrefused, answered, WriterReply.failure]
  | flushAll keys io => simp [WorkerState.handle, hrefused, answered, WriterReply.failure]
  | shutdown count keys => exact hcommand.elim

theorem handle_terminal (hfailure : (state.handle crc input).1.failure = some error) (hterminal : error.isWriterTerminal = true)
    : (state.handle crc input).2.terminalError = some error := by
  have hrecorded : ∀ {α : Type} (operation : Worker α), Ends (WorkerState.execute operation state) (fun _ _ => True)
      fun reported state' => reported.isWriterTerminal = true → state'.terminalError = some reported := by
    intro α operation
    refine ends_execute (fun _ h _ => h) fun _ => ?_
    cases operation state with
    | ok value state' => exact trivial
    | error reported state' =>
      intro hreported
      rw [if_pos hreported]
  have hanswered : ∀ {α : Type} (operation : Worker α) (reply : Result α → WriterReply),
      (∀ value, (reply (.ok value)).failure = none) → (∀ reported, (reply (.error reported)).failure = some reported) →
      (answered reply (WorkerState.execute operation state)).1.failure = some error →
      (answered reply (WorkerState.execute operation state)).2.terminalError = some error := by
    intro α operation reply hok herror hreply
    have h := hrecorded operation
    cases hrun : WorkerState.execute operation state with
    | ok value state' =>
      rw [hrun, answered, hok] at hreply
      cases hreply
    | error reported state' =>
      rw [hrun, answered, herror] at hreply
      rw [hrun] at h
      cases hreply
      exact h hterminal
  cases input with
  | append frame io => exact hanswered _ _ (fun _ => rfl) (fun _ => rfl) hfailure
  | flush sessionId keys io => exact hanswered _ _ (fun _ => rfl) (fun _ => rfl) hfailure
  | flushAll keys io => exact hanswered _ _ (fun _ => rfl) (fun _ => rfl) hfailure
  | shutdown count keys => cases hfailure

/-- Each accepted frame is placed behind the ones before it. -/
def Located (rotation : RotationConfig) (entries : List Accepted) : Prop :=
  ∀ before accepted after, entries = before ++ accepted :: after → Placed rotation before accepted

theorem Located.concat (h : Located rotation entries) (hplaced : Placed rotation entries accepted) :
    Located rotation (entries ++ [accepted]) := by
  intro before accepted' after heq
  rcases List.eq_nil_or_concat after with rfl | ⟨after', last, rfl⟩
  · obtain ⟨rfl, hlast⟩ := List.append_inj' heq rfl
    obtain rfl : accepted = accepted' := by simpa using hlast
    exact hplaced
  · rw [List.concat_eq_append, ← List.cons_append, ← List.append_assoc] at heq
    obtain ⟨rfl, -⟩ := List.append_inj' heq rfl
    exact h before accepted' after' rfl

theorem framesOf_append {segmentId : SegmentId} {before after : List Accepted} :
    framesOf segmentId (before ++ after) = framesOf segmentId before ++ framesOf segmentId after := by
  simp [framesOf]

theorem framesOf_cons_self :
    framesOf accepted.2.segmentId (accepted :: entries) = accepted.1 :: framesOf accepted.2.segmentId entries := by
  simp [framesOf]

theorem regionEnd_append {offset : Nat} {before after : List EncodedFrame} :
    regionEnd offset (before ++ after) = regionEnd (regionEnd offset before) after := by
  induction before generalizing offset with
  | nil => rfl
  | cons frame before ih => exact ih

theorem regionEnd_lt {offset : Nat} {before after : List EncodedFrame} {frame : EncodedFrame} :
    regionEnd offset before < regionEnd offset (before ++ frame :: after) := by
  have hle := le_regionEnd (regionEnd offset before + frame.record.encodedLen) after
  have hpos : frameRecordPrefixLen ≤ frame.record.encodedLen := by
    unfold FrameRecord.encodedLen
    omega
  rw [regionEnd_append]
  change _ < regionEnd (regionEnd offset before + frame.record.encodedLen) after
  unfold frameRecordPrefixLen at hpos
  omega

theorem Located.of_concat (h : Located rotation (entries ++ [accepted])) : Located rotation entries := by
  intro before accepted' after heq
  exact h before accepted' (after ++ [accepted]) (by rw [heq, List.append_assoc, List.cons_append])

theorem Located.nodup (h : Located rotation entries) : (entries.map Prod.snd).Nodup := by
  induction entries using List.reverseRecOn with
  | nil => exact List.nodup_nil
  | append_singleton entries last ih =>
    rw [List.map_append, List.map_singleton, ← List.concat_eq_append, List.nodup_concat]
    refine ⟨fun hlast => ?_, ih h.of_concat⟩
    obtain ⟨earlier, hearlier, heq⟩ := List.mem_map.1 hlast
    obtain ⟨before, after, rfl⟩ := List.append_of_mem hearlier
    have hplaced := h (before ++ earlier :: after) last [] rfl
    have hoffset := (h.of_concat before earlier after rfl).byteOffset
    rw [heq, hplaced.byteOffset, ← heq, framesOf_append, framesOf_cons_self] at hoffset
    exact absurd hoffset.symm (ne_of_lt regionEnd_lt)

theorem settled_of_run (h : Run (segmentWriter crc) FreshIds trace state) :
    ∃ rotation, state.Settled crc rotation (acceptedIn trace) (state.terminalError = none) ∧
      Located rotation (acceptedIn trace) := by
  refine h.traceInvariant (P := fun trace state => ∃ rotation,
    state.Settled crc rotation (acceptedIn trace) (state.terminalError = none) ∧ Located rotation (acceptedIn trace)) ?_ ?_
  · rintro state ⟨rotation, files, hnew⟩
    obtain ⟨validated, -, hstate⟩ := bind_eq_ok.1 hnew
    obtain rfl := pure_eq_ok.1 hstate
    refine ⟨validated, ⟨⟨rfl, nofun, nofun, nofun, ?_⟩, fun _ => nofun⟩, ?_⟩
    · intro segmentId hframes
      exact absurd rfl hframes
    · intro before accepted after heq
      simp [acceptedIn] at heq
  · rintro trace state input reply state' ⟨rotation, hsettled, hlocated⟩ hfresh ⟨-, -, hhandle⟩
    have hkept := hsettled.handle hfresh
    have hconcat : acceptedIn (trace ++ [(state, input, reply)]) = acceptedIn trace ++ acceptedBy input reply := by
      simp [acceptedIn]
    rw [hhandle] at hkept
    refine ⟨rotation, ?_, ?_⟩
    · rw [hconcat]
      exact hkept.1
    · rw [hconcat]
      have hplaced := hkept.2
      have hcases : acceptedBy input reply = [] ∨ ∃ accepted, acceptedBy input reply = [accepted] := by
        unfold acceptedBy
        split
        · exact .inr ⟨_, rfl⟩
        · exact .inl rfl
      rcases hcases with hnil | ⟨accepted, hsingle⟩
      · rw [hnil, List.append_nil]
        exact hlocated
      · rw [hsingle] at hplaced ⊢
        exact hlocated.concat (hplaced accepted (by simp))

theorem isCommand_of_running (h : Run (segmentWriter crc) FreshIds trace state) :
    state.running = true → ∀ event ∈ trace, event.2.1.IsCommand := by
  refine h.traceInvariant (P := fun trace state => state.running = true → ∀ event ∈ trace, event.2.1.IsCommand) ?_ ?_
  · intro state _ _ event hevent
    cases hevent
  · rintro trace state input reply state' hbefore - ⟨hrunning, -, hhandle⟩ hrunning' event hevent
    rcases List.mem_append.1 hevent with hevent | hevent
    · exact hbefore hrunning event hevent
    · obtain rfl := List.mem_singleton.1 hevent
      cases input with
      | shutdown count keys =>
        obtain rfl := (Prod.mk.inj hhandle).2
        exact absurd hrunning' Bool.false_ne_true
      | _ => exact trivial

/-- Every command behind a terminal failure repeats it and changes nothing. -/
def Freezes (crc : Crc32) (trace : WriterTrace) (state : WorkerState) : Prop :=
  ∀ before event after error, trace = before ++ event :: after → event.2.2.failure = some error →
    error.isWriterTerminal = true →
      (∀ later ∈ after, later.1 = (event.1.handle crc event.2.1).2 ∧
        (later.2.1.IsCommand → later.2.2.failure = some error)) ∧
      ((∀ later ∈ after, later.2.1.IsCommand) → state = (event.1.handle crc event.2.1).2 ∧
        state.terminalError = some error)

theorem freezes_of_run (h : Run (segmentWriter crc) FreshIds trace state) : Freezes crc trace state := by
  induction h with
  | start _ =>
    intro before event after error heq
    simp at heq
  | @next trace state state' input reply hrun hfresh hstep ih =>
    obtain ⟨hrunning, -, hhandle⟩ := hstep
    intro before event after error heq hfailure hterminal
    rcases List.eq_nil_or_concat after with rfl | ⟨after', last, rfl⟩
    · -- the failure is the last event
      obtain ⟨rfl, hlast⟩ := List.append_inj' heq rfl
      obtain rfl : (state, input, reply) = event := by simpa using hlast
      refine ⟨by simp, fun _ => ?_⟩
      have hreply : (state.handle crc input).1.failure = some error := by
        rw [hhandle]
        exact hfailure
      have hrecorded := handle_terminal hreply hterminal
      rw [hhandle] at hrecorded ⊢
      exact ⟨rfl, hrecorded⟩
    · rw [List.concat_eq_append, ← List.cons_append, ← List.append_assoc] at heq
      obtain ⟨rfl, hlast⟩ := List.append_inj' heq rfl
      obtain rfl : (state, input, reply) = last := by simpa using hlast
      obtain ⟨hafter, hstate⟩ := ih before event after' error rfl hfailure hterminal
      have hcommands : ∀ later ∈ after', later.2.1.IsCommand := fun later hlater =>
        isCommand_of_running hrun hrunning later (by simp [hlater])
      obtain ⟨hfrozen, herror⟩ := hstate hcommands
      have hlast : input.IsCommand → state' = state ∧ reply.failure = some error := by
        intro hcommand
        have hrefused : (state.handle crc input).2 = state ∧ (state.handle crc input).1.failure = some error :=
          handle_refused herror hcommand
        rw [hhandle] at hrefused
        exact hrefused
      rw [List.concat_eq_append]
      refine ⟨fun later hlater => ?_, fun hall => ?_⟩
      · rcases List.mem_append.1 hlater with hlater | hlater
        · exact hafter later hlater
        · obtain rfl := List.mem_singleton.1 hlater
          exact ⟨hfrozen, fun hcommand => (hlast hcommand).2⟩
      · obtain ⟨rfl, -⟩ := hlast (hall (state, input, reply) (by simp))
        exact ⟨hfrozen, herror⟩

/-- The file of the segment holds the record of the frame at the address. -/
def HoldsRecord (crc : Crc32) (disk : Disk) (frame : EncodedFrame) (address : FrameAddress) : Prop :=
  ∃ record name before after, encodeFrameRecord crc frame = .ok record ∧
    disk.files ⟨address.segmentId, name⟩ = some (before ++ (record ++ after)) ∧ before.length = address.byteOffset

theorem WorkerState.Settled.holdsRecord (h : state.Settled crc rotation entries live) (hlocated : Located rotation entries)
    (haccepted : accepted ∈ entries) : HoldsRecord crc state.disk accepted.1 accepted.2 := by
  obtain ⟨before, after, rfl⟩ := List.append_of_mem haccepted
  have hplaced := hlocated before accepted after rfl
  have hframes : framesOf accepted.2.segmentId (before ++ accepted :: after) =
      framesOf accepted.2.segmentId before ++ accepted.1 :: framesOf accepted.2.segmentId after := by
    rw [framesOf_append, framesOf_cons_self]
  obtain ⟨header, name, rest, hfile⟩ := h.stored accepted.2.segmentId (by rw [hframes]; simp)
  refine ⟨accepted.1.record.bytes crc, name, segmentContents crc header (framesOf accepted.2.segmentId before),
    recordBytes crc (framesOf accepted.2.segmentId after) ++ rest, ?_, ?_, ?_⟩
  · exact encodeFrameRecord_eq_bytes.2 ⟨hplaced.encodable, rfl⟩
  · rw [hfile, hframes, segmentContents, segmentContents, recordBytes_append, recordBytes_cons]
    simp only [List.append_assoc]
  · rw [length_segmentContents, hplaced.byteOffset]

/-- What holds of the worker after a run. -/
structure WriterInvariant (crc : Crc32) (trace : WriterTrace) (state : WorkerState) : Prop where
  oneOpen : ∀ key key' segment segment', state.openSegments key = some segment →
    state.openSegments key' = some segment' → segment.header.sessionId = segment'.header.sessionId →
      segment.header.targetId = segment'.header.targetId → segment = segment'
  addresses : ((acceptedIn trace).map Prod.snd).Nodup
  held : ∀ accepted ∈ acceptedIn trace, HoldsRecord crc state.disk accepted.1 accepted.2
  counted : state.terminalError = none → ∀ key segment, state.openSegments key = some segment →
    segment.Counts crc state.disk (framesOf segment.header.segmentId (acceptedIn trace))
  began : ∀ key segment, state.openSegments key = some segment → ∃ rest,
    state.disk.files ⟨segment.header.segmentId, .opened⟩ = some (segmentContents crc segment.header
      (framesOf segment.header.segmentId (acceptedIn trace)) ++ rest)
  freezes : Freezes crc trace state
  rotated : ∀ before accepted after, acceptedIn trace = before ++ accepted :: after →
    ∀ first ∈ (framesOf accepted.2.segmentId before).head?,
      accepted.1.metadata.sessionTime.nanos.toNat - first.metadata.sessionTime.nanos.toNat < state.rotation.maxDuration ∧
        accepted.2.byteOffset < state.rotation.maxSize.toNat

/-- After every sequence of commands, whatever their file operations come to: at most one segment is open for a session
and a target, every accepted frame has an address of its own at which its record is, the counters of the open segments
are right unless a command has failed terminally, a terminal failure is repeated by every later command, and the frames
behind the first of a segment are within the bounds of the rotation. -/
theorem writer_invariant (h : Run (segmentWriter crc) FreshIds trace state) : WriterInvariant crc trace state := by
  obtain ⟨rotation, hsettled, hlocated⟩ := settled_of_run h
  refine ⟨?_, hlocated.nodup, fun accepted => hsettled.holdsRecord hlocated, ?_, ?_, freezes_of_run h, ?_⟩
  · intro key key' segment segment' hsegment hsegment' hsession htarget
    have hkey : key = key' := by
      rw [← hsettled.keyed key segment hsegment, ← hsettled.keyed key' segment' hsegment', hsession, htarget]
    subst hkey
    exact Option.some.inj (hsegment.symm.trans hsegment')
  · intro hlive key segment hsegment
    exact (hsettled.segments key segment hsegment).counts hlive
  · intro key segment hsegment
    exact (hsettled.segments key segment hsegment).written
  · intro before accepted after heq first hfirst
    obtain ⟨helapsed, hsize⟩ := (hlocated before accepted after heq).rotated first hfirst
    rw [hsettled.rotation_eq]
    exact ⟨lt_of_lt_of_le helapsed (min_le_left _ _), hsize⟩

/-- The scan of its file, which no address is behind, finds the record of the frame at the address. -/
def Scanned (crc : Crc32) (disk : Disk) (accepted : Accepted) : Prop :=
  ∃ name bytes, disk.files ⟨accepted.2.segmentId, name⟩ = some bytes ∧ (bytes.length ≤ u64Max →
    ∃ scan, scanCompleteRecords crc bytes = .ok scan ∧ accepted.1.record.span accepted.2.byteOffset ∈ scan.records)

theorem span_mem_spansFrom (offset : Nat) (before after : List EncodedFrame) (frame : EncodedFrame) :
    frame.record.span (regionEnd offset before) ∈ spansFrom offset (before ++ frame :: after) := by
  induction before generalizing offset with
  | nil => exact List.mem_cons_self
  | cons first before ih => exact List.mem_cons_of_mem _ (ih _)

/-- After every sequence of commands, whatever their file operations come to, every accepted frame is found by the scan of
its segment file. -/
theorem accepted_frames_scanned (h : Run (segmentWriter crc) FreshIds trace state) :
    ∀ accepted ∈ acceptedIn trace, Scanned crc state.disk accepted := by
  intro accepted haccepted
  obtain ⟨rotation, hsettled, hlocated⟩ := settled_of_run h
  have hencodable : ∀ frame ∈ framesOf accepted.2.segmentId (acceptedIn trace), frame.Encodable := by
    intro frame hframe
    obtain ⟨entry, hentry, rfl⟩ := List.mem_map.1 hframe
    obtain ⟨before, after, heq⟩ := List.append_of_mem (List.mem_filter.1 hentry).1
    exact (hlocated before entry after heq).encodable
  obtain ⟨before, after, heq⟩ := List.append_of_mem haccepted
  have hframes : framesOf accepted.2.segmentId (acceptedIn trace) =
      framesOf accepted.2.segmentId before ++ accepted.1 :: framesOf accepted.2.segmentId after := by
    rw [heq, framesOf_append, framesOf_cons_self]
  obtain ⟨header, name, rest, hfile⟩ := hsettled.stored accepted.2.segmentId (by rw [hframes]; simp)
  refine ⟨name, _, hfile, fun hlength => ?_⟩
  rw [List.length_append, length_segmentContents] at hlength
  rw [segmentContents, List.append_assoc, scanCompleteRecords_encode,
    scanRecordRegion_frames hencodable (Nat.le_of_add_right_le hlength)]
  refine ⟨_, rfl, List.mem_append_left _ ?_⟩
  rw [(hlocated before accepted after heq).byteOffset, hframes]
  exact span_mem_spansFrom _ _ _ _

end

/-- A worker on an empty directory. -/
def freshWorker : WorkerState where
  rotation := ⟨10, 1000⟩
  disk := { files := fun _ => none, published := [] }
  openSegments := fun _ => none
  terminalError := none
  running := true

/-- Every file operation succeeds, but a write of the record may not. -/
def sampleOutcomes (record : WriteOutcome) : AppendOutcomes where
  sealing := ⟨.written, .ok (), .renamed, .ok (), .ok ()⟩
  opening := ⟨fun _ => ⟨⟨zeroUuid⟩, .ok ()⟩, .written, .ok (), .ok ()⟩
  record := record

theorem run_append (crc : Crc32) (record : WriteOutcome) :
    let input := WriterInput.append (frameAt 1) (sampleOutcomes record)
    Run (segmentWriter crc) FreshIds [(freshWorker, input, (freshWorker.handle crc input).1)]
      (freshWorker.handle crc input).2 := by
  have hinit : (segmentWriter crc).init freshWorker := ⟨⟨10, 1000⟩, fun _ => none, rfl⟩
  exact .next (.start hinit) (fun _ => ⟨rfl, nofun⟩) ⟨rfl, trivial, rfl⟩

theorem writer_invariant_append :
    let input := WriterInput.append (frameAt 1) (sampleOutcomes .written)
    WriterInvariant (fun _ => 0) [(freshWorker, input, (freshWorker.handle (fun _ => 0) input).1)]
      (freshWorker.handle (fun _ => 0) input).2 :=
  writer_invariant (run_append (fun _ => 0) .written)

theorem accepted_frames_scanned_append :
    let input := WriterInput.append (frameAt 1) (sampleOutcomes .written)
    ∀ accepted ∈ acceptedIn [(freshWorker, input, (freshWorker.handle (fun _ => 0) input).1)],
      Scanned (fun _ => 0) (freshWorker.handle (fun _ => 0) input).2.disk accepted :=
  accepted_frames_scanned (run_append (fun _ => 0) .written)

/-- After a write that failed with three bytes of the record in the file, the segment is still open and does not count
them. -/
theorem torn_append_not_counted : ¬∀ (crc : Crc32) (trace : WriterTrace) (state : WorkerState),
    Run (segmentWriter crc) FreshIds trace state → ∀ key segment, state.openSegments key = some segment →
      segment.Counts crc state.disk (framesOf segment.header.segmentId (acceptedIn trace)) := by
  intro h
  have hcounts := h (fun _ => 0) _ _ (run_append (fun _ => 0) (.failed .storageFull 3)) (⟨zeroUuid⟩, ⟨zeroUuid⟩)
  have hopen : ((freshWorker.handle (fun _ => 0) (.append (frameAt 1) (sampleOutcomes (.failed .storageFull 3)))).2.openSegments
      (⟨zeroUuid⟩, ⟨zeroUuid⟩)).map (fun segment => (segment.header.segmentId, segment.fileLen)) =
        some (⟨zeroUuid⟩, 90) := by decide +kernel
  have hfile : ((freshWorker.handle (fun _ => 0) (.append (frameAt 1) (sampleOutcomes (.failed .storageFull 3)))).2.disk.files
      ⟨⟨zeroUuid⟩, .opened⟩).map List.length = some 93 := by decide +kernel
  obtain ⟨segment, hsegment, heq⟩ := Option.map_eq_some_iff.1 hopen
  obtain ⟨hid, hlen⟩ := Prod.mk.inj heq
  have hcounted := hcounts segment hsegment
  rw [← hid, hcounted.file, Option.map_some, ← hcounted.fileLen, hlen] at hfile
  exact absurd hfile (by decide)

end Krometrail
