import Krometrail.Artifacts.Cache

/-!
# Cache keys tell requests apart

A transcript is the framing of a list of fields, so two transcripts that agree have the same fields
(`transcriptOf_inj`), and from the fields each part of the request is read back.
-/

namespace Krometrail.Cache

open Results
open Framing (Fits frames)

theorem Str.asBytes_inj {a b : Str} : a.asBytes = b.asBytes ↔ a = b := by
  refine ⟨fun h => ?_, congrArg _⟩
  have hlist := congrArg Bytes.toList h
  exact Str.ext (String.toByteArray_inj.1 (ByteArray.ext (Array.toList_inj.1 hlist)))

theorem uuidBytes_inj {a b : Uuid} : uuidBytes a = uuidBytes b ↔ a = b := by
  refine ⟨fun h => ?_, congrArg _⟩
  have hlist : a.bytes = b.bytes := congrArg Bytes.toList h
  cases a
  cases b
  subst hlist
  rfl

theorem Sha256Digest.asBytes_inj {a b : Sha256Digest} : a.asBytes = b.asBytes ↔ a = b :=
  ⟨fun h => Sha256Digest.ext (congrArg Bytes.toList h), congrArg _⟩

theorem u32Bytes_inj {a b : UInt32} : u32Bytes a = u32Bytes b ↔ a = b := by
  refine ⟨fun h => UInt32.toNat_inj.1 ?_, congrArg _⟩
  have hlist := congrArg (fun bytes => BigEndian.ofBytes bytes.toList) h
  simpa [u32Bytes, BigEndian.ofBytes_toBytes, Nat.mod_eq_of_lt a.toNat_lt, Nat.mod_eq_of_lt b.toNat_lt] using hlist

theorem u64Bytes_inj {a b : UInt64} : u64Bytes a = u64Bytes b ↔ a = b := by
  refine ⟨fun h => UInt64.toNat_inj.1 ?_, congrArg _⟩
  have hlist := congrArg (fun bytes => BigEndian.ofBytes bytes.toList) h
  simpa [u64Bytes, BigEndian.ofBytes_toBytes, Nat.mod_eq_of_lt a.toNat_lt, Nat.mod_eq_of_lt b.toNat_lt] using hlist

theorem formatBytes_inj {a b : ImageFormat} : formatBytes a = formatBytes b ↔ a = b := by
  cases a <;> cases b <;> simp [formatBytes, Str.asBytes_inj]

theorem ArtifactKind.asStr_inj {a b : ArtifactKind} : a.asStr = b.asStr ↔ a = b := by
  cases a <;> cases b <;> simp [asStr]

/-- A hasher that has been fed fields. -/
def transcriptOf (fields : List Bytes) : FramedHasher := ⟨frames (fields.map Bytes.toList)⟩

@[simp] theorem bytes_transcriptOf (fields : List Bytes) (value : Bytes) :
    (transcriptOf fields).bytes value = transcriptOf (fields ++ [value]) := by
  simp [transcriptOf, FramedHasher.bytes, Framing.frame]

@[simp] theorem u32_transcriptOf (fields : List Bytes) (value : UInt32) :
    (transcriptOf fields).u32 value = transcriptOf (fields ++ [u32Bytes value]) := bytes_transcriptOf fields _

@[simp] theorem u64_transcriptOf (fields : List Bytes) (value : UInt64) :
    (transcriptOf fields).u64 value = transcriptOf (fields ++ [u64Bytes value]) := bytes_transcriptOf fields _

@[simp] theorem new_eq_transcriptOf (domain : Str) : FramedHasher.new domain = transcriptOf [domain.asBytes] :=
  bytes_transcriptOf [] _

theorem fits_toList (bytes : Bytes) : Fits bytes.toList := bytes.length_lt.trans (by decide)

theorem transcriptOf_inj {fields other : List Bytes} : transcriptOf fields = transcriptOf other ↔ fields = other := by
  refine ⟨fun h => ?_, congrArg _⟩
  have hfits : ∀ l : List Bytes, ∀ field ∈ l.map Bytes.toList, Fits field := by
    intro l field hfield
    obtain ⟨bytes, -, rfl⟩ := List.mem_map.1 hfield
    exact fits_toList bytes
  have hlists := Framing.frames_inj (hfits fields) (hfits other) (congrArg FramedHasher.fed h)
  exact (List.map_injective_iff.2 fun _ _ => Bytes.ext) hlists

def sourceFields (source : SourceFingerprint) : List Bytes :=
  [uuidBytes source.frameId.uuid, u64Bytes source.captureOrdinal, u64Bytes source.sessionTimeNanos,
    formatBytes source.format, u32Bytes source.imageWidth, u32Bytes source.imageHeight, u32Bytes source.viewportWidth,
    u32Bytes source.viewportHeight, u64Bytes source.deviceScaleBits, source.encodedSha256.asBytes]

def sourcesFields (sources : Sources) : List Bytes := u64Bytes sources.count :: sources.toList.flatMap sourceFields

theorem writeSource_transcriptOf (fields : List Bytes) (source : SourceFingerprint) :
    writeSource (transcriptOf fields) source = transcriptOf (fields ++ sourceFields source) := by
  simp [writeSource, sourceFields]

theorem foldl_writeSource (sources : List SourceFingerprint) (fields : List Bytes) :
    sources.foldl writeSource (transcriptOf fields) = transcriptOf (fields ++ sources.flatMap sourceFields) := by
  induction sources generalizing fields with
  | nil => simp
  | cons source sources ih => rw [List.foldl_cons, writeSource_transcriptOf, ih, List.append_assoc, List.flatMap_cons]

@[simp] theorem writeSources_transcriptOf (fields : List Bytes) (sources : Sources) :
    writeSources (transcriptOf fields) sources = transcriptOf (fields ++ sourcesFields sources) := by
  rw [writeSources, u64_transcriptOf, foldl_writeSource, sourcesFields, List.append_assoc, List.singleton_append]

theorem sourceFields_injective : Function.Injective sourceFields := by
  intro a b h
  simp only [sourceFields, List.cons.injEq, uuidBytes_inj, u64Bytes_inj, u32Bytes_inj, formatBytes_inj,
    Sha256Digest.asBytes_inj, and_true] at h
  obtain ⟨⟨id⟩, _⟩ := a
  obtain ⟨⟨id'⟩, _⟩ := b
  simpa using h

theorem sourcesFields_inj {a b : Sources} : sourcesFields a = sourcesFields b ↔ a = b := by
  refine ⟨fun h => Sources.ext ?_, congrArg _⟩
  exact Framing.flatMap_inj (n := 9) sourceFields_injective (fun _ => rfl) (List.cons.inj h).2

theorem CacheIdentityInput.transcript_eq (input : CacheIdentityInput) :
    input.transcript = transcriptOf ([Str.asBytes ⟨"krometrail-artifact-cache-key", by decide⟩, u32Bytes cacheSchemaVersion,
      uuidBytes input.sessionId.uuid, uuidBytes input.targetId.uuid, input.artifactKind.asStr.asBytes,
      input.descriptor.name.asBytes, input.descriptor.version.asBytes, input.adapterVersion.asBytes,
      input.decoderProfile.asBytes, input.canonicalParameters] ++ sourcesFields input.sources) := by
  simp [transcript]

theorem CacheIdentityInput.transcript_inj {a b : CacheIdentityInput} (h : a.transcript = b.transcript) : a = b := by
  rw [transcript_eq, transcript_eq, transcriptOf_inj] at h
  simp only [List.cons_append, List.nil_append, List.cons.injEq, uuidBytes_inj, Str.asBytes_inj, ArtifactKind.asStr_inj,
    sourcesFields_inj, true_and] at h
  obtain ⟨⟨session⟩, ⟨target⟩, sources, kind, parameters, ⟨name, version⟩, adapter, decoder⟩ := a
  obtain ⟨⟨session'⟩, ⟨target'⟩, sources', kind', parameters', ⟨name', version'⟩, adapter', decoder'⟩ := b
  simp_all

/-- What a transcript says of the selector. -/
def selectorFields : Option VideoSelectionIdentity → List Bytes
  | some selector => [(labelStr selector.name selector.isLabel_name).asBytes,
      (labelStr selector.version selector.isLabel_version).asBytes, selector.parametersSha256.asBytes]
  | none => [Str.asBytes ⟨"no-selection", size_noSelection⟩]

theorem VideoCacheIdentityInput.transcript_eq (input : VideoCacheIdentityInput) (adapter : Str) :
    input.transcript adapter = transcriptOf ([Str.asBytes ⟨"krometrail-video-cache-key", by decide⟩,
      u32Bytes cacheSchemaVersion, uuidBytes input.sessionId.uuid, uuidBytes input.targetId.uuid,
      temporalVideoGeneratorName.asBytes, temporalVideoGeneratorVersion.asBytes, adapter.asBytes,
      input.canonicalParameters] ++ (selectorFields input.selector ++ sourcesFields input.sources)) := by
  cases hselector : input.selector with
  | some selector => simp [transcript, selectorFields, hselector]
  | none => simp [transcript, selectorFields, hselector]

/-- A selection, whose third field is a digest, is never read for sources without one, whose third field is a frame. -/
theorem selected_ne_unselected {selector : VideoSelectionIdentity} {a b : Sources} :
    selectorFields (some selector) ++ sourcesFields a ≠ selectorFields none ++ sourcesFields b := by
  intro h
  simp only [selectorFields, sourcesFields, List.cons_append, List.nil_append, List.cons.injEq] at h
  obtain ⟨-, -, hrest⟩ := h
  cases hsources : b.toList with
  | nil => simp [hsources] at hrest
  | cons source rest =>
    rw [hsources, List.flatMap_cons, sourceFields, List.cons_append, List.cons.injEq] at hrest
    have hlength := congrArg (fun bytes => bytes.toList.length) hrest.1
    simp [Sha256Digest.asBytes, uuidBytes, selector.parametersSha256.length_bytes, source.frameId.uuid.length_bytes] at hlength

theorem selectorFields_inj {s t : Option VideoSelectionIdentity} {a b : Sources}
    (h : selectorFields s ++ sourcesFields a = selectorFields t ++ sourcesFields b) : s = t ∧ a = b := by
  cases s with
  | none =>
    cases t with
    | none => exact ⟨rfl, sourcesFields_inj.1 (List.append_cancel_left h)⟩
    | some selector => exact absurd h.symm selected_ne_unselected
  | some selector =>
    cases t with
    | none => exact absurd h selected_ne_unselected
    | some other =>
      simp only [selectorFields, List.cons_append, List.nil_append, List.cons.injEq, Str.asBytes_inj, labelStr,
        Str.mk.injEq, Sha256Digest.asBytes_inj, sourcesFields_inj] at h
      cases selector
      cases other
      simp_all

theorem VideoCacheIdentityInput.transcript_inj {a b : VideoCacheIdentityInput} {adapter other : Str}
    (h : a.transcript adapter = b.transcript other) : a = b ∧ adapter = other := by
  rw [transcript_eq, transcript_eq, transcriptOf_inj] at h
  simp only [List.cons_append, List.nil_append, List.cons.injEq, uuidBytes_inj, Str.asBytes_inj, true_and] at h
  obtain ⟨hsession, htarget, hadapter, hparameters, hrest⟩ := h
  obtain ⟨hselector, hsources⟩ := selectorFields_inj hrest
  obtain ⟨⟨session⟩, ⟨target⟩, sources, parameters, selector⟩ := a
  obtain ⟨⟨session'⟩, ⟨target'⟩, sources', parameters', selector'⟩ := b
  simp_all

theorem transcript_ne (image : CacheIdentityInput) (video : VideoCacheIdentityInput) (adapter : Str) :
    image.transcript ≠ video.transcript adapter := by
  rw [CacheIdentityInput.transcript_eq, VideoCacheIdentityInput.transcript_eq, Ne, transcriptOf_inj]
  intro h
  have hdomain := (List.cons.inj h).1
  rw [Str.asBytes_inj] at hdomain
  exact absurd (congrArg Str.text hdomain) (by decide)

section Keys

variable {D : Type} {sha256 : List UInt8 → D} {toVec : VideoTranscript → Option Bytes}

theorem canonicalVideoCacheParameters_eq_ok {transcript : VideoTranscript} {bytes : Bytes}
    (h : canonicalVideoCacheParameters toVec transcript = .ok bytes) : toVec transcript = some bytes := by
  simp only [canonicalVideoCacheParameters, bind_eq_ok, okOr_eq_ok] at h
  obtain ⟨-, -, -, -, h⟩ := h
  exact h

theorem VideoGeneration.identityInput_inj {a b : VideoGeneration} {input : VideoCacheIdentityInput}
    (hvec : ∀ s t bytes, toVec s = some bytes → toVec t = some bytes → s = t)
    (ha : a.identityInput toVec = .ok input) (hb : b.identityInput toVec = .ok input) : a = b := by
  simp only [identityInput, bind_eq_ok, pure_eq_ok] at ha hb
  obtain ⟨bytes, hbytes, rfl⟩ := ha
  obtain ⟨bytes', hbytes', heq⟩ := hb
  simp only [VideoCacheIdentityInput.mk.injEq] at heq
  obtain ⟨hsession, htarget, hsources, rfl, -⟩ := heq
  have htranscript := hvec _ _ _ (canonicalVideoCacheParameters_eq_ok hbytes) (canonicalVideoCacheParameters_eq_ok hbytes')
  cases a
  cases b
  simp_all

/-- Equal cache keys have equal requests behind them, and no artifact has the key of a video. -/
theorem cacheKeys_separate (hsha : Function.Injective sha256)
    (hvec : ∀ s t bytes, toVec s = some bytes → toVec t = some bytes → s = t) :
    (∀ a b : CacheIdentityInput, (cacheMetadata sha256 a).cacheKey = (cacheMetadata sha256 b).cacheKey → a = b) ∧
    (∀ (a b : VideoCacheIdentityInput) (adapter other : Str),
      (videoCacheMetadataForAdapter sha256 a adapter).cacheKey = (videoCacheMetadataForAdapter sha256 b other).cacheKey →
        a = b ∧ adapter = other) ∧
    (∀ (a b : VideoGeneration) (input other : VideoCacheIdentityInput),
      a.identityInput toVec = .ok input → b.identityInput toVec = .ok other →
      (videoCacheMetadata sha256 input).cacheKey = (videoCacheMetadata sha256 other).cacheKey → a = b) ∧
    ∀ (a : CacheIdentityInput) (b : VideoCacheIdentityInput) (adapter : Str), a.transcript ≠ b.transcript adapter ∧
      (cacheMetadata sha256 a).cacheKey ≠ (videoCacheMetadataForAdapter sha256 b adapter).cacheKey := by
  have hkey : ∀ {s t : FramedHasher}, s.finish sha256 = t.finish sha256 → s = t := fun h => FramedHasher.ext (hsha h)
  refine ⟨fun a b h => CacheIdentityInput.transcript_inj (hkey h),
    fun a b adapter other h => VideoCacheIdentityInput.transcript_inj (hkey h), ?_,
    fun a b adapter => ⟨transcript_ne a b adapter, fun h => transcript_ne a b adapter (hkey h)⟩⟩
  intro a b input other ha hb h
  obtain ⟨rfl, -⟩ := VideoCacheIdentityInput.transcript_inj (hkey h)
  exact VideoGeneration.identityInput_inj hvec ha hb

end Keys

def somePixels : PixelDimensions := ⟨2, 2, PixelDimensions.pair.width_ne_zero, PixelDimensions.pair.width_ne_zero⟩

def somePlan : PresentationPlan where
  policy := .realTime
  requestedRange := ⟨(⟨0⟩, ⟨10⟩), by decide⟩
  resolvedRange := ⟨(⟨0⟩, ⟨10⟩), by decide⟩
  presentedStart := 10
  presentedStop := 10
  epochFrameIds := [⟨someUuid 1⟩]
  epochImage := somePixels
  inputFrameIds := [⟨someUuid 1⟩]
  inputFrameTimes := [10]
  meaningfulFrameIds := []
  segments := [⟨0, .sourceFrame ⟨someUuid 1⟩ 10, 0, 250000000, .terminalHold⟩]
  outputSource := somePixels
  version := "temporal-video-plan-v1"
  epochIndex := 0
  epochViewport := somePixels
  epochDeviceScaleFactor := .one
  scaled := somePixels
  canvas := somePixels
  padRight := 0
  padBottom := 0
  durationNanos := 250000000

def someTranscript : VideoTranscript where
  plan := somePlan
  selection := none
  encoder := ⟨"7.1", ⟨List.replicate 32 2, List.length_replicate⟩, "libx264", "v1", "v1"⟩
  profile := ⟨somePlan.output, 1000⟩

/-- What `serde_json` makes of the transcript. -/
def someJson : String :=
  "\x7b\"schema_version\":1,\"plan\":\x7b\"version\":\"temporal-video-plan-v1\",\"policy\":\"real_time\"," ++
  "\"requested_range\":\x7b\"start\":0,\"end\":10\x7d,\"resolved_range\":\x7b\"start\":0,\"end\":10\x7d," ++
  "\"presented_source_range\":\x7b\"start\":10,\"end\":10\x7d,\"epoch\":\x7b\"index\":0," ++
  "\"frame_ids\":[\"01010101-0101-0101-0101-010101010101\"]," ++
  "\"image\":\x7b\"width\":2,\"height\":2\x7d,\"viewport\":\x7b\"width\":2,\"height\":2\x7d,\"device_scale_factor\":1.0\x7d," ++
  "\"input_frame_ids\":[\"01010101-0101-0101-0101-010101010101\"],\"input_frame_times\":[10]," ++
  "\"meaningful_frame_ids\":[],\"segments\":[\x7b\"index\":0,\"source\":\x7b\"kind\":\"source_frame\"," ++
  "\"frame_id\":\"01010101-0101-0101-0101-010101010101\",\"session_time\":10\x7d," ++
  "\"presentation\":\x7b\"start\":0,\"end\":250000000\x7d,\"timing_basis\":\"terminal_hold\"\x7d]," ++
  "\"output\":\x7b\"source\":\x7b\"width\":2,\"height\":2\x7d,\"scaled\":\x7b\"width\":2,\"height\":2\x7d," ++
  "\"canvas\":\x7b\"width\":2,\"height\":2\x7d,\"pad_right\":0,\"pad_bottom\":0\x7d,\"duration\":250000000\x7d," ++
  "\"selection\":null,\"encoder\":\x7b\"implementation_version\":\"7.1\"," ++
  "\"build_report_sha256\":\"0202020202020202020202020202020202020202020202020202020202020202\"," ++
  "\"encoder_name\":\"libx264\",\"adapter_version\":\"v1\",\"argument_policy_version\":\"v1\"\x7d," ++
  "\"profile\":\x7b\"geometry\":\x7b\"source\":\x7b\"width\":2,\"height\":2\x7d,\"scaled\":\x7b\"width\":2,\"height\":2\x7d," ++
  "\"canvas\":\x7b\"width\":2,\"height\":2\x7d,\"pad_right\":0,\"pad_bottom\":0\x7d,\"max_encoded_bytes\":1000\x7d," ++
  "\"media_type\":\"video/mp4\",\"codec\":\"h264\",\"pixel_format\":\"yuv420p\",\"has_audio\":false,\"limits\":\x7b" ++
  "\"max_source_duration_nanos\":30000000000,\"max_presentation_duration_nanos\":60000000000," ++
  "\"max_source_frames\":480,\"max_meaningful_frames\":12,\"max_presentation_segments\":512," ++
  "\"max_width\":1920,\"max_height\":1080,\"max_encoded_input_bytes\":536870912," ++
  "\"max_encoded_output_bytes\":67108864\x7d\x7d"

theorem size_someJson : someJson.utf8ByteSize < 2 ^ 63 := by decide +kernel

open Classical in
/-- A `serde_json::to_vec` that knows one transcript. -/
noncomputable def someToVec (transcript : VideoTranscript) : Option Bytes :=
  if transcript = someTranscript then some (Str.asBytes ⟨someJson, size_someJson⟩) else none

theorem someToVec_inj : ∀ s t bytes, someToVec s = some bytes → someToVec t = some bytes → s = t := by
  intro s t bytes hs ht
  simp only [someToVec, Option.ite_none_right_eq_some] at hs ht
  exact hs.1.trans ht.1.symm

def someGeneration (target : TargetId) : VideoGeneration where
  toVideoTranscript := someTranscript
  sessionId := ⟨someUuid 1⟩
  targetId := target
  cacheSources := ⟨[], by decide⟩

/-- The same clip of two targets. -/
theorem cacheKeys_separate_targets : ∃ input other : VideoCacheIdentityInput,
    (someGeneration ⟨someUuid 2⟩).identityInput someToVec = .ok input ∧
    (someGeneration ⟨someUuid 3⟩).identityInput someToVec = .ok other ∧
    (videoCacheMetadata id input).cacheKey ≠ (videoCacheMetadata id other).cacheKey := by
  have hvec : someToVec someTranscript = some (Str.asBytes ⟨someJson, size_someJson⟩) := by simp [someToVec]
  have hinput : ∀ target, (someGeneration target).identityInput someToVec =
      .ok ⟨⟨someUuid 1⟩, target, ⟨[], by decide⟩, Str.asBytes ⟨someJson, size_someJson⟩, none⟩ := by
    intro target
    have hparameters : canonicalVideoCacheParameters someToVec someTranscript =
        .ok (Str.asBytes ⟨someJson, size_someJson⟩) := by
      rw [canonicalVideoCacheParameters, hvec]
      rfl
    rw [VideoGeneration.identityInput, someGeneration, hparameters]
    rfl
  refine ⟨_, _, hinput _, hinput _, fun h => ?_⟩
  have hsame := (cacheKeys_separate Function.injective_id someToVec_inj).2.2.1 _ _ _ _ (hinput _) (hinput _) h
  exact absurd (congrArg VideoGeneration.targetId hsame) (by decide)

end Krometrail.Cache
