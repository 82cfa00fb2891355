import Krometrail.Recovery.Settled

/-!
# A cut at the end of the records

The scan of any file with a header gives records that lie one behind the other, and says where the last of them ends.
Cut there, the file is scanned to the same records and a clean end.
-/

namespace Krometrail

/-- The spans lie one behind the other, from `start` to `stop`. -/
def Contiguous : Nat → List RecordSpan → Nat → Prop
  | start, [], stop => start = stop
  | start, span :: spans, stop =>
    span.byteOffset = start ∧ span.encodedLen = frameRecordPrefixLen + span.headerLen + span.payloadLen ∧
      Contiguous (start + span.encodedLen) spans stop

/-- What stands behind the records, which end at `stop`: a clean end is that of the file or a footer of its segment. -/
def EndsAt (crc : Crc32) (header : SegmentHeader) (stop : Nat) (behind : List UInt8) : Trailing → Prop
  | .clean => behind = [] ∨ ∃ footer, SealedFooter.decode crc behind = .ok footer ∧ footer.segmentId = header.segmentId
  | .incomplete offset | .corrupt offset => offset = stop

variable {crc : Crc32} {header : SegmentHeader} {bytes remaining : List UInt8} {offset : Nat} {spans : List RecordSpan}
  {trailing : Trailing}

theorem RecordPrefix.encodedLen_eq {fields : RecordPrefix} {encodedLen : Nat} (h : fields.encodedLen = some encodedLen) :
    encodedLen = frameRecordPrefixLen + fields.headerLen.toNat + fields.payloadLen.toNat := by
  simp only [RecordPrefix.encodedLen, Option.bind_eq_some_iff, checkedAdd_eq_some] at h
  omega

theorem Consecutive.contiguous (h : Consecutive crc bytes offset spans) :
    Contiguous offset spans (spansEnd offset spans) := by
  induction spans generalizing offset with
  | nil => rfl
  | cons span spans ih =>
    obtain ⟨⟨fields, hwhole⟩, hrest⟩ := h
    refine ⟨hwhole.byteOffset, ?_, ih hrest⟩
    rw [hwhole.headerLen, hwhole.payloadLen]
    exact RecordPrefix.encodedLen_eq hwhole.encodedLen

theorem Contiguous.turns {start stop : Nat} (h : Contiguous start spans stop) :
    start + frameRecordPrefixLen * spans.length ≤ stop := by
  induction spans generalizing start with
  | nil => exact h.le
  | cons span spans ih =>
    obtain ⟨-, hlen, hrest⟩ := h
    have hle := ih hrest
    rw [List.length_cons, Nat.mul_succ]
    omega

theorem scanFooter_endsAt : EndsAt crc header offset remaining (scanFooter crc header offset remaining) := by
  unfold scanFooter
  split
  · split <;> rfl
  · cases hdecode : SealedFooter.decode crc remaining with
    | error _ => rfl
    | ok footer =>
      dsimp only
      split
      · exact .inr ⟨footer, hdecode, by assumption⟩
      · rfl

theorem scanRecord_endsAt (h : scanRecord crc header offset remaining = .error trailing) :
    EndsAt crc header offset remaining trailing := by
  unfold scanRecord at h
  split at h
  · cases h
    exact scanFooter_endsAt
  split at h
  · cases h
    rfl
  cases hfields : readRecordPrefix remaining with
  | none =>
    simp only [hfields] at h
    cases h
    rfl
  | some fields =>
    cases hlen : fields.encodedLen with
    | none =>
      simp only [hfields, hlen] at h
      cases h
      rfl
    | some encodedLen =>
      simp only [hfields, hlen] at h
      split at h
      · cases h
        rfl
      split at h
      · cases h
        rfl
      split at h
      · cases h
        rfl
      · cases h

theorem scanRecordRegion_endsAt (h : (scanRecordRegion crc header offset remaining).records = []) :
    EndsAt crc header offset remaining (scanRecordRegion crc header offset remaining).trailing := by
  by_cases hne : remaining = []
  · subst hne
    rw [scanRecordRegion_nil]
    exact .inl rfl
  · cases hscan : scanRecord crc header offset remaining with
    | error trailing =>
      rw [scanRecordRegion_stop hne hscan]
      exact scanRecord_endsAt hscan
    | ok span =>
      rw [scanRecordRegion_record hscan] at h
      cases h

theorem scanRecordRegion_behind (crc : Crc32) (header : SegmentHeader) (bytes : List UInt8) (offset : Nat) :
    let scan := scanRecordRegion crc header offset (bytes.drop offset)
    EndsAt crc header (spansEnd offset scan.records) (bytes.drop (spansEnd offset scan.records)) scan.trailing := by
  intro scan
  have hscan : scan = _ := (consecutive_scan crc header bytes offset).scan
  have hbehind := congrArg ScanResult.records hscan
  have hnone := List.append_right_eq_self.1 hbehind.symm
  have htrailing := congrArg ScanResult.trailing hscan
  rw [htrailing]
  exact scanRecordRegion_endsAt hnone

theorem Consecutive.scan_take (h : Consecutive crc bytes offset spans) (hoffset : offset ≤ bytes.length) :
    scanRecordRegion crc header offset ((bytes.take (spansEnd offset spans)).drop offset) =
      { records := spans, trailing := .clean } := by
  have hend := h.le_length hoffset
  have hlength : (bytes.take (spansEnd offset spans)).length = spansEnd offset spans := by
    rw [List.length_take, min_eq_left hend]
  have hcut : Consecutive crc (bytes.take (spansEnd offset spans)) offset spans :=
    h.congr (by rw [List.take_take, min_self]) hlength.ge
  rw [hcut.scan, List.drop_eq_nil_of_le hlength.le, scanRecordRegion_nil]
  simp

/-- Of every byte string that begins with a segment header the scan ends.  Its records lie one behind the other, from the
end of the header to a place in the file, where the trailing state says that they end; and the file cut there has the
same records and a clean end. -/
theorem scan_truncated {headerBytes : List UInt8} (hlength : headerBytes.length = segmentHeaderLen)
    (hheader : SegmentHeader.decode crc headerBytes = .ok header) (rest : List UInt8) :
    ∃ scan stop, scanCompleteRecords crc (headerBytes ++ rest) = .ok scan ∧
      Contiguous segmentHeaderLen scan.records stop ∧
      segmentHeaderLen + frameRecordPrefixLen * scan.records.length ≤ stop ∧ stop ≤ (headerBytes ++ rest).length ∧
      EndsAt crc header stop ((headerBytes ++ rest).drop stop) scan.trailing ∧
      scanCompleteRecords crc ((headerBytes ++ rest).take stop) = .ok { records := scan.records, trailing := .clean } := by
  set bytes := headerBytes ++ rest with hbytes
  have hdecode : SegmentHeader.decode crc (bytes.take segmentHeaderLen) = .ok header := by
    rw [hbytes, List.take_left' hlength, hheader]
  have hlong : segmentHeaderLen ≤ bytes.length := by
    rw [hbytes, List.length_append]
    omega
  have hconsecutive := consecutive_scan crc header bytes segmentHeaderLen
  have hbehind := scanRecordRegion_behind crc header bytes segmentHeaderLen
  set scan := scanRecordRegion crc header segmentHeaderLen (bytes.drop segmentHeaderLen)
  have hend := hconsecutive.le_length hlong
  have hfirst := le_spansEnd segmentHeaderLen scan.records
  refine ⟨scan, spansEnd segmentHeaderLen scan.records, scanCompleteRecords_eq hlong hdecode, hconsecutive.contiguous,
    hconsecutive.contiguous.turns, hend, hbehind, ?_⟩
  have hcut : SegmentHeader.decode crc ((bytes.take (spansEnd segmentHeaderLen scan.records)).take segmentHeaderLen) =
      .ok header := by
    rw [List.take_take, min_eq_left hfirst, hdecode]
  have hcutLong : segmentHeaderLen ≤ (bytes.take (spansEnd segmentHeaderLen scan.records)).length := by
    rw [List.length_take, min_eq_left hend]
    exact hfirst
  rw [scanCompleteRecords_eq hcutLong hcut, hconsecutive.scan_take hlong]

theorem scan_truncated_torn : ∃ scan stop,
    scanCompleteRecords (fun _ => 0) (zeroHeader.encode (fun _ => 0) ++ [1, 0, 0]) = .ok scan ∧
      Contiguous segmentHeaderLen scan.records stop ∧
      segmentHeaderLen + frameRecordPrefixLen * scan.records.length ≤ stop ∧
      stop ≤ (zeroHeader.encode (fun _ => 0) ++ [1, 0, 0]).length ∧
      EndsAt (fun _ => 0) zeroHeader stop ((zeroHeader.encode (fun _ => 0) ++ [1, 0, 0]).drop stop) scan.trailing ∧
      scanCompleteRecords (fun _ => 0) ((zeroHeader.encode (fun _ => 0) ++ [1, 0, 0]).take stop) =
        .ok { records := scan.records, trailing := .clean } :=
  scan_truncated (SegmentHeader.length_encode _ _) (SegmentHeader.decode_encode _ _) [1, 0, 0]

end Krometrail
