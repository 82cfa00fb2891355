import Krometrail.Lib.Results
import Krometrail.Timeline.Ranges

/-!
# Timing histograms

A histogram counts durations in 64 buckets, one for each power of two, and reports percentiles as the upper bounds of the
buckets that their nearest ranks fall into.  All counters saturate.
-/

namespace Krometrail.TimingHistograms

open Results

/-- `u64::saturating_mul`. -/
def saturatingMul (a b : Nat) : Nat := min (a * b) u64Max

/-- `u64::leading_zeros`. -/
def leadingZeros (value : UInt64) : Nat := if value = 0 then 64 else 63 - value.toNat.log2

def bucketFor (value : UInt64) : Nat := if value = 0 then 0 else 63 - leadingZeros value

def bucketUpperBound (bucket : Nat) : Nat :=
  if bucket = 0 then 1 else if bucket ≤ 62 then 2 ^ (bucket + 1) - 1 else u64Max

/-- Fixed-bucket percentiles are upper bounds; `maxNanos` is exact. -/
structure CaptureTimingSummary where
  sampleCount : Nat
  p50Nanos : Option Nat
  p95Nanos : Option Nat
  p99Nanos : Option Nat
  maxNanos : Option Nat

def CaptureTimingSummary.empty : CaptureTimingSummary := ⟨0, none, none, none, none⟩

def CaptureTimingSummary.new (sampleCount : Nat) (p50Nanos p95Nanos p99Nanos maxNanos : Option Nat) :
    Result CaptureTimingSummary :=
  let summary : CaptureTimingSummary := { sampleCount, p50Nanos, p95Nanos, p99Nanos, maxNanos }
  if sampleCount = 0 then do
    refuse (p50Nanos.isSome ∨ p95Nanos.isSome ∨ p99Nanos.isSome ∨ maxNanos.isSome)
      (invalid "empty timing summaries cannot contain measurements")
    return summary
  else
    match p50Nanos, p95Nanos, p99Nanos, maxNanos with
    | some p50, some p95, some p99, some _ => do
      refuse (¬(p50 ≤ p95 ∧ p95 ≤ p99)) (invalid "timing summary percentiles are not ordered")
      return summary
    | _, _, _, _ => .error (invalid "non-empty timing summaries require all measurements")

structure Histogram where
  buckets : List Nat
  sampleCount : Nat
  maxNanos : Option Nat

namespace Histogram

/-- `Histogram::default`. -/
def default : Histogram := ⟨List.replicate 64 0, 0, none⟩

/-- `record`; it gives `none` when the index of the bucket is out of range. -/
def record (h : Histogram) (nanos : UInt64) : Option Histogram := do
  let bucket := bucketFor nanos
  let count ← h.buckets[bucket]?
  return { buckets := h.buckets.set bucket (saturatingAdd count 1)
           sampleCount := saturatingAdd h.sampleCount 1
           maxNanos := some (h.maxNanos.elim nanos.toNat fun maximum => max maximum nanos.toNat) }

/-- The loop over the buckets, from the one of the index `index`: the first one at which the count reaches the rank. -/
def reaching (rank : Nat) : List Nat → Nat → Nat → Option Nat
  | [], _, _ => none
  | count :: counts, index, seen =>
    if rank ≤ saturatingAdd seen count then some index
    else reaching rank counts (index + 1) (saturatingAdd seen count)

def rank (h : Histogram) (percentile : Nat) : Nat := saturatingAdd (saturatingMul h.sampleCount percentile) 99 / 100

def nearestRank (h : Histogram) (percentile : Nat) : Option Nat :=
  match reaching (h.rank percentile) h.buckets 0 0 with
  | some index => some (bucketUpperBound index)
  | none => h.maxNanos

/-- `summary`; its `expect` panics on an error. -/
def summary (h : Histogram) : Result CaptureTimingSummary :=
  if h.sampleCount = 0 then .ok .empty
  else CaptureTimingSummary.new h.sampleCount (h.nearestRank 50) (h.nearestRank 95) (h.nearestRank 99) h.maxNanos

end Histogram

/-- The histogram of durations that are recorded one after the other. -/
def recorded (values : List UInt64) : Option Histogram := values.foldlM Histogram.record .default

/-- The sample of the nearest rank: the smallest one that `percentile` per cent of the samples do not exceed. -/
def nearestRankSample (values : List UInt64) (percentile : Nat) : Option UInt64 :=
  (values.mergeSort fun a b => a.toNat ≤ b.toNat)[(values.length * percentile + 99) / 100 - 1]?

/-- What is reported for a percentile, as long as its rank does not saturate: the upper bound of the bucket of its sample. -/
def Reports (values : List UInt64) (h : Histogram) (percentile reported : Nat) : Prop :=
  h.sampleCount * percentile + 99 ≤ u64Max → ∃ sample, nearestRankSample values percentile = some sample ∧
    reported = bucketUpperBound (bucketFor sample) ∧ sample.toNat ≤ reported ∧
      (1 ≤ sample.toNat → reported < 2 * sample.toNat)

structure SoundSummary (values : List UInt64) (h : Histogram) (s : CaptureTimingSummary) : Prop where
  percentiles : ∃ p50 p95 p99, s.p50Nanos = some p50 ∧ s.p95Nanos = some p95 ∧ s.p99Nanos = some p99 ∧
    (p50 ≤ p95 ∧ p95 ≤ p99) ∧ Reports values h 50 p50 ∧ Reports values h 95 p95 ∧ Reports values h 99 p99
  maximum : ∃ value ∈ values, s.maxNanos = some value.toNat ∧ ∀ other ∈ values, other.toNat ≤ value.toNat

theorem bucketFor_eq_log2 (value : UInt64) : bucketFor value = value.toNat.log2 := by
  unfold bucketFor leadingZeros
  split
  · rename_i h
    rw [h]
    rfl
  · rename_i h
    have hne : value.toNat ≠ 0 := fun hzero => h (UInt64.toNat_inj.1 hzero)
    have hlog : value.toNat.log2 < 64 := (Nat.log2_lt hne).2 value.toNat_lt
    omega

theorem bucketFor_lt (value : UInt64) : bucketFor value < 64 := by
  rw [bucketFor_eq_log2]
  by_cases hzero : value.toNat = 0
  · rw [hzero]
    decide
  · exact (Nat.log2_lt hzero).2 value.toNat_lt

theorem bucketFor_mono {a b : UInt64} (h : a.toNat ≤ b.toNat) : bucketFor a ≤ bucketFor b := by
  rw [bucketFor_eq_log2, bucketFor_eq_log2, Nat.log2_eq_log_two, Nat.log2_eq_log_two]
  exact Nat.log_mono_right h

theorem bucketUpperBound_mono {a b : Nat} (hab : a ≤ b) (hb : b < 64) : bucketUpperBound a ≤ bucketUpperBound b := by
  have hpow : 2 ^ (a + 1) ≤ 2 ^ (b + 1) := Nat.pow_le_pow_right (by decide) (by omega)
  have htop : 2 ^ (b + 1) ≤ 2 ^ 64 := Nat.pow_le_pow_right (by decide) (by omega)
  have hbottom : 2 ^ 1 ≤ 2 ^ (b + 1) := Nat.pow_le_pow_right (by decide) (by omega)
  unfold bucketUpperBound u64Max
  split_ifs <;> omega

theorem bucketUpperBound_bucketFor (sample : UInt64) :
    sample.toNat ≤ bucketUpperBound (bucketFor sample) ∧
      (1 ≤ sample.toNat → bucketUpperBound (bucketFor sample) < 2 * sample.toNat) := by
  have hlt := bucketFor_lt sample
  have hrange := sample.toNat_lt
  rw [bucketFor_eq_log2] at hlt ⊢
  by_cases hzero : sample.toNat = 0
  · rw [hzero]
    exact ⟨by decide, by decide⟩
  · have hlow := Nat.log2_self_le hzero
    have hhigh : sample.toNat < 2 ^ (sample.toNat.log2 + 1) := Nat.lt_log2_self
    rw [pow_succ] at hhigh
    generalize hlog : sample.toNat.log2 = bucket at *
    unfold bucketUpperBound u64Max
    rw [pow_succ]
    split_ifs with hfirst hmiddle
    · subst hfirst
      omega
    · omega
    · obtain rfl : bucket = 63 := by omega
      omega

/-- The samples in the buckets below `bucket`, as far as the counters tell. -/
def below (values : List UInt64) (bucket : Nat) : Nat := min (values.countP fun value => bucketFor value < bucket) u64Max

theorem countP_lt_succ (values : List UInt64) (bucket : Nat) :
    (values.countP fun value => bucketFor value < bucket + 1) =
      (values.countP fun value => bucketFor value < bucket) + values.countP fun value => bucketFor value = bucket := by
  induction values with
  | nil => rfl
  | cons value values ih =>
    simp only [List.countP_cons, ih, decide_eq_true_eq]
    split_ifs <;> omega

theorem below_mono (values : List UInt64) : Monotone (below values) := by
  refine monotone_nat_of_le_succ fun bucket => ?_
  rw [below, below, countP_lt_succ]
  omega

theorem below_all (values : List UInt64) : below values 64 = min values.length u64Max := by
  rw [below, List.countP_eq_length.2 fun value _ => decide_eq_true (bucketFor_lt value)]

structure Counted (values : List UInt64) (h : Histogram) : Prop where
  length : h.buckets.length = 64
  buckets : ∀ bucket (hb : bucket < h.buckets.length),
    h.buckets[bucket] = min (values.countP fun value => bucketFor value = bucket) u64Max
  sampleCount : h.sampleCount = min values.length u64Max
  maximum : ∀ nanos, h.maxNanos = some nanos → ∃ value ∈ values, nanos = value.toNat ∧ ∀ other ∈ values, other.toNat ≤ nanos
  nothing : h.maxNanos = none → values = []

theorem Counted.record {values : List UInt64} {h : Histogram} (hc : Counted values h) (value : UInt64) :
    ∃ h', h.record value = some h' ∧ Counted (values ++ [value]) h' := by
  have hlt : bucketFor value < h.buckets.length := by
    rw [hc.length]
    exact bucketFor_lt value
  refine ⟨_, by simp only [Histogram.record, List.getElem?_eq_getElem hlt, Option.bind_eq_bind, Option.bind_some]; rfl, ?_⟩
  refine ⟨by simp [hc.length], fun bucket hb => ?_, ?_, fun nanos hnanos => ?_, fun hnone => nomatch hnone⟩
  · simp only [List.length_set] at hb
    simp only [List.getElem_set, hc.buckets, List.countP_append, List.countP_singleton, decide_eq_true_eq, saturatingAdd]
    split_ifs with hsame
    · subst hsame
      omega
    · rfl
  · simp only [hc.sampleCount, List.length_append, List.length_singleton, saturatingAdd]
    omega
  · obtain rfl := Option.some.inj hnanos
    cases hmax : h.maxNanos with
    | none =>
      rw [hc.nothing hmax]
      exact ⟨value, by simp, rfl, by simp⟩
    | some before =>
      obtain ⟨greatest, hmem, rfl, hbound⟩ := hc.maximum before hmax
      simp only [Option.elim_some, List.forall_mem_append, List.forall_mem_singleton]
      rcases le_total greatest.toNat value.toNat with hle | hle
      · exact ⟨value, by simp, max_eq_right hle, fun other hother => (hbound other hother).trans (le_max_left _ _),
          le_max_right _ _⟩
      · exact ⟨greatest, by simp [hmem], max_eq_left hle, fun other hother => (hbound other hother).trans (le_max_left _ _),
          le_max_right _ _⟩

theorem exists_recorded (values : List UInt64) : ∃ h, recorded values = some h ∧ Counted values h := by
  induction values using List.reverseRecOn with
  | nil =>
    refine ⟨.default, rfl, rfl, fun bucket hb => ?_, rfl, fun _ h => (nomatch h), fun _ => rfl⟩
    simp only [Histogram.default, List.getElem_replicate, List.countP_nil, Nat.zero_min]
  | append_singleton values value ih =>
    obtain ⟨h, hrecorded, hc⟩ := ih
    obtain ⟨h', hrecord, hc'⟩ := hc.record value
    refine ⟨h', ?_, hc'⟩
    rw [recorded, List.foldlM_append, ← recorded, hrecorded]
    simp [hrecord]

theorem reaching_eq {sum : Nat → Nat} {counts : List Nat} {rank index bucket : Nat} (hmono : Monotone sum)
    (hcounts : ∀ i (hi : i < counts.length), saturatingAdd (sum (index + i)) counts[i] = sum (index + i + 1))
    (hlow : index ≤ bucket) (hhigh : bucket < index + counts.length) (hbefore : sum bucket < rank)
    (hreached : rank ≤ sum (bucket + 1)) : Histogram.reaching rank counts index (sum index) = some bucket := by
  induction counts generalizing index with
  | nil => exact absurd hhigh (by simpa using hlow)
  | cons count counts ih =>
    have hfirst : saturatingAdd (sum index) count = sum (index + 1) := hcounts 0 (by simp)
    rw [Histogram.reaching, hfirst]
    split
    · rename_i hstop
      by_contra hne
      have hle : index + 1 ≤ bucket := by
        have : index ≠ bucket := fun heq => hne (by rw [heq])
        omega
      exact absurd (hstop.trans (hmono hle)) (by omega)
    · rename_i hgo
      have hne : index ≠ bucket := by
        rintro rfl
        exact hgo hreached
      refine ih (fun i hi => ?_) (by omega) (by simp only [List.length_cons] at hhigh; omega)
      have hnext := hcounts (i + 1) (by simpa using hi)
      rwa [List.getElem_cons_succ, show index + (i + 1) = index + 1 + i by omega] at hnext

theorem exists_bucket {sum : Nat → Nat} {rank : Nat} (hzero : sum 0 = 0) (hrank : 1 ≤ rank) :
    ∀ n, rank ≤ sum n → ∃ bucket < n, sum bucket < rank ∧ rank ≤ sum (bucket + 1)
  | 0, h => absurd h (by omega)
  | n + 1, h => by
    by_cases hle : rank ≤ sum n
    · obtain ⟨bucket, hlt, hbucket⟩ := exists_bucket hzero hrank n hle
      exact ⟨bucket, by omega, hbucket⟩
    · exact ⟨n, by omega, by omega, h⟩

theorem bucketFor_getElem_lt {sorted : List UInt64} (hsorted : sorted.Pairwise fun a b => a.toNat ≤ b.toNat) {k : Nat}
    (hk : k < sorted.length) (bucket : Nat) : bucketFor sorted[k] < bucket ↔ k < sorted.countP fun value => bucketFor value < bucket := by
  induction sorted generalizing k with
  | nil => exact absurd hk (Nat.not_lt_zero k)
  | cons value sorted ih =>
    obtain ⟨hfirst, hrest⟩ := List.pairwise_cons.1 hsorted
    by_cases hvalue : bucketFor value < bucket
    · cases k with
      | zero => simp [hvalue]
      | succ k => simpa [hvalue] using ih hrest (by simpa using hk)
    · have hnone : ∀ other ∈ value :: sorted, ¬ bucketFor other < bucket := by
        refine List.forall_mem_cons.2 ⟨hvalue, fun other hother => ?_⟩
        have := bucketFor_mono (hfirst other hother)
        omega
      have hcount : ((value :: sorted).countP fun value => bucketFor value < bucket) = 0 :=
        List.countP_eq_zero.2 fun other hother => by simpa using hnone other hother
      simp only [hcount, Nat.not_lt_zero, iff_false]
      exact hnone _ (List.getElem_mem hk)

section Percentiles

variable {values : List UInt64} {h : Histogram} {percentile other bucket bucket' : Nat}

/-- The bucket that a percentile is read off. -/
structure ReadOff (values : List UInt64) (h : Histogram) (percentile bucket : Nat) : Prop where
  lt : bucket < 64
  before : below values bucket < h.rank percentile
  reached : h.rank percentile ≤ below values (bucket + 1)
  nearestRank : h.nearestRank percentile = some (bucketUpperBound bucket)

theorem Counted.exists_readOff (hc : Counted values h) (hne : values ≠ []) (percentile : Nat) (hp : 50 ≤ percentile) (hp' : percentile ≤ 99) :
    ∃ bucket, ReadOff values h percentile bucket := by
  have hpositive : 1 ≤ values.length := List.length_pos_iff.2 hne
  have hlow : h.sampleCount * 50 ≤ h.sampleCount * percentile := Nat.mul_le_mul_left _ hp
  have hhigh : h.sampleCount * percentile ≤ h.sampleCount * 99 := Nat.mul_le_mul_left _ hp'
  have hcount := hc.sampleCount
  have hrank : 1 ≤ h.rank percentile ∧ h.rank percentile ≤ below values 64 := by
    rw [below_all, ← hcount]
    unfold Histogram.rank saturatingAdd saturatingMul u64Max at *
    omega
  obtain ⟨bucket, hlt, hbefore, hreached⟩ := exists_bucket (by simp [below]) hrank.1 64 hrank.2
  refine ⟨bucket, hlt, hbefore, hreached, ?_⟩
  have hcounts : ∀ i (hi : i < h.buckets.length), saturatingAdd (below values (0 + i)) h.buckets[i] = below values (0 + i + 1) := by
    intro i hi
    rw [hc.buckets i hi, Nat.zero_add, below, below, countP_lt_succ, saturatingAdd]
    omega
  have hstart : below values 0 = 0 := by simp [below]
  have hreaching := reaching_eq (below_mono values) hcounts (Nat.zero_le bucket) (by rw [hc.length]; omega) hbefore hreached
  rw [hstart] at hreaching
  rw [Histogram.nearestRank, hreaching]

theorem ReadOff.mono (hr : ReadOff values h percentile bucket) (hr' : ReadOff values h other bucket')
    (hle : percentile ≤ other) : bucket ≤ bucket' := by
  by_contra hlt
  have hrank : h.rank percentile ≤ h.rank other := by
    have := Nat.mul_le_mul_left h.sampleCount hle
    unfold Histogram.rank saturatingAdd saturatingMul
    omega
  have := below_mono values (show bucket' + 1 ≤ bucket by omega)
  have := hr.before
  have := hr'.reached
  omega

theorem ReadOff.reports (hr : ReadOff values h percentile bucket) (hc : Counted values h) (hp : 50 ≤ percentile) :
    Reports values h percentile (bucketUpperBound bucket) := by
  intro hexact
  have hlow : h.sampleCount * 50 ≤ h.sampleCount * percentile := Nat.mul_le_mul_left _ hp
  have hcount : h.sampleCount = values.length := by
    have := hc.sampleCount
    unfold u64Max at *
    omega
  have hrank : h.rank percentile = (values.length * percentile + 99) / 100 := by
    rw [← hcount]
    unfold Histogram.rank saturatingAdd saturatingMul u64Max at *
    omega
  have hbefore := hr.before
  have hreached := hr.reached
  have hall : (values.countP fun value => bucketFor value < bucket + 1) ≤ values.length := List.countP_le_length
  rw [hrank, below] at hbefore hreached
  have hsorted : (values.mergeSort fun a b => a.toNat ≤ b.toNat).Pairwise fun a b => a.toNat ≤ b.toNat := by
    refine (List.pairwise_mergeSort ?_ ?_ values).imp of_decide_eq_true
    · exact fun a b c hab hbc => decide_eq_true ((of_decide_eq_true hab).trans (of_decide_eq_true hbc))
    · exact fun a b => by simpa using le_total a.toNat b.toNat
  have hperm := List.mergeSort_perm values fun a b => a.toNat ≤ b.toNat
  have hk : (values.length * percentile + 99) / 100 - 1 < (values.mergeSort fun a b => a.toNat ≤ b.toNat).length := by
    rw [hperm.length_eq]
    unfold u64Max at *
    omega
  have hafter := (bucketFor_getElem_lt hsorted hk bucket).not
  have hin := bucketFor_getElem_lt hsorted hk (bucket + 1)
  rw [hperm.countP_eq] at hafter hin
  have hbucket : bucketFor (values.mergeSort fun a b => a.toNat ≤ b.toNat)[(values.length * percentile + 99) / 100 - 1] = bucket := by
    have hge := hafter.2 (by unfold u64Max at *; omega)
    have hlt := hin.2 (by unfold u64Max at *; omega)
    omega
  refine ⟨_, List.getElem?_eq_getElem hk, by rw [hbucket], ?_⟩
  rw [← hbucket]
  exact bucketUpperBound_bucketFor _

end Percentiles

/-- Every summary of recorded durations is accepted and sound. -/
theorem summary_sound (values : List UInt64) (hne : values ≠ []) :
    ∃ h s, recorded values = some h ∧ h.summary = .ok s ∧ SoundSummary values h s := by
  obtain ⟨h, hrecorded, hc⟩ := exists_recorded values
  obtain ⟨b50, h50⟩ := hc.exists_readOff hne 50 (by decide) (by decide)
  obtain ⟨b95, h95⟩ := hc.exists_readOff hne 95 (by decide) (by decide)
  obtain ⟨b99, h99⟩ := hc.exists_readOff hne 99 (by decide) (by decide)
  obtain ⟨nanos, hmax⟩ := Option.ne_none_iff_exists'.1 fun hnone => hne (hc.nothing hnone)
  have hpositive : h.sampleCount ≠ 0 := by
    have := List.length_pos_iff.2 hne
    rw [hc.sampleCount, u64Max]
    omega
  have hordered : bucketUpperBound b50 ≤ bucketUpperBound b95 ∧ bucketUpperBound b95 ≤ bucketUpperBound b99 :=
    ⟨bucketUpperBound_mono (h50.mono h95 (by decide)) h95.lt, bucketUpperBound_mono (h95.mono h99 (by decide)) h99.lt⟩
  refine ⟨h, ⟨h.sampleCount, some (bucketUpperBound b50), some (bucketUpperBound b95), some (bucketUpperBound b99), some nanos⟩,
    hrecorded, ?_, ⟨_, _, _, rfl, rfl, rfl, hordered, h50.reports hc (by decide), h95.reports hc (by decide),
      h99.reports hc (by decide)⟩, ?_⟩
  · rw [Histogram.summary, if_neg hpositive, h50.nearestRank, h95.nearestRank, h99.nearestRank, hmax]
    simp only [CaptureTimingSummary.new, if_neg hpositive]
    exact bind_eq_ok.2 ⟨(), refuse_eq_ok.2 (not_not.2 hordered), rfl⟩
  · obtain ⟨value, hmem, rfl, hbound⟩ := hc.maximum nanos hmax
    exact ⟨value, hmem, rfl, hbound⟩

theorem summary_sound_two :
    ∃ h s, recorded [3, 900] = some h ∧ h.summary = .ok s ∧ SoundSummary [3, 900] h s :=
  summary_sound [3, 900] (by decide)

/-- The summary does not depend on the order of the durations. -/
theorem recorded_perm {values values' : List UInt64} (h : values.Perm values') : recorded values = recorded values' := by
  obtain ⟨⟨buckets, sampleCount, maxNanos⟩, hrecorded, hc⟩ := exists_recorded values
  obtain ⟨⟨buckets', sampleCount', maxNanos'⟩, hrecorded', hc'⟩ := exists_recorded values'
  rw [hrecorded, hrecorded']
  have hbuckets : buckets = buckets' := by
    refine List.ext_getElem (hc.length.trans hc'.length.symm) fun bucket hb hb' => ?_
    rw [hc.buckets bucket hb, hc'.buckets bucket hb', h.countP_eq]
  have hcount : sampleCount = sampleCount' := hc.sampleCount.trans (h.length_eq ▸ hc'.sampleCount.symm)
  have hmax : maxNanos = maxNanos' := by
    cases maxNanos with
    | none =>
      cases maxNanos' with
      | none => rfl
      | some nanos =>
        obtain ⟨value, hvalue, -⟩ := hc'.maximum nanos rfl
        exact absurd (h.mem_iff.2 hvalue) (by simp [hc.nothing rfl])
    | some nanos =>
      obtain ⟨value, hvalue, rfl, hbound⟩ := hc.maximum nanos rfl
      cases maxNanos' with
      | none => exact absurd (h.mem_iff.1 hvalue) (by simp [hc'.nothing rfl])
      | some nanos' =>
        obtain ⟨value', hvalue', rfl, hbound'⟩ := hc'.maximum nanos' rfl
        exact congrArg some (le_antisymm (hbound' value (h.mem_iff.1 hvalue)) (hbound value' (h.mem_iff.2 hvalue')))
  rw [hbuckets, hcount, hmax]

theorem recorded_perm_two : [3, 900].Perm [900, 3] ∧ recorded [3, 900] = recorded [900, 3] :=
  ⟨List.Perm.swap .., recorded_perm (List.Perm.swap ..)⟩

end Krometrail.TimingHistograms
