import Krometrail.Artifacts.Demand
import Krometrail.Lib.Results

/-!
# The memory permits of a flight

A flight takes its groups in order.  A group reserves its base memory, and the first analysed group of a cohort reserves
the change masks besides; the base is given back at the end of the group, the masks stay until the flight ends.  Each
reservation is checked against the budget by itself, and alone the flight is never refused exactly when the bases fit
beside the masks of all the cohorts met so far.
-/

namespace Krometrail

open Results

variable {F : Type} [DecidableEq F]

/-- `AnalysisCohortKey`; the identity of a normalization is the request that its encoding is of. -/
structure AnalysisCohortKey (F : Type) where
  epochIndex : Nat
  identity : NormalizationRequest
  noiseFloor : Nat
  plan : List (F × Nat)
  deriving DecidableEq

def WorkGroup.cohortKey (group : WorkGroup F) : Option (AnalysisCohortKey F) :=
  match group.request.analysisNoiseFloor, group.request.normalizationRequest with
  | some noiseFloor, some identity =>
    some { epochIndex := group.epochIndex, identity, noiseFloor, plan := group.plan.frames }
  | _, _ => none

/-- `cohort_counts`. -/
def cohortCount (groups : List (WorkGroup F)) (key : AnalysisCohortKey F) : Nat :=
  groups.countP fun group => decide (group.cohortKey = some key)

def cohortWantsMasks (groups : List (WorkGroup F)) (key : AnalysisCohortKey F) : Bool :=
  groups.any fun group => decide (group.cohortKey = some key) && group.request.needsChangeMasks

/-- What a group reserves: its base, and the change masks if it analyses for its cohort. -/
structure Demand (F : Type) where
  base : Nat
  sharedMasks : Nat
  analyses : Option (AnalysisCohortKey F)

/-- The estimate of the change masks, for a group whose cohort has another one. -/
def estimatedMaskBytes (groups : List (WorkGroup F)) (image : PixelDimensions) (plan : EpochPlan F) :
    Option (AnalysisCohortKey F) → Result Nat
  | some key => if cohortWantsMasks groups key then estimatedChangeMaskBytes image plan else .ok 0
  | none => .ok 0

/-- The estimates of `run_flight` for one group; no demand where it exceeds the limits by itself. -/
def demand (limits : ArtifactWorkLimits) (images : Nat → PixelDimensions) (groups : List (WorkGroup F))
    (group : WorkGroup F) : Result (Option (Demand F)) := do
  let image := images group.epochIndex
  let normalized ← estimatedNormalizedBytes group.request image group.plan
  let output ← reservedOutputBytes group.request limits
  let base ← okOr ((checkedAdd group.plan.decodedBytes normalized).bind fun value => checkedAdd value output)
    (limitError "combined artifact memory estimate overflows")
  let shares := group.cohortKey.filter fun key => decide (1 < cohortCount groups key)
  let estimated ← estimatedMaskBytes groups image group.plan shares
  let sharedMasks :=
    if normalized + estimated ≤ limits.maxNormalizedBytes ∧ base + estimated ≤ limits.maxCombinedRequestBytes then
      estimated
    else 0
  if normalized > limits.maxNormalizedBytes ∨ base + sharedMasks > limits.maxCombinedRequestBytes then .ok none
  else .ok (some { base, sharedMasks, analyses := shares.filter fun _ => estimated = 0 ∨ sharedMasks > 0 })

/-! ### The flight -/

/-- A reservation: the permits held and those asked for. -/
structure Reservation where
  held : Nat
  next : Nat

/-- The permits that outlive their group, the cohorts with a shared analysis, and all reservations so far. -/
structure FlightMemory (F : Type) where
  shared : Nat
  analysed : List (AnalysisCohortKey F)
  reservations : List Reservation

def FlightMemory.new : FlightMemory F := { shared := 0, analysed := [], reservations := [] }

/-- What becomes of a group with its base memory: decoding or normalizing fails, or the analysis of its cohort is built
or fails. -/
inductive GroupOutcome
  | failed
  | built
  | unbuilt
  deriving DecidableEq

/-- Whether a semaphore of `budget` permits, all others free, grants the reservation. -/
def Reservation.fits (budget : Nat) (reservation : Reservation) : Prop :=
  reservation.held + reservation.next ≤ budget

instance (budget : Nat) (reservation : Reservation) : Decidable (reservation.fits budget) :=
  inferInstanceAs (Decidable (_ ≤ _))

/-- `acquire_memory`: a reservation of nothing is refused at once; one that does not fit waits until the deadline. -/
def FlightMemory.reserve (memory : FlightMemory F) (budget : Nat) (reservation : Reservation) :
    FlightMemory F × Bool :=
  if reservation.next = 0 then (memory, false)
  else ({ memory with reservations := memory.reservations ++ [reservation] }, decide (reservation.fits budget))

/-- The rest of the group once it holds its base: the first analysis of a cohort keeps its masks. -/
def FlightMemory.analyse (memory : FlightMemory F) (budget : Nat) (demand : Demand F) (outcome : GroupOutcome) :
    FlightMemory F :=
  match demand.analyses with
  | none => memory
  | some key =>
    if key ∈ memory.analysed then memory
    else if demand.sharedMasks > 0 then
      let (memory, granted) := memory.reserve budget ⟨memory.shared + demand.base, demand.sharedMasks⟩
      if granted && outcome = .built then
        { memory with shared := memory.shared + demand.sharedMasks, analysed := key :: memory.analysed }
      else memory
    else if outcome = .built then { memory with analysed := key :: memory.analysed }
    else memory

/-- One group: its base is given back at the end, the masks of its cohort are kept. -/
def FlightMemory.group (memory : FlightMemory F) (budget : Nat) (demand : Demand F) (outcome : GroupOutcome) :
    FlightMemory F :=
  let (memory, granted) := memory.reserve budget ⟨memory.shared, demand.base⟩
  if granted && outcome ≠ .failed then memory.analyse budget demand outcome else memory

/-- `run_flight`: the groups in order; an estimate that overflows ends the flight, and so does a fatal error, where the
outcomes end. -/
def runFlight (limits : ArtifactWorkLimits) (images : Nat → PixelDimensions) (groups : List (WorkGroup F)) :
    List (WorkGroup F) → List GroupOutcome → FlightMemory F → FlightMemory F
  | [], _, memory => memory
  | group :: rest, outcomes, memory =>
    match demand limits images groups group with
    | .error _ => memory
    | .ok none => runFlight limits images groups rest outcomes memory
    | .ok (some demand) =>
      match outcomes with
      | [] => memory
      | outcome :: outcomes =>
        runFlight limits images groups rest outcomes (memory.group limits.maxCombinedRequestBytes demand outcome)

/-- The demands of the groups that the flight comes to. -/
def demands (limits : ArtifactWorkLimits) (images : Nat → PixelDimensions) (groups : List (WorkGroup F)) :
    List (WorkGroup F) → List (Demand F)
  | [] => []
  | group :: rest =>
    match demand limits images groups group with
    | .error _ => []
    | .ok none => demands limits images groups rest
    | .ok (some demand) => demand :: demands limits images groups rest

def cohortMaskBytes (images : Nat → PixelDimensions) (groups : List (WorkGroup F)) (key : AnalysisCohortKey F) : Nat :=
  if cohortWantsMasks groups key then
    (key.plan.length - 1) * (((images key.epochIndex).width.toNat * (images key.epochIndex).height.toNat + 7) / 8)
  else 0

/-- The cohorts that the demands analyse. -/
def cohorts (ds : List (Demand F)) : Finset (AnalysisCohortKey F) :=
  (ds.filterMap fun d => if d.base = 0 then none else d.analyses).toFinset

/-- Each base fits beside the masks of all the cohorts analysed up to its group. -/
def FitsTogether (limits : ArtifactWorkLimits) (images : Nat → PixelDimensions) (groups : List (WorkGroup F)) : Prop :=
  ∀ before d after, demands limits images groups groups = before ++ d :: after → d.base ≠ 0 →
    d.base + ∑ key ∈ cohorts (before ++ [d]), cohortMaskBytes images groups key ≤ limits.maxCombinedRequestBytes

variable {limits : ArtifactWorkLimits} {images : Nat → PixelDimensions} {groups : List (WorkGroup F)} {budget : Nat}
  {d : Demand F} {memory : FlightMemory F} {outcome : GroupOutcome} {key : AnalysisCohortKey F}

/-! ### One group -/

omit [DecidableEq F] in
theorem estimatedChangeMaskBytes_eq_ok {image : PixelDimensions} {plan : EpochPlan F} {bytes : Nat}
    (h : estimatedChangeMaskBytes image plan = .ok bytes) :
    bytes = (plan.frames.length - 1) * ((image.width.toNat * image.height.toNat + 7) / 8) := by
  simp only [estimatedChangeMaskBytes, bind_eq_ok, okOr_eq_ok, checkedMul_eq_some, checkedAdd_eq_some] at h
  obtain ⟨pixels, ⟨-, rfl⟩, padded, ⟨-, rfl⟩, -, rfl⟩ := h
  rfl

omit [DecidableEq F] in
theorem cohortKey_eq_some {group : WorkGroup F} (h : group.cohortKey = some key) :
    key.epochIndex = group.epochIndex ∧ key.plan = group.plan.frames := by
  unfold WorkGroup.cohortKey at h
  split at h
  · cases h
    exact ⟨rfl, rfl⟩
  · cases h

theorem estimatedMaskBytes_eq_ok {group : WorkGroup F} {estimated : Nat} (hkey : group.cohortKey = some key)
    (h : estimatedMaskBytes groups (images group.epochIndex) group.plan (some key) = .ok estimated) :
    estimated = cohortMaskBytes images groups key := by
  obtain ⟨hepoch, hplan⟩ := cohortKey_eq_some hkey
  simp only [estimatedMaskBytes] at h
  unfold cohortMaskBytes
  split at h
  · rename_i hwants
    rw [if_pos hwants, hepoch, hplan]
    exact estimatedChangeMaskBytes_eq_ok h
  · rename_i hwants
    rw [if_neg hwants]
    exact (Except.ok.inj h).symm

theorem demand_spec {group : WorkGroup F} (h : demand limits images groups group = .ok (some d)) :
    d.base + d.sharedMasks ≤ limits.maxCombinedRequestBytes ∧
      ∀ key, d.analyses = some key → d.sharedMasks = cohortMaskBytes images groups key := by
  simp only [demand, bind_eq_ok] at h
  obtain ⟨normalized, -, output, -, base, -, estimated, hestimated, h⟩ := h
  generalize hshared : (if normalized + estimated ≤ limits.maxNormalizedBytes ∧
    base + estimated ≤ limits.maxCombinedRequestBytes then estimated else 0) = sharedMasks at h
  have hcases : sharedMasks = estimated ∨ sharedMasks = 0 := by
    rw [← hshared]
    split <;> simp
  split at h
  · cases Except.ok.inj h
  · rename_i hfits
    obtain rfl := Option.some.inj (Except.ok.inj h)
    refine ⟨by dsimp only; omega, fun key hkey => ?_⟩
    obtain ⟨hshares, hmasks⟩ := Option.filter_eq_some_iff.1 hkey
    rw [hshares] at hestimated
    obtain ⟨hcohort, -⟩ := Option.filter_eq_some_iff.1 hshares
    rw [← estimatedMaskBytes_eq_ok hcohort hestimated]
    simp only [decide_eq_true_eq] at hmasks
    dsimp only
    omega

/-- The kept permits are the masks of the analysed cohorts. -/
def FlightMemory.Kept (images : Nat → PixelDimensions) (groups : List (WorkGroup F)) (memory : FlightMemory F) : Prop :=
  memory.analysed.Nodup ∧ memory.shared = ∑ key ∈ memory.analysed.toFinset, cohortMaskBytes images groups key

omit [DecidableEq F] in
theorem FlightMemory.reserve_eq (memory : FlightMemory F) (budget : Nat) {r : Reservation} (h : r.next ≠ 0) :
    memory.reserve budget r =
      ({ memory with reservations := memory.reservations ++ [r] }, decide (r.fits budget)) :=
  if_neg h

/-- What a group with its base does to the memory: its cohort, if it is new, reserves its masks beside the base, and is
kept when the analysis was built. -/
theorem FlightMemory.analyse_cases (memory : FlightMemory F) (budget : Nat) (d : Demand F) (outcome : GroupOutcome) :
    ∃ masks, (memory.analyse budget d outcome).reservations = memory.reservations ++ masks ∧
      (∀ r ∈ masks, ∃ key ∉ memory.analysed, d.analyses = some key ∧ r = ⟨memory.shared + d.base, d.sharedMasks⟩) ∧
      ((memory.analyse budget d outcome).shared = memory.shared ∧
          (memory.analyse budget d outcome).analysed = memory.analysed ∨
        ∃ key ∉ memory.analysed, d.analyses = some key ∧
          (memory.analyse budget d outcome).shared = memory.shared + d.sharedMasks ∧
          (memory.analyse budget d outcome).analysed = key :: memory.analysed) := by
  unfold FlightMemory.analyse
  cases hanalyses : d.analyses with
  | none => exact ⟨[], by simp, by simp, .inl ⟨rfl, rfl⟩⟩
  | some key =>
    dsimp only
    by_cases hknown : key ∈ memory.analysed
    · rw [if_pos hknown]
      exact ⟨[], by simp, by simp, .inl ⟨rfl, rfl⟩⟩
    · rw [if_neg hknown]
      by_cases hmasks : d.sharedMasks > 0
      · rw [if_pos hmasks, memory.reserve_eq budget (r := ⟨memory.shared + d.base, d.sharedMasks⟩) (by simpa using hmasks.ne')]
        dsimp only
        refine ⟨[⟨memory.shared + d.base, d.sharedMasks⟩], ?_, by simpa using hknown, ?_⟩
        · split <;> rfl
        · split
          · exact .inr ⟨key, hknown, rfl, rfl, rfl⟩
          · exact .inl ⟨rfl, rfl⟩
      · rw [if_neg hmasks]
        have hzero : d.sharedMasks = 0 := by omega
        refine ⟨[], by split <;> simp, by simp, ?_⟩
        split
        · exact .inr ⟨key, hknown, rfl, by simp [hzero], rfl⟩
        · exact .inl ⟨rfl, rfl⟩

/-- When the analysis is built and every reservation fits, its cohort is kept, and its masks fit beside the base. -/
theorem FlightMemory.analyse_built (memory : FlightMemory F) (budget : Nat) (d : Demand F)
    (hfits : ∀ r ∈ (memory.analyse budget d .built).reservations, r.fits budget) :
    (memory.analyse budget d .built).analysed.toFinset = memory.analysed.toFinset ∪ d.analyses.toFinset ∧
      ∀ key ∉ memory.analysed, d.analyses = some key → d.sharedMasks ≠ 0 →
        memory.shared + d.base + d.sharedMasks ≤ budget := by
  unfold FlightMemory.analyse at hfits ⊢
  cases hanalyses : d.analyses with
  | none => simp
  | some key =>
    rw [hanalyses] at hfits
    dsimp only at hfits ⊢
    by_cases hknown : key ∈ memory.analysed
    · rw [if_pos hknown]
      refine ⟨by simp [hknown], fun key' hnew heq => ?_⟩
      exact absurd (Option.some.inj heq ▸ hknown) hnew
    · rw [if_neg hknown] at hfits ⊢
      by_cases hmasks : d.sharedMasks > 0
      · rw [if_pos hmasks, memory.reserve_eq budget (r := ⟨memory.shared + d.base, d.sharedMasks⟩) (by simpa using hmasks.ne')]
          at hfits ⊢
        dsimp only at hfits ⊢
        have hr : Reservation.fits budget ⟨memory.shared + d.base, d.sharedMasks⟩ := by
          refine hfits _ ?_
          split <;> simp
        exact ⟨by simp [hr], fun _ _ _ _ => hr⟩
      · rw [if_neg hmasks]
        exact ⟨by simp, fun _ _ _ hne => absurd (Nat.pos_of_ne_zero hne) hmasks⟩

theorem FlightMemory.group_zero (memory : FlightMemory F) (budget : Nat) {d : Demand F} (outcome : GroupOutcome)
    (hbase : d.base = 0) : memory.group budget d outcome = memory := by
  simp [FlightMemory.group, FlightMemory.reserve, hbase]

theorem FlightMemory.group_eq (memory : FlightMemory F) (budget : Nat) {d : Demand F} (outcome : GroupOutcome)
    (hbase : d.base ≠ 0) (hfits : memory.shared + d.base ≤ budget) :
    memory.group budget d outcome =
      let memory := { memory with reservations := memory.reservations ++ [⟨memory.shared, d.base⟩] }
      if outcome = .failed then memory else memory.analyse budget d outcome := by
  have hgranted : Reservation.fits budget ⟨memory.shared, d.base⟩ := hfits
  unfold FlightMemory.group
  rw [memory.reserve_eq budget (r := ⟨memory.shared, d.base⟩) hbase]
  by_cases houtcome : outcome = .failed <;> simp [hgranted, houtcome]

/-! ### The whole flight -/

theorem cohorts_append (before : List (Demand F)) (d : Demand F) (hbase : d.base ≠ 0) :
    cohorts (before ++ [d]) = cohorts before ∪ d.analyses.toFinset := by
  unfold cohorts
  rw [List.filterMap_append, List.toFinset_append]
  cases h : d.analyses <;> simp [hbase, h]

theorem cohorts_append_zero (before : List (Demand F)) (d : Demand F) (hbase : d.base = 0) :
    cohorts (before ++ [d]) = cohorts before := by
  simp [cohorts, hbase]

/-- A group keeps the permits of the analysed cohorts, and its reservations fit when its base fits beside all cohorts up
to it. -/
theorem FlightMemory.Kept.group {before : List (Demand F)} (hkept : memory.Kept images groups) (outcome : GroupOutcome)
    (hsub : memory.analysed.toFinset ⊆ cohorts before) (hfits : ∀ r ∈ memory.reservations, r.fits budget)
    (hspec : ∀ key, d.analyses = some key → d.sharedMasks = cohortMaskBytes images groups key)
    (hcondition : d.base ≠ 0 → d.base + ∑ key ∈ cohorts (before ++ [d]), cohortMaskBytes images groups key ≤ budget) :
    (memory.group budget d outcome).Kept images groups ∧
      (memory.group budget d outcome).analysed.toFinset ⊆ cohorts (before ++ [d]) ∧
      ∀ r ∈ (memory.group budget d outcome).reservations, r.fits budget := by
  by_cases hbase : d.base = 0
  · rw [memory.group_zero budget outcome hbase, cohorts_append_zero before d hbase]
    exact ⟨hkept, hsub, hfits⟩
  · have hbound := hcondition hbase
    have hall := cohorts_append before d hbase
    have hmono : memory.analysed.toFinset ⊆ cohorts (before ++ [d]) := by
      rw [hall]
      exact hsub.trans Finset.subset_union_left
    have hshared : memory.shared ≤ ∑ key ∈ cohorts (before ++ [d]), cohortMaskBytes images groups key := by
      rw [hkept.2]
      exact Finset.sum_le_sum_of_subset hmono
    -- A new cohort comes on top of the analysed ones.
    have hnew : ∀ key ∉ memory.analysed, d.analyses = some key →
        insert key memory.analysed.toFinset ⊆ cohorts (before ++ [d]) ∧
          memory.shared + d.sharedMasks = ∑ k ∈ insert key memory.analysed.toFinset, cohortMaskBytes images groups k := by
      intro key hkey hanalyses
      refine ⟨Finset.insert_subset ?_ hmono, ?_⟩
      · rw [hall, hanalyses]
        simp
      · rw [Finset.sum_insert (by simpa using hkey), ← hkept.2, hspec key hanalyses, Nat.add_comm]
    have hreserved : ∀ r ∈ memory.reservations ++ [⟨memory.shared, d.base⟩], r.fits budget := by
      intro r hr
      rcases List.mem_append.1 hr with hr | hr
      · exact hfits r hr
      · obtain rfl := List.mem_singleton.1 hr
        exact (by omega : memory.shared + d.base ≤ budget)
    rw [memory.group_eq budget outcome hbase (by omega)]
    dsimp only
    split
    · exact ⟨hkept, hmono, hreserved⟩
    · obtain ⟨masks, hreservations, hmasks, hcases⟩ := FlightMemory.analyse_cases
        { memory with reservations := memory.reservations ++ [⟨memory.shared, d.base⟩] } budget d outcome
      refine ⟨?_, ?_, fun r hr => ?_⟩
      · rcases hcases with ⟨hsame, hanalysed⟩ | ⟨key, hkey, hanalyses, hsum, hanalysed⟩
        · unfold FlightMemory.Kept
          rw [hsame, hanalysed]
          exact hkept
        · unfold FlightMemory.Kept
          rw [hsum, hanalysed, List.toFinset_cons]
          exact ⟨List.nodup_cons.2 ⟨hkey, hkept.1⟩, (hnew key hkey hanalyses).2⟩
      · rcases hcases with ⟨-, hanalysed⟩ | ⟨key, hkey, hanalyses, -, hanalysed⟩
        · rw [hanalysed]
          exact hmono
        · rw [hanalysed, List.toFinset_cons]
          exact (hnew key hkey hanalyses).1
      · rw [hreservations] at hr
        rcases List.mem_append.1 hr with hr | hr
        · exact hreserved r hr
        · obtain ⟨key, hkey, hanalyses, rfl⟩ := hmasks r hr
          obtain ⟨hsubset, hsum⟩ := hnew key hkey hanalyses
          have := Finset.sum_le_sum_of_subset (f := cohortMaskBytes images groups) hsubset
          exact (by omega : memory.shared + d.base + d.sharedMasks ≤ budget)

theorem demands_cons_none {group : WorkGroup F} (rest : List (WorkGroup F))
    (h : demand limits images groups group = .ok none) :
    demands limits images groups (group :: rest) = demands limits images groups rest := by
  rw [demands, h]

theorem demands_cons_some {group : WorkGroup F} (rest : List (WorkGroup F))
    (h : demand limits images groups group = .ok (some d)) :
    demands limits images groups (group :: rest) = d :: demands limits images groups rest := by
  rw [demands, h]

theorem runFlight_cons_none {group : WorkGroup F} (rest : List (WorkGroup F)) (outcomes : List GroupOutcome)
    (h : demand limits images groups group = .ok none) :
    runFlight limits images groups (group :: rest) outcomes memory =
      runFlight limits images groups rest outcomes memory := by
  rw [runFlight, h]

theorem runFlight_cons_some {group : WorkGroup F} (rest : List (WorkGroup F)) (outcomes : List GroupOutcome)
    (h : demand limits images groups group = .ok (some d)) :
    runFlight limits images groups (group :: rest) (outcome :: outcomes) memory =
      runFlight limits images groups rest outcomes (memory.group limits.maxCombinedRequestBytes d outcome) := by
  rw [runFlight, h]

theorem runFlight_fits (hall : FitsTogether limits images groups) (rest : List (WorkGroup F))
    (before : List (Demand F)) (outcomes : List GroupOutcome) (memory : FlightMemory F)
    (hdemands : demands limits images groups groups = before ++ demands limits images groups rest)
    (hkept : memory.Kept images groups) (hsub : memory.analysed.toFinset ⊆ cohorts before)
    (hfits : ∀ r ∈ memory.reservations, r.fits limits.maxCombinedRequestBytes) :
    ∀ r ∈ (runFlight limits images groups rest outcomes memory).reservations,
      r.fits limits.maxCombinedRequestBytes := by
  induction rest generalizing before outcomes memory with
  | nil => exact hfits
  | cons group rest ih =>
    cases hdemand : demand limits images groups group with
    | error error =>
      rw [runFlight, hdemand]
      exact hfits
    | ok demanded =>
      cases demanded with
      | none =>
        rw [demands_cons_none rest hdemand] at hdemands
        rw [runFlight_cons_none rest outcomes hdemand]
        exact ih before outcomes memory hdemands hkept hsub hfits
      | some d =>
        rw [demands_cons_some rest hdemand] at hdemands
        cases outcomes with
        | nil =>
          rw [runFlight, hdemand]
          exact hfits
        | cons outcome outcomes =>
          obtain ⟨hkept', hsub', hfits'⟩ := hkept.group outcome hsub hfits (demand_spec hdemand).2
            (hall before d _ hdemands)
          rw [runFlight_cons_some rest outcomes hdemand]
          exact ih (before ++ [d]) outcomes _ (by rw [hdemands, List.append_assoc]; rfl) hkept' hsub' hfits'

theorem FlightMemory.group_reservations (memory : FlightMemory F) (budget : Nat) (d : Demand F)
    (outcome : GroupOutcome) :
    ∃ more, (memory.group budget d outcome).reservations = memory.reservations ++ more := by
  by_cases hbase : d.base = 0
  · exact ⟨[], by rw [memory.group_zero budget outcome hbase, List.append_nil]⟩
  · unfold FlightMemory.group
    rw [memory.reserve_eq budget (r := ⟨memory.shared, d.base⟩) hbase]
    dsimp only
    split
    · obtain ⟨masks, hmasks, -⟩ := FlightMemory.analyse_cases
        { memory with reservations := memory.reservations ++ [⟨memory.shared, d.base⟩] } budget d outcome
      exact ⟨⟨memory.shared, d.base⟩ :: masks, by rw [hmasks, List.append_assoc]; rfl⟩
    · exact ⟨_, rfl⟩

theorem runFlight_reservations (limits : ArtifactWorkLimits) (images : Nat → PixelDimensions)
    (groups rest : List (WorkGroup F)) (outcomes : List GroupOutcome) (memory : FlightMemory F) :
    ∃ more, (runFlight limits images groups rest outcomes memory).reservations = memory.reservations ++ more := by
  induction rest generalizing outcomes memory with
  | nil => exact ⟨[], by simp [runFlight]⟩
  | cons group rest ih =>
    unfold runFlight
    split
    · exact ⟨[], by simp⟩
    · exact ih outcomes memory
    · rename_i d _
      cases outcomes with
      | nil => exact ⟨[], by simp⟩
      | cons outcome outcomes =>
        obtain ⟨first, hfirst⟩ := memory.group_reservations limits.maxCombinedRequestBytes d outcome
        obtain ⟨more, hmore⟩ := ih outcomes (memory.group limits.maxCombinedRequestBytes d outcome)
        exact ⟨first ++ more, by rw [hmore, hfirst, List.append_assoc]⟩

theorem FlightMemory.Kept.group_built {before : List (Demand F)} (hkept : memory.Kept images groups)
    (hanalysed : memory.analysed.toFinset = cohorts before)
    (hspec : ∀ key, d.analyses = some key → d.sharedMasks = cohortMaskBytes images groups key)
    (hfits : ∀ r ∈ (memory.group budget d .built).reservations, r.fits budget) :
    (memory.group budget d .built).analysed.toFinset = cohorts (before ++ [d]) ∧
      (d.base ≠ 0 → d.base + ∑ key ∈ cohorts (before ++ [d]), cohortMaskBytes images groups key ≤ budget) := by
  by_cases hbase : d.base = 0
  · rw [memory.group_zero budget .built hbase, cohorts_append_zero before d hbase]
    exact ⟨hanalysed, fun h => absurd hbase h⟩
  · have hbasefits : memory.shared + d.base ≤ budget := by
      by_contra hover
      refine hover (hfits ⟨memory.shared, d.base⟩ ?_)
      unfold FlightMemory.group
      rw [memory.reserve_eq budget (r := ⟨memory.shared, d.base⟩) hbase]
      simp [Reservation.fits, hover]
    rw [memory.group_eq budget .built hbase hbasefits] at hfits ⊢
    obtain ⟨hset, hmasks⟩ := FlightMemory.analyse_built _ budget d hfits
    rw [cohorts_append before d hbase, ← hanalysed]
    refine ⟨hset, fun _ => ?_⟩
    dsimp only at hmasks
    have hsum := hkept.2
    cases hanalyses : d.analyses with
    | none => simpa [← hsum, Nat.add_comm] using hbasefits
    | some key =>
      by_cases hknown : key ∈ memory.analysed
      · have hsame : memory.analysed.toFinset ∪ (some key).toFinset = memory.analysed.toFinset := by simp [hknown]
        rw [hsame, ← hsum]
        omega
      · have hnew : memory.analysed.toFinset ∪ (some key).toFinset = insert key memory.analysed.toFinset := by
          rw [Option.toFinset_some, Finset.union_comm]
          rfl
        rw [hnew, Finset.sum_insert (by simpa using hknown), ← hsum, ← hspec key hanalyses]
        rcases Nat.eq_zero_or_pos d.sharedMasks with hzero | hpos
        · omega
        · have := hmasks key hknown hanalyses hpos.ne'
          omega

theorem fits_of_runFlight (rest : List (WorkGroup F)) (before : List (Demand F)) (outcomes : List GroupOutcome)
    (memory : FlightMemory F) (hbuilt : ∀ outcome ∈ outcomes, outcome = .built) (hlength : rest.length ≤ outcomes.length)
    (hkept : memory.Kept images groups) (hanalysed : memory.analysed.toFinset = cohorts before)
    (hfits : ∀ r ∈ (runFlight limits images groups rest outcomes memory).reservations,
      r.fits limits.maxCombinedRequestBytes)
    (middle : List (Demand F)) (d : Demand F) (after : List (Demand F))
    (hdemands : demands limits images groups rest = middle ++ d :: after) (hbase : d.base ≠ 0) :
    d.base + ∑ key ∈ cohorts (before ++ middle ++ [d]), cohortMaskBytes images groups key ≤
      limits.maxCombinedRequestBytes := by
  induction rest generalizing before middle outcomes memory with
  | nil => simp [demands] at hdemands
  | cons group rest ih =>
    rw [List.length_cons] at hlength
    cases hdemand : demand limits images groups group with
    | error error =>
      rw [demands, hdemand] at hdemands
      simp at hdemands
    | ok demanded =>
      cases demanded with
      | none =>
        rw [demands_cons_none rest hdemand] at hdemands
        rw [runFlight_cons_none rest outcomes hdemand] at hfits
        exact ih before outcomes memory hbuilt (by omega) hkept hanalysed hfits middle hdemands
      | some first =>
        rw [demands_cons_some rest hdemand] at hdemands
        cases outcomes with
        | nil => simp at hlength
        | cons outcome outcomes =>
          obtain rfl := hbuilt outcome List.mem_cons_self
          rw [runFlight_cons_some rest outcomes hdemand] at hfits
          obtain ⟨later, hlater⟩ := runFlight_reservations limits images groups rest outcomes
            (memory.group limits.maxCombinedRequestBytes first .built)
          obtain ⟨own, hown⟩ := memory.group_reservations limits.maxCombinedRequestBytes first .built
          have hgroup : ∀ r ∈ (memory.group limits.maxCombinedRequestBytes first .built).reservations,
              r.fits limits.maxCombinedRequestBytes := fun r hr => hfits r (by rw [hlater]; exact List.mem_append_left _ hr)
          have hspec := (demand_spec hdemand).2
          obtain ⟨hcohorts, hfirst⟩ := hkept.group_built hanalysed hspec hgroup
          have hkept' := (hkept.group .built hanalysed.subset
            (fun r hr => hgroup r (by rw [hown]; exact List.mem_append_left _ hr)) hspec hfirst).1
          cases middle with
          | nil =>
            obtain ⟨rfl, -⟩ := List.cons.inj hdemands
            rw [List.append_nil]
            exact hfirst hbase
          | cons head middle =>
            obtain ⟨rfl, htail⟩ := List.cons.inj hdemands
            have := ih (before ++ [first]) outcomes _ (fun o ho => hbuilt o (List.mem_cons_of_mem _ ho))
              (Nat.le_of_succ_le_succ hlength) hkept' hcohorts hfits middle htail
            rwa [List.append_assoc before, List.singleton_append] at this

theorem FlightMemory.kept_new : (FlightMemory.new : FlightMemory F).Kept images groups := by
  simp [FlightMemory.new, FlightMemory.Kept]

/-- **A flight of its own is never refused memory exactly when it fits together.**  Whatever becomes of its groups, each
reservation can be granted from the free permits of an idle budget if and only if each group's base fits beside the
change masks of all the cohorts analysed up to it. -/
theorem never_starves_iff (limits : ArtifactWorkLimits) (images : Nat → PixelDimensions) (groups : List (WorkGroup F)) :
    (∀ outcomes, ∀ r ∈ (runFlight limits images groups groups outcomes .new).reservations,
        r.held + r.next ≤ limits.maxCombinedRequestBytes) ↔
      FitsTogether limits images groups := by
  have hnone : (FlightMemory.new : FlightMemory F).analysed.toFinset = cohorts [] := rfl
  constructor
  · intro hfits before d after hdemands hbase
    have := fits_of_runFlight groups [] (List.replicate groups.length .built) .new
      (fun _ h => List.eq_of_mem_replicate h) (by simp) FlightMemory.kept_new hnone (hfits _) before d after hdemands hbase
    rwa [List.nil_append] at this
  · intro hall outcomes
    exact runFlight_fits hall groups [] outcomes .new rfl FlightMemory.kept_new hnone.subset
      (by simp [FlightMemory.new])

/-- The default limits of the service. -/
def ArtifactWorkLimits.standard : ArtifactWorkLimits :=
  { maxDimension := 8192, maxPixelsPerFrame := 16777216, maxDecodedBytes := 1610612736, maxNormalizedBytes := 536870912,
    maxCombinedRequestBytes := 2147483648, maxOutputs := 16, maxOutputBytesEach := 67108864,
    maxOutputBytesTotal := 268435456 }

def screen : PixelDimensions := { width := 1920, height := 1080, width_ne_zero := by decide, height_ne_zero := by decide }

/-- 194 frames of a full screen. -/
def longPlan : EpochPlan Nat := { frames := (List.range 194).map fun n => (n, n), decodedBytes := 194 * 8294400 }

/-- A difference map and a motion history with a noise floor of their own. -/
def maskGroups (noiseFloor : Nat) : List (WorkGroup Nat) :=
  let normalization : NormalizationRequest := { crop := none, background := ⟨0, 0, 0⟩, scale := .down 3 }
  let output : OutputLimitsRequest := { maxWidth := 8192, maxHeight := 8192, maxEncodedBytes := 67108864 }
  [{ epochIndex := 0, request := .differenceMap normalization noiseFloor output, plan := longPlan },
    { epochIndex := 0, request := .motionHistory normalization noiseFloor output, plan := longPlan }]

/-- Five cohorts that share their masks. -/
def fiveCohorts : List (WorkGroup Nat) := [10, 20, 30, 40, 50].flatMap maskGroups

/-- The service admits the request, and the fifth cohort asks for masks that no longer fit beside those of the first
four. -/
theorem fifth_cohort_starves :
    admitted (fun _ => screen) .standard fiveCohorts = true ∧
      ¬ ∀ r ∈ (runFlight .standard (fun _ => screen) fiveCohorts fiveCohorts (List.replicate 10 .built) .new).reservations,
        r.held + r.next ≤ ArtifactWorkLimits.standard.maxCombinedRequestBytes := by
  decide +kernel

end Krometrail
