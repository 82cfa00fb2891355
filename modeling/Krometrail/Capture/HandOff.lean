import Krometrail.Capture.Pipeline

/-!
# The accounts of the hand-off

A frame that was sent counts as unaccounted until the reader has counted it, and as taken until the worker has begun with
it; up to these two the depth is the length of the queue, and the accepted frames are the persisted, the discarded and
the queued ones.  The bounds that the status checks follow as long as no step outruns the accounting.
-/

namespace Krometrail

open Runs (Run)

namespace Operation

variable {F : Type*}

def isReceived : Operation F → Bool
  | recordReceived => true
  | _ => false

def isAck : Operation F → Bool
  | recordAck _ => true
  | _ => false

def isAccept : Operation F → Bool
  | recordAccepted => true
  | _ => false

/-- The operation, or what it adds to the script, counts a frame as accepted or dropped. -/
def isSlack : Operation F → Bool
  | trySend _ | recordAccepted | recordDropped => true
  | _ => false

def isBegin : Operation F → Bool
  | beginProcessing => true
  | _ => false

def isPersisted : Operation F → Bool
  | persisted => true
  | _ => false

/-- Receipt comes before acknowledgement, and that before everything else. -/
def rank : Operation F → Nat
  | recordReceived => 0
  | recordAck _ => 1
  | _ => 2

/-- The stream stops by other operations only. -/
def keepsRunning : Transition → Bool
  | .drained | .deadline => false
  | _ => true

def ofReader : Operation F → Bool
  | transition t => keepsRunning t
  | recordReceived | recordAck _ | trySend _ | recordAccepted | declareGap | recordDropped | closeAcceptance
  | recordFailure _ | closeSender => true
  | beginProcessing | persisted | completeProcessing | resumeBudget | closeReceiver => false

def ofWorker : Operation F → Bool
  | transition t => keepsRunning t
  | declareGap | closeAcceptance | recordFailure _ | closeSender | beginProcessing | persisted | completeProcessing
  | resumeBudget | closeReceiver => true
  | recordReceived | recordAck _ | trySend _ | recordAccepted | recordDropped => false

/-- The operations that both parties perform, without effect on the frames. -/
def isCommon : Operation F → Bool
  | transition _ | declareGap | closeAcceptance | recordFailure _ | closeSender => true
  | _ => false

/-- The script records a failure before it enters the failed state. -/
def announces : List (Operation F) → Bool
  | [] => true
  | recordFailure _ :: _ => true
  | transition .failure :: _ => false
  | _ :: rest => announces rest

variable {op : Operation F}

theorem rank_of_isReceived (h : op.isReceived = true) : op.rank = 0 := by
  cases op <;> simp_all [isReceived, rank]

theorem rank_of_isAck (h : op.isAck = true) : op.rank = 1 := by
  cases op <;> simp_all [isAck, rank]

theorem announces_tail {rest : List (Operation F)} (h : announces (op :: rest) = true) (hop : ∀ stage, op ≠ recordFailure stage)
    : announces rest = true := by
  cases op with
  | recordFailure stage => exact absurd rfl (hop stage)
  | transition t => cases t <;> simp_all [announces]
  | _ => exact h

end Operation

namespace StreamRuntime

variable {F : Type*}

structure Scripted (reader worker : List (Operation F)) : Prop where
  sorted : reader.Pairwise fun op op' => op.rank ≤ op'.rank
  reader : ∀ op ∈ reader, op.ofReader = true
  worker : ∀ op ∈ worker, op.ofWorker = true

/-- A stream that failed has its failure on record. -/
structure Healthy (s : StreamRuntime F) : Prop where
  running : s.panicked = false
  generation : s.target.attachmentGeneration ≠ 0
  capacity : s.runtime.queueCapacity ≠ 0
  notStopped : s.runtime.state ≠ .stopped
  failed : s.runtime.state = .failed → s.runtime.failure.isSome = true
  reader : s.runtime.failure.isSome = true ∨ Operation.announces s.reader = true
  worker : s.runtime.failure.isSome = true ∨ Operation.announces s.worker = true

/-- The counters satisfy what the status checks, no status was refused, and at rest the depth is the length of the queue
and every accepted frame was persisted, discarded or is queued. -/
structure Accounted (s : StreamRuntime F) : Prop where
  statistics : s.runtime.statistics.validate = .ok s.runtime.statistics
  persisted : s.runtime.statistics.persistedFrames ≤ s.runtime.statistics.acceptedFrames
  depth_le : s.runtime.queueDepth ≤ s.runtime.queueCapacity
  status : s.panicked = false
  rest : s.reader = [] → s.worker = [] → s.inHand = none →
    s.runtime.queueDepth = s.queue.length ∧ s.runtime.statistics.acceptedFrames =
      s.runtime.statistics.persistedFrames + s.discarded + s.queue.length

variable {s : StreamRuntime F}

theorem statusFromState_isOk {target : CaptureTarget} {state : RuntimeState} (hgeneration : target.attachmentGeneration ≠ 0)
    (hcapacity : state.queueCapacity ≠ 0) (hdepth : state.queueDepth ≤ state.queueCapacity)
    (hstopped : state.state ≠ .stopped) (hfailed : state.state = .failed ↔ state.failure.isSome = true)
    (hlast : state.lastFrameSessionTime.isSome = true → 0 < state.statistics.receivedFrames) :
    ∃ status, statusFromState target state = .ok status := by
  have hlast' : ¬(state.lastFrameSessionTime.isSome = true ∧ state.statistics.receivedFrames = 0) := by
    rintro ⟨hsome, hzero⟩
    exact absurd (hlast hsome) (by omega)
  have hfailed' : ¬decide (state.state = .failed) ≠ state.failure.isSome := by
    simp [hfailed]
  unfold statusFromState TargetCaptureStatus.new
  rw [if_neg hgeneration, if_neg hcapacity, if_neg (by omega), if_neg (fun h => hstopped h.1), if_neg hfailed',
    if_neg hlast']
  exact ⟨_, rfl⟩

variable {r : RuntimeState}

theorem updateStatistics_ok {record : CaptureStatistics → Result CaptureStatistics} {statistics : CaptureStatistics}
    (h : record r.statistics = .ok statistics) : r.updateStatistics record = some { r with statistics } := by
  simp [RuntimeState.updateStatistics, h]

theorem update_eq {update : Option RuntimeState} (h : update = some r) : s.update update = { s with runtime := r } := by
  rw [h]
  rfl

theorem nextState_cases {state next : CaptureStreamState} {t : Transition} (h : nextState state t = some next)
    (hkeeps : Operation.keepsRunning t = true) : next ≠ .stopped ∧ (next = .failed ↔ t = .failure) := by
  cases state <;> cases t <;> simp only [nextState, reduceCtorEq, Option.some.injEq] at h <;> subst h <;>
    simp_all [Operation.keepsRunning]

/-- The status is built again only when the state changes; entering the failed state is fine once a failure is on record,
any other change while none is. -/
theorem transition_eq {target : CaptureTarget} {t : Transition} (hgeneration : target.attachmentGeneration ≠ 0)
    (hcapacity : r.queueCapacity ≠ 0) (hdepth : r.queueDepth ≤ r.queueCapacity)
    (hlast : r.lastFrameSessionTime.isSome = true → 0 < r.statistics.receivedFrames) (hkeeps : Operation.keepsRunning t = true)
    (hnotStopped : r.state ≠ .stopped) (hfailed : r.state = .failed → r.failure.isSome = true)
    (hfailure : t = .failure → r.failure.isSome = true)
    (hquiet : t ≠ .failure → ∀ next, nextState r.state t = some next → next = r.state ∨ r.failure = none) :
    ∃ visible state, r.transition target t = some { r with visible, state } ∧ state ≠ .stopped ∧
      (state = .failed → r.failure.isSome = true) := by
  have hwith : r.withVisibility t = { r with visible := (r.withVisibility t).visible } := by
    cases t <;> rfl
  unfold RuntimeState.transition
  rw [hwith]
  dsimp only
  cases hnext : nextState r.state t with
  | none => exact ⟨_, r.state, rfl, hnotStopped, hfailed⟩
  | some next =>
    dsimp only
    by_cases hsame : next = r.state
    · rw [if_pos hsame]
      exact ⟨_, r.state, rfl, hnotStopped, hfailed⟩
    · rw [if_neg hsame]
      have hto := nextState_cases hnext hkeeps
      have hmatch : next = .failed ↔ r.failure.isSome = true := by
        rw [hto.2]
        refine ⟨hfailure, fun hsome => ?_⟩
        by_contra ht
        rcases hquiet ht next hnext with h | h
        · exact hsame h
        · simp [h] at hsome
      have hstatus : ∃ status, statusFromState target { r with visible := (r.withVisibility t).visible, state := next } =
          .ok status := statusFromState_isOk hgeneration hcapacity hdepth hto.1 hmatch hlast
      obtain ⟨status, hstatus⟩ := hstatus
      rw [hstatus]
      exact ⟨_, next, rfl, hto.1, hmatch.1⟩

/-! ### The order that the accounts need -/

end StreamRuntime

/-- The condition of one operation: a frame is counted as queued only when the depth has room for it, the worker begins
only with a frame that was counted, the state changes only while no failure waits for the failed state, and the worker
leaves no frame in its channel. -/
def Operation.orderly {F : Type*} (s : StreamRuntime F) : Operation F → Bool
  | recordReceived => decide (s.runtime.statistics.receivedFrames < u64Max)
  | recordAccepted => decide (s.runtime.queueDepth < s.runtime.queueCapacity)
  | beginProcessing => !s.reader.any isAccept || !s.queue.isEmpty
  | closeReceiver => s.queue.isEmpty
  | transition t => decide (t = .failure) ||
      (nextState s.runtime.state t).all fun next => decide (next = s.runtime.state) || s.runtime.failure.isNone
  | _ => true

namespace StreamRuntime

variable {F : Type*} {s : StreamRuntime F} {op : Operation F} {rest : List (Operation F)}

def orderly (s : StreamRuntime F) : Input F → Bool
  | .readerStep => s.reader.head?.all (·.orderly s)
  | .workerStep => s.worker.head?.all (·.orderly s)
  | .transition t => (Operation.transition t : Operation F).orderly s
  | .status => s.runtime.failure.isNone || decide (s.runtime.state = .failed)
  | _ => true

variable {worker : List (Operation F)}

theorem Scripted.none_received (h : Scripted (op :: rest) worker) (hrank : 1 ≤ op.rank) :
    rest.countP Operation.isReceived = 0 := by
  refine List.countP_eq_zero.2 fun op' hop' hreceived => ?_
  have := (List.pairwise_cons.1 h.sorted).1 op' hop'
  rw [Operation.rank_of_isReceived hreceived] at this
  omega

theorem Scripted.none_acked (h : Scripted (op :: rest) worker) (hrank : 2 ≤ op.rank) : rest.countP Operation.isAck = 0 := by
  refine List.countP_eq_zero.2 fun op' hop' hacked => ?_
  have := (List.pairwise_cons.1 h.sorted).1 op' hop'
  rw [Operation.rank_of_isAck hacked] at this
  omega

theorem Scripted.readerTail (h : Scripted (op :: rest) worker) : Scripted rest worker where
  sorted := (List.pairwise_cons.1 h.sorted).2
  reader op' hop' := h.reader op' (List.mem_cons_of_mem _ hop')
  worker := h.worker

theorem Scripted.workerTail {reader : List (Operation F)} (h : Scripted reader (op :: rest)) : Scripted reader rest where
  sorted := h.sorted
  reader := h.reader
  worker op' hop' := h.worker op' (List.mem_cons_of_mem _ hop')

theorem isAccept_le_isSlack (script : List (Operation F)) :
    script.countP Operation.isAccept ≤ script.countP Operation.isSlack :=
  List.countP_mono_left fun op _ h => by cases op <;> simp_all [Operation.isAccept, Operation.isSlack]

/-! ### The counters of one step

What a step does to the numbers that the accounts speak of, without the rest of the state. -/

/-- The numbers of the accounts. -/
structure Tally where
  received : Nat
  acknowledged : Nat
  accepted : Nat
  dropped : Nat
  persisted : Nat
  depth : Nat
  capacity : Nat
  queued : Nat
  discarded : Nat
  holding : Nat
  -- What the scripts still have to do.
  receives : Nat
  acks : Nat
  slacks : Nat
  accepts : Nat
  begins : Nat
  persists : Nat

/-- The accounts up to what the two scripts still have to count. -/
structure Tally.Sound (t : Tally) : Prop where
  received : t.received ≤ u64Max
  capacity : t.capacity ≤ u64Max
  persisted : t.persisted ≤ t.accepted
  depth_le : t.depth ≤ t.capacity
  depth : t.depth + t.accepts = t.queued + t.begins
  accounts : t.accepted + t.accepts = t.persisted + t.persists + t.discarded + t.holding + t.queued
  acknowledged : t.acknowledged + t.acks ≤ t.received + t.receives
  received_order : t.acknowledged ≤ t.received
  slack : t.accepted + t.dropped + t.slacks ≤ t.acknowledged + t.acks
  accounted : t.accepted + t.dropped ≤ t.acknowledged
  accepts_le : t.accepts ≤ t.slacks
  slacks_le : t.slacks ≤ 1
  busy : t.begins + t.persists ≤ 1
  -- The frame that is not accounted for is the last of the queue, or the one just received.
  accepts_in : t.accepts = 0 ∨ 0 < t.queued + t.begins

def tally (s : StreamRuntime F) : Tally where
  received := s.runtime.statistics.receivedFrames
  acknowledged := s.runtime.statistics.acknowledgedFrames
  accepted := s.runtime.statistics.acceptedFrames
  dropped := s.runtime.statistics.droppedFrames
  persisted := s.runtime.statistics.persistedFrames
  depth := s.runtime.queueDepth
  capacity := s.runtime.queueCapacity
  queued := s.queue.length
  discarded := s.discarded
  holding := s.inHand.isSome.toNat
  receives := s.reader.countP Operation.isReceived
  acks := s.reader.countP Operation.isAck
  slacks := s.reader.countP Operation.isSlack
  accepts := s.reader.countP Operation.isAccept
  begins := s.worker.countP Operation.isBegin
  persists := s.worker.countP Operation.isPersisted

theorem Tally.Sound.valid (h : s.tally.Sound) : s.runtime.statistics.Valid :=
  ⟨h.received, h.received_order, h.accounted, h.persisted⟩

namespace Tally.Sound

variable {t : Tally}

variable {n : Nat}

theorem received_one (h : t.Sound) (hn : t.receives = n + 1) (hlt : t.received < u64Max) :
    Sound { t with received := t.received + 1, receives := n } := by
  obtain ⟨h1, h2, h3, h4, h5, h6, h7, h8, h9, h10, h11, h12, h13, h14⟩ := h
  constructor <;> dsimp only <;> omega

theorem acknowledged_one (h : t.Sound) (hn : t.acks = n + 1) (hreceives : t.receives = 0) :
    Sound { t with acknowledged := t.acknowledged + 1, acks := n } := by
  obtain ⟨h1, h2, h3, h4, h5, h6, h7, h8, h9, h10, h11, h12, h13, h14⟩ := h
  constructor <;> dsimp only <;> omega

theorem accepted_one {m : Nat} (h : t.Sound) (hn : t.slacks = n + 1) (hm : t.accepts = m + 1) (hacks : t.acks = 0)
    (hlt : t.depth < t.capacity) :
    Sound { t with accepted := t.accepted + 1, depth := t.depth + 1, slacks := n, accepts := m } := by
  obtain ⟨h1, h2, h3, h4, h5, h6, h7, h8, h9, h10, h11, h12, h13, h14⟩ := h
  constructor <;> dsimp only <;> omega

theorem dropped_one (h : t.Sound) (hn : t.slacks = n + 1) (haccepts : t.accepts = 0) (hacks : t.acks = 0) :
    Sound { t with dropped := t.dropped + 1, slacks := n } := by
  obtain ⟨h1, h2, h3, h4, h5, h6, h7, h8, h9, h10, h11, h12, h13, h14⟩ := h
  constructor <;> dsimp only <;> omega

theorem sent_one (h : t.Sound) (hn : t.slacks = 1) (haccepts : t.accepts = 0) :
    Sound { t with queued := t.queued + 1, accepts := 1 } := by
  obtain ⟨h1, h2, h3, h4, h5, h6, h7, h8, h9, h10, h11, h12, h13, h14⟩ := h
  constructor <;> dsimp only <;> omega

theorem taken_one (h : t.Sound) (hn : t.queued = n + 1) (hbegins : t.begins = 0) (hpersists : t.persists = 0)
    (hholding : t.holding = 0) : Sound { t with queued := n, begins := 1, holding := 1 } := by
  obtain ⟨h1, h2, h3, h4, h5, h6, h7, h8, h9, h10, h11, h12, h13, h14⟩ := h
  constructor <;> dsimp only <;> omega

theorem begun_one (h : t.Sound) (hn : t.begins = n + 1) (hcounted : t.accepts = 0 ∨ 0 < t.queued) :
    Sound { t with depth := t.depth - 1, begins := n } := by
  obtain ⟨h1, h2, h3, h4, h5, h6, h7, h8, h9, h10, h11, h12, h13, h14⟩ := h
  constructor <;> dsimp only <;> omega

theorem persists_one (h : t.Sound) (hbegins : t.begins = 0) (hpersists : t.persists = 0) (hholding : t.holding = 1) :
    Sound { t with holding := 0, persists := 1 } := by
  obtain ⟨h1, h2, h3, h4, h5, h6, h7, h8, h9, h10, h11, h12, h13, h14⟩ := h
  constructor <;> dsimp only <;> omega

theorem discarded_one (h : t.Sound) (hholding : t.holding = 1) :
    Sound { t with holding := 0, discarded := t.discarded + 1 } := by
  obtain ⟨h1, h2, h3, h4, h5, h6, h7, h8, h9, h10, h11, h12, h13, h14⟩ := h
  constructor <;> dsimp only <;> omega

theorem persisted_lt (h : t.Sound) (hn : t.persists = n + 1) : t.persisted < t.accepted := by
  obtain ⟨h1, h2, h3, h4, h5, h6, h7, h8, h9, h10, h11, h12, h13, h14⟩ := h
  omega

theorem persisted_one (h : t.Sound) (hn : t.persists = n + 1) :
    Sound { t with persisted := t.persisted + 1, persists := n } := by
  have hlt := h.persisted_lt hn
  obtain ⟨h1, h2, h3, h4, h5, h6, h7, h8, h9, h10, h11, h12, h13, h14⟩ := h
  constructor <;> dsimp only <;> omega

theorem turn {m k : Nat} (h : t.Sound) (hreceives : t.receives = 0) (hacks : t.acks = 0) (hslacks : t.slacks = 0)
    (haccepts : t.accepts = 0) (hn : m ≤ n) (hm : k ≤ m) (hk : k ≤ 1) :
    Sound { t with receives := n, acks := m, slacks := k } := by
  obtain ⟨h1, h2, h3, h4, h5, h6, h7, h8, h9, h10, h11, h12, h13, h14⟩ := h
  constructor <;> dsimp only <;> omega

end Tally.Sound

/-! ### The operations of the reader -/

/-- A sound pipeline: the accounts are right, the scripts are those of the source, and a stream that failed has its
failure on record. -/
structure Sound (s : StreamRuntime F) : Prop where
  tally : s.tally.Sound
  lastFrame : s.runtime.lastFrameSessionTime.isSome = true → 0 < s.runtime.statistics.receivedFrames
  scripted : Scripted s.reader s.worker
  healthy : s.Healthy

theorem Sound.accounted (h : s.Sound) : s.Accounted where
  statistics := CaptureStatistics.validate_of_valid h.tally.valid
  persisted := h.tally.persisted
  depth_le := h.tally.depth_le
  status := h.healthy.running
  rest hreader hworker hhand := by
    have hdepth := h.tally.depth
    have haccounts := h.tally.accounts
    simp only [StreamRuntime.tally, hreader, hworker, hhand, List.countP_nil, Option.isSome_none, Bool.toNat_false] at hdepth haccounts
    omega

/-- The state after an operation of the reader. -/
def readerStep (s : StreamRuntime F) (op : Operation F) (rest : List (Operation F)) : StreamRuntime F :=
  let next := { s with reader := rest }.perform op
  { next.1 with reader := next.2 ++ next.1.reader }

theorem Healthy.readerTail {runtime : RuntimeState} (h : s.Healthy) (hr : s.reader = op :: rest)
    (hcapacity : runtime.queueCapacity = s.runtime.queueCapacity) (hstate : runtime.state = s.runtime.state)
    (hfailure : runtime.failure = s.runtime.failure) (hop : ∀ stage, op ≠ .recordFailure stage) :
    Healthy { s with reader := rest, runtime } where
  running := h.running
  generation := h.generation
  capacity := hcapacity ▸ h.capacity
  notStopped := hstate ▸ h.notStopped
  failed := by
    rw [hstate, hfailure]
    exact h.failed
  reader := by
    rw [hfailure]
    exact h.reader.imp_right fun hr' => Operation.announces_tail (hr ▸ hr') hop
  worker := by
    rw [hfailure]
    exact h.worker

theorem Sound.reader_received (h : s.Sound) (hr : s.reader = .recordReceived :: rest)
    (hg : (Operation.recordReceived : Operation F).orderly s = true) : (s.readerStep .recordReceived rest).Sound := by
  have hlt : s.runtime.statistics.receivedFrames < u64Max := of_decide_eq_true hg
  have hupdate : s.runtime.recordReceived = some _ := updateStatistics_ok (h.tally.valid.recordReceived hlt)
  have hstep : s.readerStep .recordReceived rest = { s with reader := rest, runtime := { s.runtime with
      statistics := { s.runtime.statistics with receivedFrames := s.runtime.statistics.receivedFrames + 1 } } } := by
    simp only [readerStep, perform, update_eq hupdate, List.nil_append]
  rw [hstep]
  refine ⟨?_, fun _ => Nat.succ_pos _, (hr ▸ h.scripted).readerTail, h.healthy.readerTail hr rfl rfl rfl nofun⟩
  have hn : s.tally.receives = rest.countP Operation.isReceived + 1 := by
    simp [StreamRuntime.tally, hr, List.countP_cons, Operation.isReceived]
  have hsound := h.tally.received_one hn hlt
  simpa [StreamRuntime.tally, hr, List.countP_cons, Operation.isAck, Operation.isSlack, Operation.isAccept] using hsound

theorem Sound.reader_acked {session : SessionTime} (h : s.Sound) (hr : s.reader = .recordAck session :: rest) :
    (s.readerStep (.recordAck session) rest).Sound := by
  have hscripted := hr ▸ h.scripted
  have hreceives : s.tally.receives = 0 := by
    have := hscripted.none_received (Nat.le_refl 1)
    simpa [StreamRuntime.tally, hr, List.countP_cons, Operation.isReceived] using this
  have hn : s.tally.acks = rest.countP Operation.isAck + 1 := by
    simp [StreamRuntime.tally, hr, List.countP_cons, Operation.isAck]
  have hsound := h.tally.acknowledged_one hn hreceives
  have hlt : s.runtime.statistics.acknowledgedFrames < s.runtime.statistics.receivedFrames := hsound.received_order
  obtain ⟨last, hlast⟩ : ∃ last, s.runtime.recordAck session = some { s.runtime with
      lastFrameSessionTime := last
      statistics := { s.runtime.statistics with
        acknowledgedFrames := s.runtime.statistics.acknowledgedFrames + 1 } } :=
    ⟨_, updateStatistics_ok (h.tally.valid.recordAcknowledged hlt)⟩
  have hstep : s.readerStep (.recordAck session) rest = { s with reader := rest, runtime := { s.runtime with
      lastFrameSessionTime := last
      statistics := { s.runtime.statistics with
        acknowledgedFrames := s.runtime.statistics.acknowledgedFrames + 1 } } } := by
    simp only [readerStep, perform, update_eq hlast, List.nil_append]
  rw [hstep]
  refine ⟨?_, fun _ => Nat.lt_of_le_of_lt (Nat.zero_le _) hlt, hscripted.readerTail,
    h.healthy.readerTail hr rfl rfl rfl nofun⟩
  simpa [StreamRuntime.tally, hr, List.countP_cons, Operation.isReceived, Operation.isSlack, Operation.isAccept] using hsound

theorem Sound.reader_accepted (h : s.Sound) (hr : s.reader = .recordAccepted :: rest)
    (hg : (Operation.recordAccepted : Operation F).orderly s = true) : (s.readerStep .recordAccepted rest).Sound := by
  have hlt : s.runtime.queueDepth < s.runtime.queueCapacity := of_decide_eq_true hg
  have hscripted := hr ▸ h.scripted
  have hacks : s.tally.acks = 0 := by
    have := hscripted.none_acked (Nat.le_refl 2)
    simpa [StreamRuntime.tally, hr, List.countP_cons, Operation.isAck] using this
  have hn : s.tally.slacks = rest.countP Operation.isSlack + 1 := by
    simp [StreamRuntime.tally, hr, List.countP_cons, Operation.isSlack]
  have hm : s.tally.accepts = rest.countP Operation.isAccept + 1 := by
    simp [StreamRuntime.tally, hr, List.countP_cons, Operation.isAccept]
  have hsound := h.tally.accepted_one hn hm hacks hlt
  have hdepth : saturatingAdd s.runtime.queueDepth 1 = s.runtime.queueDepth + 1 :=
    CaptureStatistics.saturatingAdd_one (Nat.lt_of_lt_of_le hlt h.tally.capacity)
  have hroom : s.runtime.statistics.acceptedFrames + s.runtime.statistics.droppedFrames <
      s.runtime.statistics.acknowledgedFrames := by
    have := hsound.accounted
    dsimp only [StreamRuntime.tally] at this
    omega
  have hupdate : s.runtime.recordAccepted = some { s.runtime with
      queueDepth := s.runtime.queueDepth + 1
      statistics := { s.runtime.statistics with acceptedFrames := s.runtime.statistics.acceptedFrames + 1 } } := by
    rw [RuntimeState.recordAccepted, hdepth]
    exact updateStatistics_ok (h.tally.valid.recordAccepted hroom)
  have hstep : s.readerStep .recordAccepted rest = { s with reader := rest, runtime := { s.runtime with
      queueDepth := s.runtime.queueDepth + 1
      statistics := { s.runtime.statistics with acceptedFrames := s.runtime.statistics.acceptedFrames + 1 } } } := by
    simp only [readerStep, perform, update_eq hupdate, List.nil_append]
  rw [hstep]
  refine ⟨?_, h.lastFrame, hscripted.readerTail, h.healthy.readerTail hr rfl rfl rfl nofun⟩
  simpa [StreamRuntime.tally, hr, List.countP_cons, Operation.isReceived, Operation.isAck] using hsound

theorem Sound.reader_dropped (h : s.Sound) (hr : s.reader = .recordDropped :: rest) :
    (s.readerStep .recordDropped rest).Sound := by
  have hscripted := hr ▸ h.scripted
  have hacks : s.tally.acks = 0 := by
    have := hscripted.none_acked (Nat.le_refl 2)
    simpa [StreamRuntime.tally, hr, List.countP_cons, Operation.isAck] using this
  have hn : s.tally.slacks = rest.countP Operation.isSlack + 1 := by
    simp [StreamRuntime.tally, hr, List.countP_cons, Operation.isSlack]
  have haccepts : s.tally.accepts = 0 := by
    have hle := isAccept_le_isSlack rest
    have hone := h.tally.slacks_le
    have : s.tally.accepts = rest.countP Operation.isAccept := by
      simp [StreamRuntime.tally, hr, List.countP_cons, Operation.isAccept]
    omega
  have hsound := h.tally.dropped_one hn haccepts hacks
  have hroom : s.runtime.statistics.acceptedFrames + s.runtime.statistics.droppedFrames <
      s.runtime.statistics.acknowledgedFrames := by
    have := hsound.accounted
    dsimp only [StreamRuntime.tally] at this
    omega
  have hupdate : s.runtime.recordDropped = some { s.runtime with
      statistics := { s.runtime.statistics with droppedFrames := s.runtime.statistics.droppedFrames + 1 } } :=
    updateStatistics_ok (h.tally.valid.recordDropped hroom)
  have hstep : s.readerStep .recordDropped rest = { s with reader := rest, runtime := { s.runtime with
      statistics := { s.runtime.statistics with droppedFrames := s.runtime.statistics.droppedFrames + 1 } } } := by
    simp only [readerStep, perform, update_eq hupdate, List.nil_append]
  rw [hstep]
  refine ⟨?_, h.lastFrame, hscripted.readerTail, h.healthy.readerTail hr rfl rfl rfl nofun⟩
  simpa [StreamRuntime.tally, hr, List.countP_cons, Operation.isReceived, Operation.isAck, Operation.isAccept] using hsound

theorem Sound.reader_sent {frame : F} (h : s.Sound) (hr : s.reader = .trySend frame :: rest) :
    (s.readerStep (.trySend frame) rest).Sound := by
  have hscripted := hr ▸ h.scripted
  have hslacks : s.tally.slacks = rest.countP Operation.isSlack + 1 := by
    simp [StreamRuntime.tally, hr, List.countP_cons, Operation.isSlack]
  have hone := h.tally.slacks_le
  have hle := isAccept_le_isSlack rest
  have haccepts : s.tally.accepts = 0 := by
    have : s.tally.accepts = rest.countP Operation.isAccept := by
      simp [StreamRuntime.tally, hr, List.countP_cons, Operation.isAccept]
    omega
  have hrest : rest.countP Operation.isSlack = 0 ∧ rest.countP Operation.isAccept = 0 := by omega
  -- Only failure handling may follow a send, and it has the last rank.
  have hscript : ∀ more : List (Operation F), (∀ op ∈ more, op.rank = 2 ∧ op.ofReader = true) →
      Scripted (more ++ rest) s.worker := by
    intro more hmore
    refine ⟨?_, fun op hop => ?_, hscripted.worker⟩
    · refine List.pairwise_append.2 ⟨?_, (List.pairwise_cons.1 hscripted.sorted).2, fun op hop op' hop' => ?_⟩
      · exact List.pairwise_of_forall_mem_list fun op hop op' hop' => by
          rw [(hmore op hop).1, (hmore op' hop').1]
      · rw [(hmore op hop).1]
        exact (List.pairwise_cons.1 hscripted.sorted).1 op' hop'
    · rcases List.mem_append.1 hop with hop | hop
      · exact (hmore op hop).2
      · exact hscripted.reader op (List.mem_cons_of_mem _ hop)
  have hannounces : ∀ more : List (Operation F), (∀ script, Operation.announces (more ++ script) = Operation.announces script) →
      s.runtime.failure.isSome = true ∨ Operation.announces (more ++ rest) = true := by
    intro more hmore
    have hreader := h.healthy.reader
    rw [hr] at hreader
    rw [hmore]
    exact hreader.imp_right fun hr' => Operation.announces_tail hr' (by exact nofun)
  by_cases hsend : s.accepting = true ∧ s.senderOpen = true ∧ s.receiverOpen = true ∧
      s.queue.length < s.runtime.queueCapacity
  · obtain ⟨haccepting, hsender, hreceiver, hroom⟩ := hsend
    have hstep : s.readerStep (.trySend frame) rest =
        { s with queue := s.queue ++ [frame], reader := .recordAccepted :: rest } := by
      simp [readerStep, perform, trySend, haccepting, hsender, hreceiver, Nat.not_le.2 hroom]
    rw [hstep]
    refine ⟨?_, h.lastFrame, hscript [.recordAccepted] (by simp [Operation.rank, Operation.ofReader]),
      { h.healthy with reader := hannounces [.recordAccepted] fun _ => rfl }⟩
    have hsound := h.tally.sent_one (by omega) haccepts
    simpa [StreamRuntime.tally, hr, List.countP_cons, Operation.isReceived, Operation.isAck, Operation.isSlack,
      Operation.isAccept, hrest] using hsound
  · have hstep : s.readerStep (.trySend frame) rest =
        { s with reader := .declareGap :: .recordDropped :: rest } := by
      unfold readerStep perform trySend
      dsimp only
      split
      · rename_i hopen
        rw [if_pos]
        · rfl
        · have := Bool.and_eq_true_iff.1 hopen
          by_contra hfull
          simp only [Bool.or_eq_true, Bool.not_eq_true', decide_eq_true_eq, not_or, Bool.not_eq_false, not_le] at hfull
          exact hsend ⟨this.1, this.2, hfull.1, hfull.2⟩
      · rfl
    rw [hstep]
    refine ⟨?_, h.lastFrame, hscript [.declareGap, .recordDropped] (by simp [Operation.rank, Operation.ofReader]),
      { h.healthy with reader := hannounces [.declareGap, .recordDropped] fun _ => rfl }⟩
    simpa [StreamRuntime.tally, hr, List.countP_cons, Operation.isReceived, Operation.isAck, Operation.isSlack,
      Operation.isAccept, hrest] using h.tally

/-- The counters of the runtime stay, and what is known of its failure. -/
structure Harmless (r r' : RuntimeState) : Prop where
  statistics : r'.statistics = { r.statistics with gapCount := r'.statistics.gapCount }
  depth : r'.queueDepth = r.queueDepth
  capacity : r'.queueCapacity = r.queueCapacity
  lastFrame : r'.lastFrameSessionTime = r.lastFrameSessionTime
  notStopped : r'.state ≠ .stopped
  failed : r'.state = .failed → r'.failure.isSome = true
  failure : r.failure.isSome = true → r'.failure.isSome = true

theorem Sound.perform_common (h : s.Sound) (op : Operation F) (hcommon : op.isCommon = true) (hg : op.orderly s = true)
    (hkeeps : ∀ t, op = .transition t → Operation.keepsRunning t = true)
    (hfailure : op = .transition .failure → s.runtime.failure.isSome = true) :
    ∃ r a b, Harmless s.runtime r ∧ (∀ stage, op = .recordFailure stage → r.failure.isSome = true) ∧
      ∀ reader worker, ({ s with reader, worker } : StreamRuntime F).perform op =
        ({ s with reader, worker, runtime := r, accepting := a, senderOpen := b }, []) := by
  have hrefl : Harmless s.runtime s.runtime :=
    ⟨rfl, rfl, rfl, rfl, h.healthy.notStopped, h.healthy.failed, id⟩
  cases op with
  | transition t =>
    have hquiet : t ≠ .failure → ∀ next, nextState s.runtime.state t = some next →
        next = s.runtime.state ∨ s.runtime.failure = none := by
      intro ht next hnext
      simpa [Operation.orderly, ht, hnext] using hg
    obtain ⟨visible, state, htransition, hstopped, hfailed⟩ := transition_eq h.healthy.generation h.healthy.capacity
      h.tally.depth_le h.lastFrame (hkeeps t rfl) h.healthy.notStopped h.healthy.failed
      (fun ht => hfailure (ht ▸ rfl)) hquiet
    refine ⟨{ s.runtime with visible, state }, s.accepting, s.senderOpen,
      ⟨rfl, rfl, rfl, rfl, hstopped, hfailed, id⟩, nofun, fun reader worker => ?_⟩
    simp only [perform]
    rw [update_eq htransition]
  | declareGap =>
    have hgap : s.runtime.declareGap = some _ := updateStatistics_ok h.tally.valid.recordGap
    refine ⟨{ s.runtime with statistics :=
      { s.runtime.statistics with gapCount := saturatingAdd s.runtime.statistics.gapCount 1 } }, s.accepting,
      s.senderOpen, ⟨rfl, rfl, rfl, rfl, h.healthy.notStopped, h.healthy.failed, id⟩, nofun, fun reader worker => ?_⟩
    simp only [perform]
    rw [update_eq hgap]
  | closeAcceptance => exact ⟨s.runtime, false, s.senderOpen, hrefl, nofun, fun _ _ => rfl⟩
  | recordFailure stage =>
    have hsome : (s.runtime.recordFailure stage).failure.isSome = true := by
      cases hf : s.runtime.failure <;> simp [RuntimeState.recordFailure, hf]
    exact ⟨s.runtime.recordFailure stage, s.accepting, s.senderOpen,
      ⟨rfl, rfl, rfl, rfl, h.healthy.notStopped, fun _ => hsome, fun _ => hsome⟩, fun _ _ => hsome, fun _ _ => rfl⟩
  | closeSender => exact ⟨s.runtime, s.accepting, false, hrefl, nofun, fun _ _ => rfl⟩
  | _ => exact absurd hcommon (by simp [Operation.isCommon])

variable {r : RuntimeState} {script : List (Operation F)}

theorem Harmless.tally {a b : Bool} (h : Harmless s.runtime r) :
    ({ s with runtime := r, accepting := a, senderOpen := b } : StreamRuntime F).tally = s.tally := by
  simp only [StreamRuntime.tally]
  rw [h.statistics, h.depth, h.capacity]

theorem Sound.common {a b : Bool} {reader worker : List (Operation F)} (h : s.Sound) (hr : Harmless s.runtime r)
    (htally : ({ s with reader, worker } : StreamRuntime F).tally = s.tally) (hscripted : Scripted reader worker)
    (hreader : r.failure.isSome = true ∨ Operation.announces reader = true)
    (hworker : r.failure.isSome = true ∨ Operation.announces worker = true) :
    Sound { s with reader, worker, runtime := r, accepting := a, senderOpen := b } where
  tally := by
    have : Harmless ({ s with reader, worker } : StreamRuntime F).runtime r := hr
    rw [this.tally, htally]
    exact h.tally
  lastFrame := by
    rw [hr.lastFrame, hr.statistics]
    exact h.lastFrame
  scripted := hscripted
  healthy :=
    { running := h.healthy.running
      generation := h.healthy.generation
      capacity := hr.capacity ▸ h.healthy.capacity
      notStopped := hr.notStopped
      failed := hr.failed
      reader := hreader
      worker := hworker }

theorem announces_rest {r' : RuntimeState} (hhead : r.failure.isSome = true ∨ Operation.announces (op :: rest) = true)
    (hkeep : r.failure.isSome = true → r'.failure.isSome = true)
    (hop : ∀ stage, op = .recordFailure stage → r'.failure.isSome = true) :
    r'.failure.isSome = true ∨ Operation.announces rest = true := by
  rcases hhead with hsome | hannounces
  · exact .inl (hkeep hsome)
  · by_cases hstage : ∃ stage, op = .recordFailure stage
    · obtain ⟨stage, hstage⟩ := hstage
      exact .inl (hop stage hstage)
    · exact .inr (Operation.announces_tail hannounces fun stage heq => hstage ⟨stage, heq⟩)

theorem Sound.reader_common (h : s.Sound) (hr : s.reader = op :: rest) (hcommon : op.isCommon = true)
    (hg : op.orderly s = true) : (s.readerStep op rest).Sound := by
  have hscripted := hr ▸ h.scripted
  have hreader := h.healthy.reader
  rw [hr] at hreader
  obtain ⟨r, a, b, hharmless, hrecord, hperform⟩ := h.perform_common op hcommon hg
    (fun t ht => by simpa [ht, Operation.ofReader] using hscripted.reader op List.mem_cons_self)
    (fun ht => hreader.resolve_right (by simp [ht, Operation.announces]))
  have hstep : s.readerStep op rest = { s with reader := rest, runtime := r, accepting := a, senderOpen := b } := by
    simp only [readerStep, hperform, List.nil_append]
  rw [hstep]
  refine h.common hharmless ?_ hscripted.readerTail (announces_rest hreader hharmless.failure hrecord)
    (h.healthy.worker.imp_left hharmless.failure)
  cases op <;> simp_all [StreamRuntime.tally, Operation.isReceived, Operation.isAck, Operation.isSlack,
    Operation.isAccept, Operation.isCommon]

/-- The state after an operation of the worker. -/
def workerStep (s : StreamRuntime F) (op : Operation F) (rest : List (Operation F)) : StreamRuntime F :=
  let next := { s with worker := rest }.perform op
  { next.1 with worker := next.2 ++ next.1.worker }

theorem Sound.worker_common (h : s.Sound) (hw : s.worker = op :: rest) (hcommon : op.isCommon = true)
    (hg : op.orderly s = true) : (s.workerStep op rest).Sound := by
  have hscripted := hw ▸ h.scripted
  have hworker := h.healthy.worker
  rw [hw] at hworker
  obtain ⟨r, a, b, hharmless, hrecord, hperform⟩ := h.perform_common op hcommon hg
    (fun t ht => by simpa [ht, Operation.ofWorker] using hscripted.worker op List.mem_cons_self)
    (fun ht => hworker.resolve_right (by simp [ht, Operation.announces]))
  have hstep : s.workerStep op rest = { s with worker := rest, runtime := r, accepting := a, senderOpen := b } := by
    simp only [workerStep, hperform, List.nil_append]
  rw [hstep]
  refine h.common hharmless ?_ hscripted.workerTail (h.healthy.reader.imp_left hharmless.failure)
    (announces_rest hworker hharmless.failure hrecord)
  cases op <;> simp_all [StreamRuntime.tally, Operation.isBegin, Operation.isPersisted, Operation.isCommon]

theorem Healthy.workerTail {runtime : RuntimeState} (h : s.Healthy) (hw : s.worker = op :: rest)
    (hcapacity : runtime.queueCapacity = s.runtime.queueCapacity) (hstate : runtime.state = s.runtime.state)
    (hfailure : runtime.failure = s.runtime.failure) (hop : ∀ stage, op ≠ .recordFailure stage) :
    Healthy { s with worker := rest, runtime } where
  running := h.running
  generation := h.generation
  capacity := hcapacity ▸ h.capacity
  notStopped := hstate ▸ h.notStopped
  failed := by
    rw [hstate, hfailure]
    exact h.failed
  reader := by
    rw [hfailure]
    exact h.reader
  worker := by
    rw [hfailure]
    exact h.worker.imp_right fun hw' => Operation.announces_tail (hw ▸ hw') hop

theorem Sound.worker_begun (h : s.Sound) (hw : s.worker = .beginProcessing :: rest)
    (hg : (Operation.beginProcessing : Operation F).orderly s = true) : (s.workerStep .beginProcessing rest).Sound := by
  have hn : s.tally.begins = rest.countP Operation.isBegin + 1 := by
    simp [StreamRuntime.tally, hw, List.countP_cons, Operation.isBegin]
  have hcounted : s.tally.accepts = 0 ∨ 0 < s.tally.queued := by
    rcases Bool.or_eq_true_iff.1 hg with hnone | hqueue
    · refine .inl (List.countP_eq_zero.2 fun op hop haccept => ?_)
      have : s.reader.any Operation.isAccept = true := List.any_eq_true.2 ⟨op, hop, haccept⟩
      simp [this] at hnone
    · exact .inr (List.length_pos_iff.2 (by simpa using hqueue))
  have hsound := h.tally.begun_one hn hcounted
  refine ⟨?_, h.lastFrame, (hw ▸ h.scripted).workerTail, h.healthy.workerTail hw rfl rfl rfl nofun⟩
  simpa [workerStep, perform, RuntimeState.beginProcessing, StreamRuntime.tally, hw, List.countP_cons,
    Operation.isPersisted] using hsound

theorem Sound.worker_persisted (h : s.Sound) (hw : s.worker = .persisted :: rest) :
    (s.workerStep .persisted rest).Sound := by
  have hn : s.tally.persists = rest.countP Operation.isPersisted + 1 := by
    simp [StreamRuntime.tally, hw, List.countP_cons, Operation.isPersisted]
  have hsound := h.tally.persisted_one hn
  have hupdate : s.runtime.persisted = some { s.runtime with
      statistics := { s.runtime.statistics with persistedFrames := s.runtime.statistics.persistedFrames + 1 } } :=
    updateStatistics_ok (h.tally.valid.recordPersisted (h.tally.persisted_lt hn))
  have hstep : s.workerStep .persisted rest = { s with worker := rest, runtime := { s.runtime with
      statistics := { s.runtime.statistics with persistedFrames := s.runtime.statistics.persistedFrames + 1 } } } := by
    simp only [workerStep, perform, update_eq hupdate, List.nil_append]
  rw [hstep]
  refine ⟨?_, h.lastFrame, (hw ▸ h.scripted).workerTail, h.healthy.workerTail hw rfl rfl rfl nofun⟩
  simpa [StreamRuntime.tally, hw, List.countP_cons, Operation.isBegin] using hsound

theorem Sound.worker_completed (h : s.Sound) (hw : s.worker = .completeProcessing :: rest) :
    (s.workerStep .completeProcessing rest).Sound := by
  refine ⟨?_, h.lastFrame, (hw ▸ h.scripted).workerTail, h.healthy.workerTail hw rfl rfl rfl nofun⟩
  simpa [workerStep, perform, RuntimeState.completeProcessing, StreamRuntime.tally, hw, List.countP_cons,
    Operation.isBegin, Operation.isPersisted] using h.tally

theorem Sound.worker_resumes (h : s.Sound) (hw : s.worker = .resumeBudget :: rest) :
    (s.workerStep .resumeBudget rest).Sound := by
  have hscripted := (hw ▸ h.scripted).workerTail
  have hresume : Operation.keepsRunning s.runtime.resumeBudgetTransition = true ∧
      s.runtime.resumeBudgetTransition ≠ .failure := by
    unfold RuntimeState.resumeBudgetTransition
    split <;> exact ⟨rfl, nofun⟩
  have hhealthy : Healthy { s with worker := rest } := h.healthy.workerTail hw rfl rfl rfl nofun
  refine ⟨?_, h.lastFrame, ⟨hscripted.sorted, hscripted.reader, ?_⟩, { hhealthy with worker := ?_ }⟩
  · simpa [workerStep, perform, StreamRuntime.tally, hw, List.countP_cons, Operation.isBegin, Operation.isPersisted]
      using h.tally
  · intro op hop
    rcases List.mem_cons.1 hop with rfl | hop
    · exact hresume.1
    · exact hscripted.worker op hop
  · refine hhealthy.worker.imp_right fun hannounces => ?_
    have hhead : ∀ t, t ≠ .failure → Operation.announces (.transition t :: rest) = Operation.announces rest := by
      intro t ht
      cases t <;> first | rfl | exact absurd rfl ht
    exact (hhead _ hresume.2).trans hannounces

theorem Sound.worker_closed (h : s.Sound) (hw : s.worker = .closeReceiver :: rest)
    (hg : (Operation.closeReceiver : Operation F).orderly s = true) : (s.workerStep .closeReceiver rest).Sound := by
  have hempty : s.queue = [] := by simpa [Operation.orderly] using hg
  have hhealthy : Healthy { s with worker := rest } := h.healthy.workerTail hw rfl rfl rfl nofun
  refine ⟨?_, h.lastFrame, (hw ▸ h.scripted).workerTail, { hhealthy with }⟩
  simpa [workerStep, perform, StreamRuntime.tally, hw, hempty, List.countP_cons, Operation.isBegin,
    Operation.isPersisted] using h.tally

/-! ### Runs -/

theorem Sound.frame {outcome : FrameOutcome F} (h : s.Sound) (hr : s.reader = []) :
    Sound { s with reader := readerScript outcome } := by
  have hturn := h.tally.turn (n := (readerScript outcome : List (Operation F)).countP Operation.isReceived)
    (m := (readerScript outcome : List (Operation F)).countP Operation.isAck)
    (k := (readerScript outcome : List (Operation F)).countP Operation.isSlack)
    (by simp [StreamRuntime.tally, hr]) (by simp [StreamRuntime.tally, hr]) (by simp [StreamRuntime.tally, hr])
    (by simp [StreamRuntime.tally, hr])
    (by cases outcome <;> exact Nat.le_of_ble_eq_true rfl) (by cases outcome <;> exact Nat.le_of_ble_eq_true rfl)
    (by cases outcome <;> exact Nat.le_of_ble_eq_true rfl)
  have haccepts : (readerScript outcome : List (Operation F)).countP Operation.isAccept = 0 := by
    cases outcome <;> rfl
  refine ⟨?_, h.lastFrame, ⟨?_, ?_, h.scripted.worker⟩, { h.healthy with reader := .inr ?_ }⟩
  · simpa [StreamRuntime.tally, hr, haccepts] using hturn
  · cases outcome <;> simp [readerScript, fail, Operation.rank]
  · cases outcome <;> simp [readerScript, fail, Operation.ofReader, Operation.keepsRunning]
  · cases outcome <;> rfl

/-- A worker script that neither begins nor records a failure too late. -/
structure Turn (script : List (Operation F)) : Prop where
  worker : ∀ op ∈ script, op.ofWorker = true
  begins : script.countP Operation.isBegin = 0
  announces : Operation.announces script = true

theorem turn_finish (finalGapFails : Bool) : Turn (finish finalGapFails : List (Operation F)) := by
  cases finalGapFails <;>
    exact ⟨by simp [finish, fail, Operation.ofWorker, Operation.keepsRunning], rfl, rfl⟩

theorem turn_fail (stage : CaptureFailureStage) (h : Turn script) : Turn (fail stage ++ script) := by
  refine ⟨?_, ?_, rfl⟩
  · intro op hop
    have hfail : ∀ op ∈ (fail stage : List (Operation F)), op.ofWorker = true := by
      simp [fail, Operation.ofWorker, Operation.keepsRunning]
    exact (List.mem_append.1 hop).elim (hfail op) (h.worker op)
  · rw [List.countP_append, h.begins]
    rfl

theorem turn_discard (h : Turn script) : Turn (.completeProcessing :: .declareGap :: script) := by
  refine ⟨?_, h.begins, h.announces⟩
  simp only [List.mem_cons, forall_eq_or_imp]
  exact ⟨rfl, rfl, h.worker⟩

theorem turn_process (outcome : ProcessOutcome) : Turn (processScript outcome : List (Operation F)) := by
  cases outcome with
  | appended => exact ⟨by simp [processScript, Operation.ofWorker], rfl, rfl⟩
  | gapPersistenceFailed finalGapFails => exact turn_fail _ (turn_finish _)
  | decodeFailed gapFails finalGapFails => exact turn_discard (turn_fail _ (turn_finish _))
  | budgetExhausted => exact ⟨by simp [processScript, Operation.ofWorker, Operation.keepsRunning], rfl, rfl⟩
  | appendFailed finalGapFails => exact turn_discard (turn_fail _ (turn_finish _))

theorem turn_budget (outcome : BudgetOutcome) : Turn (budgetScript outcome : List (Operation F)) := by
  cases outcome with
  | refused finalGapFails => exact turn_finish _
  | gapPersistenceFailed finalGapFails => exact turn_fail _ (turn_finish _)
  | allowed => exact ⟨by simp [budgetScript, Operation.ofWorker], rfl, rfl⟩

theorem persists_finish (finalGapFails : Bool) :
    (finish finalGapFails : List (Operation F)).countP Operation.isPersisted = 0 := by
  cases finalGapFails <;> rfl

theorem persists_process (outcome : ProcessOutcome) :
    (processScript outcome : List (Operation F)).countP Operation.isPersisted = (decide (outcome = .appended)).toNat := by
  cases outcome with
  | appended => rfl
  | gapPersistenceFailed finalGapFails => cases finalGapFails <;> rfl
  | decodeFailed gapFails finalGapFails => cases gapFails <;> cases finalGapFails <;> rfl
  | budgetExhausted => rfl
  | appendFailed finalGapFails => cases finalGapFails <;> rfl

theorem persists_budget (outcome : BudgetOutcome) :
    (budgetScript outcome : List (Operation F)).countP Operation.isPersisted = 0 := by
  cases outcome with
  | refused finalGapFails => exact persists_finish _
  | gapPersistenceFailed finalGapFails => cases finalGapFails <;> rfl
  | allowed => rfl

theorem Sound.startWorker {awaiting : Bool} (h : s.Sound) (hw : s.worker = []) (hturn : Turn script)
    (hpersists : script.countP Operation.isPersisted = 0) : Sound { s with worker := script, awaitingBudget := awaiting } := by
  refine ⟨?_, h.lastFrame, ⟨h.scripted.sorted, h.scripted.reader, hturn.worker⟩,
    { h.healthy with worker := .inr hturn.announces }⟩
  simpa [StreamRuntime.tally, hw, hturn.begins, hpersists] using h.tally

theorem Sound.receive {frame : F} {queue : List F} (h : s.Sound) (hqueue : s.queue = frame :: queue) (hw : s.worker = [])
    (hhand : s.inHand = none) : Sound { s with queue, inHand := some frame, worker := [.beginProcessing] } := by
  refine ⟨?_, h.lastFrame, ⟨h.scripted.sorted, h.scripted.reader, by simp [Operation.ofWorker]⟩,
    { h.healthy with worker := .inr rfl }⟩
  have hn : s.tally.queued = queue.length + 1 := by simp [StreamRuntime.tally, hqueue]
  have := h.tally.taken_one hn (by simp [StreamRuntime.tally, hw]) (by simp [StreamRuntime.tally, hw])
    (by simp [StreamRuntime.tally, hhand])
  simpa [StreamRuntime.tally, hw, Operation.isBegin, Operation.isPersisted] using this

theorem Sound.process {outcome : ProcessOutcome} {awaiting : Bool} (h : s.Sound) (hw : s.worker = [])
    (hhand : s.inHand.isSome = true) : Sound { s with
      worker := processScript outcome
      inHand := none
      awaitingBudget := awaiting
      discarded := if outcome = .appended then s.discarded else s.discarded + 1 } := by
  have hturn : Turn (processScript outcome : List (Operation F)) := turn_process outcome
  refine ⟨?_, h.lastFrame, ⟨h.scripted.sorted, h.scripted.reader, hturn.worker⟩,
    { h.healthy with worker := .inr hturn.announces }⟩
  have hbegins : s.tally.begins = 0 := by simp [StreamRuntime.tally, hw]
  have hpersists : s.tally.persists = 0 := by simp [StreamRuntime.tally, hw]
  have hholding : s.tally.holding = 1 := by simp [StreamRuntime.tally, hhand]
  by_cases happended : outcome = .appended
  · subst happended
    have := h.tally.persists_one hbegins hpersists hholding
    simpa [StreamRuntime.tally, hw, hturn.begins, persists_process] using this
  · have := h.tally.discarded_one hholding
    simpa [StreamRuntime.tally, hw, hturn.begins, persists_process, happended] using this

theorem Sound.new {target : CaptureTarget} {queueCapacity : Nat} (hgeneration : target.attachmentGeneration ≠ 0)
    (hcapacity : queueCapacity ≠ 0) (hmax : queueCapacity ≤ u64Max) : (new target queueCapacity : StreamRuntime F).Sound where
  tally := by
    constructor <;>
      simp [StreamRuntime.tally, StreamRuntime.new, RuntimeState.new, CaptureStatistics.default, hmax]
  lastFrame := nofun
  scripted := ⟨.nil, nofun, nofun⟩
  healthy := ⟨rfl, hgeneration, hcapacity, nofun, nofun, .inr rfl, .inr rfl⟩

theorem Sound.readerStep (h : s.Sound) (hr : s.reader = op :: rest) (hg : op.orderly s = true) :
    (s.readerStep op rest).Sound := by
  have hmem := h.scripted.reader op (by simp [hr])
  cases op with
  | recordReceived => exact h.reader_received hr hg
  | recordAck session => exact h.reader_acked hr
  | trySend frame => exact h.reader_sent hr
  | recordAccepted => exact h.reader_accepted hr hg
  | recordDropped => exact h.reader_dropped hr
  | transition t => exact h.reader_common hr rfl hg
  | declareGap => exact h.reader_common hr rfl hg
  | closeAcceptance => exact h.reader_common hr rfl hg
  | recordFailure stage => exact h.reader_common hr rfl hg
  | closeSender => exact h.reader_common hr rfl hg
  | beginProcessing => cases hmem
  | persisted => cases hmem
  | completeProcessing => cases hmem
  | resumeBudget => cases hmem
  | closeReceiver => cases hmem

theorem Sound.workerStep (h : s.Sound) (hw : s.worker = op :: rest) (hg : op.orderly s = true) :
    (s.workerStep op rest).Sound := by
  have hmem := h.scripted.worker op (by simp [hw])
  cases op with
  | beginProcessing => exact h.worker_begun hw hg
  | persisted => exact h.worker_persisted hw
  | completeProcessing => exact h.worker_completed hw
  | resumeBudget => exact h.worker_resumes hw
  | closeReceiver => exact h.worker_closed hw hg
  | transition t => exact h.worker_common hw rfl hg
  | declareGap => exact h.worker_common hw rfl hg
  | closeAcceptance => exact h.worker_common hw rfl hg
  | recordFailure stage => exact h.worker_common hw rfl hg
  | closeSender => exact h.worker_common hw rfl hg
  | recordReceived => cases hmem
  | recordAck session => cases hmem
  | trySend frame => cases hmem
  | recordAccepted => cases hmem
  | recordDropped => cases hmem

end StreamRuntime

end Krometrail
