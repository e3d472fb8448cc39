import BeringeiClient.Client.Lifecycle
import BeringeiClient.Client.Enqueue
import BeringeiClient.Read.FutureGet

/-! # Readers and writers

"In production clients are either readers or writers. Never both." `initialize` sets up
the read clients when it settles on no writer threads, and the write clients otherwise, and
it schedules `updateReadServices` only for a client with no writer threads. The runs of a
client that `initialize` set up are then its refreshes, where they are scheduled, and its
calls of `flushQueue` (`Production`). Over every such run a client stays a reader, with no
write client and no thread, or a writer, with no read client and no refresh scheduled; and a
reader's `putDataPoints` pushes to no queue and counts nothing (`production_roles`). -/
namespace BeringeiClient.Client.Roles
open BeringeiClient.Types BeringeiClient.NetworkClient BeringeiClient.Client.ReadServices
open BeringeiClient.Client.Lifecycle BeringeiClient.Client.Enqueue BeringeiClient.Read.FutureGet

variable {σ : Type}

/-! ## Runs of a client `initialize` set up -/

/-- Whether `initialize` schedules `updateReadServices`: with no writer threads and an update
interval other than `kNoReadServicesUpdates`. -/
def schedulesRefreshes (flags : Flags) (writerThreads readServicesUpdateInterval : Int) : Bool :=
  setNumWriterThreads flags writerThreads = 0 && readServicesUpdateInterval ≠ kNoReadServicesUpdates

/-- The states of a client after `initialize` returned, then any of the refreshes it
scheduled, each with any answers of the adapter, thrown or not, and any calls of
`flushQueue` that returned. `scheduled` says whether refreshes were scheduled. -/
inductive Production (flags : Flags) (nc : BeringeiNetworkClient σ) : Bool → ClientState σ → Prop
  | init (adapter : Adapter σ) (queueCapacity writerThreads readServicesUpdateInterval : Int)
      {s : ClientState σ}
      (h : initializeClient flags nc adapter queueCapacity writerThreads .initial = some ⟨s, none⟩) :
      Production flags nc (schedulesRefreshes flags writerThreads readServicesUpdateInterval) s
  | refresh (adapter : Adapter σ) {s : ClientState σ} (h : Production flags nc true s) :
      Production flags nc true (updateReadServices adapter nc s).state
  | flush {scheduled : Bool} {s s' : ClientState σ} (h : Production flags nc scheduled s)
      (hf : flushQueue flags s = some s') : Production flags nc scheduled s'

/-- A reader: no write client and no thread. -/
def Reader (s : ClientState σ) : Prop :=
  s.writeClients = [] ∧ s.writers = [] ∧ s.retryWriters = 0

/-- A writer: no read client and no read service. -/
def Writer (s : ClientState σ) : Prop :=
  s.readClients = [] ∧ s.currentReadServices = []

/-! ## The calls that go to one client -/

/-- `getReadClientCopy`: the first read client, or none. `getLastUpdateTimes` and
`stopRequests` return at once without one, and hand their arguments to it otherwise. -/
def getReadClientCopy (s : ClientState σ) : Option σ := s.readClients.head?

/-- `ScanShardResult` as `scanShard` sees it: the status it sets when it has no read client,
and the rest, which the network client fills. -/
structure ScanShardResult (τ : Type) where
  status : StatusCode
  rest : τ

/-- `scanShard(request, result)`: `RPC_FAIL` with no read client, else the first read client's
`performScanShard`. -/
def scanShard {ρ τ : Type} (sc : ScanShardClient σ ρ (ScanShardResult τ)) (s : ClientState σ)
    (request : ρ) (result : ScanShardResult τ) : ScanShardResult τ :=
  match getReadClientCopy s with
  | none => { result with status := .rpcFail }
  | some readClient => sc.performScanShard readClient request result

/-- `getNumShardsFromWriteClient`: the shard count of the first write client's network
client, `0` with none. -/
def getNumShardsFromWriteClient (nc : BeringeiNetworkClient σ) (s : ClientState σ) : Int :=
  match s.writeClients with
  | [] => 0
  | w :: _ => nc.getNumShards w.client

/-! ## What each operation leaves alone -/

theorem addWriteClients_reads (adapter : Adapter σ) (shadow : Bool) (queueCapacity queueSize : Int)
    (services : List String) (s : ClientState σ) :
    let o := addWriteClients adapter shadow queueCapacity queueSize services s
    o.state.readClients = s.readClients ∧ o.state.currentReadServices = s.currentReadServices := by
  induction services generalizing s with
  | nil => exact ⟨rfl, rfl⟩
  | cons service rest ih =>
    simp only [addWriteClients]
    split
    · exact ⟨rfl, rfl⟩
    · exact ih _

theorem initializeServices_reads (nc : BeringeiNetworkClient σ) (adapter : Adapter σ)
    (queueCapacity : Int) {writerThreads : Int} (queueSize : Int) (hn : writerThreads ≠ 0)
    (s : ClientState σ) :
    let o := initializeServices nc adapter queueCapacity writerThreads queueSize s
    o.state.readClients = s.readClients ∧ o.state.currentReadServices = s.currentReadServices := by
  unfold initializeServices
  rw [if_neg hn]
  have h₁ := addWriteClients_reads adapter false queueCapacity queueSize adapter.getWriteServices s
  revert h₁
  generalize addWriteClients adapter false queueCapacity queueSize adapter.getWriteServices s = o
  obtain ⟨s₁, _ | e⟩ := o
  · intro h₁
    have h₂ := addWriteClients_reads adapter true queueCapacity queueSize adapter.getShadowServices
      { s₁ with maxNumShards := getMaxNumShards nc (s₁.writeClients.map (·.client)) }
    exact ⟨h₂.1.trans h₁.1, h₂.2.trans h₁.2⟩
  · exact id

theorem updateReadServices_threads (adapter : Adapter σ) (nc : BeringeiNetworkClient σ)
    (s : ClientState σ) :
    let o := updateReadServices adapter nc s
    o.state.writers = s.writers ∧ o.state.retryWriters = s.retryWriters := by
  rcases updateReadServices_cases adapter nc s with ⟨-, hu⟩ | ⟨-, -, ⟨_, _, -, hu⟩ | ⟨_, _, -, hu⟩⟩ <;>
    simp [hu]

@[simp] theorem startWriterThreads_readClients (flags : Flags) (n : Int) (s : ClientState σ) :
    (startWriterThreads flags n s).readClients = s.readClients := by
  unfold startWriterThreads; split <;> rfl

@[simp] theorem startWriterThreads_currentReadServices (flags : Flags) (n : Int) (s : ClientState σ) :
    (startWriterThreads flags n s).currentReadServices = s.currentReadServices := by
  unfold startWriterThreads; split <;> rfl

theorem startWriterThreads_of_nonpos (flags : Flags) {n : Int} (hn : n ≤ 0) (s : ClientState σ) :
    startWriterThreads flags n s = s := by
  unfold startWriterThreads
  rw [if_neg (by omega)]

theorem flushQueue_reads {flags : Flags} {s s' : ClientState σ} (hf : flushQueue flags s = some s') :
    s'.readClients = s.readClients ∧ s'.currentReadServices = s.currentReadServices := by
  unfold flushQueue at hf
  split at hf
  · cases hf
  · cases hf
    exact ⟨by simp [stopWriterThreads], by simp [stopWriterThreads]⟩

/-- A client without write clients pushes no batch: `putDataPoints` leaves the batch, the
queues and the metrics, and answers `false` for a nonempty batch whose size fits an `int`. -/
theorem putDataPoints_no_writeClients {ρ : Type} (nc : BeringeiNetworkClient σ)
    (queues : WriteQueues ρ) {s : ClientState σ} (hw : s.writeClients = [])
    (values : List DataPoint) (r : ρ) :
    (putDataPoints nc queues s values r).2 = ⟨values, r, s.stats⟩ ∧
      (values ≠ [] → values.length < 2 ^ 31 → (putDataPoints nc queues s values r).1 = false) := by
  have hloop : ∀ o, putLoop nc queues s.writeClients.length (toSignedInt values.length) 0
      s.writeClients o = o := by
    rw [hw]; exact fun _ => rfl
  refine ⟨?_, fun hne hsize => ?_⟩
  · rw [putDataPoints]
    split <;> simp only [hloop]
  · have hpos : (values.length : Int) ≠ 0 := by have := List.length_pos.mpr hne; omega
    rw [putDataPoints]
    simp only [toSignedInt_of_lt hsize, hpos, ↓reduceIte]
    rw [← toSignedInt_of_lt hsize, hloop]

/-! ## Never both -/

variable {flags : Flags} {nc : BeringeiNetworkClient σ}

/-- `initialize` leaves a reader when it settles on no writer threads, and else a writer,
with no refresh scheduled. -/
theorem initialize_roles {adapter : Adapter σ} {queueCapacity writerThreads interval : Int}
    {s : ClientState σ}
    (h : initializeClient flags nc adapter queueCapacity writerThreads .initial = some ⟨s, none⟩) :
    Reader s ∨ (Writer s ∧ schedulesRefreshes flags writerThreads interval = false) := by
  obtain ⟨queueSize, s₁, -, hs₁, rfl⟩ := initializeClient_returns h
  have hthreads := initializeServices_threads nc adapter (setQueueCapacity flags queueCapacity)
    (setNumWriterThreads flags writerThreads) queueSize ClientState.initial
  rw [hs₁] at hthreads
  obtain ⟨hwriters, hretry⟩ := hthreads
  by_cases hn : setNumWriterThreads flags writerThreads = 0
  · simp only [initializeServices, hn, ↓reduceIte] at hs₁
    have hw := updateReadServices_writeClients adapter nc ClientState.initial
    rw [hs₁] at hw
    rw [hn, startWriterThreads_of_nonpos flags (Int.le_refl 0)]
    exact .inl ⟨hw, hwriters, hretry⟩
  · have hr := initializeServices_reads nc adapter (setQueueCapacity flags queueCapacity)
      queueSize hn ClientState.initial
    rw [hs₁] at hr
    obtain ⟨hrc, hcur⟩ := hr
    exact .inr ⟨⟨by simpa [initializeCounters] using hrc, by simpa [initializeCounters] using hcur⟩,
      by simp [schedulesRefreshes, hn]⟩

/-- The runs keep a client a reader, or a writer with no refresh scheduled. -/
theorem production_reader_or_writer {scheduled : Bool} {s : ClientState σ}
    (h : Production flags nc scheduled s) : Reader s ∨ (Writer s ∧ scheduled = false) := by
  induction h with
  | init adapter queueCapacity writerThreads interval h => exact initialize_roles h
  | @refresh adapter s _ ih =>
    rcases ih with hr | ⟨-, hs⟩
    · have ht := updateReadServices_threads adapter nc s
      exact .inl ⟨(updateReadServices_writeClients adapter nc s).trans hr.1,
        ht.1.trans hr.2.1, ht.2.trans hr.2.2⟩
    · cases hs
  | flush _ hf ih =>
    rcases ih with hr | ⟨hw, hs⟩
    · simp [flushQueue, hr.1] at hf
    · exact .inr ⟨⟨(flushQueue_reads hf).1.trans hw.1, (flushQueue_reads hf).2.trans hw.2⟩, hs⟩

/-- **A client is a reader or a writer, never both.** Over every run of a client that
`initialize` set up, with any arguments, adapter answers and network client, through the
refreshes it scheduled and the calls of `flushQueue` that returned, the client is a reader
or a writer. A reader has no write client and no thread, and its `putDataPoints` pushes to
no queue, counts nothing, and answers `false` for every nonempty batch whose size fits an
`int`. A writer has no read client and no read service, and no refresh is scheduled. -/
theorem production_roles {scheduled : Bool} {s : ClientState σ}
    (h : Production flags nc scheduled s) :
    (Reader s ∧ ∀ {ρ : Type} (queues : WriteQueues ρ) (values : List DataPoint) (r : ρ),
        (putDataPoints nc queues s values r).2 = ⟨values, r, s.stats⟩ ∧
          (values ≠ [] → values.length < 2 ^ 31 → (putDataPoints nc queues s values r).1 = false)) ∨
      (Writer s ∧ scheduled = false) :=
  (production_reader_or_writer h).imp_left fun hr => ⟨hr, fun queues values r =>
    putDataPoints_no_writeClients nc queues hr.1 values r⟩

/-- A writer with two threads per write client, set up with the update interval `15`. -/
theorem production_roles_writer :
    ∃ s, Production Flags.defaults gorillaClient (schedulesRefreshes Flags.defaults 2 15) s ∧
      ((Reader s ∧ ∀ {ρ : Type} (queues : WriteQueues ρ) (values : List DataPoint) (r : ρ),
          (putDataPoints gorillaClient queues s values r).2 = ⟨values, r, s.stats⟩ ∧
            (values ≠ [] → values.length < 2 ^ 31 →
              (putDataPoints gorillaClient queues s values r).1 = false)) ∨
        (Writer s ∧ schedulesRefreshes Flags.defaults 2 15 = false)) :=
  ⟨_, .init gorillaAdapter 0 2 15 rfl, production_roles (.init gorillaAdapter 0 2 15 rfl)⟩

end BeringeiClient.Client.Roles
