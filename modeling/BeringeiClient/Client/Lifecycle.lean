import BeringeiClient.Client.ReadServices

/-! # Set-up, start and stop of the client's threads

`initialize` and `initializeTestClients` settle the queue capacity and the number of writer
threads, build the write clients (or refresh the read clients), and start the threads.
`stopWriterThreads` tells every thread to stop and joins them; `flushQueue` stops the
threads and starts as many again. How the threads run is the subject of Write/Interleaving;
here a writer thread is an entry of `writers`, a retry thread a count in `retryWriters`,
and the joins return.

`flushQueue` divides by the number of write clients, which `stopWriterThreads` checks and
`flushQueue` does not: on a client set up to read, it divides by zero
(`flushQueue_divides_by_zero`). Where there are write clients, it stops and starts as many
threads as there were, however often it is called (`flushQueue_keeps_threads`). -/
namespace BeringeiClient.Client.Lifecycle
open BeringeiClient.Types BeringeiClient.NetworkClient BeringeiClient.Client.ReadServices

variable {σ : Type}

/-! ## Settings -/

/-- `setQueueCapacity`: `0` asks for `gorilla_queue_capacity`. -/
def setQueueCapacity (flags : Flags) (queueCapacity : Int) : Int :=
  if queueCapacity ≠ 0 then queueCapacity else flags.gorillaQueueCapacity

/-- `setNumWriterThreads`: `kNoWriterThreads` asks for none, `0` for
`gorilla_client_writer_threads`. -/
def setNumWriterThreads (flags : Flags) (writerThreads : Int) : Int :=
  if writerThreads ≠ kNoWriterThreads then
    if writerThreads ≠ 0 then writerThreads else flags.gorillaClientWriterThreads
  else 0

/-- The size of a write queue, which holds vectors of points: the capacity over
`gorilla_queue_capacity_size_ratio`, and at least `kMinQueueSize`; none where the `int`
division faults, by a zero ratio or as `INT_MIN / -1`. -/
def writeQueueSize (flags : Flags) (queueCapacity : Int) : Option Int :=
  if flags.gorillaQueueCapacitySizeRatio = 0 ∨
      (queueCapacity = -2 ^ 31 ∧ flags.gorillaQueueCapacitySizeRatio = -1) then none
  else some (max (queueCapacity.tdiv flags.gorillaQueueCapacitySizeRatio) kMinQueueSize)

/-! ## Starting and stopping threads -/

/-- `startWriterThreads`: for a positive count, that many writer threads per write client
and `gorilla_write_retry_threads` retry threads. -/
def startWriterThreads (flags : Flags) (numWriterThreads : Int) (s : ClientState σ) :
    ClientState σ :=
  if numWriterThreads > 0 then
    { s with
      writers := s.writers ++ (List.range s.writeClients.length).flatMap fun i =>
        List.replicate numWriterThreads.toNat i
      retryWriters := s.retryWriters + flags.gorillaWriteRetryThreads.toNat }
  else s

/-- `stopWriterThreads`, once the threads it joins have returned: the number of shutdown
markers it flushes into each write queue, and no threads left. -/
def stopWriterThreads (s : ClientState σ) : List Nat × ClientState σ :=
  let markers := if s.writeClients.length ≠ 0 then
    s.writeClients.map fun _ => s.writers.length / s.writeClients.length else []
  (markers, { s with writers := [], retryWriters := 0 })

/-- `flushQueue`; none where it divides by `writeClients_.size() = 0`. -/
def flushQueue (flags : Flags) (s : ClientState σ) : Option (ClientState σ) :=
  if s.writeClients.length = 0 then none
  else
    let writerThreadsPerClient := s.writers.length / s.writeClients.length
    some (startWriterThreads flags writerThreadsPerClient (stopWriterThreads s).2)

/-! ## Set-up -/

/-- The write clients `initialize` builds for `services`, in order, until a constructor
throws. -/
def addWriteClients (adapter : Adapter σ) (shadow : Bool) (queueCapacity queueSize : Int) :
    List String → ClientState σ → Outcome σ
  | [], s => ⟨s, none⟩
  | service :: rest, s =>
    match adapter.createNetworkClient service shadow with
    | .error e => ⟨s, some e⟩
    | .ok client => addWriteClients adapter shadow queueCapacity queueSize rest
        { s with writeClients := s.writeClients ++ [⟨client, queueCapacity, queueSize⟩] }

/-- The counters `initialize` starts at `0`: the retry queue's size and each write queue's
size. -/
def initializeCounters (nc : BeringeiNetworkClient σ) (s : ClientState σ) : ClientState σ :=
  { s with
    stats := s.writeClients.foldl
      (fun stats wc => addStatValue stats (.queueSize (nc.getServiceName wc.client)) 0)
      (addStatValue s.stats .retryQueueSize 0) }

/-- What `initialize` does by the number of writer threads: a client with none refreshes its
read services; one with writer threads builds a write client for each write service, takes
their largest shard count, and builds a write client for each shadow service. -/
def initializeServices (nc : BeringeiNetworkClient σ) (adapter : Adapter σ)
    (queueCapacity writerThreads queueSize : Int) (s : ClientState σ) : Outcome σ :=
  if writerThreads = 0 then updateReadServices adapter nc s
  else
    match addWriteClients adapter false queueCapacity queueSize adapter.getWriteServices s with
    | ⟨s, some e⟩ => ⟨s, some e⟩
    | ⟨s, none⟩ => addWriteClients adapter true queueCapacity queueSize adapter.getShadowServices
        { s with maxNumShards := getMaxNumShards nc (s.writeClients.map (·.client)) }

/-- `initialize` (a keyword of Lean, hence the name): settle the queue capacity and the
number of writer threads, set up the services, start the threads and the counters; none
where the queue size faults. -/
def initializeClient (flags : Flags) (nc : BeringeiNetworkClient σ) (adapter : Adapter σ)
    (queueCapacity writerThreads : Int) (s : ClientState σ) : Option (Outcome σ) :=
  let queueCapacity := setQueueCapacity flags queueCapacity
  let writerThreads := setNumWriterThreads flags writerThreads
  (writeQueueSize flags queueCapacity).map fun queueSize =>
    match initializeServices nc adapter queueCapacity writerThreads queueSize s with
    | ⟨s, some e⟩ => ⟨s, some e⟩
    | ⟨s, none⟩ => ⟨initializeCounters nc (startWriterThreads flags writerThreads s), none⟩

/-- `initializeTestClients`: the given read and write clients, one writer thread per write
client for each write client; none where the queue size faults. -/
def initializeTestClients (flags : Flags) (nc : BeringeiNetworkClient σ) (queueCapacity : Int)
    (readers writers : List σ) (s : ClientState σ) : Option (ClientState σ) :=
  let queueCapacity := setQueueCapacity flags queueCapacity
  let writerThreads :=
    setNumWriterThreads flags (if writers.isEmpty then kNoWriterThreads else writers.length)
  (writeQueueSize flags queueCapacity).map fun queueSize =>
    let s : ClientState σ := { s with
      readClients := s.readClients ++ readers
      writeClients := s.writeClients ++ writers.map fun c => ⟨c, queueCapacity, queueSize⟩ }
    startWriterThreads flags writerThreads
      { s with maxNumShards := getMaxNumShards nc (s.writeClients.map (·.client)) }

/-- A zero `gorilla_queue_capacity_size_ratio` faults both set-ups, whatever the arguments. -/
theorem setUp_faults_of_zero_ratio (flags : Flags) (h : flags.gorillaQueueCapacitySizeRatio = 0)
    (nc : BeringeiNetworkClient σ) (adapter : Adapter σ) (queueCapacity writerThreads : Int)
    (readers writers : List σ) (s : ClientState σ) :
    initializeClient flags nc adapter queueCapacity writerThreads s = none ∧
      initializeTestClients flags nc queueCapacity readers writers s = none := by
  simp [initializeClient, initializeTestClients, writeQueueSize, h]

/-! ## `flushQueue` on a client set up to read -/

/-- A network client of the service `"gorilla"`. -/
def gorillaClient : BeringeiNetworkClient Unit := oneHostClient fun _ _ => ⟨[], .ok⟩

/-- An adapter that lists the service `"gorilla"` everywhere and builds its clients. -/
def gorillaAdapter : Adapter Unit where
  getReadServices := ["gorilla"]
  getWriteServices := ["gorilla"]
  getShadowServices := []
  isValidReadService _ := true
  getNearestReadService := "gorilla"
  createNetworkClient _ _ := .ok ()

/-- A client set up to read has no write client: `initializeTestClients` without writers,
and `initialize` with the default `0` writer threads, which returns. `flushQueue` divides
by zero on both. -/
theorem flushQueue_divides_by_zero :
    (∃ s, initializeTestClients Flags.defaults gorillaClient 0 [] [] ClientState.initial = some s ∧
        flushQueue Flags.defaults s = none) ∧
      ∃ s, initializeClient Flags.defaults gorillaClient gorillaAdapter 0 0 ClientState.initial =
          some ⟨s, none⟩ ∧ flushQueue Flags.defaults s = none :=
  ⟨⟨_, rfl, rfl⟩, _, rfl, rfl⟩

/-! ## `flushQueue` with write clients -/

/-- The writer threads `startWriterThreads` starts, `k` per write client, in order. -/
def startedWriters (writeClients k : Nat) : List Nat :=
  (List.range writeClients).flatMap fun i => List.replicate k i

theorem length_startedWriters (writeClients k : Nat) :
    (startedWriters writeClients k).length = writeClients * k := by
  induction writeClients with
  | zero => simp [startedWriters]
  | succ n ih =>
    simp only [startedWriters, List.range_succ, List.flatMap_append, List.length_append] at ih ⊢
    simp [ih, Nat.succ_mul]

theorem count_startedWriters (writeClients k i : Nat) :
    (startedWriters writeClients k).count i = if i < writeClients then k else 0 := by
  induction writeClients with
  | zero => rfl
  | succ n ih =>
    simp only [startedWriters, List.range_succ, List.flatMap_append, List.count_append] at ih ⊢
    rw [ih]
    simp [List.count_replicate]
    split_ifs <;> omega

/-- Every write client has the same number `k` of writer threads, started together, and the
retry threads are there just when `k > 0`. -/
def Uniform (flags : Flags) (s : ClientState σ) : Prop :=
  ∃ k : Nat, s.writers = startedWriters s.writeClients.length k ∧
    s.retryWriters = if 0 < k then flags.gorillaWriteRetryThreads.toNat else 0

theorem startWriterThreads_uniform (flags : Flags) (n : Int) {s : ClientState σ}
    (hw : s.writers = []) (hr : s.retryWriters = 0) : Uniform flags (startWriterThreads flags n s) := by
  unfold startWriterThreads
  split
  · have hn : 0 < n.toNat := by omega
    exact ⟨n.toNat, by simp [hw, startedWriters], by simp [hr, hn]⟩
  · exact ⟨0, by simp [hw, startedWriters], by simp [hr]⟩

/-- **`flushQueue` keeps the threads.** On a client whose write clients all have the same
number of writer threads, and which has write clients, `flushQueue` divides by a positive
number and leaves the same threads. -/
theorem flushQueue_uniform (flags : Flags) {s : ClientState σ} (h : Uniform flags s)
    (hw : s.writeClients ≠ []) :
    flushQueue flags s = some s' → s'.writers = s.writers ∧ s'.retryWriters = s.retryWriters ∧
      Uniform flags s' := by
  intro hf
  obtain ⟨k, hwr, hrr⟩ := h
  have hW : 0 < s.writeClients.length := List.length_pos.mpr hw
  have hdiv : s.writers.length / s.writeClients.length = k := by
    rw [hwr, length_startedWriters, Nat.mul_div_cancel_left k hW]
  simp only [flushQueue, Nat.pos_iff_ne_zero.mp hW, ↓reduceIte, hdiv, Option.some.injEq] at hf
  subst hf
  unfold startWriterThreads stopWriterThreads
  split
  · have hk : 0 < k := by omega
    exact ⟨by simp [hwr, startedWriters], by simp [hrr, hk], k, by simp [startedWriters], by simp [hk]⟩
  · obtain rfl : k = 0 := by omega
    exact ⟨by simp [hwr, startedWriters], by simp [hrr], 0, by simp [startedWriters], by simp⟩

/-! ## Clients that were set up -/

theorem addWriteClients_threads (adapter : Adapter σ) (shadow : Bool) (queueCapacity queueSize : Int)
    (services : List String) (s : ClientState σ) :
    let o := addWriteClients adapter shadow queueCapacity queueSize services s
    o.state.writers = s.writers ∧ o.state.retryWriters = s.retryWriters := by
  induction services generalizing s with
  | nil => exact ⟨rfl, rfl⟩
  | cons service rest ih =>
    simp only [addWriteClients]
    split
    · exact ⟨rfl, rfl⟩
    · exact ih _

theorem initializeServices_threads (nc : BeringeiNetworkClient σ) (adapter : Adapter σ)
    (queueCapacity writerThreads queueSize : Int) (s : ClientState σ) :
    let o := initializeServices nc adapter queueCapacity writerThreads queueSize s
    o.state.writers = s.writers ∧ o.state.retryWriters = s.retryWriters := by
  unfold initializeServices
  split
  · rcases updateReadServices_cases adapter nc s with ⟨-, hu⟩ | ⟨-, -, ⟨_, _, -, hu⟩ | ⟨_, _, -, hu⟩⟩ <;>
      simp [hu]
  · have h₁ := addWriteClients_threads adapter false queueCapacity queueSize adapter.getWriteServices s
    revert h₁
    generalize addWriteClients adapter false queueCapacity queueSize adapter.getWriteServices s = o
    obtain ⟨s₁, _ | e⟩ := o
    · intro h₁
      exact (addWriteClients_threads adapter true _ _ _ _).imp h₁.1.subst h₁.2.subst
    · exact id

/-- The states of a new client once `initialize` has returned, or after
`initializeTestClients`, and after any number of calls of `flushQueue` since that did not
divide by zero. -/
inductive Initialized (flags : Flags) (nc : BeringeiNetworkClient σ) : ClientState σ → Prop
  | init (adapter : Adapter σ) (queueCapacity writerThreads : Int) {s : ClientState σ}
      (h : initializeClient flags nc adapter queueCapacity writerThreads .initial = some ⟨s, none⟩) :
      Initialized flags nc s
  | testClients (queueCapacity : Int) (readers writers : List σ) {s : ClientState σ}
      (h : initializeTestClients flags nc queueCapacity readers writers .initial = some s) :
      Initialized flags nc s
  | flush {s s' : ClientState σ} (h : Initialized flags nc s) (hf : flushQueue flags s = some s') :
      Initialized flags nc s'

/-- What `initialize` did when it returns: the services were set up, the threads started and
the counters added. -/
theorem initializeClient_returns {flags : Flags} {nc : BeringeiNetworkClient σ}
    {adapter : Adapter σ} {queueCapacity writerThreads : Int} {s : ClientState σ}
    (h : initializeClient flags nc adapter queueCapacity writerThreads .initial = some ⟨s, none⟩) :
    ∃ queueSize s₁, writeQueueSize flags (setQueueCapacity flags queueCapacity) = some queueSize ∧
      initializeServices nc adapter (setQueueCapacity flags queueCapacity)
        (setNumWriterThreads flags writerThreads) queueSize .initial = ⟨s₁, none⟩ ∧
      s = initializeCounters nc (startWriterThreads flags (setNumWriterThreads flags writerThreads) s₁) := by
  obtain ⟨queueSize, hq, h⟩ := Option.map_eq_some'.mp h
  split at h
  · cases h
  · rename_i s₁ hs₁
    cases h
    exact ⟨queueSize, s₁, hq, hs₁, rfl⟩

theorem initialized_uniform {flags : Flags} {nc : BeringeiNetworkClient σ} {s : ClientState σ}
    (h : Initialized flags nc s) : Uniform flags s := by
  induction h with
  | init adapter queueCapacity writerThreads h =>
    obtain ⟨queueSize, s₁, -, hs₁, rfl⟩ := initializeClient_returns h
    have hthreads := initializeServices_threads nc adapter (setQueueCapacity flags queueCapacity)
      (setNumWriterThreads flags writerThreads) queueSize ClientState.initial
    rw [hs₁] at hthreads
    exact startWriterThreads_uniform flags _ hthreads.1 hthreads.2
  | testClients queueCapacity readers writers h =>
    obtain ⟨_, -, rfl⟩ := Option.map_eq_some'.mp h
    exact startWriterThreads_uniform flags _ rfl rfl
  | @flush s₀ s₁ _ hf ih =>
    by_cases hw : s₀.writeClients = []
    · simp [flushQueue, hw] at hf
    · exact (flushQueue_uniform flags ih hw hf).2.2

/-- **Stopping tells every writer thread, and flushing keeps the threads.** On a client
that was set up and flushed any number of times, `stopWriterThreads` flushes into each
write queue as many shutdown markers as the queue has writer threads; and where there is a
write client, `flushQueue` does not divide by zero and leaves as many writer and retry
threads as there were. -/
theorem flushQueue_keeps_threads {flags : Flags} {nc : BeringeiNetworkClient σ}
    {s : ClientState σ} (h : Initialized flags nc s) :
    (stopWriterThreads s).1 = (List.range s.writeClients.length).map (fun i => s.writers.count i) ∧
      (s.writeClients ≠ [] → ∃ s', flushQueue flags s = some s' ∧
        s'.writers.length = s.writers.length ∧ s'.retryWriters = s.retryWriters) := by
  obtain ⟨k, hwr, hrr⟩ := initialized_uniform h
  refine ⟨?_, fun hw => ?_⟩
  · simp only [stopWriterThreads, hwr, length_startedWriters, count_startedWriters]
    split
    · rename_i hW
      rw [Nat.mul_div_cancel_left k (Nat.pos_of_ne_zero hW)]
      apply List.ext_getElem (by simp)
      intro n h₁ h₂
      simp only [List.length_range, List.length_map] at h₂
      simp [h₂]
    · rename_i hW
      simp [List.length_eq_zero.mp (not_not.mp hW)]
  · cases hf : flushQueue flags s with
    | none => simp [flushQueue, hw] at hf
    | some s' =>
      obtain ⟨hw', hr', -⟩ := flushQueue_uniform flags ⟨k, hwr, hrr⟩ hw hf
      exact ⟨s', rfl, by rw [hw'], hr'⟩

/-- A test client with one write client, set up with the default flags. -/
theorem flushQueue_keeps_threads_test_client :
    ∃ s, initializeTestClients Flags.defaults gorillaClient 0 [] [()] ClientState.initial = some s ∧
      Initialized Flags.defaults gorillaClient s ∧
      (stopWriterThreads s).1 = (List.range s.writeClients.length).map (fun i => s.writers.count i) ∧
      (s.writeClients ≠ [] → ∃ s', flushQueue Flags.defaults s = some s' ∧
        s'.writers.length = s.writers.length ∧ s'.retryWriters = s.retryWriters) :=
  ⟨_, rfl, .testClients 0 [] [()] rfl, flushQueue_keeps_threads (.testClients 0 [] [()] rfl)⟩

/-! ## How many writer threads `initialize` starts -/

/-- `setNumWriterThreads` gives a negative count just for a negative argument other than
`kNoWriterThreads`, or for `0` with a negative `gorilla_client_writer_threads`. -/
theorem setNumWriterThreads_neg (flags : Flags) (writerThreads : Int) :
    setNumWriterThreads flags writerThreads < 0 ↔ writerThreads ≠ kNoWriterThreads ∧ writerThreads < 0 ∨
      writerThreads = 0 ∧ flags.gorillaClientWriterThreads < 0 := by
  unfold setNumWriterThreads kNoWriterThreads
  split_ifs <;> omega

theorem startWriterThreads_writers (flags : Flags) (n : Int) {s : ClientState σ}
    (hw : s.writers = []) :
    (startWriterThreads flags n s).writers = startedWriters s.writeClients.length n.toNat ∧
      (startWriterThreads flags n s).writeClients = s.writeClients := by
  unfold startWriterThreads
  split
  · exact ⟨by simp [hw, startedWriters], rfl⟩
  · exact ⟨by simp [hw, startedWriters, show n.toNat = 0 by omega], rfl⟩

theorem updateReadServices_writeClients (adapter : Adapter σ) (nc : BeringeiNetworkClient σ)
    (s : ClientState σ) : (updateReadServices adapter nc s).state.writeClients = s.writeClients := by
  rcases updateReadServices_cases adapter nc s with ⟨-, hu⟩ | ⟨-, -, ⟨_, _, -, hu⟩ | ⟨_, _, -, hu⟩⟩ <;>
    rw [hu]

/-- **What `initialize` starts.** Let `n` be the number of writer threads `initialize`
settles on. When it returns, each write client has `n` writer threads if `n` is positive
and none otherwise, and for `n = 0` there is no write client. `n` is negative just for a
negative argument other than `kNoWriterThreads`, or for `0` with a negative
`gorilla_client_writer_threads`: then the write clients are built, but no thread drains
their queues. -/
theorem initialize_writers (flags : Flags) (nc : BeringeiNetworkClient σ) (adapter : Adapter σ)
    (queueCapacity writerThreads : Int) {s : ClientState σ}
    (h : initializeClient flags nc adapter queueCapacity writerThreads .initial = some ⟨s, none⟩) :
    s.writers = startedWriters s.writeClients.length (setNumWriterThreads flags writerThreads).toNat ∧
      (setNumWriterThreads flags writerThreads = 0 → s.writeClients = []) ∧
      (setNumWriterThreads flags writerThreads < 0 ↔
        writerThreads ≠ kNoWriterThreads ∧ writerThreads < 0 ∨
          writerThreads = 0 ∧ flags.gorillaClientWriterThreads < 0) := by
  obtain ⟨queueSize, s₁, -, hs₁, rfl⟩ := initializeClient_returns h
  have hw₁ := (initializeServices_threads nc adapter (setQueueCapacity flags queueCapacity)
    (setNumWriterThreads flags writerThreads) queueSize ClientState.initial).1
  rw [hs₁] at hw₁
  obtain ⟨hwriters, hclients⟩ := startWriterThreads_writers flags
    (setNumWriterThreads flags writerThreads) hw₁
  refine ⟨by simp only [initializeCounters, hwriters, hclients], fun h0 => ?_,
    setNumWriterThreads_neg flags writerThreads⟩
  have hread := updateReadServices_writeClients adapter nc ClientState.initial
  simp only [initializeServices, h0, ↓reduceIte] at hs₁
  rw [hs₁] at hread
  simpa only [initializeCounters, hclients] using hread

/-- Two writer threads with the default flags, on an adapter with one write service. -/
theorem initialize_writers_two_threads :
    ∃ s, initializeClient Flags.defaults gorillaClient gorillaAdapter 0 2 .initial = some ⟨s, none⟩ ∧
      s.writers = startedWriters s.writeClients.length
          (setNumWriterThreads Flags.defaults 2).toNat ∧
        (setNumWriterThreads Flags.defaults 2 = 0 → s.writeClients = []) ∧
        (setNumWriterThreads Flags.defaults 2 < 0 ↔ (2 : Int) ≠ kNoWriterThreads ∧ (2 : Int) < 0 ∨
          (2 : Int) = 0 ∧ Flags.defaults.gorillaClientWriterThreads < 0) :=
  ⟨_, rfl, initialize_writers Flags.defaults gorillaClient gorillaAdapter 0 2 rfl⟩

/-- `initialize` returned normally and left write clients whose queues no writer thread
drains. -/
def Undrained (o : Option (Outcome σ)) : Prop :=
  ∃ s, o = some ⟨s, none⟩ ∧ s.writeClients ≠ [] ∧ s.writers = []

/-- `initialize` on an adapter with one write service, with `-2` writer threads and the
default flags, or with `0` and `gorilla_client_writer_threads = -3`: it returns with a
write client and no writer thread. -/
theorem initialize_leaves_queue_undrained :
    Undrained (initializeClient Flags.defaults gorillaClient gorillaAdapter 0 (-2) .initial) ∧
      Undrained (initializeClient { Flags.defaults with gorillaClientWriterThreads := -3 }
        gorillaClient gorillaAdapter 0 0 .initial) :=
  ⟨⟨_, rfl, List.cons_ne_nil _ _, rfl⟩, _, rfl, List.cons_ne_nil _ _, rfl⟩

end BeringeiClient.Client.Lifecycle
