import BeringeiClient.Client.ReadServices

/-! # Handing a batch to the write queues: `putDataPoints`

`putDataPoints` pushes the caller's batch to the queue of every write client, in order.
A push may move from the vector it is given, so every push but the last gets a copy, and
the last gets the caller's vector itself. For each write client the batch's size goes to
the service's `enqueued` or `enqueue_dropped` metric, and the call answers whether any
queue took the batch.

The queues are `RequestBatchingQueue`s, which are not part of the source. A push answers
whether it took the batch and what it left in its argument, over any state of the queues
(`WriteQueues`). `pushBatchToEach` says what the call is for: the caller's batch pushed once
to each queue, in order, and counted. `putDataPoints` does just that
(`putDataPoints_eq_spec`) for every batch of fewer than `2^31` points. Its size is kept in
an `int`, so a longer batch is counted with a wrapped size, and a batch of `2^32` points is
taken for an empty one and pushed nowhere (`putDataPoints_skips_batch_of_2_pow_32`). -/
namespace BeringeiClient.Client.Enqueue
open BeringeiClient.Types BeringeiClient.NetworkClient BeringeiClient.Client.ReadServices

variable {σ ρ : Type}

/-! ## The source -/

/-- A `size_t` stored in an `int`: its value modulo `2^32`, read as signed. -/
def toSignedInt (x : Nat) : Int := Int.bmod x (2 ^ 32)

/-- The write clients' `RequestBatchingQueue`s, over the state `ρ` of all of them.
`push r i values` pushes the vector `values` to the queue of write client `i`; it answers
whether the queue took the batch, what it left in `values` (a push may move from it), and
the queues' next state. `size r i` is the number of elements of that queue. -/
structure WriteQueues (ρ : Type) where
  push : ρ → Nat → List DataPoint → Bool × List DataPoint × ρ
  size : ρ → Nat → Nat

/-- What `putDataPoints` changes: the caller's vector, which the last push may move from,
the state of the queues, and the metrics. -/
structure PutState (ρ : Type) where
  values : List DataPoint
  queues : ρ
  stats : Stats

variable (nc : BeringeiNetworkClient σ) (queues : WriteQueues ρ)

/-- The body of the loop for write client `i` of `numWriteClients`: a push of a copy of
`values`, or of `values` itself for the last write client, then the metrics of the push;
`allPushedToAnyScope` is set by a push that succeeds. -/
def pushWriteClient (numWriteClients : Nat) (numPoints : Int) (o : Bool × PutState ρ) (i : Nat)
    (writeClient : WriteClient σ) : Bool × PutState ρ :=
  let (allPushedToAnyScope, s) := o
  let (success, values, r) :=
    if i < numWriteClients - 1 then
      let valuesCopy := s.values
      let (success, _, r) := queues.push s.queues i valuesCopy
      (success, s.values, r)
    else queues.push s.queues i s.values
  let queueSize := queues.size r i
  let service := nc.getServiceName writeClient.client
  let stats := if success then addStatValue s.stats (.enqueued service) numPoints
    else addStatValue s.stats (.enqueueDropped service) numPoints
  (allPushedToAnyScope || success, ⟨values, r, addStatValue stats (.queueSize service) queueSize⟩)

/-- The loop of `putDataPoints` over the write clients from the `i`-th on. -/
def putLoop (numWriteClients : Nat) (numPoints : Int) :
    Nat → List (WriteClient σ) → Bool × PutState ρ → Bool × PutState ρ
  | _, [], o => o
  | i, writeClient :: rest, o =>
    putLoop numWriteClients numPoints (i + 1) rest
      (pushWriteClient nc queues numWriteClients numPoints o i writeClient)

/-- `putDataPoints(values)`, from the queues' state `r`: its answer and what it changed. -/
def putDataPoints (s : ClientState σ) (values : List DataPoint) (r : ρ) : Bool × PutState ρ :=
  let numPoints := toSignedInt values.length
  if numPoints = 0 then (true, ⟨values, r, s.stats⟩)
  else putLoop nc queues s.writeClients.length numPoints 0 s.writeClients
    (false, ⟨values, r, s.stats⟩)

/-! ## What the call is for -/

/-- What the specification asks of `putDataPoints` for a nonempty batch. The batch `values`
is pushed to the queue of each write client in turn, from the `i`-th on. Its size is added
to the service's `enqueued` metric if the queue took it and to `enqueue_dropped` if not,
then the queue's size is recorded. The answer is whether any queue took the batch. -/
def pushBatchToEach (values : List DataPoint) :
    Nat → List (WriteClient σ) → Bool × ρ × Stats → Bool × ρ × Stats
  | _, [], acc => acc
  | i, writeClient :: rest, (anyTook, r, stats) =>
    let (took, _, r) := queues.push r i values
    let service := nc.getServiceName writeClient.client
    let key := if took then StatKey.enqueued service else .enqueueDropped service
    pushBatchToEach values (i + 1) rest (anyTook || took, r,
      addStatValue (addStatValue stats key values.length) (.queueSize service) (queues.size r i))

/-! ## The copies keep the batch -/

theorem toSignedInt_of_lt {x : Nat} (h : x < 2 ^ 31) : toSignedInt x = x := by
  rw [toSignedInt, Int.bmod_def, Int.emod_eq_of_lt (by omega) (by omega)]
  rw [if_pos (by omega)]

/-- Until the last write client, the caller's vector is the batch: the pushes get copies.
From write client `i` on, the loop does what `pushBatchToEach` asks. -/
theorem putLoop_eq (values : List DataPoint) (n : Nat) :
    ∀ (i : Nat) (writeClients : List (WriteClient σ)) (anyTook : Bool) (s : PutState ρ),
      i + writeClients.length = n → s.values = values →
      let o := putLoop nc queues n values.length i writeClients (anyTook, s)
      (o.1, o.2.queues, o.2.stats) =
        pushBatchToEach nc queues values i writeClients (anyTook, s.queues, s.stats) := by
  intro i writeClients
  induction writeClients generalizing i with
  | nil => intro anyTook s _ _; rfl
  | cons writeClient rest ih =>
    intro anyTook s hn hs
    rcases hpush : queues.push s.queues i values with ⟨took, left, r⟩
    cases rest with
    | nil =>
      have hlast : ¬i < n - 1 := by simp only [List.length_cons, List.length_nil] at hn; omega
      simp only [putLoop, pushBatchToEach, pushWriteClient, hlast, ↓reduceIte, hs, hpush]
      cases took <;> rfl
    | cons next rest =>
      have hcopy : i < n - 1 := by simp only [List.length_cons] at hn; omega
      rw [putLoop, pushBatchToEach]
      simp only [pushWriteClient, hcopy, ↓reduceIte, hs, hpush]
      cases took <;> exact ih (i + 1) _ _ (by simp only [List.length_cons] at hn ⊢; omega) rfl

/-- **Every queue is pushed the caller's batch, once and in order.** Take any queues, with
any outcome of each push, and a batch of fewer than `2^31` points. If the batch is empty,
`putDataPoints` pushes nothing, counts nothing and answers `true`. Otherwise it pushes the
batch itself to each write client's queue in turn, counts its size as enqueued or dropped
for each, and answers whether any queue took it, as `pushBatchToEach` says. -/
theorem putDataPoints_eq_spec (s : ClientState σ) {values : List DataPoint}
    (hsize : values.length < 2 ^ 31) (r : ρ) :
    let o := putDataPoints nc queues s values r
    (values = [] → o = (true, ⟨values, r, s.stats⟩)) ∧
      (values ≠ [] → (o.1, o.2.queues, o.2.stats) =
        pushBatchToEach nc queues values 0 s.writeClients (false, r, s.stats)) := by
  refine ⟨fun he => by subst he; rfl, fun hne => ?_⟩
  have hpos : (values.length : Int) ≠ 0 := by have := List.length_pos.mpr hne; omega
  simp only [putDataPoints, toSignedInt_of_lt hsize, hpos, ↓reduceIte]
  exact putLoop_eq nc queues values _ 0 s.writeClients false _ (Nat.zero_add _) rfl

/-! ## Two write clients, and a batch too long for an `int` -/

/-- A point to write. -/
def samplePoint : DataPoint := ⟨⟨"k", 1⟩, 0⟩

/-- Queues that take every batch, moving from it, and log each push with its write client. -/
def loggingQueues : WriteQueues (List (Nat × List DataPoint)) where
  push log i values := (true, [], log ++ [(i, values)])
  size log i := (log.filter fun e => e.1 = i).length

/-- A network client of the service `"gorilla"`. -/
def gorillaWriteClient : BeringeiNetworkClient Unit := oneHostClient fun _ _ => ⟨[], .ok⟩

/-- Members with `n` write clients. -/
def withWriteClients (n : Nat) : ClientState Unit :=
  { ClientState.initial with writeClients := List.replicate n ⟨(), 1, 1⟩ }

/-- Two write clients and a batch of one point. -/
theorem putDataPoints_eq_spec_two_clients :
    [samplePoint].length < 2 ^ 31 ∧
      let o := putDataPoints gorillaWriteClient loggingQueues (withWriteClients 2) [samplePoint] []
      ([samplePoint] = [] → o = (true, ⟨[samplePoint], [], (withWriteClients 2).stats⟩)) ∧
        ([samplePoint] ≠ [] → (o.1, o.2.queues, o.2.stats) =
          pushBatchToEach gorillaWriteClient loggingQueues [samplePoint] 0
            (withWriteClients 2).writeClients (false, [], (withWriteClients 2).stats)) :=
  ⟨by decide, putDataPoints_eq_spec gorillaWriteClient loggingQueues _ (by decide) _⟩

/-- The first queue gets a copy and the second the caller's vector, which it moves from. -/
example : (putDataPoints gorillaWriteClient loggingQueues (withWriteClients 2) [samplePoint] []).2 =
    ⟨[], [(0, [samplePoint]), (1, [samplePoint])],
      [(.enqueued "gorilla", 1), (.queueSize "gorilla", 1), (.enqueued "gorilla", 1),
        (.queueSize "gorilla", 1)]⟩ := rfl

theorem toSignedInt_two_pow_32 : toSignedInt (2 ^ 32) = 0 := by
  rw [toSignedInt, Int.bmod_def, Int.emod_self, if_pos (by omega)]

/-- A batch of `2^32` points to one write client: its size, kept in an `int`, is `0`, so the
call answers `true` having pushed nothing and counted nothing. -/
theorem putDataPoints_skips_batch_of_2_pow_32 :
    List.replicate (2 ^ 32) samplePoint ≠ [] ∧
      putDataPoints gorillaWriteClient loggingQueues (withWriteClients 1)
          (List.replicate (2 ^ 32) samplePoint) [] =
        (true, ⟨List.replicate (2 ^ 32) samplePoint, [], []⟩) := by
  refine ⟨List.ne_nil_of_length_pos (by rw [List.length_replicate]; omega), ?_⟩
  rw [putDataPoints]
  simp only [List.length_replicate, toSignedInt_two_pow_32, ↓reduceIte]
  rfl

end BeringeiClient.Client.Enqueue
