import BeringeiClient.NetworkClient

/-! # Write workers and retry threads, one pass at a time

`writeDataPointsForever` pops points from its write client's queue, sends them with
`putWithStats`, and hands what was dropped, locally or by the hosts, to the retry queue.
`retryThread` takes one `RetryOperation` at a time, waits for its deadline and sends it
again. Here one pass of each loop is a function of what the pass reads (the points `pop`
handed to the visitor, the clock and timer readings) and of the state the threads share
(the counter `numRetryQueuedDataPoints_`, the retry queue, the metrics). How the steps of
several passes interleave is the subject of Write/Interleaving.

What a pass adds to a service's `put`, `put_retry` and `put_dropped` metrics is a sum over
the metrics log. A retry pass counts each point of its operation once
(`retryPass_put_sum`). A writer pass tells `putWithStats` that every popped point was sent,
so a point the network client dropped before sending is counted in `put` and again in
`put_retry` or `put_dropped` (`writeIteration_put_sum`). -/
namespace BeringeiClient.Write.Worker
open BeringeiClient.Types BeringeiClient.NetworkClient

variable {σ : Type}

/-! ## Retry operations and the shared state -/

/-- `RetryOperation`: points to send again through `client` once the clock reaches
`retryTimeSecs`. One without points stops the retry thread that reads it. -/
structure RetryOperation (σ : Type) where
  client : σ
  dataPoints : List DataPoint
  retryTimeSecs : Int
  deriving DecidableEq, Repr

/-- `sleep` takes an `unsigned int`: the `int64_t` it is passed is kept modulo `2^32`. -/
def toUnsignedInt (x : Int) : Nat := (x % 2 ^ 32).toNat

/-- A value converted to `size_t`, kept modulo `2^64`: the admission adds the `size_t` count
of dropped points to the counter and compares the sum with the `int` flag, so both sides
are compared as `size_t`. -/
def toSizeT (x : Int) : Nat := (x % 2 ^ 64).toNat

/-- The slots of `retryQueue_`, as the constructor sizes it. -/
def retryQueueCapacity (flags : Flags) : Nat :=
  (max (flags.gorillaRetryQueueCapacity.tdiv kRetryQueueCapacitySizeRatio) kMinQueueSize).toNat

/-- The members of `BeringeiClientImpl` that write workers and retry threads share, with
the metrics. -/
structure WriteShared (σ : Type) where
  numRetryQueuedDataPoints : Int
  retryQueue : MPMCQueue (RetryOperation σ)
  stats : Stats

/-- The shared state as the constructor leaves it. -/
def WriteShared.initial (flags : Flags) : WriteShared σ :=
  ⟨0, .empty (retryQueueCapacity flags), []⟩

/-- What a pass may add a point to: the service's `put`, `put_retry` and `put_dropped`
metrics, summed. -/
def pointCounts (service : String) (stats : Stats) : Int :=
  statSum (.put service) stats + statSum (.putRetry service) stats +
    statSum (.putDropped service) stats

/-! ## `putWithStats` and `logDroppedDataPoints` -/

/-- `putWithStats`: sends the map, then adds the timer's reading and `points` less the
points the hosts gave back to the service's metrics. -/
def putWithStats (nc : BeringeiNetworkClient σ) (client : σ) (points : Int)
    (requestMap : PutRequestMap) (elapsedUs : Int) (stats : Stats) : List DataPoint × Stats :=
  let dropped := nc.performPut client requestMap
  let stats := addStatValue stats (.usPerPut (nc.getServiceName client)) elapsedUs
  (dropped, addStatValue stats (.put (nc.getServiceName client)) (points - dropped.length))

/-- `logDroppedDataPoints`: adds `dropped` to the service's `put_dropped`; the reason only
goes to the log. -/
def logDroppedDataPoints (nc : BeringeiNetworkClient σ) (client : σ) (dropped : Int)
    (stats : Stats) : Stats :=
  addStatValue stats (.putDropped (nc.getServiceName client)) dropped

variable (nc : BeringeiNetworkClient σ) (client : σ)

@[simp] theorem putWithStats_fst (points : Int) (requestMap : PutRequestMap) (elapsedUs : Int)
    (stats : Stats) :
    (putWithStats nc client points requestMap elapsedUs stats).1 = nc.performPut client requestMap :=
  rfl

@[simp] theorem statSum_putWithStats (key : StatKey) (points : Int) (requestMap : PutRequestMap)
    (elapsedUs : Int) (stats : Stats) :
    statSum key (putWithStats nc client points requestMap elapsedUs stats).2 =
      statSum key stats + (if .usPerPut (nc.getServiceName client) = key then elapsedUs else 0) +
        if .put (nc.getServiceName client) = key then
          points - (nc.performPut client requestMap).length else 0 := by
  simp [putWithStats]

@[simp] theorem statSum_logDroppedDataPoints (key : StatKey) (dropped : Int) (stats : Stats) :
    statSum key (logDroppedDataPoints nc client dropped stats) =
      statSum key stats + if .putDropped (nc.getServiceName client) = key then dropped else 0 := by
  simp [logDroppedDataPoints]

/-! ## A pass of `writeDataPointsForever` -/

/-- The lambda `writeDataPointsForever` hands to `pop`, over the request map and the points
dropped so far; its `Bool` asks for another point. -/
def popVisitor (acc : PutRequestMap × List DataPoint) (dp : DataPoint) :
    Bool × PutRequestMap × List DataPoint :=
  let (added, dropped, requests) := nc.addDataPointToRequest client dp acc.1
  let droppedDataPoints := if dropped then acc.2 ++ [dp] else acc.2
  (added && decide (droppedDataPoints.length < kMaxRetryBatchSize), requests, droppedDataPoints)

/-- The request map and the dropped points once the visitor has seen `popped`. -/
def visitPopped (popped : List DataPoint) : PutRequestMap × List DataPoint :=
  popped.foldl (fun acc dp => (popVisitor nc client acc dp).2) ([], [])

/-- The end of a writer pass that has points to retry: the check against
`gorilla_retry_queue_capacity`, the write to the retry queue, and the metrics of either
outcome. -/
def enqueueRetry (flags : Flags) (droppedDataPoints : List DataPoint) (now : Int)
    (w : WriteShared σ) : WriteShared σ :=
  let droppedCount := droppedDataPoints.length
  let op : RetryOperation σ := ⟨client, droppedDataPoints, now + flags.gorillaRetryDelaySecs⟩
  let refused := { w with
    stats := addStatValue (logDroppedDataPoints nc client droppedCount w.stats)
      .retryQueueWriteFailures 1 }
  if toSizeT (w.numRetryQueuedDataPoints + droppedCount) ≥ toSizeT flags.gorillaRetryQueueCapacity then
    refused
  else
    match w.retryQueue.write op with
    | none => refused
    | some retryQueue =>
      let n := w.numRetryQueuedDataPoints + droppedCount
      ⟨n, retryQueue, addStatValue
        (addStatValue w.stats (.putRetry (nc.getServiceName client)) droppedCount) .retryQueueSize n⟩

/-- One pass of the loop of `writeDataPointsForever`, after `pop` handed `popped` to the
visitor and answered `keepRunning`: `now` is the reading of `time(nullptr)`, `elapsedUs`
the timer's, `queueSize` the write queue's size afterwards. Answers whether the loop goes
on. -/
def writeIteration (flags : Flags) (popped : List DataPoint) (keepRunning : Bool)
    (now elapsedUs : Int) (queueSize : Nat) (w : WriteShared σ) : Bool × WriteShared σ :=
  if popped.length = 0 then (keepRunning, w)
  else
    let (requests, droppedDataPoints) := visitPopped nc client popped
    let (dropped, stats) := putWithStats nc client popped.length requests elapsedUs w.stats
    let droppedDataPoints := droppedDataPoints ++ dropped
    let w := { w with stats }
    let w := if droppedDataPoints.length > 0 then
      enqueueRetry nc client flags droppedDataPoints now w else w
    (keepRunning, { w with
      stats := addStatValue w.stats (.queueSize (nc.getServiceName client)) queueSize })

theorem pointCounts_enqueueRetry (flags : Flags) (droppedDataPoints : List DataPoint)
    (now : Int) (w : WriteShared σ) :
    pointCounts (nc.getServiceName client) (enqueueRetry nc client flags droppedDataPoints now w).stats =
      pointCounts (nc.getServiceName client) w.stats + droppedDataPoints.length := by
  unfold enqueueRetry
  dsimp only
  split
  · simp [pointCounts]; omega
  · split <;> simp [pointCounts] <;> omega

/-- The points to retry are counted once, whether or not there are any. -/
theorem pointCounts_enqueueRetry_of_pos (flags : Flags) (droppedDataPoints : List DataPoint)
    (now : Int) (w : WriteShared σ) :
    pointCounts (nc.getServiceName client) (if droppedDataPoints.length > 0 then
        enqueueRetry nc client flags droppedDataPoints now w else w).stats =
      pointCounts (nc.getServiceName client) w.stats + droppedDataPoints.length := by
  split
  · exact pointCounts_enqueueRetry nc client flags droppedDataPoints now w
  · simp_all

/-- A network client that drops every point before sending it, and whose hosts give back
nothing. -/
def dropAllClient : BeringeiNetworkClient Unit :=
  { oneHostClient (fun _ _ => ⟨[], .ok⟩) with addDataPointToRequest := fun _ _ m => (true, true, m) }

/-- The point of the failing pass. -/
def droppedPoint : DataPoint := ⟨⟨"k", 1⟩, 0⟩

/-- **What a writer pass counts.** A pass that pops `n > 0` points adds `n` to the
service's `put`, `put_retry` and `put_dropped` metrics together, and once more every point
the network client dropped before sending. -/
theorem writeIteration_put_sum (flags : Flags) {popped : List DataPoint} (hpop : popped ≠ [])
    (keepRunning : Bool) (now elapsedUs : Int) (queueSize : Nat) (w : WriteShared σ) :
    pointCounts (nc.getServiceName client)
        (writeIteration nc client flags popped keepRunning now elapsedUs queueSize w).2.stats =
      pointCounts (nc.getServiceName client) w.stats + popped.length +
        (visitPopped nc client popped).2.length := by
  have hqueue : ∀ stats, pointCounts (nc.getServiceName client)
      (addStatValue stats (.queueSize (nc.getServiceName client)) queueSize) =
      pointCounts (nc.getServiceName client) stats := by
    simp [pointCounts]
  simp only [writeIteration, show popped.length ≠ 0 by simpa using hpop, ↓reduceIte, hqueue,
    pointCounts_enqueueRetry_of_pos]
  simp [pointCounts]
  omega

theorem writeIteration_put_sum_dropped_point :
    [droppedPoint] ≠ [] ∧
      pointCounts (dropAllClient.getServiceName ()) (writeIteration dropAllClient () Flags.defaults
          [droppedPoint] true 0 0 0 (WriteShared.initial Flags.defaults)).2.stats =
        pointCounts (dropAllClient.getServiceName ())
            (WriteShared.initial Flags.defaults : WriteShared Unit).stats +
          [droppedPoint].length + (visitPopped dropAllClient () [droppedPoint]).2.length :=
  ⟨List.cons_ne_nil _ _,
    writeIteration_put_sum dropAllClient () Flags.defaults (List.cons_ne_nil _ _) true 0 0 0 _⟩

/-- A pass that pops one point, which `dropAllClient` drops before sending, adds `2` to the
service's `put`, `put_retry` and `put_dropped`: `1` to `put` and `1` to `put_retry`. -/
theorem writeIteration_counts_dropped_point_twice :
    dropAllClient.HonestPut ∧
      let w := (writeIteration dropAllClient () Flags.defaults [droppedPoint] true 0 0 0
        (WriteShared.initial Flags.defaults)).2
      statSum (.put "gorilla") w.stats = 1 ∧ statSum (.putRetry "gorilla") w.stats = 1 ∧
        pointCounts "gorilla" w.stats = 2 :=
  ⟨⟨fun _ _ _ => by simp [dropAllClient], fun _ _ => List.nil_subperm⟩, by decide⟩

/-! ## A pass of `retryThread` -/

/-- The request map that `retryThread` rebuilds for an operation's points, and how many of
them the network client dropped. -/
def rebuildRequest (dataPoints : List DataPoint) : PutRequestMap × Nat :=
  dataPoints.foldl (fun acc dp =>
    let (_, dropped, requestMap) := nc.addDataPointToRequest client dp acc.1
    (requestMap, if dropped then acc.2 + 1 else acc.2)) ([], 0)

theorem rebuildRequest_dropped_le (dataPoints : List DataPoint) :
    (rebuildRequest nc client dataPoints).2 ≤ dataPoints.length := by
  unfold rebuildRequest
  suffices ∀ acc : PutRequestMap × Nat, (dataPoints.foldl (fun acc dp =>
      let (_, dropped, requestMap) := nc.addDataPointToRequest client dp acc.1
      (requestMap, if dropped then acc.2 + 1 else acc.2)) acc).2 ≤ acc.2 + dataPoints.length by
    simpa using this ([], 0)
  induction dataPoints with
  | nil => simp
  | cons dp rest ih =>
    intro acc
    refine (ih _).trans ?_
    simp only [List.length_cons]
    split <;> omega

/-- What a pass of `retryThread` leaves: the shared state, the argument of `sleep` if it
was called, and whether the thread stopped. -/
structure RetryPass (σ : Type) where
  shared : WriteShared σ
  sleep : Option Nat
  stop : Bool

/-- One pass of `retryThread`'s loop after `blockingRead` took `op`: `t0`, `t1` and `t2`
are the readings of its three `time(nullptr)` calls, `elapsedUs` the timer's. -/
def retryPass (op : RetryOperation σ) (t0 t1 t2 elapsedUs : Int) (w : WriteShared σ) :
    RetryPass σ :=
  let n := w.numRetryQueuedDataPoints - op.dataPoints.length
  let w := { w with numRetryQueuedDataPoints := n, stats := addStatValue w.stats .retryQueueSize n }
  if op.dataPoints.isEmpty then ⟨w, none, true⟩
  else if op.retryTimeSecs < t0 - kRetryThresholdSecs then
    ⟨{ w with stats := logDroppedDataPoints nc op.client op.dataPoints.length w.stats }, none, false⟩
  else
    let sleep := if op.retryTimeSecs > t1 then some (toUnsignedInt (op.retryTimeSecs - t2)) else none
    let (requestMap, localDropped) := rebuildRequest nc op.client op.dataPoints
    let (dropped, stats) :=
      putWithStats nc op.client (op.dataPoints.length - localDropped) requestMap elapsedUs w.stats
    let totalDropped := localDropped + dropped.length
    let stats := if totalDropped > 0 then
      logDroppedDataPoints nc op.client totalDropped stats else stats
    ⟨{ w with stats }, sleep, false⟩

/-- One pass of `retryThread`'s loop, from its `blockingRead`; none while the queue is
empty, where the read blocks. -/
def retryIteration (t0 t1 t2 elapsedUs : Int) (w : WriteShared σ) : Option (RetryPass σ) :=
  w.retryQueue.blockingRead.map fun (op, retryQueue) =>
    retryPass nc op t0 t1 t2 elapsedUs { w with retryQueue }

/-- An operation of one point, due at `100`. -/
def dueOp : RetryOperation Unit := ⟨(), [droppedPoint], 100⟩

/-- With deadline `100` and clock readings `99`, `99`, `101`, the pass sleeps `2^32 - 1`
seconds: the clock passed the deadline between the comparison and the computation of the
argument, and the difference `-1` wraps. -/
theorem retryPass_sleeps_past_wrap :
    ∃ secs, (retryPass (oneHostClient fun (_ : Unit) _ => ⟨[], .ok⟩) dueOp 99 99 101 0
        (WriteShared.initial Flags.defaults)).sleep = some secs ∧
      (100 : Int) - 99 < secs :=
  ⟨4294967295, by decide, by decide⟩

/-- **What a retry pass counts.** A pass that takes an operation with points adds the
operation's size to the service's `put` and `put_dropped` metrics together, whether it
drops the operation as too old or sends it again. -/
theorem retryPass_put_sum (op : RetryOperation σ) (hop : op.dataPoints ≠ [])
    (t0 t1 t2 elapsedUs : Int) (w : WriteShared σ) :
    let service := nc.getServiceName op.client
    let stats := (retryPass nc op t0 t1 t2 elapsedUs w).shared.stats
    statSum (.put service) stats + statSum (.putDropped service) stats =
      statSum (.put service) w.stats + statSum (.putDropped service) w.stats +
        op.dataPoints.length := by
  have hne : op.dataPoints.isEmpty = false := by simpa using hop
  simp only [retryPass, hne, Bool.false_eq_true, ↓reduceIte]
  split
  · simp [Int.add_assoc]
  · rcases hr : rebuildRequest nc op.client op.dataPoints with ⟨requestMap, localDropped⟩
    have hle : localDropped ≤ op.dataPoints.length := by
      simpa [hr] using rebuildRequest_dropped_le nc op.client op.dataPoints
    dsimp only
    split <;> rename_i hd <;> simp only [statSum_putWithStats, statSum_logDroppedDataPoints,
      statSum_addStatValue, putWithStats_fst, reduceCtorEq, ↓reduceIte, Int.add_zero] at hd ⊢ <;> omega

theorem retryPass_put_sum_on_time :
    dueOp.dataPoints ≠ [] ∧
      let stats := (retryPass dropAllClient dueOp 99 99 100 0
        (WriteShared.initial Flags.defaults)).shared.stats
      statSum (.put "gorilla") stats + statSum (.putDropped "gorilla") stats = 0 + 0 + 1 :=
  ⟨List.cons_ne_nil _ _, retryPass_put_sum dropAllClient dueOp (List.cons_ne_nil _ _) 99 99 100 0 _⟩

/-! ## Where a writer pass sends its points

Each point a writer pass pops is placed in the request map or dropped by the network client
(`visitPopped_perm`). The hosts keep the placed points less those they give back. The
dropped points and the ones given back form one retry operation, which the pass writes to
the retry queue or, when the counter or the queue refuses it, counts in `put_dropped`
(`HandsOn`, `writeIteration_keeps_points`). -/

/-- How a writer pass leaves the retry queue with `points` to retry. With none, it writes
nothing. Otherwise it writes one operation of them through `client`, due `delay` seconds
after `now`, and adds them to the counter, or it writes nothing and adds them to the
service's `put_dropped`. -/
def HandsOn (client : σ) (points : List DataPoint) (now delay : Int) (w w' : WriteShared σ) :
    Prop :=
  (points = [] → w'.retryQueue = w.retryQueue ∧
    w'.numRetryQueuedDataPoints = w.numRetryQueuedDataPoints) ∧
  (points ≠ [] →
    (w'.retryQueue.items = w.retryQueue.items ++ [⟨client, points, now + delay⟩] ∧
      w'.numRetryQueuedDataPoints = w.numRetryQueuedDataPoints + points.length) ∨
    (w'.retryQueue = w.retryQueue ∧ w'.numRetryQueuedDataPoints = w.numRetryQueuedDataPoints ∧
      statSum (.putDropped (nc.getServiceName client)) w'.stats =
        statSum (.putDropped (nc.getServiceName client)) w.stats + points.length))

theorem foldl_popVisitor_perm (hnc : nc.HonestPut) (popped : List DataPoint)
    (acc : PutRequestMap × List DataPoint) :
    let r := popped.foldl (fun acc dp => (popVisitor nc client acc dp).2) acc
    (putPoints r.1 ++ r.2).Perm (putPoints acc.1 ++ acc.2 ++ popped) := by
  induction popped generalizing acc with
  | nil => simp
  | cons dp rest ih =>
    refine (ih _).trans ?_
    have hp := hnc.addDataPointToRequest_places client dp acc.1
    rcases h : nc.addDataPointToRequest client dp acc.1 with ⟨added, dropped, requests⟩
    rw [h] at hp
    rw [List.perm_iff_count] at hp ⊢
    intro a
    have ha := hp a
    cases dropped <;> simp only [popVisitor, h, List.count_append, List.count_cons,
      List.count_nil, ↓reduceIte, Bool.false_eq_true] at ha ⊢ <;> omega

/-- Every popped point is placed in the request map or dropped before sending. -/
theorem visitPopped_perm (hnc : nc.HonestPut) (popped : List DataPoint) :
    (putPoints (visitPopped nc client popped).1 ++ (visitPopped nc client popped).2).Perm popped := by
  simpa [putPoints] using foldl_popVisitor_perm nc client hnc popped ([], [])

theorem enqueueRetry_handsOn (flags : Flags) {droppedDataPoints : List DataPoint}
    (hne : droppedDataPoints ≠ []) (now : Int) (w : WriteShared σ) :
    HandsOn nc client droppedDataPoints now flags.gorillaRetryDelaySecs w
      (enqueueRetry nc client flags droppedDataPoints now w) := by
  refine ⟨fun h => absurd h hne, fun _ => ?_⟩
  unfold enqueueRetry
  dsimp only
  split
  · exact .inr ⟨rfl, rfl, by simp⟩
  · split
    · exact .inr ⟨rfl, rfl, by simp⟩
    · rename_i q hq
      exact .inl ⟨(MPMCQueue.write_eq_some hq).1, rfl⟩

/-- **A writer pass loses no point.** Take a network client that places each point in the
request map or flags it dropped, and whose hosts give back only points of the map. A pass
that pops points places or drops each of them. The points dropped before sending, followed by
those the hosts gave back, are the pass's points to retry. With none, the pass writes nothing
to the retry queue. Otherwise it writes them as one operation due
`gorilla_retry_delay_secs` after the clock's reading and adds them to the counter, or, when
the counter or the queue refuses it, adds them to the service's `put_dropped`. -/
theorem writeIteration_keeps_points (hnc : nc.HonestPut) (flags : Flags) {popped : List DataPoint}
    (hpop : popped ≠ []) (keepRunning : Bool) (now elapsedUs : Int) (queueSize : Nat)
    (w : WriteShared σ) :
    (putPoints (visitPopped nc client popped).1 ++ (visitPopped nc client popped).2).Perm popped ∧
      HandsOn nc client ((visitPopped nc client popped).2 ++
          nc.performPut client (visitPopped nc client popped).1) now flags.gorillaRetryDelaySecs w
        (writeIteration nc client flags popped keepRunning now elapsedUs queueSize w).2 := by
  refine ⟨visitPopped_perm nc client hnc popped, ?_⟩
  have hq : ∀ w' : WriteShared σ, HandsOn nc client ((visitPopped nc client popped).2 ++
      nc.performPut client (visitPopped nc client popped).1) now flags.gorillaRetryDelaySecs w w' →
      HandsOn nc client ((visitPopped nc client popped).2 ++
        nc.performPut client (visitPopped nc client popped).1) now flags.gorillaRetryDelaySecs w
        { w' with stats := addStatValue w'.stats (.queueSize (nc.getServiceName client)) queueSize } :=
    fun w' h => ⟨h.1, fun hne => (h.2 hne).imp_right fun h => ⟨h.1, h.2.1, by simp [h.2.2]⟩⟩
  simp only [writeIteration, show popped.length ≠ 0 by simpa using hpop, ↓reduceIte]
  apply hq
  split
  · rename_i hlen
    have hne := List.ne_nil_of_length_pos hlen
    have h := enqueueRetry_handsOn nc client flags hne now
      { w with stats := (putWithStats nc client popped.length (visitPopped nc client popped).1
        elapsedUs w.stats).2 }
    exact ⟨fun he => absurd he hne, fun _ => (h.2 hne).imp_right fun h => ⟨h.1, h.2.1, by
      simpa using h.2.2⟩⟩
  · rename_i hlen
    have he : (visitPopped nc client popped).2 ++ nc.performPut client (visitPopped nc client popped).1 = [] :=
      List.eq_nil_of_length_eq_zero (by simpa using hlen)
    exact ⟨fun _ => ⟨rfl, rfl⟩, fun hne => absurd he hne⟩

theorem dropAllClient_honestPut : dropAllClient.HonestPut :=
  ⟨fun _ _ _ => by simp [dropAllClient], fun _ _ => List.nil_subperm⟩

/-- A pass that pops one point, which `dropAllClient` drops before sending, writes it to the
retry queue. -/
theorem writeIteration_keeps_dropped_point :
    dropAllClient.HonestPut ∧ [droppedPoint] ≠ [] ∧
      (putPoints (visitPopped dropAllClient () [droppedPoint]).1 ++
          (visitPopped dropAllClient () [droppedPoint]).2).Perm [droppedPoint] ∧
      HandsOn dropAllClient () ((visitPopped dropAllClient () [droppedPoint]).2 ++
          dropAllClient.performPut () (visitPopped dropAllClient () [droppedPoint]).1) 0
        Flags.defaults.gorillaRetryDelaySecs (WriteShared.initial Flags.defaults)
        (writeIteration dropAllClient () Flags.defaults [droppedPoint] true 0 0 0
          (WriteShared.initial Flags.defaults)).2 :=
  ⟨dropAllClient_honestPut, List.cons_ne_nil _ _, writeIteration_keeps_points dropAllClient ()
    dropAllClient_honestPut Flags.defaults (List.cons_ne_nil _ _) true 0 0 0 _⟩

end BeringeiClient.Write.Worker
