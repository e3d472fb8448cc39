import BeringeiClient.Write.Worker
import Mathlib.Logic.Relation
import Mathlib.Algebra.Order.BigOperators.Group.List
import Mathlib.Algebra.Order.Ring.Nat

/-! # Write workers, retry threads and shutdown, interleaved

The write workers, the retry threads and the thread that calls `stopWriterThreads` share
the counter `numRetryQueuedDataPoints_`, the retry queue and the clock. Each thread is a
program counter; `Step` takes one step of one thread, where each load or update of the
atomic counter, each write or read of the queue and each clock reading is one step, and
the clock moves forward on its own. A writer enters the model with the points its pass
dropped (Worker); what it sends before that touches nothing shared here.

The counter is exact in the sense of `Counted`: it plus the points of admissions not yet
added equals the points in the queue plus the points of operations taken but not yet
subtracted (`reach_counted`). It is not a bound: two writers can both pass the comparison
before either adds its points, and a retry thread can subtract an operation's points
before its writer added them (`retry_backlog_unbounded`). The queue is first in, first
out: threads take operations in the order they were written, and with one retry thread
they are also sent in that order (`reach_sent_in_order`); with two they may not be
(`retry_sends_out_of_order`). How `stopWriterThreads` stops the retry threads is the
subject of Write/Shutdown. -/
namespace BeringeiClient.Write.Interleaving
open BeringeiClient.Types BeringeiClient.Write.Worker

variable {σ : Type}

/-! ## Threads and the shared state -/

/-- Where a write worker is in the admission of its dropped points
(`writeDataPointsForever`, from the comparison on): popping and sending through `client`,
about to load the counter and compare, about to write the retry queue, about to add the
points to the counter, or returned after `pop` reported the shutdown. -/
inductive WriterPc (σ : Type)
  | sending (client : σ)
  | check (op : RetryOperation σ)
  | write (op : RetryOperation σ)
  | increment (op : RetryOperation σ)
  | stopped
  deriving DecidableEq

/-- Where a retry thread is in its loop (`retryThread`): in `blockingRead`; holding `op`,
about to subtract its points, then about to read the clock for the age check, for the
comparison with the deadline and for the argument of `sleep`; in `sleep` until the clock
reaches `wake`; about to call `performPut`; or returned after an operation without
points. -/
inductive RetryPc (σ : Type)
  | read
  | decrement (op : RetryOperation σ)
  | checkAge (op : RetryOperation σ)
  | checkDeadline (op : RetryOperation σ)
  | computeSleep (op : RetryOperation σ)
  | sleeping (op : RetryOperation σ) (wake : Int)
  | put (op : RetryOperation σ)
  | stopped
  deriving DecidableEq

/-- Where the thread that calls `stopWriterThreads` is: not called yet, joining the write
workers after flushing their queues, writing `left` more empty operations to the retry
queue, joining the retry threads, or returned. -/
inductive StopPc
  | running
  | joinWriters
  | sentinels (left : Nat)
  | joinRetriers
  | done
  deriving DecidableEq

/-- The shared state, the threads, and three histories of the retry queue: what was written
to it, what was taken from it, and what `performPut` was called for, each oldest first. -/
structure System (σ : Type) where
  numRetryQueuedDataPoints : Int
  retryQueue : MPMCQueue (RetryOperation σ)
  now : Int
  writers : List (WriterPc σ)
  retriers : List (RetryPc σ)
  stopper : StopPc
  written : List (RetryOperation σ)
  taken : List (RetryOperation σ)
  sent : List (RetryOperation σ)

namespace System

/-- Just after `startWriterThreads`: one writer per entry of `writerClients`, sending through
it, and `retryThreads` retry threads, on the shared state the constructor built. -/
def initial (flags : Flags) (writerClients : List σ) (retryThreads : Nat) (now : Int) : System σ where
  numRetryQueuedDataPoints := 0
  retryQueue := .empty (retryQueueCapacity flags)
  now := now
  writers := writerClients.map .sending
  retriers := List.replicate retryThreads .read
  stopper := .running
  written := []
  taken := []
  sent := []

end System

/-- An operation of `stopWriterThreads`: no points; its other fields are never read. -/
def sentinel (client : σ) (retryTimeSecs : Int) : RetryOperation σ := ⟨client, [], retryTimeSecs⟩

/-! ## Steps -/

/-- One step of one thread, or of the clock. A thread is named by its place in its list:
`pre` are the threads before it, `post` those after it. A writer enters the admission with
`drop`: its pass dropped the points of `op`, stamped with the clock's reading. The
comparison is made on `size_t` values, as `toSizeT` converts them. -/
inductive Step (flags : Flags) : System σ → System σ → Prop
  | drop {c : System σ} (pre post : List (WriterPc σ)) {client : σ} (op : RetryOperation σ)
      (hpc : c.writers = pre ++ .sending client :: post) (hclient : op.client = client)
      (hne : op.dataPoints ≠ []) (hdl : op.retryTimeSecs = c.now + flags.gorillaRetryDelaySecs) :
      Step flags c { c with writers := pre ++ .check op :: post }
  | refuse {c : System σ} (pre post : List (WriterPc σ)) {op : RetryOperation σ}
      (hpc : c.writers = pre ++ .check op :: post)
      (hfull : toSizeT (c.numRetryQueuedDataPoints + op.dataPoints.length) ≥
        toSizeT flags.gorillaRetryQueueCapacity) :
      Step flags c { c with writers := pre ++ .sending op.client :: post }
  | accept {c : System σ} (pre post : List (WriterPc σ)) {op : RetryOperation σ}
      (hpc : c.writers = pre ++ .check op :: post)
      (hroom : toSizeT (c.numRetryQueuedDataPoints + op.dataPoints.length) <
        toSizeT flags.gorillaRetryQueueCapacity) :
      Step flags c { c with writers := pre ++ .write op :: post }
  | writeFull {c : System σ} (pre post : List (WriterPc σ)) {op : RetryOperation σ}
      (hpc : c.writers = pre ++ .write op :: post) (hq : c.retryQueue.write op = none) :
      Step flags c { c with writers := pre ++ .sending op.client :: post }
  | write {c : System σ} (pre post : List (WriterPc σ)) {op : RetryOperation σ}
      {q : MPMCQueue (RetryOperation σ)}
      (hpc : c.writers = pre ++ .write op :: post) (hq : c.retryQueue.write op = some q) :
      Step flags c { c with
        writers := pre ++ .increment op :: post, retryQueue := q, written := c.written ++ [op] }
  | increment {c : System σ} (pre post : List (WriterPc σ)) {op : RetryOperation σ}
      (hpc : c.writers = pre ++ .increment op :: post) :
      Step flags c { c with
        writers := pre ++ .sending op.client :: post
        numRetryQueuedDataPoints := c.numRetryQueuedDataPoints + op.dataPoints.length }
  | writerStop {c : System σ} (pre post : List (WriterPc σ)) {client : σ}
      (hpc : c.writers = pre ++ .sending client :: post) (hstop : c.stopper ≠ .running) :
      Step flags c { c with writers := pre ++ .stopped :: post }
  | take {c : System σ} (pre post : List (RetryPc σ)) {op : RetryOperation σ}
      {q : MPMCQueue (RetryOperation σ)}
      (hpc : c.retriers = pre ++ .read :: post) (hq : c.retryQueue.blockingRead = some (op, q)) :
      Step flags c { c with
        retriers := pre ++ .decrement op :: post, retryQueue := q, taken := c.taken ++ [op] }
  | decrement {c : System σ} (pre post : List (RetryPc σ)) {op : RetryOperation σ}
      (hpc : c.retriers = pre ++ .decrement op :: post) :
      Step flags c { c with
        retriers := pre ++ (if op.dataPoints.isEmpty then .stopped else .checkAge op) :: post
        numRetryQueuedDataPoints := c.numRetryQueuedDataPoints - op.dataPoints.length }
  | tooOld {c : System σ} (pre post : List (RetryPc σ)) {op : RetryOperation σ}
      (hpc : c.retriers = pre ++ .checkAge op :: post)
      (hold : op.retryTimeSecs < c.now - kRetryThresholdSecs) :
      Step flags c { c with retriers := pre ++ .read :: post }
  | young {c : System σ} (pre post : List (RetryPc σ)) {op : RetryOperation σ}
      (hpc : c.retriers = pre ++ .checkAge op :: post)
      (hyoung : ¬op.retryTimeSecs < c.now - kRetryThresholdSecs) :
      Step flags c { c with retriers := pre ++ .checkDeadline op :: post }
  | early {c : System σ} (pre post : List (RetryPc σ)) {op : RetryOperation σ}
      (hpc : c.retriers = pre ++ .checkDeadline op :: post) (hearly : op.retryTimeSecs > c.now) :
      Step flags c { c with retriers := pre ++ .computeSleep op :: post }
  | due {c : System σ} (pre post : List (RetryPc σ)) {op : RetryOperation σ}
      (hpc : c.retriers = pre ++ .checkDeadline op :: post) (hdue : ¬op.retryTimeSecs > c.now) :
      Step flags c { c with retriers := pre ++ .put op :: post }
  | sleep {c : System σ} (pre post : List (RetryPc σ)) {op : RetryOperation σ}
      (hpc : c.retriers = pre ++ .computeSleep op :: post) :
      Step flags c { c with
        retriers := pre ++ .sleeping op (c.now + toUnsignedInt (op.retryTimeSecs - c.now)) :: post }
  | wake {c : System σ} (pre post : List (RetryPc σ)) {op : RetryOperation σ} {wake : Int}
      (hpc : c.retriers = pre ++ .sleeping op wake :: post) (hwake : wake ≤ c.now) :
      Step flags c { c with retriers := pre ++ .put op :: post }
  | put {c : System σ} (pre post : List (RetryPc σ)) {op : RetryOperation σ}
      (hpc : c.retriers = pre ++ .put op :: post) :
      Step flags c { c with retriers := pre ++ .read :: post, sent := c.sent ++ [op] }
  | flush {c : System σ} (hpc : c.stopper = .running) :
      Step flags c { c with stopper := .joinWriters }
  | joinWriters {c : System σ} (hpc : c.stopper = .joinWriters)
      (hjoin : ∀ pc ∈ c.writers, pc = .stopped) :
      Step flags c { c with stopper := .sentinels c.retriers.length }
  | sentinel {c : System σ} {k : Nat} {q : MPMCQueue (RetryOperation σ)} (client : σ) (t : Int)
      (hpc : c.stopper = .sentinels (k + 1)) (hq : c.retryQueue.write (sentinel client t) = some q) :
      Step flags c { c with
        stopper := .sentinels k, retryQueue := q, written := c.written ++ [sentinel client t] }
  | sentinelFull {c : System σ} {k : Nat} (client : σ) (t : Int)
      (hpc : c.stopper = .sentinels (k + 1)) (hq : c.retryQueue.write (sentinel client t) = none) :
      Step flags c { c with stopper := .sentinels k }
  | joinRetriers {c : System σ} (hpc : c.stopper = .sentinels 0) :
      Step flags c { c with stopper := .joinRetriers }
  | joined {c : System σ} (hpc : c.stopper = .joinRetriers)
      (hjoin : ∀ pc ∈ c.retriers, pc = .stopped) :
      Step flags c { c with stopper := .done }
  | tick {c : System σ} (d : Nat) :
      Step flags c { c with now := c.now + d }

/-- The systems some interleaving leads to from `c`. -/
def Reachable (flags : Flags) (c : System σ) : System σ → Prop :=
  Relation.ReflTransGen (Step flags) c

variable {flags : Flags}

/-! ## The counter -/

/-- The points of operations. -/
def points (ops : List (RetryOperation σ)) : Nat := (ops.map fun op => op.dataPoints.length).sum

@[simp] theorem points_nil : points ([] : List (RetryOperation σ)) = 0 := rfl

@[simp] theorem points_cons (op : RetryOperation σ) (ops : List (RetryOperation σ)) :
    points (op :: ops) = op.dataPoints.length + points ops := rfl

@[simp] theorem points_append (ops ops' : List (RetryOperation σ)) :
    points (ops ++ ops') = points ops + points ops' := by
  simp [points]

/-- The points a writer wrote to the queue and has not yet added to the counter. -/
def WriterPc.unadded : WriterPc σ → Nat
  | .increment op => op.dataPoints.length
  | _ => 0

/-- The points of the operation a retry thread took and has not yet subtracted. -/
def RetryPc.unsubtracted : RetryPc σ → Nat
  | .decrement op => op.dataPoints.length
  | _ => 0

/-- What the counter counts: with the points the writers have yet to add, the points in the
queue and those the retry threads have yet to subtract. -/
def Counted (c : System σ) : Prop :=
  c.numRetryQueuedDataPoints + ((c.writers.map WriterPc.unadded).sum : Int) =
    points c.retryQueue.items + ((c.retriers.map RetryPc.unsubtracted).sum : Int)

theorem counted_initial (writerClients : List σ) (retryThreads : Nat) (now : Int) :
    Counted (System.initial flags writerClients retryThreads now) := by
  simp [Counted, System.initial, MPMCQueue.empty, WriterPc.unadded, RetryPc.unsubtracted,
    Function.comp_def]

/-- Replacing one thread's place by another changes a sum over the threads by the
difference. -/
theorem sum_map_frame {α : Type} (f : α → Nat) {l pre post : List α} {x : α}
    (hpc : l = pre ++ x :: post) (y : α) :
    ((pre ++ y :: post).map f).sum + f x = (l.map f).sum + f y := by
  subst hpc
  simp only [List.map_append, List.map_cons, List.sum_append, List.sum_cons]
  omega

/-- A thread that moves between two places of equal weight leaves a sum over the threads
as it was. -/
theorem sum_map_move {α : Type} (f : α → Nat) {l pre post : List α} {x y : α}
    (hpc : l = pre ++ x :: post) (hxy : f y = f x) :
    ((pre ++ y :: post).map f).sum = (l.map f).sum := by
  have := sum_map_frame f hpc y
  omega

theorem step_counted {c c' : System σ} (hs : Step flags c c') (h : Counted c) : Counted c' := by
  unfold Counted at h ⊢
  cases hs <;> dsimp only
  case write pre post op q hpc hq =>
    have := sum_map_frame WriterPc.unadded hpc (.increment op)
    simp only [(MPMCQueue.write_eq_some hq).1, points_append, points_cons, points_nil,
      WriterPc.unadded] at this ⊢
    omega
  case increment pre post op hpc =>
    have := sum_map_frame WriterPc.unadded hpc (.sending op.client)
    simp only [WriterPc.unadded] at this
    omega
  case take pre post op q hpc hq =>
    have := sum_map_frame RetryPc.unsubtracted hpc (.decrement op)
    rw [(MPMCQueue.blockingRead_eq_some hq).1, points_cons] at h
    simp only [RetryPc.unsubtracted] at this
    omega
  case decrement pre post op hpc =>
    have := sum_map_frame RetryPc.unsubtracted hpc
      (if op.dataPoints.isEmpty then .stopped else .checkAge op)
    have hzero : RetryPc.unsubtracted
        (if op.dataPoints.isEmpty then (.stopped : RetryPc σ) else .checkAge op) = 0 := by
      split <;> rfl
    rw [hzero] at this
    simp only [RetryPc.unsubtracted] at this
    omega
  case sentinel k q client t hpc hq =>
    simp only [(MPMCQueue.write_eq_some hq).1, points_append, points_cons, points_nil, sentinel,
      List.length_nil]
    omega
  case drop _ _ _ _ hpc _ _ _ | refuse _ _ _ hpc _ | accept _ _ _ hpc _ | writeFull _ _ _ hpc _
      | writerStop _ _ _ hpc _ =>
    rw [sum_map_move WriterPc.unadded hpc]
    exacts [h, rfl]
  case tooOld _ _ _ hpc _ | young _ _ _ hpc _ | early _ _ _ hpc _ | due _ _ _ hpc _
      | sleep _ _ _ hpc | wake _ _ _ _ hpc _ | put _ _ _ hpc =>
    rw [sum_map_move RetryPc.unsubtracted hpc]
    exacts [h, rfl]
  all_goals exact h

/-- Two write workers, through the client `()`, and one retry thread, with the default flags
and the clock at `0`. -/
def twoWriters : System Unit := System.initial Flags.defaults [(), ()] 1 0

/-- An operation of `n` points through the client `()`, as a writer pass at clock `0` makes
it with the default flags. -/
def pendingOp (n : Nat) : RetryOperation Unit := ⟨(), List.replicate n droppedPoint, 55⟩

@[simp] theorem pendingOp_length (n : Nat) : (pendingOp n).dataPoints.length = n := by
  simp [pendingOp]

theorem pendingOp_ne_nil {n : Nat} (hn : 0 < n) : (pendingOp n).dataPoints ≠ [] := by
  rw [← List.length_pos, pendingOp_length]
  exact hn

/-- A retry thread takes and subtracts an operation before its writer added it. -/
theorem reach_below_zero : ∃ c, Reachable Flags.defaults twoWriters c ∧ c.numRetryQueuedDataPoints < 0 :=
  ⟨_, .head (.drop [] _ (pendingOp 1) rfl rfl (pendingOp_ne_nil (by decide)) rfl) <|
    .head (.accept [] _ rfl (by simp only [pendingOp_length]; decide)) <|
    .head (.write [] _ rfl rfl) <| .head (.take [] [] rfl rfl) <| .head (.decrement [] [] rfl) .refl,
    by decide⟩

/-- **The counter is exact.** In every reachable system the counter, plus the points writers
wrote to the queue and have yet to add, is the number of points in the queue plus the
points of the operations retry threads took and have yet to subtract. -/
theorem reach_counted (writerClients : List σ) (retryThreads : Nat) (now : Int) {c : System σ}
    (hr : Reachable flags (System.initial flags writerClients retryThreads now) c) : Counted c := by
  induction hr with
  | refl => exact counted_initial writerClients retryThreads now
  | tail _ hs ih => exact step_counted hs ih

theorem reach_counted_below_zero :
    ∃ c, Reachable Flags.defaults twoWriters c ∧ c.numRetryQueuedDataPoints < 0 ∧ Counted c := by
  obtain ⟨c, hr, hneg⟩ := reach_below_zero
  exact ⟨c, hr, hneg, reach_counted [(), ()] 1 0 hr⟩

/-- Two writers pass the comparison before either adds its points, and the queue ends up
holding `gorilla_retry_queue_capacity` points; a retry thread takes and subtracts an
operation before its writer added it, and the counter goes below zero. -/
theorem retry_backlog_unbounded :
    (∃ c, Reachable Flags.defaults twoWriters c ∧
      Flags.defaults.gorillaRetryQueueCapacity ≤ points c.retryQueue.items) ∧
    (∃ c, Reachable Flags.defaults twoWriters c ∧ c.numRetryQueuedDataPoints < 0) := by
  refine ⟨⟨_, .head (.drop [] _ (pendingOp 5000) rfl rfl (pendingOp_ne_nil (by decide)) rfl) <|
      .head (.drop [_] [] (pendingOp 5000) rfl rfl (pendingOp_ne_nil (by decide)) rfl) <|
      .head (.accept [] _ rfl (by simp only [pendingOp_length]; decide)) <|
      .head (.accept [_] [] rfl (by simp only [pendingOp_length]; decide)) <|
      .head (.write [] _ rfl rfl) <| .head (.write [_] [] rfl rfl) .refl, ?_⟩, reach_below_zero⟩
  show (10000 : Int) ≤ ((points [pendingOp 5000, pendingOp 5000] : Nat) : Int)
  rw [points_cons, points_cons, points_nil, pendingOp_length]
  decide

/-! ## Order -/

/-- The queue is first in, first out: what was taken, then what is still queued, is what
was written. -/
def Fifo (c : System σ) : Prop := c.taken ++ c.retryQueue.items = c.written

theorem step_fifo {c c' : System σ} (hs : Step flags c c') (h : Fifo c) : Fifo c' := by
  unfold Fifo at h ⊢
  cases hs
  case write pre post op q hpc hq => simp [(MPMCQueue.write_eq_some hq).1, ← h]
  case take pre post op q hpc hq => simp [← h, (MPMCQueue.blockingRead_eq_some hq).1]
  case sentinel k q client t hpc hq => simp [(MPMCQueue.write_eq_some hq).1, ← h]
  all_goals exact h

/-- The operation a retry thread holds, from taking it until it sends or drops it. -/
def RetryPc.held : RetryPc σ → List (RetryOperation σ)
  | .read | .stopped => []
  | .decrement op | .checkAge op | .checkDeadline op | .computeSleep op | .sleeping op _ | .put op =>
    [op]

/-- With at most one retry thread, the operations sent, then the one it holds, were taken
in this order. -/
def InOrder (c : System σ) : Prop :=
  c.retriers.length ≤ 1 → (c.sent ++ c.retriers.flatMap RetryPc.held).Sublist c.taken

theorem frame_mem {α : Type} {l pre post : List α} {x : α} (h : l = pre ++ x :: post) : x ∈ l := by
  simp [h]

/-- A thread of a list of at most one thread is the whole list. -/
theorem frame_eq_nil {α : Type} {pre post : List α} {x : α} (h : (pre ++ x :: post).length ≤ 1) :
    pre = [] ∧ post = [] := by
  simp only [List.length_append, List.length_cons] at h
  exact ⟨List.eq_nil_of_length_eq_zero (by omega), List.eq_nil_of_length_eq_zero (by omega)⟩

/-- A retry step that lets go of the held operation, or keeps it, keeps the order. -/
theorem inOrder_of_held_sublist {c : System σ} {x y : RetryPc σ} (pre post : List (RetryPc σ))
    (hpc : c.retriers = pre ++ x :: post) (h : InOrder c) (hxy : y.held.Sublist x.held)
    (hlen : (pre ++ y :: post).length ≤ 1) :
    (c.sent ++ (pre ++ y :: post).flatMap RetryPc.held).Sublist c.taken := by
  obtain ⟨rfl, rfl⟩ := frame_eq_nil hlen
  have := h (by simp [hpc])
  simp only [hpc, List.nil_append, List.flatMap_cons, List.flatMap_nil, List.append_nil] at this ⊢
  exact (hxy.append_left _).trans this

theorem step_inOrder {c c' : System σ} (hs : Step flags c c') (h : InOrder c) : InOrder c' := by
  unfold InOrder
  cases hs <;> dsimp only
  case take pre post op q hpc hq =>
    intro hlen
    obtain ⟨rfl, rfl⟩ := frame_eq_nil hlen
    have := h (by simp [hpc])
    simp only [hpc, List.nil_append, List.flatMap_cons, List.flatMap_nil, List.append_nil,
      RetryPc.held] at this ⊢
    exact this.append (List.Sublist.refl [op])
  case decrement pre post op hpc =>
    refine inOrder_of_held_sublist pre post hpc h ?_
    split <;> simp [RetryPc.held]
  case tooOld pre post _ hpc _ | young pre post _ hpc _ | early pre post _ hpc _ | due pre post _ hpc _
      | sleep pre post _ hpc | wake pre post _ _ hpc _ =>
    exact inOrder_of_held_sublist pre post hpc h (by simp [RetryPc.held])
  case put pre post op hpc =>
    intro hlen
    obtain ⟨rfl, rfl⟩ := frame_eq_nil hlen
    simpa [hpc, RetryPc.held] using h (by simp [hpc])
  all_goals exact h

theorem step_retriers_length {c c' : System σ} (hs : Step flags c c') :
    c'.retriers.length = c.retriers.length := by
  cases hs
  case take _ _ _ _ hpc _ | decrement _ _ _ hpc | tooOld _ _ _ hpc _ | young _ _ _ hpc _
      | early _ _ _ hpc _ | due _ _ _ hpc _ | sleep _ _ _ hpc | wake _ _ _ _ hpc _ | put _ _ _ hpc =>
    simp [hpc]
  all_goals rfl

/-- The retry threads are those started. -/
theorem reach_retriers_length (writerClients : List σ) (retryThreads : Nat) (now : Int)
    {c : System σ} (hr : Reachable flags (System.initial flags writerClients retryThreads now) c) :
    c.retriers.length = retryThreads := by
  induction hr with
  | refl => simp [System.initial]
  | tail _ hs ih => exact (step_retriers_length hs).trans ih

/-- Two operations through the client `()` that a writer pass makes at clock `0`. -/
def firstOp : RetryOperation Unit := ⟨(), [⟨⟨"a", 1⟩, 0⟩], 55⟩

def secondOp : RetryOperation Unit := ⟨(), [⟨⟨"b", 1⟩, 0⟩], 55⟩

/-- **Retry operations are taken in order, and with one retry thread sent in order.** In
every reachable system the operations taken from the queue, then those still in it, are
those written to it; and if there is at most one retry thread, the operations `performPut`
was called for are a sublist of those written: any two of them were sent in the order they
were written. -/
theorem reach_sent_in_order (writerClients : List σ) (retryThreads : Nat) (now : Int)
    {c : System σ} (hr : Reachable flags (System.initial flags writerClients retryThreads now) c) :
    c.taken ++ c.retryQueue.items = c.written ∧ (retryThreads ≤ 1 → c.sent.Sublist c.written) := by
  have hinv : Fifo c ∧ InOrder c := by
    induction hr with
    | refl => exact ⟨rfl, fun _ => by simp [System.initial, RetryPc.held]⟩
    | tail _ hs ih => exact ⟨step_fifo hs ih.1, step_inOrder hs ih.2⟩
  obtain ⟨hfifo, hord⟩ := hinv
  have hlen := reach_retriers_length writerClients retryThreads now hr
  refine ⟨hfifo, fun h1 => ?_⟩
  have hsent := ((List.sublist_append_left _ _).trans (hord (hlen ▸ h1)))
  rw [← hfifo]
  exact hsent.trans (List.sublist_append_left _ _)

/-- With one writer and one retry thread, the thread sends what the writer queued. -/
theorem reach_sent_in_order_one_thread :
    ∃ c, Reachable Flags.defaults (System.initial Flags.defaults [()] 1 0) c ∧ c.sent = [firstOp] ∧
      c.taken ++ c.retryQueue.items = c.written ∧ (1 ≤ 1 → c.sent.Sublist c.written) := by
  have hr : Reachable Flags.defaults (System.initial Flags.defaults [()] 1 0) _ :=
    .head (.drop [] [] firstOp rfl rfl (by simp [firstOp]) rfl) <|
    .head (.accept [] [] rfl (by decide)) <| .head (.write [] [] rfl rfl) <|
    .head (.take [] [] rfl rfl) <| .head (.tick 55) <| .head (.decrement [] [] rfl) <|
    .head (.young [] [] rfl (by decide)) <| .head (.due [] [] rfl (by decide)) <|
    .single (.put [] [] rfl)
  exact ⟨_, hr, rfl, reach_sent_in_order [()] 1 0 hr⟩

/-- With one writer and two retry threads, the writer queues `firstOp` and then `secondOp`;
each retry thread takes one, and once the deadline has come the thread that took
`secondOp` sends it first. -/
theorem retry_sends_out_of_order :
    ∃ c, Reachable Flags.defaults (System.initial Flags.defaults [()] 2 0) c ∧
      c.written = [firstOp, secondOp] ∧ c.sent = [secondOp, firstOp] :=
  ⟨_, .head (.drop [] [] firstOp rfl rfl (by simp [firstOp]) rfl) <|
    .head (.accept [] [] rfl (by decide)) <| .head (.write [] [] rfl rfl) <|
    .head (.increment [] [] rfl) <|
    .head (.drop [] [] secondOp rfl rfl (by simp [secondOp]) rfl) <|
    .head (.accept [] [] rfl (by decide)) <| .head (.write [] [] rfl rfl) <|
    .head (.increment [] [] rfl) <|
    .head (.take [] [_] rfl rfl) <| .head (.take [_] [] rfl rfl) <| .head (.tick 55) <|
    .head (.decrement [_] [] rfl) <| .head (.young [_] [] rfl (by decide)) <|
    .head (.due [_] [] rfl (by decide)) <| .head (.put [_] [] rfl) <|
    .head (.decrement [] [_] rfl) <| .head (.young [] [_] rfl (by decide)) <|
    .head (.due [] [_] rfl (by decide)) <| .head (.put [] [_] rfl) .refl,
    rfl, rfl⟩

/-! ## One thread on its own -/

/-- **An admission, uninterrupted.** From the points its pass dropped, a writer that no
other thread interrupts passes the comparison, writes the queue and adds the points. -/
theorem reach_admission {c : System σ} (pre post : List (WriterPc σ)) (op : RetryOperation σ)
    (hpc : c.writers = pre ++ .sending op.client :: post) (hne : op.dataPoints ≠ [])
    (hdl : op.retryTimeSecs = c.now + flags.gorillaRetryDelaySecs)
    (hroom : toSizeT (c.numRetryQueuedDataPoints + op.dataPoints.length) <
      toSizeT flags.gorillaRetryQueueCapacity)
    (hq : c.retryQueue.items.length < c.retryQueue.capacity) :
    Reachable flags c { c with
      writers := pre ++ .sending op.client :: post
      numRetryQueuedDataPoints := c.numRetryQueuedDataPoints + op.dataPoints.length
      retryQueue := c.retryQueue.push op hq
      written := c.written ++ [op] } :=
  .head (.drop pre post op hpc rfl hne hdl) <| .head (.accept pre post rfl hroom) <|
    .head (.write pre post rfl (MPMCQueue.write_eq_push op hq)) <| .head (.increment pre post rfl) .refl

end BeringeiClient.Write.Interleaving
