import BeringeiClient.Write.Interleaving

/-! # Shutdown of the retry threads

`stopWriterThreads` tells each retry thread to stop by writing one operation without
points to the retry queue, with the queue's non-blocking `write`, and a retry thread stops
when it takes such an operation. A stop signal is an empty operation in the queue or just
taken, or a stopped thread.

Every stop signal is one of the empty operations `stopWriterThreads` wrote, since a write
worker only queues the points its pass dropped (`reach_accounted`); so no retry thread
stops before the shutdown writes them (`reach_no_early_stop`). If, once the write workers
have returned, the queue has a free slot for each retry thread, some interleaving stops
every retry thread and the shutdown returns (`reach_done`). If it has none, the empty
operations are lost, and from there on no retry thread ever stops and `stopWriterThreads`
never returns from joining them (`stop_leaves_retry_threads_running`). -/
namespace BeringeiClient.Write.Shutdown
open BeringeiClient.Types BeringeiClient.Write.Worker BeringeiClient.Write.Interleaving

variable {σ : Type} {flags : Flags}

/-! ## Stop signals -/

/-- The stop signal a retry thread holds or has acted on: a taken operation without points,
or being stopped. -/
def stopSignal : RetryPc σ → Nat
  | .decrement op => if op.dataPoints.isEmpty then 1 else 0
  | .stopped => 1
  | _ => 0

/-- The operations without points in the queue or just taken, and the stopped retry
threads. -/
def stopSignals (c : System σ) : Nat :=
  (c.retryQueue.items.filter fun op => op.dataPoints.isEmpty).length +
    (c.retriers.map stopSignal).sum

/-- The operations without points ever written to the retry queue. -/
def sentinelsWritten (c : System σ) : Nat :=
  (c.written.filter fun op => op.dataPoints.isEmpty).length

theorem stopSignal_le_one (pc : RetryPc σ) : stopSignal pc ≤ 1 := by
  unfold stopSignal
  split <;> (try split) <;> omega

/-- `retryThread`'s test after the decrement keeps the signal where it was. -/
theorem stopSignal_decrement (op : RetryOperation σ) :
    stopSignal (if op.dataPoints.isEmpty then .stopped else .checkAge op) =
      stopSignal (.decrement op) := by
  by_cases he : op.dataPoints.isEmpty <;> simp [he, stopSignal]

/-- Taking an operation moves its stop signal, if it is one, from the queue to the thread. -/
theorem stopSignals_take {c : System σ} (pre post : List (RetryPc σ)) {op : RetryOperation σ}
    {q : MPMCQueue (RetryOperation σ)} (hpc : c.retriers = pre ++ .read :: post)
    (hq : c.retryQueue.blockingRead = some (op, q)) :
    stopSignals { c with
      retriers := pre ++ .decrement op :: post, retryQueue := q, taken := c.taken ++ [op] } =
      stopSignals c := by
  have := sum_map_frame stopSignal hpc (.decrement op)
  dsimp only [stopSignals]
  rw [(MPMCQueue.blockingRead_eq_some hq).1, List.filter_cons]
  by_cases he : op.dataPoints.isEmpty <;>
    simp only [he, stopSignal, ↓reduceIte, Bool.false_eq_true, List.length_cons] at this ⊢ <;>
    omega

/-- A retry thread that moves between places of equal signal, the queue left as it was,
keeps the stop signals. -/
theorem stopSignals_move {c c' : System σ} {pre post : List (RetryPc σ)} {x y : RetryPc σ}
    (hpc : c.retriers = pre ++ x :: post) (hpc' : c'.retriers = pre ++ y :: post)
    (hq : c'.retryQueue = c.retryQueue) (hxy : stopSignal y = stopSignal x) :
    stopSignals c' = stopSignals c := by
  unfold stopSignals
  rw [hq, hpc', sum_map_move stopSignal hpc hxy]

/-- A stopped retry thread is a stop signal. -/
theorem stopSignals_pos {c : System σ} (h : RetryPc.stopped ∈ c.retriers) : 0 < stopSignals c := by
  have := List.le_sum_of_mem (List.mem_map_of_mem stopSignal h)
  simp only [stopSignal] at this
  unfold stopSignals
  omega

/-! ## Every stop signal is one `stopWriterThreads` wrote -/

/-- A write worker past its comparison holds the operation it made from its pass's dropped
points, which has points. -/
def holdsPoints : WriterPc σ → Prop
  | .check op | .write op | .increment op => op.dataPoints ≠ []
  | _ => True

/-- The stop signals are the empty operations written, and none is written before the
shutdown writes its own. -/
structure Accounted (c : System σ) : Prop where
  holds_points : ∀ pc ∈ c.writers, holdsPoints pc
  signals_eq : stopSignals c = sentinelsWritten c
  none_before : c.stopper = .running ∨ c.stopper = .joinWriters → sentinelsWritten c = 0

/-- An element of a list in which one element was replaced is the new one or was there
before. -/
theorem mem_frame {α : Type} {l pre post : List α} {x y z : α} (hpc : l = pre ++ x :: post)
    (h : z ∈ pre ++ y :: post) : z = y ∨ z ∈ l := by
  subst hpc
  simp only [List.mem_append, List.mem_cons] at h ⊢
  rcases h with h | h | h
  exacts [.inr (.inl h), .inl h, .inr (.inr (.inr h))]

theorem holdsPoints_frame {c : System σ} (h : ∀ pc ∈ c.writers, holdsPoints pc)
    {pre post : List (WriterPc σ)} {x y : WriterPc σ} (hpc : c.writers = pre ++ x :: post)
    (hy : holdsPoints y) : ∀ pc ∈ pre ++ y :: post, holdsPoints pc := by
  intro pc hmem
  rcases mem_frame hpc hmem with rfl | hmem
  · exact hy
  · exact h pc hmem

theorem accounted_initial (writerClients : List σ) (retryThreads : Nat) (now : Int) :
    Accounted (System.initial flags writerClients retryThreads now) where
  holds_points pc hpc := by
    obtain ⟨client, -, rfl⟩ := List.mem_map.mp hpc
    trivial
  signals_eq := by simp [stopSignals, sentinelsWritten, System.initial, MPMCQueue.empty, stopSignal]
  none_before _ := rfl

theorem step_accounted {c c' : System σ} (hs : Step flags c c') (h : Accounted c) : Accounted c' := by
  obtain ⟨hw, hsig, hbefore⟩ := h
  cases hs
  case drop _ _ _ _ hpc _ hne _ => exact ⟨holdsPoints_frame hw hpc hne, hsig, hbefore⟩
  case refuse _ _ _ hpc _ | writeFull _ _ _ hpc _ | increment _ _ _ hpc | writerStop _ _ _ hpc _ =>
    exact ⟨holdsPoints_frame hw hpc trivial, hsig, hbefore⟩
  case accept _ _ op hpc _ =>
    have hne : op.dataPoints ≠ [] := hw _ (frame_mem hpc)
    exact ⟨holdsPoints_frame hw hpc hne, hsig, hbefore⟩
  case write pre post op q hpc hq =>
    have hne : op.dataPoints ≠ [] := hw _ (frame_mem hpc)
    have hkeep : ∀ l : List (RetryOperation σ), ((l ++ [op]).filter fun op => op.dataPoints.isEmpty) =
        l.filter fun op => op.dataPoints.isEmpty := fun l => by
      simp [List.filter_append, List.isEmpty_iff, hne]
    refine ⟨holdsPoints_frame hw hpc hne, ?_, fun hph => ?_⟩
    · simpa only [stopSignals, sentinelsWritten, (MPMCQueue.write_eq_some hq).1, hkeep] using hsig
    · simpa only [sentinelsWritten, hkeep] using hbefore hph
  case take pre post op q hpc hq => exact ⟨hw, (stopSignals_take pre post hpc hq).trans hsig, hbefore⟩
  case decrement pre post op hpc =>
    exact ⟨hw, Eq.trans (stopSignals_move hpc rfl rfl (stopSignal_decrement op)) hsig, hbefore⟩
  case tooOld _ _ _ hpc _ | young _ _ _ hpc _ | early _ _ _ hpc _ | due _ _ _ hpc _
      | sleep _ _ _ hpc | wake _ _ _ _ hpc _ | put _ _ _ hpc =>
    exact ⟨hw, Eq.trans (stopSignals_move hpc rfl rfl rfl) hsig, hbefore⟩
  case flush hpc => exact ⟨hw, hsig, fun _ => hbefore (.inl hpc)⟩
  case sentinel k q client t hpc hq =>
    refine ⟨hw, ?_, fun hph => by simp at hph⟩
    simp only [stopSignals, sentinelsWritten, (MPMCQueue.write_eq_some hq).1, List.filter_append,
      List.length_append, sentinel, List.isEmpty_nil, List.filter_cons_of_pos, List.filter_nil,
      List.length_singleton] at hsig ⊢
    omega
  case joinWriters | sentinelFull | joinRetriers | joined =>
    exact ⟨hw, hsig, fun hph => by simp at hph⟩
  case tick => exact ⟨hw, hsig, hbefore⟩

/-- One writer and one retry thread: the writer queues `firstOp`, the retry thread takes it,
and the shutdown joins the writer. -/
theorem reach_writer_joined :
    ∃ c, Reachable Flags.defaults (System.initial Flags.defaults [()] 1 0) c ∧
      c.stopper = .joinWriters ∧ (∀ pc ∈ c.writers, pc = .stopped) ∧
      c.retryQueue.items.length + 1 ≤ c.retryQueue.capacity ∧ c.retriers = [.decrement firstOp] :=
  ⟨_, .head (.drop [] [] firstOp rfl rfl (by simp [firstOp]) rfl) <|
    .head (.accept [] [] rfl (by decide)) <| .head (.write [] [] rfl rfl) <|
    .head (.increment [] [] rfl) <| .head (.take [] [] rfl rfl) <|
    .head (.flush rfl) <| .single (.writerStop [] [] rfl (by simp)),
    rfl, by simp, by decide, rfl⟩

/-- **Every stop signal is an empty operation the shutdown wrote.** In every reachable
system the operations without points in the queue or just taken, with the stopped retry
threads, are as many as the operations without points written to the queue, and until
`stopWriterThreads` writes its own there are none. -/
theorem reach_accounted (writerClients : List σ) (retryThreads : Nat) (now : Int) {c : System σ}
    (hr : Reachable flags (System.initial flags writerClients retryThreads now) c) : Accounted c := by
  induction hr with
  | refl => exact accounted_initial writerClients retryThreads now
  | tail _ hs ih => exact step_accounted hs ih

theorem reach_accounted_writer_joined :
    ∃ c, Reachable Flags.defaults (System.initial Flags.defaults [()] 1 0) c ∧ Accounted c := by
  obtain ⟨c, hr, -⟩ := reach_writer_joined
  exact ⟨c, hr, reach_accounted [()] 1 0 hr⟩

/-- **No retry thread stops before the shutdown tells it to.** Until `stopWriterThreads`
writes its empty operations, every retry thread is running. -/
theorem reach_no_early_stop (writerClients : List σ) (retryThreads : Nat) (now : Int) {c : System σ}
    (hr : Reachable flags (System.initial flags writerClients retryThreads now) c)
    (hphase : c.stopper = .running ∨ c.stopper = .joinWriters) : RetryPc.stopped ∉ c.retriers :=
  fun h =>
    have hacc := reach_accounted writerClients retryThreads now hr
    absurd (hacc.signals_eq.trans (hacc.none_before hphase)) (stopSignals_pos h).ne'

theorem reach_no_early_stop_writer_joined :
    ∃ c, Reachable Flags.defaults (System.initial Flags.defaults [()] 1 0) c ∧
      c.stopper = .joinWriters ∧ RetryPc.stopped ∉ c.retriers := by
  obtain ⟨c, hr, hs, -⟩ := reach_writer_joined
  exact ⟨c, hr, hs, reach_no_early_stop [()] 1 0 hr (.inr hs)⟩

/-! ## A shutdown with room in the queue -/

/-- Where a retry thread that runs alone comes to rest: stopped if it holds a stop signal,
back at `read` otherwise. -/
def idleOf (pc : RetryPc σ) : RetryPc σ := if stopSignal pc = 0 then .read else .stopped

theorem idleOf_idle (pc : RetryPc σ) : idleOf pc = .read ∨ idleOf pc = .stopped := by
  unfold idleOf
  split <;> simp

theorem stopSignal_idleOf (pc : RetryPc σ) : stopSignal (idleOf pc) = stopSignal pc := by
  have := stopSignal_le_one pc
  unfold idleOf
  split <;> rename_i h
  · exact h.symm
  · show 1 = stopSignal pc
    omega

/-- From `c`, the retry thread between `pre` and `post` gets to `pc` on its own and with the
clock, leaving the queue and the shutdown's stage as they are. -/
def ReachesAt (flags : Flags) (c : System σ) (pre post : List (RetryPc σ)) (pc : RetryPc σ) :
    Prop :=
  ∃ c', Reachable flags c c' ∧ c'.retryQueue = c.retryQueue ∧ c'.stopper = c.stopper ∧
    c'.retriers = pre ++ pc :: post

section Alone

variable {c : System σ} {pre post : List (RetryPc σ)} {op : RetryOperation σ}

theorem reachesAt_refl {pc : RetryPc σ} (hpc : c.retriers = pre ++ pc :: post) :
    ReachesAt flags c pre post pc :=
  ⟨c, .refl, rfl, rfl, hpc⟩

theorem ReachesAt.head {c₁ : System σ} {pc : RetryPc σ} (hs : Step flags c c₁)
    (hq : c₁.retryQueue = c.retryQueue) (hst : c₁.stopper = c.stopper)
    (h : ReachesAt flags c₁ pre post pc) : ReachesAt flags c pre post pc := by
  obtain ⟨c', hr, hq', hst', hpc⟩ := h
  exact ⟨c', .head hs hr, hq'.trans hq, hst'.trans hst, hpc⟩

theorem reachesAt_read_of_put (hpc : c.retriers = pre ++ .put op :: post) :
    ReachesAt flags c pre post .read :=
  .head (.put pre post hpc) rfl rfl (reachesAt_refl rfl)

/-- A sleeping thread wakes once the clock has moved to its deadline. -/
theorem reachesAt_read_of_sleeping {wake : Int} (hpc : c.retriers = pre ++ .sleeping op wake :: post) :
    ReachesAt flags c pre post .read :=
  .head (.tick (wake - c.now).toNat) rfl rfl <|
    .head (.wake pre post hpc (by dsimp only; omega)) rfl rfl (reachesAt_read_of_put rfl)

theorem reachesAt_read_of_computeSleep (hpc : c.retriers = pre ++ .computeSleep op :: post) :
    ReachesAt flags c pre post .read :=
  .head (.sleep pre post hpc) rfl rfl (reachesAt_read_of_sleeping rfl)

theorem reachesAt_read_of_checkDeadline (hpc : c.retriers = pre ++ .checkDeadline op :: post) :
    ReachesAt flags c pre post .read := by
  by_cases hearly : op.retryTimeSecs > c.now
  · exact .head (.early pre post hpc hearly) rfl rfl (reachesAt_read_of_computeSleep rfl)
  · exact .head (.due pre post hpc hearly) rfl rfl (reachesAt_read_of_put rfl)

theorem reachesAt_read_of_checkAge (hpc : c.retriers = pre ++ .checkAge op :: post) :
    ReachesAt flags c pre post .read := by
  by_cases hold : op.retryTimeSecs < c.now - kRetryThresholdSecs
  · exact .head (.tooOld pre post hpc hold) rfl rfl (reachesAt_refl rfl)
  · exact .head (.young pre post hpc hold) rfl rfl (reachesAt_read_of_checkDeadline rfl)

theorem reachesAt_idleOf_decrement (hpc : c.retriers = pre ++ .decrement op :: post) :
    ReachesAt flags c pre post (idleOf (.decrement op)) := by
  refine .head (.decrement pre post hpc) rfl rfl ?_
  by_cases he : op.dataPoints.isEmpty
  · have hidle : idleOf (RetryPc.decrement op) = .stopped := by simp [idleOf, stopSignal, he]
    rw [hidle]
    exact reachesAt_refl (by simp [he])
  · have hidle : idleOf (RetryPc.decrement op) = .read := by simp [idleOf, stopSignal, he]
    rw [hidle]
    exact reachesAt_read_of_checkAge (show _ = pre ++ .checkAge op :: post by simp [he])

/-- **A retry thread on its own comes to rest**, wherever it is in its loop: it sends or
drops what it holds and gets back to `read`, or stops on the empty operation it took. -/
theorem reachesAt_idleOf {pc : RetryPc σ} (hpc : c.retriers = pre ++ pc :: post) :
    ReachesAt flags c pre post (idleOf pc) := by
  cases pc with
  | read => exact reachesAt_refl hpc
  | decrement op => exact reachesAt_idleOf_decrement hpc
  | checkAge op => exact reachesAt_read_of_checkAge hpc
  | checkDeadline op => exact reachesAt_read_of_checkDeadline hpc
  | computeSleep op => exact reachesAt_read_of_computeSleep hpc
  | sleeping op wake => exact reachesAt_read_of_sleeping hpc
  | put op => exact reachesAt_read_of_put hpc
  | stopped => exact reachesAt_refl hpc

end Alone

variable (flags) in
/-- The retry threads from `rest` on come to rest one after the other. -/
theorem reach_all_idle {c : System σ} (pre rest : List (RetryPc σ)) (hpc : c.retriers = pre ++ rest) :
    ∃ c', Reachable flags c c' ∧ c'.retryQueue = c.retryQueue ∧ c'.stopper = c.stopper ∧
      c'.retriers = pre ++ rest.map idleOf := by
  induction rest generalizing pre c with
  | nil => exact ⟨c, .refl, rfl, rfl, by simpa using hpc⟩
  | cons pc rest ih =>
    obtain ⟨c₁, hr₁, hq₁, hs₁, hpc₁⟩ : ReachesAt flags c pre rest (idleOf pc) := reachesAt_idleOf hpc
    obtain ⟨c₂, hr₂, hq₂, hs₂, hpc₂⟩ := ih (pre ++ [idleOf pc]) (by simpa using hpc₁)
    exact ⟨c₂, hr₁.trans hr₂, hq₂.trans hq₁, hs₂.trans hs₁, by simpa using hpc₂⟩

variable (flags) in
/-- With a slot for each, `stopWriterThreads` writes its `k` remaining empty operations. -/
theorem reach_sentinels (client : σ) (t : Int) (k : Nat) {c : System σ}
    (hs : c.stopper = .sentinels k) (hroom : c.retryQueue.items.length + k ≤ c.retryQueue.capacity) :
    ∃ c', Reachable flags c c' ∧ c'.stopper = .sentinels 0 ∧ c'.retriers = c.retriers ∧
      stopSignals c' = stopSignals c + k := by
  induction k generalizing c with
  | zero => exact ⟨c, .refl, hs, rfl, rfl⟩
  | succ k ih =>
    have hlt : c.retryQueue.items.length < c.retryQueue.capacity := by omega
    obtain ⟨c₁, hs₁, hst₁, hq₁, hsig₁⟩ : ∃ c₁, Step flags c c₁ ∧ c₁.stopper = .sentinels k ∧
        c₁.retryQueue = c.retryQueue.push (sentinel client t) hlt ∧ c₁.retriers = c.retriers :=
      ⟨_, .sentinel client t hs (MPMCQueue.write_eq_push _ hlt), rfl, rfl, rfl⟩
    obtain ⟨c', hr', hst', hrt', hsig'⟩ := ih hst₁ (by
      simp only [hq₁, MPMCQueue.push, List.length_append, List.length_singleton]; omega)
    refine ⟨c', .head hs₁ hr', hst', hrt'.trans hsig₁, ?_⟩
    rw [hsig']
    simp only [stopSignals, hq₁, hsig₁, MPMCQueue.push, sentinel, List.filter_append,
      List.length_append, List.isEmpty_nil, List.filter_cons_of_pos, List.filter_nil,
      List.length_singleton]
    omega

/-- Threads of at most one signal each, one of them reading, hold fewer signals than there
are threads. -/
theorem sum_stopSignal_lt {l pre post : List (RetryPc σ)} (hpc : l = pre ++ .read :: post) :
    (l.map stopSignal).sum < l.length := by
  have hle : ∀ l : List (RetryPc σ), (l.map stopSignal).sum ≤ l.length := fun l => by
    induction l with
    | nil => exact Nat.le_refl 0
    | cons pc l ih =>
      have := stopSignal_le_one pc
      simp only [List.map_cons, List.sum_cons, List.length_cons]
      omega
  have := hle pre
  have := hle post
  subst hpc
  simp only [List.map_append, List.map_cons, List.sum_append, List.sum_cons, List.length_append,
    List.length_cons, stopSignal]
  omega

/-- Unless every retry thread has stopped, one is reading and the queue holds an operation
for it, when the threads are at rest and the signals are as many as the threads. -/
theorem exists_reading {c : System σ} (hidle : ∀ pc ∈ c.retriers, pc = .read ∨ pc = .stopped)
    (hsig : stopSignals c = c.retriers.length) (hall : ¬∀ pc ∈ c.retriers, pc = .stopped) :
    ∃ pre post op rest, c.retriers = pre ++ .read :: post ∧ c.retryQueue.items = op :: rest := by
  push_neg at hall
  obtain ⟨pc, hmem, hne⟩ := hall
  obtain ⟨pre, post, hpc⟩ := List.append_of_mem ((hidle pc hmem).resolve_right hne ▸ hmem)
  have hlt := sum_stopSignal_lt hpc
  cases hq : c.retryQueue.items with
  | nil => simp only [stopSignals, hq, List.filter_nil, List.length_nil] at hsig; omega
  | cons op rest => exact ⟨pre, post, op, rest, hpc, rfl⟩

variable (flags) in
/-- A reading retry thread takes the head of the queue and comes to rest. -/
theorem reach_take_idle {c : System σ} (pre post : List (RetryPc σ))
    (hpc : c.retriers = pre ++ .read :: post) {op : RetryOperation σ} {rest : List (RetryOperation σ)}
    (hq : c.retryQueue.items = op :: rest) :
    ∃ c', Reachable flags c c' ∧ c'.retryQueue.items = rest ∧ c'.stopper = c.stopper ∧
      c'.retriers = pre ++ idleOf (.decrement op) :: post ∧ stopSignals c' = stopSignals c := by
  obtain ⟨c₁, hs₁, hq₁, hst₁, hpc₁, hsig₁⟩ : ∃ c₁, Step flags c c₁ ∧ c₁.retryQueue.items = rest ∧
      c₁.stopper = c.stopper ∧ c₁.retriers = pre ++ .decrement op :: post ∧
      stopSignals c₁ = stopSignals c :=
    ⟨_, .take pre post hpc (MPMCQueue.blockingRead_eq_pop hq), rfl, rfl, rfl,
      stopSignals_take pre post hpc (MPMCQueue.blockingRead_eq_pop hq)⟩
  obtain ⟨c', hr', hq', hst', hpc'⟩ : ReachesAt flags c₁ pre post _ := reachesAt_idleOf hpc₁
  exact ⟨c', .head hs₁ hr', by rw [hq', hq₁], hst'.trans hst₁, hpc',
    (stopSignals_move hpc₁ hpc' hq' (stopSignal_idleOf _)).trans hsig₁⟩

/-- With every retry thread at rest and as many stop signals as threads, the threads take
operations from the queue until each has stopped, and `stopWriterThreads` joins them. -/
theorem reach_drain (m : Nat) : ∀ {c : System σ}, c.retryQueue.items.length = m →
    c.stopper = .joinRetriers → (∀ pc ∈ c.retriers, pc = .read ∨ pc = .stopped) →
    stopSignals c = c.retriers.length →
    ∃ c', Reachable flags c c' ∧ c'.stopper = .done ∧ ∀ pc ∈ c'.retriers, pc = .stopped := by
  induction m using Nat.strong_induction_on with
  | _ m ih =>
  intro c hm hs hidle hsig
  by_cases hall : ∀ pc ∈ c.retriers, pc = .stopped
  · exact ⟨_, .single (.joined hs hall), rfl, hall⟩
  obtain ⟨pre, post, op, rest, hpc, hq⟩ := exists_reading hidle hsig hall
  obtain ⟨c₁, hr₁, hq₁, hs₁, hpc₁, hsig₁⟩ := reach_take_idle flags pre post hpc hq
  have hidle₁ : ∀ pc ∈ c₁.retriers, pc = .read ∨ pc = .stopped := by
    intro pc hmem
    rcases mem_frame hpc (hpc₁ ▸ hmem) with rfl | hmem
    · exact idleOf_idle _
    · exact hidle pc hmem
  obtain ⟨c', hr', hdone⟩ := ih rest.length (by simp [← hm, hq]) (hq₁ ▸ rfl) (hs₁.trans hs) hidle₁
    (by rw [hsig₁, hsig, hpc, hpc₁]; simp)
  exact ⟨c', hr₁.trans hr', hdone⟩

/-- **With room for its empty operations, the shutdown can finish.** If, once every write
worker has returned, the retry queue has a free slot for each retry thread, there is an
interleaving in which `stopWriterThreads` writes all its empty operations, every retry
thread comes to rest, takes what is queued until it takes one of them and stops, and
`stopWriterThreads` joins them all. -/
theorem reach_done (writerClients : List σ) (retryThreads : Nat) (now : Int) {c : System σ}
    (hr : Reachable flags (System.initial flags writerClients retryThreads now) c)
    (hjoin : c.stopper = .joinWriters) (hw : ∀ pc ∈ c.writers, pc = .stopped)
    (hroom : c.retryQueue.items.length + retryThreads ≤ c.retryQueue.capacity) (client : σ) :
    ∃ c', Reachable flags c c' ∧ c'.stopper = .done ∧ ∀ pc ∈ c'.retriers, pc = .stopped := by
  have hacc := reach_accounted writerClients retryThreads now hr
  have hlen := reach_retriers_length writerClients retryThreads now hr
  have hsig : stopSignals c = 0 := hacc.signals_eq.trans (hacc.none_before (.inr hjoin))
  -- the writers are joined, and one empty operation per retry thread finds a slot
  obtain ⟨c₁, hs₁, hst₁, hq₁, hrt₁, hsig₁⟩ : ∃ c₁, Step flags c c₁ ∧
      c₁.stopper = .sentinels c.retriers.length ∧ c₁.retryQueue = c.retryQueue ∧
      c₁.retriers = c.retriers ∧ stopSignals c₁ = stopSignals c :=
    ⟨_, .joinWriters hjoin hw, rfl, rfl, rfl, rfl⟩
  obtain ⟨c₂, hr₂, hst₂, hrt₂, hsig₂⟩ :=
    reach_sentinels flags client 0 _ hst₁ (by rw [hq₁, hlen]; exact hroom)
  obtain ⟨c₃, hs₃, hst₃, hq₃, hrt₃, hsig₃⟩ : ∃ c₃, Step flags c₂ c₃ ∧ c₃.stopper = .joinRetriers ∧
      c₃.retryQueue = c₂.retryQueue ∧ c₃.retriers = c₂.retriers ∧ stopSignals c₃ = stopSignals c₂ :=
    ⟨_, .joinRetriers hst₂, rfl, rfl, rfl, rfl⟩
  -- every retry thread comes to rest, and the threads drain the queue
  obtain ⟨c₄, hr₄, hq₄, hst₄, hrt₄⟩ := reach_all_idle flags [] c₃.retriers (List.nil_append _).symm
  have hidle : ∀ pc ∈ c₄.retriers, pc = .read ∨ pc = .stopped := by
    intro pc hmem
    obtain ⟨x, -, rfl⟩ := List.mem_map.mp (by simpa [hrt₄] using hmem)
    exact idleOf_idle x
  have hsig₄ : stopSignals c₄ = c₄.retriers.length := by
    have : stopSignals c₄ = stopSignals c₃ := by
      simp only [stopSignals, hq₄, hrt₄, List.nil_append, List.map_map, Function.comp_def,
        stopSignal_idleOf]
    rw [this, hsig₃, hsig₂, hsig₁, hsig, hrt₄, hrt₃, hrt₂, hrt₁]
    simp
  obtain ⟨c', hr', hdone⟩ := reach_drain _ rfl (hst₄.trans hst₃) hidle hsig₄
  exact ⟨c', .head hs₁ (hr₂.trans (.head hs₃ (hr₄.trans hr'))), hdone⟩

/-- The retry thread still holds `firstOp` when the shutdown begins: it sends it, takes the
empty operation and stops. -/
theorem reach_done_writer_joined :
    ∃ c, Reachable Flags.defaults (System.initial Flags.defaults [()] 1 0) c ∧
      c.retriers = [.decrement firstOp] ∧
      ∃ c', Reachable Flags.defaults c c' ∧ c'.stopper = .done ∧ ∀ pc ∈ c'.retriers, pc = .stopped := by
  obtain ⟨c, hr, hs, hw, hroom, hrt⟩ := reach_writer_joined
  exact ⟨c, hr, hrt, reach_done [()] 1 0 hr hs hw hroom ()⟩

/-! ## A shutdown with a full queue -/

/-- `stopWriterThreads` is past writing its empty operations, and every write worker has
returned. -/
def ShutDown (c : System σ) : Prop :=
  (c.stopper = .joinRetriers ∨ c.stopper = .done) ∧ ∀ pc ∈ c.writers, pc = .stopped

/-- Once shut down, nothing writes the queue any more: the stop signals stay as they are. -/
theorem step_shutDown {c c' : System σ} (hs : Step flags c c') (h : ShutDown c) :
    ShutDown c' ∧ stopSignals c' = stopSignals c := by
  obtain ⟨hstop, hw⟩ := h
  cases hs
  case take pre post op q hpc hq => exact ⟨⟨hstop, hw⟩, stopSignals_take pre post hpc hq⟩
  case decrement pre post op hpc =>
    exact ⟨⟨hstop, hw⟩, stopSignals_move hpc rfl rfl (stopSignal_decrement op)⟩
  case drop _ _ _ _ hpc _ _ _ | refuse _ _ _ hpc _ | accept _ _ _ hpc _ | writeFull _ _ _ hpc _
      | write _ _ _ _ hpc _ | increment _ _ _ hpc | writerStop _ _ _ hpc _ =>
    cases hw _ (frame_mem hpc)
  case flush hpc | joinWriters hpc _ | sentinel _ _ _ _ hpc _ | sentinelFull _ _ _ hpc _
      | joinRetriers hpc =>
    rcases hstop with h | h <;> simp [h] at hpc
  case tooOld _ _ _ hpc _ | young _ _ _ hpc _ | early _ _ _ hpc _ | due _ _ _ hpc _
      | sleep _ _ _ hpc | wake _ _ _ _ hpc _ | put _ _ _ hpc =>
    exact ⟨⟨hstop, hw⟩, stopSignals_move hpc rfl rfl rfl⟩
  case joined => exact ⟨⟨.inr rfl, hw⟩, rfl⟩
  case tick => exact ⟨⟨hstop, hw⟩, rfl⟩

/-- Shut down without a stop signal, no retry thread ever stops and `stopWriterThreads`
never returns. -/
theorem reach_no_stop {c c' : System σ} (h : ShutDown c) (hsig : stopSignals c = 0)
    (hne : c.retriers ≠ []) (hnd : c.stopper ≠ .done) (hr : Reachable flags c c') :
    ShutDown c' ∧ stopSignals c' = 0 ∧ c'.retriers ≠ [] ∧ c'.stopper ≠ .done := by
  induction hr with
  | refl => exact ⟨h, hsig, hne, hnd⟩
  | tail _ hs ih =>
    obtain ⟨h', hsig', hne', hnd'⟩ := ih
    obtain ⟨h'', hsig''⟩ := step_shutDown hs h'
    refine ⟨h'', hsig''.trans hsig', ?_, ?_⟩
    · rw [← List.length_pos, step_retriers_length hs, List.length_pos]
      exact hne'
    · cases hs
      case joined hjoin =>
        obtain ⟨pc, hpc⟩ := List.exists_mem_of_ne_nil _ hne'
        have := stopSignals_pos (hjoin pc hpc ▸ hpc)
        omega
      all_goals simp [hnd']

/-- One write worker, through the client `()`, and the default four retry threads, with the
default flags and the clock at `0`. -/
def fourRetryThreads : System Unit := System.initial Flags.defaults [()] 4 0

/-- The writer, uninterrupted at clock `0`, adds `j` operations of one point to a queue of
`100` slots that has room for them. -/
theorem reach_fill (j : Nat) {c : System Unit} (hw : c.writers = [.sending ()]) (hn : c.now = 0)
    (hcap : c.retryQueue.capacity = 100) (hk : c.retryQueue.items.length + j ≤ 100)
    (hc₀ : 0 ≤ c.numRetryQueuedDataPoints) (hc : c.numRetryQueuedDataPoints + j < 10000) :
    ∃ c', Reachable Flags.defaults c c' ∧ c'.writers = [.sending ()] ∧ c'.retriers = c.retriers ∧
      c'.stopper = c.stopper ∧ c'.now = 0 ∧
      c'.numRetryQueuedDataPoints = c.numRetryQueuedDataPoints + j ∧ c'.retryQueue.capacity = 100 ∧
      c'.retryQueue.items = c.retryQueue.items ++ List.replicate j (pendingOp 1) := by
  induction j with
  | zero => exact ⟨c, .refl, hw, rfl, rfl, hn, by simp, hcap, by simp⟩
  | succ j ih =>
    obtain ⟨c', hr, hw', hrt, hs, hn', hc', hcap', hq⟩ := ih (by omega) (by omega)
    have hlen : c'.retryQueue.items.length < c'.retryQueue.capacity := by
      simp only [hq, hcap', List.length_append, List.length_replicate]
      omega
    refine ⟨_, hr.trans (reach_admission [] [] (pendingOp 1) hw' (by simp [pendingOp])
      (by simp [hn', pendingOp, Flags.defaults])
      (by simp only [hc', pendingOp_length, Flags.defaults, toSizeT]; omega) hlen), rfl, hrt, hs, hn',
      by simp [hc', Int.add_assoc], hcap',
      by simp [MPMCQueue.push, hq, List.replicate_succ']⟩

/-- At clock `0`, a retry thread takes an operation of one point, subtracts it, finds it
young and early, and goes to sleep until its deadline, `55`. -/
theorem reach_asleep {c : System Unit} (pre post : List (RetryPc Unit))
    (hpc : c.retriers = pre ++ .read :: post) (rest : List (RetryOperation Unit))
    (hq : c.retryQueue.items = pendingOp 1 :: rest) (hn : c.now = 0) :
    Reachable Flags.defaults c { c with
      retriers := pre ++ .sleeping (pendingOp 1) 55 :: post
      retryQueue := c.retryQueue.pop _ rest hq
      numRetryQueuedDataPoints := c.numRetryQueuedDataPoints - 1
      taken := c.taken ++ [pendingOp 1] } := by
  obtain ⟨n, q, now, writers, retriers, stopper, written, taken, sent⟩ := c
  subst hn
  exact .head (.take pre post hpc (MPMCQueue.blockingRead_eq_pop hq)) <|
    .head (.decrement pre post rfl) <|
    .head (.young pre post rfl (by simp [pendingOp, kRetryThresholdSecs])) <|
    .head (.early pre post rfl (by simp [pendingOp])) <| .single (.sleep pre post rfl)

/-- The four retry threads each take an operation of one point and go to sleep until its
deadline, `55`, while the writer waits: the queue and the counter are empty again. -/
theorem reach_retriers_asleep :
    ∃ c, Reachable Flags.defaults fourRetryThreads c ∧ c.writers = [.sending ()] ∧
      c.retriers = List.replicate 4 (.sleeping (pendingOp 1) 55) ∧ c.stopper = .running ∧
      c.now = 0 ∧ c.numRetryQueuedDataPoints = 0 ∧ c.retryQueue.capacity = 100 ∧
      c.retryQueue.items = [] := by
  obtain ⟨c, hr, hw, hrt, hs, hn, hc, hcap, hq⟩ :=
    reach_fill 4 (show fourRetryThreads.writers = [.sending ()] from rfl) rfl (by decide) (by decide)
      (by decide) (by decide)
  have hq₀ : c.retryQueue.items = pendingOp 1 :: List.replicate 3 (pendingOp 1) := hq
  refine ⟨_, (((hr.trans (reach_asleep [] [_, _, _] hrt _ hq₀ hn)).trans
      (reach_asleep [_] [_, _] rfl (List.replicate 2 (pendingOp 1)) rfl (by exact hn))).trans
      (reach_asleep [_, _] [_] rfl [pendingOp 1] rfl (by exact hn))).trans
      (reach_asleep [_, _, _] [] rfl [] rfl (by exact hn)), hw, rfl, hs, hn, ?_, hcap, rfl⟩
  simp only [hc]
  decide

/-- A full queue when `stopWriterThreads` writes its empty operations: the four retry
threads sleep until the deadline of the operation each took, and meanwhile the writer fills
the retry queue's `100` slots. Then the shutdown begins; none of the four empty operations
finds a slot, so from there on no retry thread ever stops and `stopWriterThreads` never
returns from joining them. -/
theorem stop_leaves_retry_threads_running :
    ∃ c, Reachable Flags.defaults fourRetryThreads c ∧ c.stopper = .joinRetriers ∧
      c.retriers = List.replicate 4 (.sleeping (pendingOp 1) 55) ∧
      ∀ c', Reachable Flags.defaults c c' → c'.stopper ≠ .done ∧ RetryPc.stopped ∉ c'.retriers := by
  obtain ⟨c₁, hr₁, hw₁, hrt₁, hs₁, hn₁, hc₁, hcap₁, hq₁⟩ := reach_retriers_asleep
  obtain ⟨c, hr, hw, hrt, hs, -, -, hcap, hq⟩ :=
    reach_fill 100 hw₁ hn₁ hcap₁ (by simp [hq₁]) (by simp [hc₁]) (by simp [hc₁])
  have hfull : c.retryQueue.write (sentinel () 0) = none :=
    MPMCQueue.write_eq_none.mpr (by
      simp only [hq, hq₁, hcap, List.nil_append, List.length_replicate, le_refl])
  have hstop : Reachable Flags.defaults c _ :=
    .head (.flush (hs.trans hs₁)) <| .head (.writerStop [] [] hw (by simp)) <|
      .head (.joinWriters rfl (by simp)) <|
      .head (.sentinelFull () 0 (by simp [hrt, hrt₁]) hfull) <|
      .head (.sentinelFull () 0 rfl hfull) <| .head (.sentinelFull () 0 rfl hfull) <|
      .head (.sentinelFull () 0 rfl hfull) <| .single (.joinRetriers rfl)
  refine ⟨_, hr₁.trans (hr.trans hstop), rfl, hrt.trans hrt₁, fun c' hr' => ?_⟩
  obtain ⟨-, hsig, -, hdone⟩ := reach_no_stop ⟨.inl rfl, by simp⟩
    (by simp only [stopSignals, hq, hq₁, hrt, hrt₁, List.nil_append, List.filter_replicate,
      List.map_replicate, List.sum_replicate]; decide)
    (by simp [hrt, hrt₁]) (by simp) hr'
  exact ⟨hdone, fun h => absurd hsig (stopSignals_pos h).ne'⟩

end BeringeiClient.Write.Shutdown
