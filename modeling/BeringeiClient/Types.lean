import Mathlib.Data.List.Perm.Subperm
import Mathlib.Algebra.Group.Int

/-! # The records, flags and metrics of `BeringeiClientImpl`

The thrift records the client reads and writes, the process-wide flags with their
defaults, the file's constants, and the metrics. A call of
`GorillaStatsManager::addStatValue` appends its key and value to a log, so a property of
the metrics is a property of the sums over that log. Fields that no modelled function
reads are left out (the value of a data point, the compression of a block). -/
namespace BeringeiClient.Types

/-! ## Thrift records -/

structure Key where
  key : String
  shardId : Int
  deriving DecidableEq, Repr

/-- A data point to write; its double value is payload that nothing here reads. -/
structure DataPoint where
  key : Key
  unixTime : Int
  deriving DecidableEq, Repr

inductive StatusCode
  | ok
  | keyMissing
  | rpcFail
  | zippyStorageFail
  | dontOwnShard
  | shardInProgress
  | missingTooMuchData
  | bucketNotFinalized
  deriving DecidableEq, Repr

/-- An encoded block, handed to the decoder unread. -/
structure TimeSeriesBlock where
  count : Nat
  data : String
  deriving DecidableEq, Repr

structure TimeSeriesData where
  data : List TimeSeriesBlock
  status : StatusCode
  deriving DecidableEq, Repr

structure GetDataRequest where
  keys : List Key
  begin : Int
  «end» : Int
  deriving DecidableEq, Repr

structure GetDataResult where
  results : List TimeSeriesData
  deriving DecidableEq, Repr

/-! ## Flags and constants -/

/-- The `DEFINE_int32` flags the modelled functions read. -/
structure Flags where
  gorillaClientWriterThreads : Int
  gorillaQueueCapacity : Int
  gorillaRetryQueueCapacity : Int
  gorillaRetryDelaySecs : Int
  gorillaWriteRetryThreads : Int
  gorillaQueueCapacitySizeRatio : Int
  deriving DecidableEq, Repr

def Flags.defaults : Flags where
  gorillaClientWriterThreads := 0
  gorillaQueueCapacity := 1
  gorillaRetryQueueCapacity := 10000
  gorillaRetryDelaySecs := 55
  gorillaWriteRetryThreads := 4
  gorillaQueueCapacitySizeRatio := 500

def kNoWriterThreads : Int := -1
def kNoReadServicesUpdates : Int := -1
def kRetryThresholdSecs : Int := 30
def kRetryQueueCapacitySizeRatio : Int := 100
def kMinQueueSize : Int := 10
def kMaxRetryBatchSize : Nat := 10000

/-! ## Metrics -/

/-- A metric key, one per key constant of the source (`kPutKey` and the others): a global
one, or a per-service one, whose text is the constant's prefix followed by the service name.
The texts are left out; no two of the keys share one. -/
inductive StatKey
  | enqueueDropped (service : String)
  | enqueued (service : String)
  | putDropped (service : String)
  | put (service : String)
  | queueSize (service : String)
  | usPerPut (service : String)
  | putRetry (service : String)
  | readFailover
  | retryQueueWriteFailures
  | retryQueueSize
  | badReadServices
  | redirectForMissingData
  deriving DecidableEq, Repr

/-- The values added to the metrics, oldest first. -/
abbrev Stats := List (StatKey × Int)

def addStatValue (stats : Stats) (key : StatKey) (value : Int) : Stats :=
  stats ++ [(key, value)]

/-- The total added to `key`. -/
def statSum (key : StatKey) : Stats → Int
  | [] => 0
  | (k, v) :: rest => (if k = key then v else 0) + statSum key rest

@[simp] theorem statSum_nil (key : StatKey) : statSum key [] = 0 := rfl

@[simp] theorem statSum_append (key : StatKey) (s t : Stats) :
    statSum key (s ++ t) = statSum key s + statSum key t := by
  induction s with
  | nil => simp
  | cons e s ih => simp only [List.cons_append, statSum, List.append_eq, ih, Int.add_assoc]

@[simp] theorem statSum_addStatValue (stats : Stats) (key k : StatKey) (v : Int) :
    statSum key (addStatValue stats k v) = statSum key stats + if k = key then v else 0 := by
  simp [addStatValue, statSum]

/-! ## Bounded queues -/

/-- A `folly::MPMCQueue` of `capacity` slots: `write` does not block and fails on a full
queue, `blockingRead` takes the oldest element. -/
structure MPMCQueue (α : Type) where
  capacity : Nat
  items : List α
  bounded : items.length ≤ capacity

namespace MPMCQueue

variable {α : Type}

def empty (capacity : Nat) : MPMCQueue α := ⟨capacity, [], Nat.zero_le _⟩

def write (q : MPMCQueue α) (x : α) : Option (MPMCQueue α) :=
  if h : q.items.length < q.capacity then
    some ⟨q.capacity, q.items ++ [x], by simp only [List.length_append, List.length_singleton]; omega⟩
  else none

def blockingRead (q : MPMCQueue α) : Option (α × MPMCQueue α) :=
  match q with
  | ⟨_, [], _⟩ => none
  | ⟨c, x :: rest, h⟩ => some (x, ⟨c, rest, by simp only [List.length_cons] at h; omega⟩)

/-- `q` with `x` added at the back, given a free slot. -/
def push (q : MPMCQueue α) (x : α) (h : q.items.length < q.capacity) : MPMCQueue α :=
  ⟨q.capacity, q.items ++ [x], by simp only [List.length_append, List.length_singleton]; omega⟩

theorem write_eq_push {q : MPMCQueue α} (x : α) (h : q.items.length < q.capacity) :
    q.write x = some (q.push x h) := by
  simp [write, push, h]

theorem write_eq_some {q q' : MPMCQueue α} {x : α} (h : q.write x = some q') :
    q'.items = q.items ++ [x] ∧ q'.capacity = q.capacity := by
  unfold write at h; split at h <;> cases h; exact ⟨rfl, rfl⟩

theorem write_eq_none {q : MPMCQueue α} {x : α} : q.write x = none ↔ q.capacity ≤ q.items.length := by
  unfold write; split <;> simp <;> omega

/-- `q` without its oldest element `x`. -/
def pop (q : MPMCQueue α) (x : α) (rest : List α) (h : q.items = x :: rest) : MPMCQueue α :=
  ⟨q.capacity, rest, by have := q.bounded; rw [h, List.length_cons] at this; omega⟩

theorem blockingRead_eq_pop {q : MPMCQueue α} {x : α} {rest : List α} (h : q.items = x :: rest) :
    q.blockingRead = some (x, q.pop x rest h) := by
  obtain ⟨c, items, hb⟩ := q
  cases h
  rfl

theorem blockingRead_eq_some {q q' : MPMCQueue α} {x : α} (h : q.blockingRead = some (x, q')) :
    q.items = x :: q'.items ∧ q'.capacity = q.capacity := by
  obtain ⟨c, _ | ⟨y, rest⟩, hb⟩ := q <;> simp [blockingRead] at h
  obtain ⟨rfl, rfl⟩ := h; exact ⟨rfl, rfl⟩

end MPMCQueue

/-! ## Ends of a call -/

/-- How a call ends other than by returning: `CHECK(false)` aborts the process, a `throw`
raises the exception's text to the caller. -/
inductive Failure
  | abort
  | runtimeError (what : String)
  deriving DecidableEq, Repr

end BeringeiClient.Types
