import BeringeiClient.Read.GetWithClient
import Mathlib.Data.Multiset.Basic
import Mathlib.Tactic.Abel

/-! # The sequential read: `get`

`get` asks the replicas of its snapshot in turn for the keys not settled yet. On each
replica it calls `getWithClient`, retries the failed keys once on the same replica after
invalidating their shards, and passes the failed and partial keys on, with the caller's
shard ids restored, to the next replica.

Every answered key is found, failed, partial or dropped (`GetWithClient`); on a replica
that is not the last, only `KEY_MISSING` drops a key. Hence the loop's invariant
(`Conserved`): the request's key names are the found ones, the dropped ones, and the ones
still to ask for. `LoopHead` names the frames at which the loop starts an iteration, and
`get_eq_getLoop_of_loopHead` puts each of them on the run of `get`; from the invariant at
the heads, the frame `get` returns has found no name more often than the request has it
(`getLoop_found_le`). -/
namespace BeringeiClient.Read.Get
open BeringeiClient.Types BeringeiClient.NetworkClient BeringeiClient.Read.GetWithClient

variable {σ : Type}

/-! ## The source -/

/-- `keyShards`: the caller's shard id for each key name, the last one given winning. -/
def keyShardsOf (keys : List Key) : String → Option Int :=
  keys.foldl (fun keyShards key name => if name = key.key then some key.shardId else keyShards name)
    fun _ => none

/-- The loop that gives each key back the shard id the caller gave for its name. -/
def restoreShardIds (keyShards : String → Option Int) (keys : List Key) : List Key :=
  keys.map fun key => match keyShards key.key with
    | some id => { key with shardId := id }
    | none => key

/-- `invalidShardIds`: the shard ids of the failed keys, each once. -/
def invalidShardIds (keys : List Key) : List Int :=
  keys.foldl (fun ids key => ids.insert key.shardId) []

/-- The pointer `get` passes as `inProgressKeys`. -/
def inProgressKeysOf (throwExceptionOnTransientFailure lastIteration : Bool) : Option KeysRef :=
  if throwExceptionOnTransientFailure || !lastIteration then some .partials else none

/-- The pointer `get` passes as `partialDataKeys`. -/
def partialDataKeysOf (lastIteration : Bool) : Option KeysRef :=
  if !lastIteration then some .partials else none

/-- A call `getWithClient(*readClient, clientRequest, result, request.keys, failedKeys, ...)`
on replica `i`, whose answers are recorded. -/
def callReplica (nc : BeringeiNetworkClient σ) (i : Nat) (readClient : σ)
    (inProgressKeys partialDataKeys : Option KeysRef) (f : GetFrame) : Except Failure GetFrame :=
  (getWithClient nc readClient f.clientRequest .request .failed inProgressKeys partialDataKeys f).map
    fun r => { r.1 with exchanges := r.1.exchanges ++ [(i, r.2)] }

/-- The `!failedKeys.empty()` block: the failed keys alone, asked again of the same replica
after invalidating their shards. -/
def retryFailedKeys (nc : BeringeiNetworkClient σ) (i : Nat) (readClient : σ)
    (inProgressKeys partialDataKeys : Option KeysRef) (f : GetFrame) : Except Failure GetFrame :=
  if f.failedKeys.isEmpty then pure f
  else callReplica nc i (nc.invalidateCache readClient (invalidShardIds f.failedKeys))
    inProgressKeys partialDataKeys
    { f with clientRequest := { f.clientRequest with keys := f.failedKeys }, failedKeys := [] }

/-- The top of the loop's body: fresh `failedKeys` and `partialKeys`, and the failover
counted on every replica after the first. -/
def beginIteration (i : Nat) (f : GetFrame) : GetFrame :=
  { f with
    failedKeys := []
    partialKeys := []
    stats := if i > 0 then addStatValue f.stats .readFailover 1 else f.stats }

/-- The end of the loop's body: the failed and partial keys, with the caller's shard ids
restored, are the request for the next replica; the moved-from vectors are left empty. -/
def passOn (keyShards : String → Option Int) (f : GetFrame) : GetFrame :=
  { f with
    clientRequest := { f.clientRequest with
      keys := restoreShardIds keyShards (f.failedKeys ++ f.partialKeys) }
    failedKeys := []
    partialKeys := [] }

/-- The body of the loop, on replica `i`; `true` is a `break`. -/
def getIteration (throwExceptionOnTransientFailure : Bool) (nc : BeringeiNetworkClient σ)
    (keyShards : String → Option Int) (i : Nat) (readClient : σ) (lastIteration : Bool)
    (f : GetFrame) : Except Failure (Bool × GetFrame) := do
  let inProgressKeys := inProgressKeysOf throwExceptionOnTransientFailure lastIteration
  let partialDataKeys := partialDataKeysOf lastIteration
  let f ← callReplica nc i readClient inProgressKeys partialDataKeys (beginIteration i f)
  if f.failedKeys.isEmpty && f.partialKeys.isEmpty then pure (true, f) else do
  let f ← retryFailedKeys nc i readClient inProgressKeys partialDataKeys f
  if f.failedKeys.isEmpty && f.partialKeys.isEmpty then pure (true, f) else
  if lastIteration && throwExceptionOnTransientFailure then
    throw (.runtimeError "Failed reading data from gorilla")
  else pure (false, passOn keyShards f)

/-- The loop over the replicas from the `i`-th on; the last iteration is the one with no
replica after it. -/
def getLoop (throwExceptionOnTransientFailure : Bool) (nc : BeringeiNetworkClient σ)
    (keyShards : String → Option Int) : Nat → List σ → GetFrame → Except Failure GetFrame
  | _, [], f => pure f
  | i, readClient :: rest, f => do
    let (done, f) ← getIteration throwExceptionOnTransientFailure nc keyShards i readClient
      rest.isEmpty f
    if done then pure f else getLoop throwExceptionOnTransientFailure nc keyShards (i + 1) rest f

/-- The frame before the loop: `request.keys` cleared, `clientRequest` a copy of the
request, no metrics and no answers yet. -/
def initialFrame (request : GetDataRequest) (result : GetDataResult) : GetFrame where
  request := { request with keys := [] }
  result := result
  clientRequest := request
  failedKeys := []
  partialKeys := []
  stats := []
  exchanges := []

/-- `get(request, result, serviceOverride)` on the snapshot `readClientCopies` that
`getAllReadClients` returned; the caller's `request` and `result` are those of the frame
it returns. -/
def get (throwExceptionOnTransientFailure : Bool) (nc : BeringeiNetworkClient σ)
    (readClientCopies : List σ) (request : GetDataRequest) (result : GetDataResult) :
    Except Failure GetFrame :=
  getLoop throwExceptionOnTransientFailure nc (keyShardsOf request.keys) 0 readClientCopies
    (initialFrame request result)

/-- `std::vector::resize`: the first `n` entries, then copies of `d` up to `n`. -/
def resize {α : Type} (v : List α) (n : Nat) (d : α) : List α :=
  v.take n ++ List.replicate (n - v.length) d

@[simp] theorem length_resize {α : Type} (v : List α) (n : Nat) (d : α) :
    (resize v n d).length = n := by
  simp only [resize, List.length_append, List.length_take, List.length_replicate]
  omega

/-- The inner loop of the `GorillaResultVector` overload: `TimeSeries::getValues`, a
parameter, on each block of `r`, appending to `values`. -/
def getValuesOf {τ : Type} (getValues : TimeSeriesBlock → List τ → Int → Int → List τ)
    (request : GetDataRequest) (r : TimeSeriesData) (values : List τ) : List τ :=
  r.data.foldl (fun values block => getValues block values request.begin request.«end») values

/-- `get(request, GorillaResultVector& result, serviceOverride)`: the caller's `result`
resized to the number of results, and its `i`-th entry given the key at position `i` of
`request.keys` and the `i`-th result's blocks appended; with the caller's `request` as
`get` leaves it. `none` is a read of `request.keys[i]` out of range. -/
def getGorillaResultVector {τ : Type} (getValues : TimeSeriesBlock → List τ → Int → Int → List τ)
    (throwExceptionOnTransientFailure : Bool) (nc : BeringeiNetworkClient σ)
    (readClientCopies : List σ) (request : GetDataRequest) (result : List (Key × List τ)) :
    Except Failure (Option (GetDataRequest × List (Key × List τ))) := do
  let f ← get throwExceptionOnTransientFailure nc readClientCopies request ⟨[]⟩
  let result := resize result f.result.results.length (⟨"", 0⟩, [])
  pure (((List.range f.result.results.length).mapM fun i => do
    let key ← f.request.keys[i]?
    let r ← f.result.results[i]?
    let e : Key × List τ ← result[i]?
    pure (key, getValuesOf getValues f.request r e.2)).map fun result => (f.request, result))

/-! ## One call -/

/-- The multiset of the names of some keys. -/
def names (keys : List Key) : Multiset String := (keys.map Key.key : Multiset String)

@[simp] theorem names_append (a b : List Key) : names (a ++ b) = names a + names b := by
  simp [names]

@[simp] theorem names_nil : names [] = 0 := rfl

@[simp] theorem names_cons (k : Key) (keys : List Key) : names (k :: keys) = k.key ::ₘ names keys :=
  rfl

theorem names_eq_of_perm {a b : List Key} (h : a.Perm b) : names a = names b :=
  Multiset.coe_eq_coe.mpr (h.map _)

theorem callReplica_ok {nc : BeringeiNetworkClient σ} {i : Nat} {readClient : σ}
    {inProgressKeys partialDataKeys : Option KeysRef} {f f' : GetFrame}
    (h : callReplica nc i readClient inProgressKeys partialDataKeys f = .ok f') :
    ∃ requests, requests = nc.performGet readClient (getRequests nc readClient f.clientRequest) ∧
      (∀ p ∈ answeredPairs requests, verdict .failed inProgressKeys partialDataKeys p.2 ≠ .abort) ∧
      f' = { (answeredPairs requests).foldl (step .request .failed inProgressKeys partialDataKeys) f with
        exchanges := f.exchanges ++ [(i, requests)] } := by
  unfold callReplica at h
  rw [getWithClient_eq] at h
  simp only at h
  split at h
  · cases h
  · rename_i hany
    refine ⟨_, rfl, fun p hp habs => hany (List.any_eq_true.mpr ⟨p, hp, by simpa using habs⟩), ?_⟩
    simp only [Except.map, pure, Except.pure, Except.ok.injEq] at h
    rw [← h, foldl_step_exchanges]

/-- A bind that succeeded: its first computation succeeded, and so did the rest on its value. -/
theorem bind_eq_ok {α β : Type} {x : Except Failure α} {g : α → Except Failure β} {b : β}
    (h : x >>= g = .ok b) : ∃ a, x = .ok a ∧ g a = .ok b := by
  cases x with
  | error e => cases h
  | ok a => exact ⟨a, rfl, h⟩

/-- The test that ends the body with a `break`: it breaks with a frame that has nothing
failed or partial, or the rest of the body runs. -/
theorem breakIfSettled_ok {f f' : GetFrame} {rest : Except Failure (Bool × GetFrame)} {done : Bool}
    (h : (if f.failedKeys.isEmpty && f.partialKeys.isEmpty then pure (true, f) else rest) =
      .ok (done, f')) :
    (done = true ∧ f' = f ∧ f.failedKeys = [] ∧ f.partialKeys = []) ∨ rest = .ok (done, f') := by
  split at h
  · rename_i hb
    simp only [pure, Except.pure, Except.ok.injEq, Prod.mk.injEq] at h
    simp only [Bool.and_eq_true, List.isEmpty_iff] at hb
    exact .inl ⟨h.1.symm, h.2.symm, hb⟩
  · exact .inr h

/-- What one iteration can do: break after the first call, break after the retry, or pass
the unsettled keys on, which the last replica in strict mode never does. -/
theorem getIteration_ok {nc : BeringeiNetworkClient σ} {keyShards : String → Option Int}
    {strict lastIteration done : Bool} {i : Nat} {readClient : σ} {f f' : GetFrame}
    (h : getIteration strict nc keyShards i readClient lastIteration f = .ok (done, f')) :
    ∃ f₁, callReplica nc i readClient (inProgressKeysOf strict lastIteration)
        (partialDataKeysOf lastIteration) (beginIteration i f) = .ok f₁ ∧
      ((done = true ∧ f' = f₁ ∧ f₁.failedKeys = [] ∧ f₁.partialKeys = []) ∨
       ∃ f₂, retryFailedKeys nc i readClient (inProgressKeysOf strict lastIteration)
          (partialDataKeysOf lastIteration) f₁ = .ok f₂ ∧
        ((done = true ∧ f' = f₂ ∧ f₂.failedKeys = [] ∧ f₂.partialKeys = []) ∨
         (done = false ∧ (lastIteration && strict) = false ∧ f' = passOn keyShards f₂))) := by
  obtain ⟨f₁, h₁, h⟩ := bind_eq_ok h
  refine ⟨f₁, h₁, (breakIfSettled_ok h).imp_right fun h => ?_⟩
  obtain ⟨f₂, h₂, h⟩ := bind_eq_ok h
  refine ⟨f₂, h₂, (breakIfSettled_ok h).imp_right fun h => ?_⟩
  split at h
  · cases h
  · rename_i hs
    simp only [pure, Except.pure, Except.ok.injEq, Prod.mk.injEq] at h
    exact ⟨h.1.symm, by simpa [Bool.and_comm] using hs, h.2.symm⟩

/-! ## Every key is settled once -/

/-- The keys of one answer that no vector received. -/
def skippedKeys (inProgressKeys partialDataKeys : Option KeysRef) (requests : GetRequestMap) :
    List Key :=
  ((answeredPairs requests).filter fun p =>
    verdict .failed inProgressKeys partialDataKeys p.2 = .skip).map Prod.fst

/-- The keys no vector received, each answer read with the pointers `get` passed to the
replica that gave it, of `n` replicas. -/
def droppedKeys (throwExceptionOnTransientFailure : Bool) (n : Nat)
    (exchanges : List (Nat × GetRequestMap)) : List Key :=
  exchanges.flatMap fun e =>
    skippedKeys (inProgressKeysOf throwExceptionOnTransientFailure (e.1 + 1 == n))
      (partialDataKeysOf (e.1 + 1 == n)) e.2

@[simp] theorem droppedKeys_append (strict : Bool) (n : Nat) (a b : List (Nat × GetRequestMap)) :
    droppedKeys strict n (a ++ b) = droppedKeys strict n a ++ droppedKeys strict n b :=
  List.flatMap_append _ _ _

@[simp] theorem droppedKeys_singleton (strict : Bool) (n i : Nat) (requests : GetRequestMap) :
    droppedKeys strict n [(i, requests)] =
      skippedKeys (inProgressKeysOf strict (i + 1 == n)) (partialDataKeysOf (i + 1 == n)) requests := by
  simp [droppedKeys]

@[simp] theorem keys_with_exchanges (f : GetFrame) (e : List (Nat × GetRequestMap)) :
    ({ f with exchanges := e } : GetFrame).keys = f.keys := rfl

/-- The names `get` has settled: found, failed, partial or dropped. -/
def settled (throwExceptionOnTransientFailure : Bool) (n : Nat) (f : GetFrame) : Multiset String :=
  names (f.keys ++ droppedKeys throwExceptionOnTransientFailure n f.exchanges)

theorem names_restoreShardIds (keyShards : String → Option Int) (keys : List Key) :
    names (restoreShardIds keyShards keys) = names keys := by
  simp only [names, restoreShardIds, List.map_map]
  congr 2
  funext key
  simp only [Function.comp]
  split <;> rfl

theorem settled_passOn (strict : Bool) (n : Nat) (keyShards : String → Option Int) (f : GetFrame) :
    settled strict n (passOn keyShards f) + names (passOn keyShards f).clientRequest.keys =
      settled strict n f := by
  simp only [settled, passOn, GetFrame.keys, names_append, names_restoreShardIds, List.append_nil,
    names_nil, add_zero]
  abel

section Settled

variable {nc : BeringeiNetworkClient σ} (hnc : nc.Honest) {strict : Bool} {n i : Nat}
  {readClient : σ} {f f' : GetFrame}
include hnc

theorem callReplica_settled {lastIteration : Bool} (hlast : lastIteration = (i + 1 == n))
    (h : callReplica nc i readClient (inProgressKeysOf strict lastIteration)
      (partialDataKeysOf lastIteration) f = .ok f') :
    settled strict n f' = settled strict n f + names f.clientRequest.keys ∧
      f'.clientRequest = f.clientRequest := by
  obtain ⟨requests, hreq, hna, rfl⟩ := callReplica_ok h
  subst hlast
  set ip := inProgressKeysOf strict (i + 1 == n)
  set pd := partialDataKeysOf (i + 1 == n)
  have hk := names_eq_of_perm (foldl_step_keys .request .failed ip pd (answeredPairs requests) f)
  have hskip : ((answeredPairs requests).filter fun p => !(verdict .failed ip pd p.2).kept) =
      (answeredPairs requests).filter fun p => verdict .failed ip pd p.2 = .skip :=
    List.filter_congr fun p hp => by
      have := hna p hp
      cases hv : verdict .failed ip pd p.2 <;> simp [hv, Verdict.kept] at this ⊢
  have hans : names ((answeredPairs requests).map Prod.fst) = names f.clientRequest.keys := by
    rw [hreq]
    exact Multiset.coe_eq_coe.mpr (by
      simpa [List.map_map, Function.comp_def] using answered_keys hnc readClient f.clientRequest)
  rw [hskip, ← skippedKeys, names_append, names_append, hans] at hk
  refine ⟨?_, by simp⟩
  simp only [settled, keys_with_exchanges, droppedKeys_append, droppedKeys_singleton, names_append]
  rw [← add_assoc, add_right_comm, hk]
  abel

theorem retryFailedKeys_settled {lastIteration : Bool} (hlast : lastIteration = (i + 1 == n))
    (h : retryFailedKeys nc i readClient (inProgressKeysOf strict lastIteration)
      (partialDataKeysOf lastIteration) f = .ok f') :
    settled strict n f' = settled strict n f := by
  unfold retryFailedKeys at h
  split at h
  · cases h; rfl
  · rw [(callReplica_settled hnc hlast h).1]
    simp only [settled, GetFrame.keys, names_append, List.append_nil, names_nil, add_zero]
    abel

/-- **One iteration settles what it was asked**: what it settled, with the keys it passes
on, is what was settled before it with the keys it was asked for. -/
theorem getIteration_settled {keyShards : String → Option Int} {lastIteration done : Bool}
    (hlast : lastIteration = (i + 1 == n))
    (h : getIteration strict nc keyShards i readClient lastIteration f = .ok (done, f')) :
    settled strict n f' + (if done then 0 else names f'.clientRequest.keys) =
      names (f.request.keys ++ droppedKeys strict n f.exchanges) + names f.clientRequest.keys ∧
    f'.failedKeys = [] ∧ f'.partialKeys = [] := by
  have h₀ : settled strict n (beginIteration i f) = names (f.request.keys ++ droppedKeys strict n f.exchanges) := by
    simp [settled, beginIteration, GetFrame.keys]
  obtain ⟨f₁, h₁, ⟨rfl, rfl, hf, hp⟩ | ⟨f₂, h₂, ⟨rfl, rfl, hf, hp⟩ | ⟨rfl, -, rfl⟩⟩⟩ := getIteration_ok h
  all_goals have hs₁ := (callReplica_settled hnc hlast h₁).1
  · refine ⟨?_, hf, hp⟩
    rw [hs₁, h₀]
    simp [beginIteration]
  · refine ⟨?_, hf, hp⟩
    rw [retryFailedKeys_settled hnc hlast h₂, hs₁, h₀]
    simp [beginIteration]
  · refine ⟨?_, rfl, rfl⟩
    rw [if_neg Bool.false_ne_true, settled_passOn strict n, retryFailedKeys_settled hnc hlast h₂, hs₁, h₀]
    simp [beginIteration]

end Settled

/-! ## Answers are recorded under the replica that gave them -/

theorem callReplica_exchanges {nc : BeringeiNetworkClient σ} {i : Nat} {readClient : σ}
    {inProgressKeys partialDataKeys : Option KeysRef} {f f' : GetFrame}
    (h : callReplica nc i readClient inProgressKeys partialDataKeys f = .ok f') :
    ∃ es, f'.exchanges = f.exchanges ++ es ∧ ∀ e ∈ es, e.1 = i := by
  obtain ⟨requests, -, -, rfl⟩ := callReplica_ok h
  exact ⟨[(i, requests)], rfl, by simp⟩

theorem getIteration_exchanges {nc : BeringeiNetworkClient σ} {keyShards : String → Option Int}
    {strict lastIteration done : Bool} {i : Nat} {readClient : σ} {f f' : GetFrame}
    (h : getIteration strict nc keyShards i readClient lastIteration f = .ok (done, f')) :
    ∃ es, f'.exchanges = f.exchanges ++ es ∧ ∀ e ∈ es, e.1 = i := by
  have hretry : ∀ {g g'}, retryFailedKeys nc i readClient (inProgressKeysOf strict lastIteration)
      (partialDataKeysOf lastIteration) g = .ok g' →
      ∃ es, g'.exchanges = g.exchanges ++ es ∧ ∀ e ∈ es, e.1 = i := fun {g g'} h => by
    unfold retryFailedKeys at h
    split at h
    · cases h; exact ⟨[], by simp, by simp⟩
    · obtain ⟨es, he, hi⟩ := callReplica_exchanges h
      exact ⟨es, he, hi⟩
  obtain ⟨f₁, h₁, ⟨-, rfl, -⟩ | ⟨f₂, h₂, ⟨-, rfl, -⟩ | ⟨-, -, rfl⟩⟩⟩ := getIteration_ok h
  all_goals obtain ⟨es₁, he₁, hi₁⟩ := callReplica_exchanges h₁
  · exact ⟨es₁, he₁, hi₁⟩
  all_goals obtain ⟨es₂, he₂, hi₂⟩ := hretry h₂
  all_goals refine ⟨es₁ ++ es₂, ?_, fun e he => (List.mem_append.mp he).elim (hi₁ e) (hi₂ e)⟩
  · simp [he₂, he₁, beginIteration]
  · simp [passOn, he₂, he₁, beginIteration]

/-! ## Shard ids -/

theorem foldl_keyShards_some (keys : List Key) (g : String → Option Int) {name : String} {id : Int}
    (h : keys.foldl (fun keyShards key name =>
      if name = key.key then some key.shardId else keyShards name) g name = some id) :
    ⟨name, id⟩ ∈ keys ∨ g name = some id := by
  induction keys generalizing g with
  | nil => exact .inr h
  | cons key rest ih =>
    rcases ih _ h with hm | hg
    · exact .inl (List.mem_cons_of_mem _ hm)
    · simp only at hg
      split at hg
      · subst name; cases hg; exact .inl (List.mem_cons_self _ _)
      · exact .inr hg

theorem foldl_keyShards_isSome (keys : List Key) (g : String → Option Int) {name : String}
    (h : name ∈ keys.map Key.key ∨ (g name).isSome) :
    (keys.foldl (fun keyShards key name =>
      if name = key.key then some key.shardId else keyShards name) g name).isSome := by
  induction keys generalizing g with
  | nil => simpa using h
  | cons key rest ih =>
    refine ih _ ?_
    by_cases hk : name = key.key
    · exact .inr (by simp [hk])
    · simp only [List.map_cons, List.mem_cons, hk, false_or] at h
      simpa [hk] using h

/-- A restored key is a key the caller gave, when the caller gave its name. -/
theorem restoreShardIds_mem {request keys : List Key}
    (h : ∀ key ∈ keys, key.key ∈ request.map Key.key) :
    ∀ key ∈ restoreShardIds (keyShardsOf request) keys, key ∈ request := by
  intro key hkey
  obtain ⟨k, hk, rfl⟩ := List.mem_map.mp hkey
  have hs := foldl_keyShards_isSome request (fun _ => none) (.inl (h k hk))
  obtain ⟨id, hid⟩ := Option.isSome_iff_exists.mp hs
  simp only [keyShardsOf] at hid ⊢
  rw [hid]
  exact (foldl_keyShards_some request _ hid).resolve_right (by simp)

/-- What one turn of the loop can do: break, or go on to the next replica. -/
theorem getLoop_cons_ok {strict : Bool} {nc : BeringeiNetworkClient σ}
    {keyShards : String → Option Int} {i : Nat} {readClient : σ} {rest : List σ} {f g : GetFrame}
    (h : getLoop strict nc keyShards i (readClient :: rest) f = .ok g) :
    ∃ done f', getIteration strict nc keyShards i readClient rest.isEmpty f = .ok (done, f') ∧
      ((done = true ∧ g = f') ∨ (done = false ∧ getLoop strict nc keyShards (i + 1) rest f' = .ok g)) := by
  obtain ⟨⟨done, f'⟩, hit, h⟩ := bind_eq_ok h
  refine ⟨done, f', hit, ?_⟩
  cases done
  · exact .inr ⟨rfl, h⟩
  · cases h; exact .inl ⟨rfl, rfl⟩

/-! ## Found keys keep their results -/

/-- The answered keys recorded so far. -/
def answeredLog (exchanges : List (Nat × GetRequestMap)) : List (Key × TimeSeriesData) :=
  exchanges.flatMap fun e => answeredPairs e.2

/-- `result.results` runs beside `request.keys`, and each key with its result is one answer
of a host, in the order the answers came. -/
def Paired (f : GetFrame) : Prop :=
  f.request.keys.length = f.result.results.length ∧ f.found.Sublist (answeredLog f.exchanges)

theorem inProgressKeysOf_ne (strict lastIteration : Bool) :
    inProgressKeysOf strict lastIteration ≠ some .request := by
  unfold inProgressKeysOf; split <;> simp

theorem partialDataKeysOf_ne (lastIteration : Bool) : partialDataKeysOf lastIteration ≠ some .request := by
  unfold partialDataKeysOf; split <;> simp

section Paired

variable {nc : BeringeiNetworkClient σ} {strict lastIteration : Bool} {i : Nat} {readClient : σ}
  {f f' : GetFrame}

theorem callReplica_paired
    (h : callReplica nc i readClient (inProgressKeysOf strict lastIteration)
      (partialDataKeysOf lastIteration) f = .ok f') (hf : Paired f) : Paired f' := by
  obtain ⟨requests, -, -, rfl⟩ := callReplica_ok h
  obtain ⟨hl, hfound⟩ := foldl_step_found .failed (inProgressKeysOf strict lastIteration)
    (partialDataKeysOf lastIteration) (answeredPairs requests) f (by simp)
    (inProgressKeysOf_ne strict lastIteration) (partialDataKeysOf_ne lastIteration) hf.1
  refine ⟨hl, ?_⟩
  simp only [GetFrame.found] at hfound ⊢
  rw [hfound, answeredLog, List.flatMap_append, List.flatMap_singleton, ← answeredLog]
  exact hf.2.append (List.filter_sublist _)

theorem retryFailedKeys_paired
    (h : retryFailedKeys nc i readClient (inProgressKeysOf strict lastIteration)
      (partialDataKeysOf lastIteration) f = .ok f') (hf : Paired f) : Paired f' := by
  unfold retryFailedKeys at h
  split at h
  · cases h; exact hf
  · exact callReplica_paired h hf

theorem getIteration_paired {keyShards : String → Option Int} {done : Bool}
    (h : getIteration strict nc keyShards i readClient lastIteration f = .ok (done, f'))
    (hf : Paired f) : Paired f' := by
  obtain ⟨f₁, h₁, ⟨-, rfl, -⟩ | ⟨f₂, h₂, ⟨-, rfl, -⟩ | ⟨-, -, rfl⟩⟩⟩ := getIteration_ok h
  all_goals have hp₁ := callReplica_paired h₁ hf
  · exact hp₁
  all_goals have hp₂ := retryFailedKeys_paired h₂ hp₁
  · exact hp₂
  · exact hp₂

theorem getLoop_paired {keyShards : String → Option Int} {rest : List σ}
    (h : getLoop strict nc keyShards i rest f = .ok f') (hf : Paired f) : Paired f' := by
  induction rest generalizing i f with
  | nil => cases h; exact hf
  | cons readClient rest ih =>
    obtain ⟨done, g, hit, ⟨-, rfl⟩ | ⟨-, hloop⟩⟩ := getLoop_cons_ok h
    · exact getIteration_paired hit hf
    · exact ih hloop (getIteration_paired hit hf)

end Paired

theorem mapM_option_map {α β γ : Type} (f : β → Option γ) (g : α → β) (l : List α) :
    (l.map g).mapM f = l.mapM (f ∘ g) := by
  induction l with
  | nil => rfl
  | cons a l ih => rw [List.map_cons, List.mapM_cons, List.mapM_cons, ih]; rfl

/-- Reading three lists of one length position by position reads them side by side. -/
theorem mapM_range_getElem? {α β γ δ : Type} (g : α → β → γ → δ) :
    ∀ (ks : List α) (rs : List β) (es : List γ), ks.length = rs.length → es.length = rs.length →
    (List.range rs.length).mapM (fun i => do
      let k ← ks[i]?; let r ← rs[i]?; let e ← es[i]?; pure (g k r e)) =
      some (List.zipWith3 g ks rs es)
  | [], [], [], _, _ => rfl
  | k :: ks, r :: rs, e :: es, h₁, h₂ => by
    rw [List.length_cons, List.range_succ_eq_map, List.mapM_cons, mapM_option_map]
    simp only [Function.comp_def, Nat.succ_eq_add_one, List.getElem?_cons_succ,
      List.getElem?_cons_zero]
    rw [mapM_range_getElem? g ks rs es (by simpa using h₁) (by simpa using h₂)]
    rfl

/-- Replica 0 fails `k1`, every replica answers `k2` `KEY_MISSING` and the rest with data. -/
def failoverAnswer : Nat → Key → TimeSeriesData
  | 0, ⟨"k1", _⟩ => ⟨[], .rpcFail⟩
  | _, ⟨"k2", _⟩ => ⟨[], .keyMissing⟩
  | _, _ => ⟨[⟨1, "block"⟩], .ok⟩

theorem failoverAnswer_status (i : Nat) (key : Key) :
    (failoverAnswer i key).status ≠ .bucketNotFinalized := by
  unfold failoverAnswer; split <;> decide

def failoverRequest : GetDataRequest := ⟨[⟨"k1", 1⟩, ⟨"k2", 2⟩, ⟨"k3", 3⟩], 0, 60⟩

section Loop

variable (throwExceptionOnTransientFailure : Bool) (nc : BeringeiNetworkClient σ)
  (readClientCopies : List σ) (request : GetDataRequest) (result : GetDataResult)

/-- The frames at which `get`'s loop starts an iteration, with the replicas from that one
on: the first, and the one after an iteration that neither breaks nor fails and is not the
last. -/
inductive LoopHead : Nat → List σ → GetFrame → Prop
  | first : LoopHead 0 readClientCopies (initialFrame request result)
  | next {i : Nat} {readClient next : σ} {rest : List σ} {f f' : GetFrame} :
      LoopHead i (readClient :: next :: rest) f →
      getIteration throwExceptionOnTransientFailure nc (keyShardsOf request.keys) i readClient
        false f = .ok (false, f') →
      LoopHead (i + 1) (next :: rest) f'

variable {throwExceptionOnTransientFailure nc readClientCopies request result}

/-- Every head is on the run of `get`: from it, `get` goes on as the loop from there. -/
theorem get_eq_getLoop_of_loopHead {i : Nat} {rest : List σ} {f : GetFrame}
    (h : LoopHead throwExceptionOnTransientFailure nc readClientCopies request result i rest f) :
    get throwExceptionOnTransientFailure nc readClientCopies request result =
      getLoop throwExceptionOnTransientFailure nc (keyShardsOf request.keys) i rest f := by
  induction h with
  | first => rfl
  | next _ hit ih =>
    rw [ih, getLoop]
    simp only [List.isEmpty_cons, hit, bind, Except.bind, ite_false]
    rfl

/-- The keys a host answered `KEY_MISSING`. -/
def missingKeys (exchanges : List (Nat × GetRequestMap)) : List Key :=
  exchanges.flatMap fun e =>
    ((answeredPairs e.2).filter fun p => p.2.status = .keyMissing).map Prod.fst

/-- Before the last replica, only `KEY_MISSING` drops a key. -/
theorem droppedKeys_eq_missingKeys (strict : Bool) {n : Nat} {exchanges : List (Nat × GetRequestMap)}
    (h : ∀ e ∈ exchanges, e.1 + 1 < n) : droppedKeys strict n exchanges = missingKeys exchanges := by
  refine List.flatMap_congr fun e he => ?_
  have hlast : (e.1 + 1 == n) = false := by simpa using (h e he).ne
  simp only [skippedKeys, hlast, inProgressKeysOf, partialDataKeysOf, Bool.not_false, Bool.or_true,
    ite_true]
  congr 1
  exact List.filter_congr fun p _ => by simp [verdict_eq_skip]

/-- What holds at every head: the request's names are those settled and those still to ask
for; the keys still to ask for are keys the caller gave; every recorded answer is from an
earlier replica, not the last. -/
theorem loopHead_inv (hnc : nc.Honest) {i : Nat} {rest : List σ} {f : GetFrame}
    (h : LoopHead throwExceptionOnTransientFailure nc readClientCopies request result i rest f) :
    names request.keys = names (f.request.keys ++ droppedKeys throwExceptionOnTransientFailure
        readClientCopies.length f.exchanges) + names f.clientRequest.keys ∧
      (∀ k ∈ f.clientRequest.keys, k ∈ request.keys) ∧
      i + rest.length = readClientCopies.length ∧
      (∀ e ∈ f.exchanges, e.1 < i ∧ e.1 + 1 < readClientCopies.length) ∧
      f.failedKeys = [] ∧ f.partialKeys = [] := by
  induction h with
  | first => simp [initialFrame, droppedKeys]
  | @next i readClient next rest f f' _ hit ih =>
    obtain ⟨hc, -, hlen, hex, -, -⟩ := ih
    simp only [List.length_cons] at hlen
    have hlast : false = (i + 1 == readClientCopies.length) := by simp; omega
    obtain ⟨hs, hf', hp'⟩ := getIteration_settled hnc hlast hit
    simp only [ite_false, Bool.false_eq_true] at hs
    have hnames : names request.keys = names (f'.request.keys ++ droppedKeys
        throwExceptionOnTransientFailure readClientCopies.length f'.exchanges) +
          names f'.clientRequest.keys := by
      rw [hc, ← hs]; simp [settled, GetFrame.keys, hf', hp']
    obtain ⟨es, he, hi⟩ := getIteration_exchanges hit
    refine ⟨hnames, ?_, by simp; omega, fun e hm => ?_, hf', hp'⟩
    · obtain ⟨f₁, -, ⟨h₁, -⟩ | ⟨f₂, -, ⟨h₂, -⟩ | ⟨-, -, rfl⟩⟩⟩ := getIteration_ok hit
      · cases h₁
      · cases h₂
      refine restoreShardIds_mem fun key hkey => ?_
      have hle : names (f₂.failedKeys ++ f₂.partialKeys) ≤ names request.keys := by
        rw [hnames, passOn, names_restoreShardIds]; exact Multiset.le_add_left _ _
      exact Multiset.mem_coe.mp (Multiset.mem_of_le hle (Multiset.mem_coe.mpr
        (List.mem_map_of_mem Key.key hkey)))
    · rw [he] at hm
      rcases List.mem_append.mp hm with hm | hm
      · have := hex e hm; omega
      · have := hi e hm; omega

/-- An iteration from a head has settled every name of the request but those it passes
on. -/
theorem loopHead_iteration (hnc : nc.Honest) {i : Nat} {readClient : σ} {rest : List σ}
    {done : Bool} {f f' : GetFrame}
    (hh : LoopHead throwExceptionOnTransientFailure nc readClientCopies request result i
      (readClient :: rest) f)
    (hit : getIteration throwExceptionOnTransientFailure nc (keyShardsOf request.keys) i readClient
      rest.isEmpty f = .ok (done, f')) :
    names request.keys = names (f'.request.keys ++
      droppedKeys throwExceptionOnTransientFailure readClientCopies.length f'.exchanges) +
        if done then 0 else names f'.clientRequest.keys := by
  obtain ⟨hc, -, hlen, -, -, -⟩ := loopHead_inv hnc hh
  have hlast : rest.isEmpty = (i + 1 == readClientCopies.length) := by
    cases rest <;> simp at hlen ⊢ <;> omega
  obtain ⟨hs, hf', hp'⟩ := getIteration_settled hnc hlast hit
  rw [hc, ← hs]
  simp [settled, GetFrame.keys, hf', hp']

/-- A `break` settles every name of the request. -/
theorem loopHead_break (hnc : nc.Honest) {i : Nat} {readClient : σ} {rest : List σ}
    {f f' : GetFrame}
    (hh : LoopHead throwExceptionOnTransientFailure nc readClientCopies request result i
      (readClient :: rest) f)
    (hit : getIteration throwExceptionOnTransientFailure nc (keyShardsOf request.keys) i readClient
      rest.isEmpty f = .ok (true, f')) :
    names request.keys = names (f'.request.keys ++
      droppedKeys throwExceptionOnTransientFailure readClientCopies.length f'.exchanges) := by
  simpa using loopHead_iteration hnc hh hit

/-- `KEY_MISSING` drops a key on every replica, the last one included. -/
theorem missingKeys_sublist_droppedKeys (strict : Bool) (n : Nat)
    (exchanges : List (Nat × GetRequestMap)) :
    (missingKeys exchanges).Sublist (droppedKeys strict n exchanges) := by
  induction exchanges with
  | nil => exact .slnil
  | cons e rest ih =>
    simp only [missingKeys, droppedKeys, List.flatMap_cons, skippedKeys] at ih ⊢
    refine List.Sublist.append (List.Sublist.map _ (List.monotone_filter_right _ fun p hp => ?_)) ih
    simp only [decide_eq_true_eq] at hp ⊢
    simp [verdict, hp]

theorem names_le_of_sublist {a b : List Key} (h : a.Sublist b) : names a ≤ names b :=
  Multiset.coe_le.mpr (h.map Key.key).subperm

/-- **What the loop returns.** From a head, a returning loop has found, failed or dropped
no name more often than the request has it. -/
theorem getLoop_found_le (hnc : nc.Honest) {i : Nat} {rest : List σ} {f g : GetFrame}
    (hh : LoopHead throwExceptionOnTransientFailure nc readClientCopies request result i rest f)
    (h : getLoop throwExceptionOnTransientFailure nc (keyShardsOf request.keys) i rest f = .ok g) :
    names (g.request.keys ++ droppedKeys throwExceptionOnTransientFailure readClientCopies.length
      g.exchanges) ≤ names request.keys := by
  induction rest generalizing i f with
  | nil =>
    cases h
    rw [(loopHead_inv hnc hh).1]
    exact Multiset.le_add_right _ _
  | cons readClient rest ih =>
    obtain ⟨done, f', hit, ⟨rfl, rfl⟩ | ⟨rfl, hloop⟩⟩ := getLoop_cons_ok h
    · exact (loopHead_break hnc hh hit).ge
    · cases rest with
      | cons next rest => exact ih (.next hh hit) hloop
      | nil =>
        cases hloop
        rw [loopHead_iteration hnc hh hit, if_neg Bool.false_ne_true]
        exact Multiset.le_add_right _ _

/-- The keys the last of `n` replicas answered `MISSING_TOO_MUCH_DATA` with no data. -/
def emptyPartialKeys (n : Nat) (exchanges : List (Nat × GetRequestMap)) : List Key :=
  exchanges.flatMap fun e => if e.1 + 1 = n then
    ((answeredPairs e.2).filter fun p => p.2.status = .missingTooMuchData ∧ p.2.data = []).map
      Prod.fst
  else []

theorem names_filter_or (l : List (Key × TimeSeriesData)) (a b : Key × TimeSeriesData → Bool)
    (h : ∀ p, ¬(a p = true ∧ b p = true)) :
    names ((l.filter fun p => a p || b p).map Prod.fst) =
      names ((l.filter a).map Prod.fst) + names ((l.filter b).map Prod.fst) := by
  induction l with
  | nil => rfl
  | cons p l ih =>
    simp only [List.filter_cons]
    cases ha : a p <;> cases hb : b p
    case true.true => exact absurd ⟨ha, hb⟩ (h p)
    all_goals simp [ih, Multiset.cons_add, Multiset.add_cons]

/-- In strict mode a key is dropped for `KEY_MISSING`, or for `MISSING_TOO_MUCH_DATA` with no
data from the last replica. -/
theorem names_droppedKeys_strict (n : Nat) (exchanges : List (Nat × GetRequestMap)) :
    names (droppedKeys true n exchanges) =
      names (missingKeys exchanges) + names (emptyPartialKeys n exchanges) := by
  induction exchanges with
  | nil => rfl
  | cons e rest ih =>
    simp only [droppedKeys, missingKeys, emptyPartialKeys, List.flatMap_cons, names_append] at ih ⊢
    rw [ih]
    suffices names (skippedKeys (inProgressKeysOf true (e.1 + 1 == n))
        (partialDataKeysOf (e.1 + 1 == n)) e.2) =
        names (((answeredPairs e.2).filter fun p => p.2.status = .keyMissing).map Prod.fst) +
          names (if e.1 + 1 = n then ((answeredPairs e.2).filter fun p =>
            p.2.status = .missingTooMuchData ∧ p.2.data = []).map Prod.fst else []) by
      rw [this]; abel
    by_cases hl : e.1 + 1 = n
    · simp only [hl, beq_self_eq_true, inProgressKeysOf, partialDataKeysOf, Bool.true_or, ite_true,
        Bool.not_true, ite_false, skippedKeys]
      rw [← names_filter_or _ _ _ fun p => by
        obtain ⟨data, status⟩ := p.2; cases status <;> simp]
      congr 3
      funext p
      simp [verdict_eq_skip]
    · have hb : (e.1 + 1 == n) = false := by simpa using hl
      simp only [hl, hb, inProgressKeysOf, partialDataKeysOf, Bool.or_true, Bool.not_false, ite_true,
        ite_false, skippedKeys, names_nil, add_zero]
      congr 3
      funext p
      simp [verdict_eq_skip]

theorem getLoop_strict_settled (hnc : nc.Honest) {i : Nat} {readClient : σ} {rest : List σ}
    {f g : GetFrame}
    (hh : LoopHead true nc readClientCopies request result i (readClient :: rest) f)
    (h : getLoop true nc (keyShardsOf request.keys) i (readClient :: rest) f = .ok g) :
    names request.keys = names (g.request.keys ++ droppedKeys true readClientCopies.length g.exchanges) := by
  induction rest generalizing i readClient f with
  | nil =>
    obtain ⟨done, f', hit, ⟨rfl, rfl⟩ | ⟨rfl, -⟩⟩ := getLoop_cons_ok h
    · exact loopHead_break hnc hh hit
    · obtain ⟨f₁, -, ⟨h₁, -⟩ | ⟨f₂, -, ⟨h₂, -⟩ | ⟨-, hstrict, -⟩⟩⟩ := getIteration_ok hit
      · cases h₁
      · cases h₂
      · cases hstrict
  | cons next rest ih =>
    obtain ⟨done, f', hit, ⟨rfl, rfl⟩ | ⟨rfl, hloop⟩⟩ := getLoop_cons_ok h
    · exact loopHead_break hnc hh hit
    · exact ih (.next hh hit) hloop

/-- **In strict mode, a `get` that returns has dropped a key only for `KEY_MISSING`, or for
`MISSING_TOO_MUCH_DATA` with no data from the last replica.** With at least one replica,
the request's names are, as a multiset, those found, those answered `KEY_MISSING`, and
those the last replica answered `MISSING_TOO_MUCH_DATA` with no data. -/
theorem get_strict_settles_keys (hnc : nc.Honest) (hne : readClientCopies ≠ []) {f : GetFrame}
    (h : get true nc readClientCopies request result = .ok f) :
    names request.keys = names f.request.keys + names (missingKeys f.exchanges) +
      names (emptyPartialKeys readClientCopies.length f.exchanges) := by
  obtain ⟨readClient, rest, rfl⟩ := List.exists_cons_of_ne_nil hne
  rw [getLoop_strict_settled hnc .first h, names_append, names_droppedKeys_strict, add_assoc]

/-- With no read client the loop never runs: a strict `get` throws nothing, finds no key and
records no answer, so it drops every key of the request. -/
theorem get_strict_empty_snapshot (nc : BeringeiNetworkClient σ) (request : GetDataRequest)
    (result : GetDataResult) :
    ∃ f, get true nc [] request result = .ok f ∧ f.request.keys = [] ∧ f.exchanges = [] ∧
      f.result = result :=
  ⟨_, rfl, rfl, rfl, rfl⟩

/-- Every key answered `MISSING_TOO_MUCH_DATA` with no data. -/
def emptyPartialAnswer (_ : Unit) (_ : Key) : TimeSeriesData := ⟨[], .missingTooMuchData⟩

def partialDataRequest : GetDataRequest := ⟨[⟨"k", 1⟩], 0, 60⟩

/-- In strict mode, the only replica answers `MISSING_TOO_MUCH_DATA` with no data: `get`
returns, and the key is neither found nor answered `KEY_MISSING`. -/
theorem get_strict_drops_empty_partial_data :
    (oneHostClient emptyPartialAnswer).Honest ∧
      ∃ f, get true (oneHostClient emptyPartialAnswer) [()] partialDataRequest ⟨[]⟩ = .ok f ∧
        ∃ k ∈ partialDataRequest.keys, k ∉ f.request.keys ∧ k ∉ missingKeys f.exchanges :=
  ⟨oneHostClient_honest _, _, rfl, ⟨"k", 1⟩, by decide, by decide, by decide⟩

theorem get_strict_settles_keys_at_partial_data :
    ∃ f, get true (oneHostClient emptyPartialAnswer) [()] partialDataRequest ⟨[]⟩ = .ok f ∧
      names partialDataRequest.keys = names f.request.keys + names (missingKeys f.exchanges) +
        names (emptyPartialKeys 1 f.exchanges) :=
  have h : get true (oneHostClient emptyPartialAnswer) [()] partialDataRequest ⟨[]⟩ = .ok _ := rfl
  have hkeys := get_strict_settles_keys (oneHostClient_honest _) (List.cons_ne_nil () []) h
  ⟨_, h, hkeys⟩

end Loop

/-! ## The replicas asked, and what `get` counts

`get` reaches the replicas in turn and skips none. Each one it reaches gets one call, and
one more for the failed keys when the first call leaves some (`getIteration_tallied`). The
only metrics it adds are one `read_failover` for each replica after the first and one
`redirect_for_missing_data` for each `MISSING_TOO_MUCH_DATA` answer (`Tallied`). So over a
whole run, the replicas of the calls are `callLog 0 calls` for some `calls` of ones and twos,
and `read_failover` is the number of replicas reached, less one
(`get_asks_replicas_in_turn`). -/

/-- The replica of each call of a run that reached replicas `i, i + 1, …` in turn, with
`calls[j]` calls to replica `i + j`. -/
def callLog : Nat → List Nat → List Nat
  | _, [] => []
  | i, c :: calls => List.replicate c i ++ callLog (i + 1) calls

/-- The metrics `get` has added by frame `f`, after `failovers` failovers: `failovers` to
`read_failover`, one to `redirect_for_missing_data` for each `MISSING_TOO_MUCH_DATA` answer
recorded, and nothing to any other metric. -/
def Tallied (failovers : Nat) (f : GetFrame) : Prop :=
  ∀ k, statSum k f.stats = (if k = .readFailover then (failovers : Int) else 0) +
    if k = .redirectForMissingData then
      (((answeredLog f.exchanges).countP fun p => p.2.status = .missingTooMuchData : Nat) : Int)
    else 0

theorem tallied_initialFrame (request : GetDataRequest) (result : GetDataResult) :
    Tallied 0 (initialFrame request result) := by
  intro k
  simp [initialFrame, answeredLog]

section Tally

variable {nc : BeringeiNetworkClient σ} {i n : Nat} {readClient : σ}
  {inProgressKeys partialDataKeys : Option KeysRef} {f f' : GetFrame}

/-- A call records one answer, of replica `i`, and counts its redirects. -/
theorem callReplica_tallied (h : callReplica nc i readClient inProgressKeys partialDataKeys f = .ok f')
    (ht : Tallied n f) :
    f'.exchanges.map Prod.fst = f.exchanges.map Prod.fst ++ [i] ∧ Tallied n f' := by
  obtain ⟨requests, -, -, rfl⟩ := callReplica_ok h
  refine ⟨by simp, fun k => ?_⟩
  rw [statSum_foldl_step, ht k]
  simp only [answeredLog, List.flatMap_append, List.flatMap_singleton, List.countP_append,
    Nat.cast_add, foldl_step_exchanges]
  by_cases hk : k = .redirectForMissingData
  · simp only [hk, ↓reduceIte]; omega
  · simp only [hk, ↓reduceIte, Int.add_zero]

/-- The retry of the failed keys is at most one more call to replica `i`. -/
theorem retryFailedKeys_tallied
    (h : retryFailedKeys nc i readClient inProgressKeys partialDataKeys f = .ok f')
    (ht : Tallied n f) :
    ∃ c ≤ 1, f'.exchanges.map Prod.fst = f.exchanges.map Prod.fst ++ List.replicate c i ∧
      Tallied n f' := by
  unfold retryFailedKeys at h
  split at h
  · cases h
    exact ⟨0, by omega, by simp, ht⟩
  · obtain ⟨hx, ht'⟩ := callReplica_tallied h ht
    exact ⟨1, le_refl 1, hx, ht'⟩

@[simp] theorem beginIteration_exchanges : (beginIteration i f).exchanges = f.exchanges := rfl

theorem tallied_beginIteration (ht : Tallied n f) :
    Tallied (n + if 0 < i then 1 else 0) (beginIteration i f) := by
  intro k
  have hs : statSum k (beginIteration i f).stats =
      statSum k f.stats + if 0 < i ∧ .readFailover = k then 1 else 0 := by
    by_cases hi : 0 < i <;> simp [beginIteration, hi]
  rw [hs, ht k, beginIteration_exchanges]
  by_cases hf : k = .readFailover
  · subst hf
    by_cases hi : 0 < i <;> simp [hi]
  · simp [hf, Ne.symm hf]

/-- **One iteration asks replica `i` once or twice, and counts one failover if `i > 0`.** -/
theorem getIteration_tallied {strict lastIteration done : Bool} {keyShards : String → Option Int}
    (h : getIteration strict nc keyShards i readClient lastIteration f = .ok (done, f'))
    (ht : Tallied n f) :
    ∃ c, (c = 1 ∨ c = 2) ∧
      f'.exchanges.map Prod.fst = f.exchanges.map Prod.fst ++ List.replicate c i ∧
      Tallied (n + if 0 < i then 1 else 0) f' := by
  obtain ⟨f₁, h₁, ⟨-, rfl, -⟩ | ⟨f₂, h₂, ⟨-, rfl, -⟩ | ⟨-, -, rfl⟩⟩⟩ := getIteration_ok h
  all_goals obtain ⟨hx₁, ht₁⟩ := callReplica_tallied h₁ (tallied_beginIteration ht)
  · exact ⟨1, .inl rfl, by simpa [beginIteration] using hx₁, ht₁⟩
  all_goals obtain ⟨c, hc, hx₂, ht₂⟩ := retryFailedKeys_tallied h₂ ht₁
  all_goals refine ⟨1 + c, by omega, ?_, ht₂⟩
  all_goals simp only [passOn, hx₂, hx₁, List.replicate_add, beginIteration, List.append_assoc]
  all_goals rfl

/-- From replica `i` on, the loop asks the replicas in turn, once or twice each, and counts
a failover for each one after replica `0`. -/
theorem getLoop_tallied {strict : Bool} {keyShards : String → Option Int} {g : GetFrame}
    {i n : Nat} {rest : List σ} {f : GetFrame} (h : getLoop strict nc keyShards i rest f = .ok g)
    (ht : Tallied n f) :
    ∃ calls : List Nat, calls.length ≤ rest.length ∧ (calls = [] ↔ rest = []) ∧
      (∀ c ∈ calls, c = 1 ∨ c = 2) ∧
      g.exchanges.map Prod.fst = f.exchanges.map Prod.fst ++ callLog i calls ∧
      Tallied (n + (calls.length - if i = 0 then 1 else 0)) g := by
  induction rest generalizing i n f with
  | nil =>
    cases h
    exact ⟨[], le_refl _, by simp, by simp, by simp [callLog], by simpa using ht⟩
  | cons readClient rest ih =>
    obtain ⟨done, f', hit, ⟨rfl, rfl⟩ | ⟨rfl, hrest⟩⟩ := getLoop_cons_ok h
    all_goals obtain ⟨c, hc, hx, ht'⟩ := getIteration_tallied hit ht
    · refine ⟨[c], by simp, by simp, by simpa using hc, by simp [hx, callLog], ?_⟩
      have hn : (n + if 0 < i then 1 else 0) = n + ([c].length - if i = 0 then 1 else 0) := by
        cases i <;> simp only [List.length_singleton, Nat.lt_irrefl, Nat.succ_pos, Nat.succ_ne_zero,
          ↓reduceIte]
      exact hn ▸ ht'
    · obtain ⟨calls, hl, -, hcs, hx', ht''⟩ := ih hrest ht'
      refine ⟨c :: calls, by simp [hl], by simp, by simpa [hc] using hcs, by simp [hx', hx, callLog], ?_⟩
      have hn : n + (if 0 < i then 1 else 0) + (calls.length - if i + 1 = 0 then 1 else 0) =
          n + ((c :: calls).length - if i = 0 then 1 else 0) := by
        cases i with
        | zero => simp only [List.length_cons, Nat.lt_irrefl, Nat.succ_ne_zero, ↓reduceIte,
            Nat.sub_zero, Nat.add_sub_cancel, Nat.add_zero]
        | succ i => simp only [List.length_cons, Nat.succ_pos, Nat.succ_ne_zero, ↓reduceIte,
            Nat.sub_zero]; omega
      exact hn ▸ ht''

end Tally

/-- The run above: two calls to replica `0`, one to replica `1`, one failover. -/
example : ((get false (oneHostClient failoverAnswer) [0, 1] failoverRequest ⟨[]⟩).map fun f =>
    (f.exchanges.map Prod.fst, statSum .readFailover f.stats)) = .ok ([0, 0, 1], 1) := rfl

/-! ## What `get` throws

The `switch` aborts on `BUCKET_NOT_FINALIZED` alone, and the loop throws only
`Failed reading data from gorilla`, when the last replica of a strict read leaves keys
unsettled. So against hosts that never answer `BUCKET_NOT_FINALIZED` (`Finalized`), a
non-strict `get` always returns, and a strict one returns or throws that error
(`get_throws_only_when_strict`). -/

/-- How a read against such hosts may end: it returns, or a strict read throws
`Failed reading data from gorilla`. -/
def ThrowsOnlyIfStrict {α : Type} (strict : Bool) : Except Failure α → Prop
  | .ok _ => True
  | .error e => strict = true ∧ e = .runtimeError "Failed reading data from gorilla"

namespace ThrowsOnlyIfStrict

variable {α β : Type} {strict : Bool} {x : Except Failure α}

theorem of_ok {a : α} (h : x = .ok a) : ThrowsOnlyIfStrict strict x := h ▸ trivial

theorem bind {g : α → Except Failure β} (hx : ThrowsOnlyIfStrict strict x)
    (hg : ∀ a, ThrowsOnlyIfStrict strict (g a)) : ThrowsOnlyIfStrict strict (x >>= g) := by
  cases x with
  | error e => exact hx
  | ok a => exact hg a

theorem isOk_of_false (h : ThrowsOnlyIfStrict false x) : ∃ a, x = .ok a := by
  cases x with
  | error e => exact absurd h.1 Bool.false_ne_true
  | ok a => exact ⟨a, rfl⟩

theorem eq_of_error {e : Failure} (h : ThrowsOnlyIfStrict strict x) (he : x = .error e) :
    e = .runtimeError "Failed reading data from gorilla" := by
  subst he
  exact h.2

end ThrowsOnlyIfStrict

section Throws

variable {nc : BeringeiNetworkClient σ} (hnc : nc.Finalized)
include hnc

theorem callReplica_isOk (i : Nat) (readClient : σ) (inProgressKeys partialDataKeys : Option KeysRef)
    (f : GetFrame) : ∃ f', callReplica nc i readClient inProgressKeys partialDataKeys f = .ok f' := by
  obtain ⟨r, hr⟩ := getWithClient_isOk hnc readClient f.clientRequest .request .failed
    inProgressKeys partialDataKeys f
  exact ⟨_, by rw [callReplica, hr]; rfl⟩

theorem retryFailedKeys_isOk (i : Nat) (readClient : σ)
    (inProgressKeys partialDataKeys : Option KeysRef) (f : GetFrame) :
    ∃ f', retryFailedKeys nc i readClient inProgressKeys partialDataKeys f = .ok f' := by
  unfold retryFailedKeys
  split
  · exact ⟨f, rfl⟩
  · exact callReplica_isOk hnc ..

/-- One iteration returns, or throws on the last replica of a strict read. -/
theorem getIteration_throwsOnlyIfStrict (strict : Bool) (keyShards : String → Option Int) (i : Nat)
    (readClient : σ) (lastIteration : Bool) (f : GetFrame) :
    ThrowsOnlyIfStrict strict (getIteration strict nc keyShards i readClient lastIteration f) := by
  have ⟨_, h₁⟩ := callReplica_isOk hnc i readClient (inProgressKeysOf strict lastIteration)
    (partialDataKeysOf lastIteration) (beginIteration i f)
  refine .bind (.of_ok h₁) fun f₁ => ?_
  split
  · trivial
  · have ⟨_, h₂⟩ := retryFailedKeys_isOk hnc i readClient (inProgressKeysOf strict lastIteration)
      (partialDataKeysOf lastIteration) f₁
    refine .bind (.of_ok h₂) fun f₂ => ?_
    split
    · trivial
    · split
      · rename_i hs
        exact ⟨(Bool.and_eq_true _ _ ▸ hs).2, rfl⟩
      · trivial

theorem getLoop_throwsOnlyIfStrict (strict : Bool) (keyShards : String → Option Int) :
    ∀ (i : Nat) (rest : List σ) (f : GetFrame),
      ThrowsOnlyIfStrict strict (getLoop strict nc keyShards i rest f)
  | _, [], _ => trivial
  | i, readClient :: rest, f =>
    .bind (getIteration_throwsOnlyIfStrict hnc strict keyShards i readClient rest.isEmpty f)
      fun ⟨done, f'⟩ => by
        cases done
        · exact getLoop_throwsOnlyIfStrict strict keyShards (i + 1) rest f'
        · trivial

end Throws

/-- **Against finalized hosts, `get` throws only in strict mode, and only its own error.**
Take a network client none of whose hosts answers `BUCKET_NOT_FINALIZED`, and any snapshot
of read clients, request and result. A non-strict `get` returns. A strict `get` returns, or
throws `std::runtime_error("Failed reading data from gorilla")`; neither aborts. -/
theorem get_throws_only_when_strict {nc : BeringeiNetworkClient σ} (hnc : nc.Finalized)
    (readClientCopies : List σ) (request : GetDataRequest) (result : GetDataResult) :
    (∃ f, get false nc readClientCopies request result = .ok f) ∧
      ∀ e, get true nc readClientCopies request result = .error e →
        e = .runtimeError "Failed reading data from gorilla" :=
  ⟨(getLoop_throwsOnlyIfStrict hnc false _ 0 _ _).isOk_of_false,
    fun _ he => (getLoop_throwsOnlyIfStrict hnc true _ 0 _ _).eq_of_error he⟩

/-- The failover run's hosts never answer `BUCKET_NOT_FINALIZED`. -/
theorem get_throws_only_when_strict_at_failover :
    (oneHostClient failoverAnswer).Finalized ∧
      (∃ f, get false (oneHostClient failoverAnswer) [0, 1] failoverRequest ⟨[]⟩ = .ok f) ∧
      ∀ e, get true (oneHostClient failoverAnswer) [0, 1] failoverRequest ⟨[]⟩ = .error e →
        e = .runtimeError "Failed reading data from gorilla" :=
  have hnc : (oneHostClient failoverAnswer).Finalized :=
    oneHostClient_finalized failoverAnswer_status
  ⟨hnc, get_throws_only_when_strict hnc [0, 1] failoverRequest ⟨[]⟩⟩

/-- A strict read of replica `0` alone, which fails `k1` twice, throws. -/
example : get true (oneHostClient failoverAnswer) [0] failoverRequest ⟨[]⟩ =
    .error (.runtimeError "Failed reading data from gorilla") := rfl

end BeringeiClient.Read.Get
