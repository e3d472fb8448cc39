import BeringeiClient.NetworkClient

/-! # One replica's answer: `getWithClient`

`getWithClient` groups a request's keys by host, sends the per-host requests, and sorts
each answered key, by its status, into the vectors of its caller. Of the network client
(NetworkClient) the read-path results assume only what `BeringeiNetworkClient.Honest`
states.

The caller's vectors form one frame, and the reference and pointer parameters name vectors
of it (`KeysRef`), so that two pointers to one vector, as `get` passes them, behave as in
the source. `verdict` says once what the `switch` does with one answered key; the loops
over hosts and keys are then one fold (`getWithClient_eq`), and what they do to the frame
follows by induction over the answered keys: every key is kept in exactly one vector or
skipped (`foldl_step_keys`), and found keys are pushed together with their results
(`foldl_step_found`). Against `outList`, the list each status sends a key to in the
specification's words, one call appends to each vector exactly the keys sent to it, in the
order of the answers; the answered keys are the request's own when the network client
places each key once (`PlacesKeys`); and the call aborts iff some result is
`BUCKET_NOT_FINALIZED` (`getWithClient_sorts_keys`). -/
namespace BeringeiClient.Read.GetWithClient
open BeringeiClient.Types BeringeiClient.NetworkClient

variable {σ : Type}

/-! ## The caller's frame -/

/-- The vectors of `get`'s frame that the reference and pointer parameters of
`getWithClient` address: `request.keys`, `failedKeys` and `partialKeys`. -/
inductive KeysRef
  | request
  | failed
  | partials
  deriving DecidableEq, Repr

/-- The variables of `get`: the caller's `request`, whose keys are the keys found so far,
and `result`; the request for the current replica, its failed and partial keys; the
metrics; and the hosts' answers so far, each with the index of the replica that gave it. -/
structure GetFrame where
  request : GetDataRequest
  result : GetDataResult
  clientRequest : GetDataRequest
  failedKeys : List Key
  partialKeys : List Key
  stats : Stats
  exchanges : List (Nat × GetRequestMap)

namespace GetFrame

def push (f : GetFrame) (key : Key) : KeysRef → GetFrame
  | .request => { f with request := { f.request with keys := f.request.keys ++ [key] } }
  | .failed => { f with failedKeys := f.failedKeys ++ [key] }
  | .partials => { f with partialKeys := f.partialKeys ++ [key] }

def pushResult (f : GetFrame) (r : TimeSeriesData) : GetFrame :=
  { f with result := { results := f.result.results ++ [r] } }

/-- The keys of the three vectors that keys are appended to. -/
def keys (f : GetFrame) : List Key := f.request.keys ++ f.failedKeys ++ f.partialKeys

/-- The found keys with their results, position by position. -/
def found (f : GetFrame) : List (Key × TimeSeriesData) := f.request.keys.zip f.result.results

end GetFrame

/-! ## The source -/

/-- One case of the `switch`: `req.keys[i]` answered by `res.results[i]`. -/
def handleResult (foundKeys failedKeys : KeysRef) (inProgressKeys partialDataKeys : Option KeysRef)
    (f : GetFrame) (key : Key) (r : TimeSeriesData) : Except Failure GetFrame :=
  match r.status with
  | .ok => pure ((f.pushResult r).push key foundKeys)
  | .keyMissing => pure f
  | .rpcFail | .zippyStorageFail | .dontOwnShard => pure (f.push key failedKeys)
  | .shardInProgress =>
    match inProgressKeys with
    | some p => pure (f.push key p)
    | none => pure (if r.data.length > 0 then (f.pushResult r).push key foundKeys else f)
  | .missingTooMuchData =>
    let f := { f with stats := addStatValue f.stats .redirectForMissingData 1 }
    match partialDataKeys with
    | some p => pure (f.push key p)
    | none => pure (if r.data.length > 0 then (f.pushResult r).push key foundKeys else f)
  | .bucketNotFinalized => throw .abort

/-- The per-host requests for the request's keys, each with the request's time range. -/
def getRequests (nc : BeringeiNetworkClient σ) (readClient : σ) (request : GetDataRequest) :
    GetRequestMap :=
  (request.keys.foldl (fun requests key => nc.addKeyToGetRequest readClient key requests) []).map
    fun e => (e.1, { e.2.1 with begin := request.begin, «end» := request.«end» }, e.2.2)

/-- `getWithClient`, returning the frame and the hosts' answers. -/
def getWithClient (nc : BeringeiNetworkClient σ) (readClient : σ) (request : GetDataRequest)
    (foundKeys failedKeys : KeysRef) (inProgressKeys partialDataKeys : Option KeysRef)
    (f : GetFrame) : Except Failure (GetFrame × GetRequestMap) := do
  let requests := nc.performGet readClient (getRequests nc readClient request)
  let f ← requests.foldlM (fun f e => (e.2.1.keys.zip e.2.2.results).foldlM
    (fun f p => handleResult foundKeys failedKeys inProgressKeys partialDataKeys f p.1 p.2) f) f
  pure (f, requests)

/-! ## What the `switch` does with one key -/

inductive Verdict
  | found
  | append (ref : KeysRef)
  | skip
  | abort
  deriving DecidableEq, Repr

/-- Whether the key goes to one of the vectors. -/
def Verdict.kept : Verdict → Bool
  | .found | .append _ => true
  | .skip | .abort => false

/-- A partial answer when the caller passed the pointer `p`. -/
def verdictOr : Option KeysRef → TimeSeriesData → Verdict
  | some p, _ => .append p
  | none, r => if r.data.length > 0 then .found else .skip

def verdict (failedKeys : KeysRef) (inProgressKeys partialDataKeys : Option KeysRef)
    (r : TimeSeriesData) : Verdict :=
  match r.status with
  | .ok => .found
  | .keyMissing => .skip
  | .rpcFail | .zippyStorageFail | .dontOwnShard => .append failedKeys
  | .shardInProgress => verdictOr inProgressKeys r
  | .missingTooMuchData => verdictOr partialDataKeys r
  | .bucketNotFinalized => .abort

/-- A partial answer is appended only to the vector the caller pointed at. -/
theorem verdictOr_append {o : Option KeysRef} {r : TimeSeriesData} {p : KeysRef}
    (h : verdictOr o r = .append p) : o = some p := by
  cases o with
  | some q => exact congrArg some (Verdict.append.inj h)
  | none => simp only [verdictOr] at h; split at h <;> cases h

/-- A key is appended only to `failedKeys` or to a vector the caller pointed at. -/
theorem verdict_append {failedKeys p : KeysRef} {inProgressKeys partialDataKeys : Option KeysRef}
    {r : TimeSeriesData} (h : verdict failedKeys inProgressKeys partialDataKeys r = .append p) :
    p = failedKeys ∨ inProgressKeys = some p ∨ partialDataKeys = some p := by
  obtain ⟨data, status⟩ := r
  cases status
  case rpcFail | zippyStorageFail | dontOwnShard => exact .inl (Verdict.append.inj h).symm
  case shardInProgress => exact .inr (.inl (verdictOr_append h))
  case missingTooMuchData => exact .inr (.inr (verdictOr_append h))
  all_goals cases h

/-- With `inProgressKeys` set, an answer is skipped for `KEY_MISSING`, or, when no vector
takes partial answers, for `MISSING_TOO_MUCH_DATA` without data. -/
theorem verdict_eq_skip {failedKeys p : KeysRef} {partialDataKeys : Option KeysRef}
    (r : TimeSeriesData) :
    verdict failedKeys (some p) partialDataKeys r = .skip ↔
      r.status = .keyMissing ∨
        partialDataKeys = none ∧ r.status = .missingTooMuchData ∧ r.data = [] := by
  obtain ⟨data, status⟩ := r
  cases status
  case missingTooMuchData => cases partialDataKeys <;> simp [verdict, verdictOr]
  all_goals simp [verdict, verdictOr]

namespace GetFrame

def apply (f : GetFrame) (foundKeys : KeysRef) (key : Key) (r : TimeSeriesData) : Verdict → GetFrame
  | .found => (f.pushResult r).push key foundKeys
  | .append p => f.push key p
  | .skip | .abort => f

/-- The metric the `switch` adds for a `MISSING_TOO_MUCH_DATA` answer. -/
def noteRedirect (f : GetFrame) (r : TimeSeriesData) : GetFrame :=
  if r.status = .missingTooMuchData then
    { f with stats := addStatValue f.stats .redirectForMissingData 1 }
  else f

@[simp] theorem noteRedirect_request (f : GetFrame) (r : TimeSeriesData) :
    (f.noteRedirect r).request = f.request := by unfold noteRedirect; split <;> rfl

@[simp] theorem noteRedirect_result (f : GetFrame) (r : TimeSeriesData) :
    (f.noteRedirect r).result = f.result := by unfold noteRedirect; split <;> rfl

@[simp] theorem noteRedirect_keys (f : GetFrame) (r : TimeSeriesData) :
    (f.noteRedirect r).keys = f.keys := by unfold noteRedirect; split <;> rfl

@[simp] theorem noteRedirect_found (f : GetFrame) (r : TimeSeriesData) :
    (f.noteRedirect r).found = f.found := by unfold noteRedirect; split <;> rfl

@[simp] theorem noteRedirect_clientRequest (f : GetFrame) (r : TimeSeriesData) :
    (f.noteRedirect r).clientRequest = f.clientRequest := by unfold noteRedirect; split <;> rfl

@[simp] theorem noteRedirect_exchanges (f : GetFrame) (r : TimeSeriesData) :
    (f.noteRedirect r).exchanges = f.exchanges := by unfold noteRedirect; split <;> rfl

@[simp] theorem apply_clientRequest (f : GetFrame) (foundKeys : KeysRef) (key : Key)
    (r : TimeSeriesData) (v : Verdict) : (f.apply foundKeys key r v).clientRequest = f.clientRequest := by
  cases v with
  | found => cases foundKeys <;> rfl
  | append p => cases p <;> rfl
  | _ => rfl

@[simp] theorem apply_exchanges (f : GetFrame) (foundKeys : KeysRef) (key : Key)
    (r : TimeSeriesData) (v : Verdict) : (f.apply foundKeys key r v).exchanges = f.exchanges := by
  cases v with
  | found => cases foundKeys <;> rfl
  | append p => cases p <;> rfl
  | _ => rfl

theorem push_keys (f : GetFrame) (key : Key) (p : KeysRef) :
    (f.push key p).keys.Perm (f.keys ++ [key]) := by
  cases p <;> simp only [push, keys, List.append_assoc, List.singleton_append, List.cons_append,
    List.nil_append]
  · simpa using (List.perm_append_singleton key (f.failedKeys ++ f.partialKeys)).symm.append_left _
  · exact ((List.perm_append_singleton key _).symm.append_left _).append_left _
  · exact .refl _

/-- A verdict keeps the key in one vector, or adds it to none. -/
theorem apply_keys (f : GetFrame) (foundKeys : KeysRef) (key : Key) (r : TimeSeriesData)
    (v : Verdict) :
    (f.apply foundKeys key r v).keys.Perm (f.keys ++ if v.kept then [key] else []) := by
  cases v
  case found => exact push_keys _ _ _
  case append p => exact push_keys _ _ _
  all_goals simp [apply, Verdict.kept]

/-- When only `foundKeys` is `request.keys`, a found key is pushed with its result and
nothing else reaches `request.keys` or `result`. -/
theorem apply_found (f : GetFrame) (key : Key) (r : TimeSeriesData) (v : Verdict)
    (hv : ∀ p, v = .append p → p ≠ .request)
    (hlen : f.request.keys.length = f.result.results.length) :
    (f.apply .request key r v).request.keys.length = (f.apply .request key r v).result.results.length ∧
      (f.apply .request key r v).found = f.found ++ if v = .found then [(key, r)] else [] := by
  cases v
  case found => simp [apply, push, pushResult, found, hlen, List.zip_append]
  case append p =>
    have hp := hv p rfl
    cases p <;> simp_all [apply, push, found]
  all_goals simp [apply, hlen]

end GetFrame

/-- The `switch` without its abort: one answered key's effect on the frame. -/
def step (foundKeys failedKeys : KeysRef) (inProgressKeys partialDataKeys : Option KeysRef)
    (f : GetFrame) (p : Key × TimeSeriesData) : GetFrame :=
  (f.noteRedirect p.2).apply foundKeys p.1 p.2 (verdict failedKeys inProgressKeys partialDataKeys p.2)

section Refs

variable (foundKeys failedKeys : KeysRef) (inProgressKeys partialDataKeys : Option KeysRef)

theorem handleResult_eq (f : GetFrame) (key : Key) (r : TimeSeriesData) :
    handleResult foundKeys failedKeys inProgressKeys partialDataKeys f key r =
      if verdict failedKeys inProgressKeys partialDataKeys r = .abort then throw .abort
      else pure (step foundKeys failedKeys inProgressKeys partialDataKeys f (key, r)) := by
  obtain ⟨data, status⟩ := r
  cases status
  case shardInProgress =>
    cases inProgressKeys <;> by_cases hd : 0 < data.length <;>
      simp [hd, handleResult, step, verdict, verdictOr, GetFrame.noteRedirect, GetFrame.apply]
  case missingTooMuchData =>
    cases partialDataKeys <;> by_cases hd : 0 < data.length <;>
      simp [hd, handleResult, step, verdict, verdictOr, GetFrame.noteRedirect, GetFrame.apply]
  all_goals simp [handleResult, step, verdict, GetFrame.noteRedirect, GetFrame.apply]

/-- The loops over hosts and keys are one fold over the answered keys, which aborts iff
some answer is `BUCKET_NOT_FINALIZED`. -/
theorem foldlM_handleResult (pairs : List (Key × TimeSeriesData)) (f : GetFrame) :
    pairs.foldlM (fun f p => handleResult foundKeys failedKeys inProgressKeys partialDataKeys f p.1 p.2) f =
      if pairs.any (fun p => verdict failedKeys inProgressKeys partialDataKeys p.2 = .abort)
      then throw .abort
      else pure (pairs.foldl (step foundKeys failedKeys inProgressKeys partialDataKeys) f) := by
  induction pairs generalizing f with
  | nil => rfl
  | cons p rest ih =>
    rw [List.foldlM_cons, handleResult_eq]
    by_cases hp : verdict failedKeys inProgressKeys partialDataKeys p.2 = .abort
    · simp [hp]; rfl
    · simp only [hp, if_false, List.any_cons, decide_False, Bool.false_or, List.foldl_cons]
      exact ih _

theorem foldlM_flatMap {α β γ : Type} (g : γ → α → Except Failure γ) (h : β → List α)
    (l : List β) (c : γ) :
    (l.flatMap h).foldlM g c = l.foldlM (fun c b => (h b).foldlM g c) c := by
  induction l generalizing c with
  | nil => rfl
  | cons b rest ih =>
    simp only [List.flatMap_cons, List.foldlM_append, List.foldlM_cons]
    cases (h b).foldlM g c <;> simp [ih]

/-- **The spec of `getWithClient`.** -/
theorem getWithClient_eq (nc : BeringeiNetworkClient σ) (readClient : σ)
    (request : GetDataRequest) (f : GetFrame) :
    getWithClient nc readClient request foundKeys failedKeys inProgressKeys partialDataKeys f =
      let requests := nc.performGet readClient (getRequests nc readClient request)
      if (answeredPairs requests).any
          (fun p => verdict failedKeys inProgressKeys partialDataKeys p.2 = .abort)
      then throw .abort
      else pure ((answeredPairs requests).foldl
        (step foundKeys failedKeys inProgressKeys partialDataKeys) f, requests) := by
  simp only [getWithClient, answeredPairs]
  rw [← foldlM_flatMap, foldlM_handleResult]
  split <;> rfl

@[simp] theorem foldl_step_clientRequest (pairs : List (Key × TimeSeriesData)) (f : GetFrame) :
    (pairs.foldl (step foundKeys failedKeys inProgressKeys partialDataKeys) f).clientRequest =
      f.clientRequest := by
  induction pairs generalizing f <;> simp [step, *]

@[simp] theorem foldl_step_exchanges (pairs : List (Key × TimeSeriesData)) (f : GetFrame) :
    (pairs.foldl (step foundKeys failedKeys inProgressKeys partialDataKeys) f).exchanges =
      f.exchanges := by
  induction pairs generalizing f <;> simp [step, *]

/-- **Every answered key is kept in exactly one vector or skipped.** -/
theorem foldl_step_keys (pairs : List (Key × TimeSeriesData)) (f : GetFrame) :
    ((pairs.foldl (step foundKeys failedKeys inProgressKeys partialDataKeys) f).keys ++
      (pairs.filter fun p => !(verdict failedKeys inProgressKeys partialDataKeys p.2).kept).map
        Prod.fst).Perm (f.keys ++ pairs.map Prod.fst) := by
  induction pairs generalizing f with
  | nil => simp
  | cons p rest ih =>
    have hs := GetFrame.apply_keys (f.noteRedirect p.2) foundKeys p.1 p.2
      (verdict failedKeys inProgressKeys partialDataKeys p.2)
    rw [GetFrame.noteRedirect_keys] at hs
    simp only [List.foldl_cons, List.filter_cons, List.map_cons]
    cases hk : (verdict failedKeys inProgressKeys partialDataKeys p.2).kept
    · simp only [hk, Bool.false_eq_true, ↓reduceIte, List.append_nil, Bool.not_false,
        List.map_cons] at hs ⊢
      refine List.perm_middle.trans (((ih _).trans ?_).cons _ |>.trans List.perm_middle.symm)
      exact hs.append_right _
    · simp only [hk, ↓reduceIte, Bool.not_true, Bool.false_eq_true] at hs ⊢
      refine (ih _).trans ?_
      simpa using hs.append_right (rest.map Prod.fst)

/-- **Found keys are pushed with their results**, when only `foundKeys` names
`request.keys`. -/
theorem foldl_step_found (pairs : List (Key × TimeSeriesData)) (f : GetFrame)
    (hfailed : failedKeys ≠ .request) (hin : inProgressKeys ≠ some .request)
    (hpd : partialDataKeys ≠ some .request)
    (hlen : f.request.keys.length = f.result.results.length) :
    let g := pairs.foldl (step .request failedKeys inProgressKeys partialDataKeys) f
    g.request.keys.length = g.result.results.length ∧
      g.found = f.found ++ pairs.filter fun p =>
        verdict failedKeys inProgressKeys partialDataKeys p.2 = .found := by
  induction pairs generalizing f with
  | nil => simp [hlen]
  | cons p rest ih =>
    obtain ⟨hl, hf⟩ := GetFrame.apply_found (f.noteRedirect p.2) p.1 p.2
      (verdict failedKeys inProgressKeys partialDataKeys p.2) (fun q hq => by
        rcases verdict_append hq with rfl | h | h
        exacts [hfailed, fun hq => hin (hq ▸ h), fun hq => hpd (hq ▸ h)])
      (by simpa using hlen)
    obtain ⟨hl', hf'⟩ := ih _ hl
    refine ⟨hl', ?_⟩
    simp only [List.foldl_cons, step] at hf' ⊢
    rw [hf', hf, GetFrame.noteRedirect_found, List.filter_cons]
    by_cases hv : verdict failedKeys inProgressKeys partialDataKeys p.2 = .found <;> simp [hv]

end Refs

/-! ## The network client's contract -/

theorem answeredPairs_map_fst {m : GetRequestMap}
    (h : ∀ e ∈ m, e.2.2.results.length = e.2.1.keys.length) :
    (answeredPairs m).map Prod.fst = mapKeys m := by
  induction m with
  | nil => rfl
  | cons e rest ih =>
    simp only [answeredPairs, mapKeys, List.flatMap_cons, List.map_append] at ih ⊢
    rw [List.map_fst_zip _ _ (h e (List.mem_cons_self _ _)).ge,
      ih fun e he => h e (List.mem_cons_of_mem _ he)]

theorem mapKeys_foldl_add (nc : BeringeiNetworkClient σ) (hnc : nc.Honest) (s : σ)
    (keys : List Key) (m : GetRequestMap) :
    ((mapKeys (keys.foldl (fun requests key => nc.addKeyToGetRequest s key requests) m)).map
      Key.key).Perm ((mapKeys m).map Key.key ++ keys.map Key.key) := by
  induction keys generalizing m with
  | nil => simp
  | cons key rest ih =>
    refine (ih _).trans ?_
    simpa using (hnc.addKeyToGetRequest_keys s key m).append_right (rest.map Key.key)

/-- **Every key sent is answered once, under its own name.** -/
theorem answered_keys {nc : BeringeiNetworkClient σ} (hnc : nc.Honest) (s : σ)
    (request : GetDataRequest) :
    ((answeredPairs (nc.performGet s (getRequests nc s request))).map fun p => p.1.key).Perm
      (request.keys.map Key.key) := by
  have hm : mapKeys (getRequests nc s request) =
      mapKeys (request.keys.foldl (fun requests key => nc.addKeyToGetRequest s key requests) []) := by
    simp [getRequests, mapKeys, List.flatMap_map]
  show (List.map (Key.key ∘ Prod.fst) _).Perm _
  rw [← List.map_map, answeredPairs_map_fst (hnc.performGet_results _ _)]
  refine (hnc.performGet_keys _ _).trans ?_
  rw [hm]
  simpa [mapKeys] using mapKeys_foldl_add nc hnc s request.keys []

/-! ## Each key of the request goes to one list

A second description of the `switch`, in the words of its specification: the list that each
status sends a key to (`outList`). One call of `getWithClient` appends to each vector of the
frame just the keys whose list names it, in the order of the answers, and to
`result.results` just the results of the keys sent to `foundKeys` (`getWithClient_sorts_keys`). -/

/-- The vector of the frame that a reference names. -/
def GetFrame.vec (f : GetFrame) : KeysRef → List Key
  | .request => f.request.keys
  | .failed => f.failedKeys
  | .partials => f.partialKeys

/-- The lists of `getWithClient` that a key can be appended to. -/
inductive OutList
  | foundKeys
  | failedKeys
  | inProgressKeys
  | partialDataKeys
  deriving DecidableEq, Repr

/-- The list a key answered `r` is appended to, if any: `foundKeys`, with its result, for
`OK`, and for `SHARD_IN_PROGRESS` or `MISSING_TOO_MUCH_DATA` with data when the pointer for
that status is null; `failedKeys` for `RPC_FAIL`, `ZIPPY_STORAGE_FAIL` and `DONT_OWN_SHARD`;
`*inProgressKeys` and `*partialDataKeys` for those two statuses when their pointer is set;
none for `KEY_MISSING`, and for the two statuses with no data and a null pointer. -/
def outList (inProgressKeys partialDataKeys : Option KeysRef) (r : TimeSeriesData) :
    Option OutList :=
  match r.status with
  | .ok => some .foundKeys
  | .rpcFail | .zippyStorageFail | .dontOwnShard => some .failedKeys
  | .shardInProgress =>
    if inProgressKeys.isSome then some .inProgressKeys
    else if r.data ≠ [] then some .foundKeys else none
  | .missingTooMuchData =>
    if partialDataKeys.isSome then some .partialDataKeys
    else if r.data ≠ [] then some .foundKeys else none
  | .keyMissing | .bucketNotFinalized => none

/-- The vector of the frame that a list is, given the call's reference and pointers. -/
def OutList.ref (foundKeys failedKeys : KeysRef) (inProgressKeys partialDataKeys : Option KeysRef) :
    OutList → Option KeysRef
  | .foundKeys => some foundKeys
  | .failedKeys => some failedKeys
  | .inProgressKeys => inProgressKeys
  | .partialDataKeys => partialDataKeys

/-- The vector a verdict appends the key to. -/
def Verdict.target (foundKeys : KeysRef) : Verdict → Option KeysRef
  | .found => some foundKeys
  | .append p => some p
  | .skip | .abort => none

/-- What one call of `getWithClient` does with the keys of `request`, against the frame `f`.
The answered keys are the request's keys. The call aborts iff some result is
`BUCKET_NOT_FINALIZED`. Otherwise it returns the hosts' answers, having appended to each
vector of the frame the keys whose list is that vector, in the order of the answers, and to
`result.results` the results of the keys sent to `foundKeys`. -/
structure SortsKeys (nc : BeringeiNetworkClient σ) (readClient : σ) (request : GetDataRequest)
    (foundKeys failedKeys : KeysRef) (inProgressKeys partialDataKeys : Option KeysRef)
    (f : GetFrame) : Prop where
  answered : ((answeredPairs (nc.performGet readClient (getRequests nc readClient request))).map
    Prod.fst).Perm request.keys
  aborts_iff : getWithClient nc readClient request foundKeys failedKeys inProgressKeys
      partialDataKeys f = .error .abort ↔
    ∃ e ∈ nc.performGet readClient (getRequests nc readClient request),
      ∃ r ∈ e.2.2.results, r.status = .bucketNotFinalized
  sorted : (¬∃ e ∈ nc.performGet readClient (getRequests nc readClient request),
      ∃ r ∈ e.2.2.results, r.status = .bucketNotFinalized) →
    ∃ f', getWithClient nc readClient request foundKeys failedKeys inProgressKeys partialDataKeys f =
        .ok (f', nc.performGet readClient (getRequests nc readClient request)) ∧
      (∀ q, f'.vec q = f.vec q ++
        ((answeredPairs (nc.performGet readClient (getRequests nc readClient request))).filter
          fun p => (outList inProgressKeys partialDataKeys p.2).bind
            (OutList.ref foundKeys failedKeys inProgressKeys partialDataKeys) = some q).map Prod.fst) ∧
      f'.result.results = f.result.results ++
        ((answeredPairs (nc.performGet readClient (getRequests nc readClient request))).filter
          fun p => outList inProgressKeys partialDataKeys p.2 = some .foundKeys).map Prod.snd

namespace GetFrame

@[simp] theorem push_result (f : GetFrame) (key : Key) (p : KeysRef) :
    (f.push key p).result = f.result := by cases p <;> rfl

theorem push_vec (f : GetFrame) (key : Key) (p q : KeysRef) :
    (f.push key p).vec q = f.vec q ++ if p = q then [key] else [] := by
  cases p <;> cases q <;> simp [push, vec]

@[simp] theorem pushResult_vec (f : GetFrame) (r : TimeSeriesData) (q : KeysRef) :
    (f.pushResult r).vec q = f.vec q := by cases q <;> rfl

@[simp] theorem noteRedirect_vec (f : GetFrame) (r : TimeSeriesData) (q : KeysRef) :
    (f.noteRedirect r).vec q = f.vec q := by unfold noteRedirect; split <;> cases q <;> rfl

theorem apply_vec (f : GetFrame) (foundKeys : KeysRef) (key : Key) (r : TimeSeriesData)
    (v : Verdict) (q : KeysRef) :
    (f.apply foundKeys key r v).vec q = f.vec q ++ if v.target foundKeys = some q then [key] else [] := by
  cases v <;> simp [apply, Verdict.target, push_vec]

theorem apply_results (f : GetFrame) (foundKeys : KeysRef) (key : Key) (r : TimeSeriesData)
    (v : Verdict) :
    (f.apply foundKeys key r v).result.results = f.result.results ++ if v = .found then [r] else [] := by
  cases v <;> simp [apply, pushResult]

end GetFrame

section Sorted

variable (foundKeys failedKeys : KeysRef) (inProgressKeys partialDataKeys : Option KeysRef)

theorem verdictOr_ne_abort (o : Option KeysRef) (r : TimeSeriesData) : verdictOr o r ≠ .abort := by
  cases o with
  | some p => simp [verdictOr]
  | none => simp only [verdictOr]; split <;> simp

theorem verdict_eq_abort (r : TimeSeriesData) :
    verdict failedKeys inProgressKeys partialDataKeys r = .abort ↔ r.status = .bucketNotFinalized := by
  obtain ⟨data, status⟩ := r
  cases status
  case shardInProgress => exact iff_of_false (verdictOr_ne_abort _ _) (by simp)
  case missingTooMuchData => exact iff_of_false (verdictOr_ne_abort _ _) (by simp)
  all_goals simp [verdict]

/-- The source's `switch` sends a key where its specification does. -/
theorem verdict_target (r : TimeSeriesData) :
    (verdict failedKeys inProgressKeys partialDataKeys r).target foundKeys =
      (outList inProgressKeys partialDataKeys r).bind
        (OutList.ref foundKeys failedKeys inProgressKeys partialDataKeys) := by
  obtain ⟨data, status⟩ := r
  cases status
  case shardInProgress =>
    cases inProgressKeys <;> by_cases hd : data = [] <;>
      simp [hd, List.length_pos, verdict, verdictOr, outList, Verdict.target, OutList.ref]
  case missingTooMuchData =>
    cases partialDataKeys <;> by_cases hd : data = [] <;>
      simp [hd, List.length_pos, verdict, verdictOr, outList, Verdict.target, OutList.ref]
  all_goals simp [verdict, outList, Verdict.target, OutList.ref]

theorem verdict_eq_found_iff (r : TimeSeriesData) :
    verdict failedKeys inProgressKeys partialDataKeys r = .found ↔
      outList inProgressKeys partialDataKeys r = some .foundKeys := by
  obtain ⟨data, status⟩ := r
  cases status
  case shardInProgress =>
    cases inProgressKeys <;> by_cases hd : data = [] <;> simp [hd, verdict, verdictOr, outList]
  case missingTooMuchData =>
    cases partialDataKeys <;> by_cases hd : data = [] <;> simp [hd, verdict, verdictOr, outList]
  all_goals simp [verdict, outList]

theorem foldl_step_vec (pairs : List (Key × TimeSeriesData)) (f : GetFrame) (q : KeysRef) :
    (pairs.foldl (step foundKeys failedKeys inProgressKeys partialDataKeys) f).vec q =
      f.vec q ++ (pairs.filter fun p => (outList inProgressKeys partialDataKeys p.2).bind
        (OutList.ref foundKeys failedKeys inProgressKeys partialDataKeys) = some q).map Prod.fst := by
  induction pairs generalizing f with
  | nil => simp
  | cons p rest ih =>
    rw [List.foldl_cons, ih, step, GetFrame.apply_vec, GetFrame.noteRedirect_vec, verdict_target,
      List.filter_cons]
    by_cases h : (outList inProgressKeys partialDataKeys p.2).bind
      (OutList.ref foundKeys failedKeys inProgressKeys partialDataKeys) = some q <;> simp [h]

theorem foldl_step_results (pairs : List (Key × TimeSeriesData)) (f : GetFrame) :
    (pairs.foldl (step foundKeys failedKeys inProgressKeys partialDataKeys) f).result.results =
      f.result.results ++ (pairs.filter fun p =>
        outList inProgressKeys partialDataKeys p.2 = some .foundKeys).map Prod.snd := by
  induction pairs generalizing f with
  | nil => simp
  | cons p rest ih =>
    rw [List.foldl_cons, ih, step, GetFrame.apply_results, GetFrame.noteRedirect_result,
      List.filter_cons]
    by_cases h : outList inProgressKeys partialDataKeys p.2 = some .foundKeys <;>
      simp [h, verdict_eq_found_iff]

/-- With one result per key, some answer aborts iff some result is `BUCKET_NOT_FINALIZED`. -/
theorem answeredPairs_any_abort {requests : GetRequestMap}
    (h : ∀ e ∈ requests, e.2.2.results.length = e.2.1.keys.length) :
    (answeredPairs requests).any
        (fun p => verdict failedKeys inProgressKeys partialDataKeys p.2 = .abort) = true ↔
      ∃ e ∈ requests, ∃ r ∈ e.2.2.results, r.status = .bucketNotFinalized := by
  simp only [List.any_eq_true, decide_eq_true_eq, answeredPairs, List.mem_flatMap, verdict_eq_abort]
  constructor
  · rintro ⟨⟨key, r⟩, ⟨e, he, hp⟩, hs⟩
    exact ⟨e, he, r, (List.of_mem_zip hp).2, hs⟩
  · rintro ⟨e, he, r, hr, hs⟩
    rw [← List.map_snd_zip e.2.1.keys e.2.2.results (h e he).le] at hr
    obtain ⟨p, hp, rfl⟩ := List.mem_map.mp hr
    exact ⟨p, ⟨e, he, hp⟩, hs⟩

end Sorted

/-- Against hosts that never answer `BUCKET_NOT_FINALIZED`, `getWithClient` returns. -/
theorem getWithClient_isOk {nc : BeringeiNetworkClient σ} (hnc : nc.Finalized) (readClient : σ)
    (request : GetDataRequest) (foundKeys failedKeys : KeysRef)
    (inProgressKeys partialDataKeys : Option KeysRef) (f : GetFrame) :
    ∃ r, getWithClient nc readClient request foundKeys failedKeys inProgressKeys partialDataKeys f =
      .ok r := by
  have hany : (answeredPairs (nc.performGet readClient (getRequests nc readClient request))).any
      (fun p => verdict failedKeys inProgressKeys partialDataKeys p.2 = .abort) = false :=
    List.any_eq_false.mpr fun p hp => by
      simpa [verdict_eq_abort] using hnc _ _ p hp
  rw [getWithClient_eq]
  simp only [hany, Bool.false_eq_true, ↓reduceIte]
  exact ⟨_, rfl⟩

theorem mapKeys_foldl_places {nc : BeringeiNetworkClient σ} (hnc : nc.PlacesKeys) (s : σ)
    (keys : List Key) (m : GetRequestMap) :
    (mapKeys (keys.foldl (fun requests key => nc.addKeyToGetRequest s key requests) m)).Perm
      (mapKeys m ++ keys) := by
  induction keys generalizing m with
  | nil => simp
  | cons key rest ih =>
    refine (ih _).trans ?_
    simpa using (hnc.addKeyToGetRequest_keys s key m).append_right rest

/-- **Every key of the request is answered once.** -/
theorem answeredPairs_keys {nc : BeringeiNetworkClient σ} (hnc : nc.PlacesKeys) (s : σ)
    (request : GetDataRequest) :
    ((answeredPairs (nc.performGet s (getRequests nc s request))).map Prod.fst).Perm request.keys := by
  have hm : mapKeys (getRequests nc s request) =
      mapKeys (request.keys.foldl (fun requests key => nc.addKeyToGetRequest s key requests) []) := by
    simp [getRequests, mapKeys, List.flatMap_map]
  rw [answeredPairs_map_fst (hnc.performGet_results _ _)]
  refine (hnc.performGet_keys _ _).trans ?_
  rw [hm]
  simpa [mapKeys] using mapKeys_foldl_places hnc s request.keys []

/-- **Each key of the request goes to one list, or to none, by its status.** For a network
client that places each key in exactly one per-host request and answers each with one
result per key, one call of `getWithClient`, with any reference and pointers, does with the
request's keys what `SortsKeys` says. -/
theorem getWithClient_sorts_keys {nc : BeringeiNetworkClient σ} (hnc : nc.PlacesKeys)
    (readClient : σ) (request : GetDataRequest) (foundKeys failedKeys : KeysRef)
    (inProgressKeys partialDataKeys : Option KeysRef) (f : GetFrame) :
    SortsKeys nc readClient request foundKeys failedKeys inProgressKeys partialDataKeys f := by
  have hany := answeredPairs_any_abort failedKeys inProgressKeys partialDataKeys
    (hnc.performGet_results readClient (getRequests nc readClient request))
  refine ⟨answeredPairs_keys hnc readClient request, ?_, fun hno => ?_⟩
  · rw [getWithClient_eq, ← hany]
    dsimp only
    split
    · exact iff_of_true rfl ‹_›
    · exact iff_of_false (fun h => by cases h) ‹_›
  · rw [getWithClient_eq, if_neg (by rwa [hany])]
    exact ⟨_, rfl, foldl_step_vec foundKeys failedKeys inProgressKeys partialDataKeys _ f,
      foldl_step_results foundKeys failedKeys inProgressKeys partialDataKeys _ f⟩

/-- A request of two keys to one host that answers every key `OK`. -/
theorem getWithClient_sorts_keys_one_host :
    (oneHostClient fun (_ : Unit) (_ : Key) => (⟨[], .ok⟩ : TimeSeriesData)).PlacesKeys ∧
      SortsKeys (oneHostClient fun (_ : Unit) (_ : Key) => (⟨[], .ok⟩ : TimeSeriesData)) ()
        ⟨[⟨"a", 1⟩, ⟨"b", 2⟩], 0, 60⟩ .request .failed (some .partials) none
        ⟨⟨[], 0, 60⟩, ⟨[]⟩, ⟨[], 0, 60⟩, [], [], [], []⟩ :=
  ⟨oneHostClient_placesKeys _, getWithClient_sorts_keys (oneHostClient_placesKeys _) () _ _ _ _ _ _⟩

/-! ## What one call counts

The only metric the `switch` touches is `redirect_for_missing_data`, once for each
`MISSING_TOO_MUCH_DATA` answer, whatever vector the key goes to (`statSum_foldl_step`). -/

@[simp] theorem GetFrame.apply_stats (f : GetFrame) (foundKeys : KeysRef) (key : Key)
    (r : TimeSeriesData) (v : Verdict) : (f.apply foundKeys key r v).stats = f.stats := by
  cases v with
  | found => cases foundKeys <;> rfl
  | append p => cases p <;> rfl
  | _ => rfl

theorem statSum_noteRedirect (f : GetFrame) (r : TimeSeriesData) (k : StatKey) :
    statSum k (f.noteRedirect r).stats = statSum k f.stats +
      if k = .redirectForMissingData ∧ r.status = .missingTooMuchData then 1 else 0 := by
  unfold GetFrame.noteRedirect
  by_cases hr : r.status = .missingTooMuchData <;> by_cases hk : k = .redirectForMissingData <;>
    simp [hr, hk, Eq.comm]

theorem statSum_foldl_step (foundKeys failedKeys : KeysRef)
    (inProgressKeys partialDataKeys : Option KeysRef) (pairs : List (Key × TimeSeriesData))
    (f : GetFrame) (k : StatKey) :
    statSum k (pairs.foldl (step foundKeys failedKeys inProgressKeys partialDataKeys) f).stats =
      statSum k f.stats + if k = .redirectForMissingData then
        ((pairs.countP fun p => p.2.status = .missingTooMuchData : Nat) : Int) else 0 := by
  induction pairs generalizing f with
  | nil => simp
  | cons p rest ih =>
    rw [List.foldl_cons, ih, step, GetFrame.apply_stats, statSum_noteRedirect, List.countP_cons]
    by_cases hk : k = .redirectForMissingData
    · by_cases hr : p.2.status = .missingTooMuchData
      · simp [hk, hr]; omega
      · simp [hk, hr]
    · simp [hk]

end BeringeiClient.Read.GetWithClient
