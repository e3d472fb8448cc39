import BeringeiClient.Client.ReadServices

/-! # The parallel reads: `futureGet` and `futureScanShard`

`get(request, serviceOverride)` runs `futureGet`. Unlike the sequential `get`, it asks
every read client at once: `futureContextInit` with `parallel` keeps every client
`getAllReadClients` returns, where a non-parallel context keeps the first alone. For each
client, `futureGet` builds one request map from every key of the request with its position,
through the overload `addKeyToGetRequest(index, key, map)`, and sends each per-host request
with the caller's time range. Each host's callback hands the result collector the client's
index and the positions of the keys it asked for.

The collector (`BeringeiGetResultCollector`) and the futures are not part of the source, so
the model ends with what `futureGet` hands them: the client names and, for each client, its
request map (`futureGet`). If the overload places each position, with its key, in exactly
one per-host request (`PlacesIndices`), then every client is asked for every position of
the request once, each beside its own key (`futureGet_asks_every_key`).

`futureScanShard` runs the same context, parallel as `gorilla_parallel_scan_shard` says, and
starts one scan for each client whose `getHostForScanShard` finds a host, its callback
handing the collector the client's index (`futureScanShard_scans`). -/
namespace BeringeiClient.Read.FutureGet
open BeringeiClient.Types BeringeiClient.NetworkClient BeringeiClient.Client.ReadServices

variable {σ : Type}

/-! ## The source -/

/-- `BeringeiNetworkClient::MultiGetRequestMap`: for each host, the request for it and the
position in the caller's request of each of its keys. -/
abbrev MultiGetRequestMap := List (HostInfo × GetDataRequest × List Nat)

/-- The overload `addKeyToGetRequest(index, key, MultiGetRequestMap&)` of the network client,
which `futureGet` calls beside the methods of `BeringeiNetworkClient`. -/
structure MultiGetClient (σ : Type) where
  addKeyToGetRequest : σ → Nat → Key → MultiGetRequestMap → MultiGetRequestMap

/-- `futureContextInit(context, parallel, serviceOverride)`: the read clients of
`getAllReadClients`, cut to the first one unless `parallel`, and their service names. The
exception of `getAllReadClients` goes to the caller. -/
def futureContextInit (adapter : Adapter σ) (nc : BeringeiNetworkClient σ)
    (isCorrespondingService : σ → String → Bool) (parallel : Bool) (serviceOverride : String)
    (readClients : List σ) (stats : Stats) : Stats × Except String (List σ × List String) :=
  let (stats, r) := getAllReadClients adapter isCorrespondingService serviceOverride readClients stats
  (stats, r.map fun readClients =>
    let readClients := if !parallel && !readClients.isEmpty then readClients.take 1 else readClients
    (readClients, readClients.map nc.getServiceName))

/-- One client's request map: every key of the request added with its position, then each
per-host request given the caller's time range. -/
def clientRequests (mg : MultiGetClient σ) (client : σ) (request : GetDataRequest) :
    MultiGetRequestMap :=
  (request.keys.enum.foldl (fun m p => mg.addKeyToGetRequest client p.1 p.2 m) []).map
    fun r => (r.1, { r.2.1 with begin := request.begin, «end» := request.«end» }, r.2.2)

/-- `futureGet(request, ..., serviceOverride)` up to the futures: the client names the
collector is finalized with, and `getContext->getRequests`, the request map of each read
client, in order. -/
def futureGet (adapter : Adapter σ) (nc : BeringeiNetworkClient σ) (mg : MultiGetClient σ)
    (isCorrespondingService : σ → String → Bool) (serviceOverride : String) (readClients : List σ)
    (stats : Stats) (request : GetDataRequest) :
    Stats × Except String (List String × List MultiGetRequestMap) :=
  let (stats, r) :=
    futureContextInit adapter nc isCorrespondingService true serviceOverride readClients stats
  (stats, r.map fun c => (c.2, c.1.map fun client => clientRequests mg client request))

/-! ## Every position, once, from every client -/

/-- The positions of a map's keys beside the keys, host by host. -/
def indexedKeys (m : MultiGetRequestMap) : List (Nat × Key) :=
  m.flatMap fun r => r.2.2.zip r.2.1.keys

/-- Each per-host request has a position for each of its keys. -/
def Aligned (m : MultiGetRequestMap) : Prop := ∀ r ∈ m, r.2.2.length = r.2.1.keys.length

/-- What `futureGet` assumes of the overload: on a map with a position for each key, it
keeps each per-host request's positions beside its keys, and places the position with its
key in exactly one per-host request, keeping the others. -/
structure MultiGetClient.PlacesIndices (mg : MultiGetClient σ) : Prop where
  aligned : ∀ s k key m, Aligned m → Aligned (mg.addKeyToGetRequest s k key m)
  places : ∀ s k key m, Aligned m →
    (indexedKeys (mg.addKeyToGetRequest s k key m)).Perm (indexedKeys m ++ [(k, key)])

section Places

variable {mg : MultiGetClient σ} (hmg : mg.PlacesIndices) (client : σ)

include hmg in
theorem foldl_addKeyToGetRequest (ps : List (Nat × Key)) (m : MultiGetRequestMap)
    (hm : Aligned m) :
    let m' := ps.foldl (fun m p => mg.addKeyToGetRequest client p.1 p.2 m) m
    Aligned m' ∧ (indexedKeys m').Perm (indexedKeys m ++ ps) := by
  induction ps generalizing m with
  | nil => exact ⟨hm, by simp⟩
  | cons p ps ih =>
    obtain ⟨ha, hp⟩ := ih _ (hmg.aligned client p.1 p.2 m hm)
    refine ⟨ha, hp.trans ?_⟩
    simpa using (hmg.places client p.1 p.2 m hm).append_right ps

include hmg in
/-- One client's map asks for every position once, beside its key, with the caller's time
range. -/
theorem clientRequests_spec (request : GetDataRequest) :
    let m := clientRequests mg client request
    Aligned m ∧ (indexedKeys m).Perm request.keys.enum ∧
      ∀ r ∈ m, r.2.1.begin = request.begin ∧ r.2.1.«end» = request.«end» := by
  obtain ⟨ha, hp⟩ := foldl_addKeyToGetRequest hmg client request.keys.enum [] (fun _ h => nomatch h)
  refine ⟨fun r hr => ?_, ?_, fun r hr => ?_⟩
  · obtain ⟨r', hr', rfl⟩ := List.mem_map.mp hr
    exact ha r' hr'
  · simpa [clientRequests, indexedKeys, List.flatMap_map] using hp
  · obtain ⟨r, -, rfl⟩ := List.mem_map.mp hr
    exact ⟨rfl, rfl⟩

end Places

/-- A network client that sends each key to a host of its own. -/
def hostPerKeyClient : MultiGetClient σ where
  addKeyToGetRequest _ k key m := m ++ [((key.key, 0), ⟨[key], 0, 0⟩, [k])]

theorem hostPerKeyClient_placesIndices : (hostPerKeyClient : MultiGetClient σ).PlacesIndices where
  aligned _ _ _ m hm r hr := by
    rcases List.mem_append.mp hr with hr | hr
    · exact hm r hr
    · rw [List.mem_singleton.mp hr]; rfl
  places _ _ _ m _ := by simp [hostPerKeyClient, indexedKeys]

/-- The run above: each replica's map has one host per key, with the key's position. -/
example : (futureGet gorillaServiceAdapter (oneHostClient fun (_ : String) _ => ⟨[], .ok⟩)
    hostPerKeyClient (· == ·) "" ["a", "b"] [] ⟨[⟨"k1", 1⟩, ⟨"k2", 2⟩], 0, 60⟩).2.map
      (fun r => r.2.map fun m => m.map fun e => e.2.2) = .ok [[[0], [1]], [[0], [1]]] := rfl

/-! ## `futureScanShard` -/

/-- The methods of the network client that the scans call, over the scan request `ρ` and
the scan result `τ`, which the client code hands on unread: `getHostForScanShard` answers
the host of the request's shard when it finds one, and `performScanShard` fills the
result. -/
structure ScanShardClient (σ ρ τ : Type) where
  getHostForScanShard : σ → ρ → Option HostInfo
  performScanShard : σ → ρ → τ → τ

/-- `futureScanShard(request, ..., serviceOverride)` up to the futures: the client names the
collector is finalized with, and the scans it starts, each as the index the client's
callback hands the collector and the host it asks. -/
def futureScanShard {ρ τ : Type} (adapter : Adapter σ) (nc : BeringeiNetworkClient σ)
    (sc : ScanShardClient σ ρ τ) (isCorrespondingService : σ → String → Bool)
    (parallelScanShard : Bool) (serviceOverride : String) (readClients : List σ) (stats : Stats)
    (request : ρ) : Stats × Except String (List String × List (Nat × HostInfo)) :=
  let (stats, r) := futureContextInit adapter nc isCorrespondingService parallelScanShard
    serviceOverride readClients stats
  (stats, r.map fun c => (c.2, c.1.enum.filterMap fun p =>
    (sc.getHostForScanShard p.2 request).map fun hostInfo => (p.1, hostInfo)))

/-- The scans started for the clients `readClientCopies`: one for each client that finds a
host, under the client's index, in the clients' order. -/
theorem enum_filterMap_scans {ρ τ : Type} (sc : ScanShardClient σ ρ τ) (request : ρ)
    (readClientCopies : List σ) :
    let scans := readClientCopies.enum.filterMap fun p =>
      (sc.getHostForScanShard p.2 request).map fun hostInfo => (p.1, hostInfo)
    (scans.map Prod.fst).Pairwise (· < ·) ∧
      ∀ i hostInfo, (i, hostInfo) ∈ scans ↔ ∃ readClient, readClientCopies[i]? = some readClient ∧
        sc.getHostForScanShard readClient request = some hostInfo := by
  have henum : readClientCopies.enum.Pairwise fun a a' => a.1 < a'.1 :=
    List.pairwise_map.mp (by simpa using List.pairwise_lt_range readClientCopies.length)
  refine ⟨List.pairwise_map.mpr (henum.filterMap _ fun a a' h b hb b' hb' => ?_), fun i hostInfo => ?_⟩
  · simp only [Option.mem_def, Option.map_eq_some'] at hb hb'
    obtain ⟨_, -, rfl⟩ := hb
    obtain ⟨_, -, rfl⟩ := hb'
    exact h
  · simp only [List.mem_filterMap, List.mem_enum_iff_getElem?, Option.map_eq_some', Prod.mk.injEq]
    constructor
    · rintro ⟨⟨_, readClient⟩, hc, _, hh, rfl, rfl⟩
      exact ⟨readClient, hc, hh⟩
    · rintro ⟨readClient, hc, hh⟩
      exact ⟨(i, readClient), hc, hostInfo, hh, rfl, rfl⟩

/-- The scans of `futureScanShard`: the collector gets results under client indices that
increase, so each client answers once at most. Scan `(i, hostInfo)` is started exactly when
client `i` of the context finds `hostInfo`. The context has a name for each client, and one
client at most unless `gorilla_parallel_scan_shard` is set. -/
theorem futureScanShard_scans {ρ τ : Type} {adapter : Adapter σ} {nc : BeringeiNetworkClient σ}
    {sc : ScanShardClient σ ρ τ} {isCorrespondingService : σ → String → Bool}
    {parallelScanShard : Bool} {serviceOverride : String} {readClients : List σ} {stats : Stats}
    {request : ρ} {stats' : Stats} {clientNames : List String} {scans : List (Nat × HostInfo)}
    (h : futureScanShard adapter nc sc isCorrespondingService parallelScanShard serviceOverride
      readClients stats request = (stats', .ok (clientNames, scans))) :
    ∃ readClientCopies : List σ,
      clientNames = readClientCopies.map nc.getServiceName ∧
      (parallelScanShard = false → readClientCopies.length ≤ 1) ∧
      (scans.map Prod.fst).Pairwise (· < ·) ∧
      ∀ i hostInfo, (i, hostInfo) ∈ scans ↔ ∃ readClient, readClientCopies[i]? = some readClient ∧
        sc.getHostForScanShard readClient request = some hostInfo := by
  unfold futureScanShard futureContextInit at h
  rcases hg : getAllReadClients adapter isCorrespondingService serviceOverride readClients stats
    with ⟨_, _ | all⟩
  all_goals simp only [hg, Except.map, Prod.mk.injEq, Except.ok.injEq] at h
  · cases h.2
  obtain ⟨-, rfl, rfl⟩ := h
  exact ⟨_, rfl, fun hp => by cases all <;> simp [hp], enum_filterMap_scans sc request _⟩

/-- Two clients with no override: the scan goes to the one that finds a host, under its index. -/
example : (futureScanShard gorillaServiceAdapter (oneHostClient fun (_ : String) _ => ⟨[], .ok⟩)
    (⟨fun c (_ : Unit) => if c = "b" then some ("host", 0) else none, fun _ _ r => r⟩ :
      ScanShardClient String Unit Unit) (· == ·) true "" ["a", "b"] [] ()).2 =
    .ok (["gorilla", "gorilla"], [(1, ("host", 0))]) := rfl

end BeringeiClient.Read.FutureGet
