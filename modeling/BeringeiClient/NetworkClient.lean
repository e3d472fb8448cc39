import BeringeiClient.Types

/-! # The network client, as the client sees it

`BeringeiNetworkClient` is not part of this file's source: `BeringeiClientImpl` calls its
methods and relies on what they do. Each method the modelled code calls is a field over the
client's own state `σ` (its shard cache and connections), and what the read path and the
write path assume of the methods are the predicates `Honest`, `PlacesKeys`, `HonestPut`
and `Finalized`. The maps of requests are lists of per-host entries, in the map's iteration
order. -/
namespace BeringeiClient.NetworkClient
open BeringeiClient.Types

/-- A host: its name and port. -/
abbrev HostInfo := String × Int

/-- `BeringeiNetworkClient::GetRequestMap`: for each host, the request sent to it and the
result it answered. -/
abbrev GetRequestMap := List (HostInfo × GetDataRequest × GetDataResult)

/-- `BeringeiNetworkClient::PutRequestMap`: for each host, the data points to send it. -/
abbrev PutRequestMap := List (HostInfo × List DataPoint)

/-- The methods of `BeringeiNetworkClient` that the modelled code calls, over the client's
state `σ`. `addDataPointToRequest` answers its return value, its `dropped` out-parameter
and the updated map; `performPut` answers the points the hosts did not take. -/
structure BeringeiNetworkClient (σ : Type) where
  addKeyToGetRequest : σ → Key → GetRequestMap → GetRequestMap
  performGet : σ → GetRequestMap → GetRequestMap
  invalidateCache : σ → List Int → σ
  addDataPointToRequest : σ → DataPoint → PutRequestMap → Bool × Bool × PutRequestMap
  performPut : σ → PutRequestMap → List DataPoint
  getServiceName : σ → String
  getNumShards : σ → Int

/-- The keys of all per-host requests of a map. -/
def mapKeys (requests : GetRequestMap) : List Key :=
  requests.flatMap fun e => e.2.1.keys

/-- The keys of a map paired with their results, host by host, as far as both go
(`i < std::min(res.results.size(), req.keys.size())`). -/
def answeredPairs (requests : GetRequestMap) : List (Key × TimeSeriesData) :=
  requests.flatMap fun e => e.2.1.keys.zip e.2.2.results

/-- The points of all per-host requests of a map. -/
def putPoints (requests : PutRequestMap) : List DataPoint :=
  requests.flatMap fun e => e.2

variable {σ : Type}

/-- What the theorems on `get` assume of the network client: `addKeyToGetRequest` adds the
key, name unchanged, to the map, and `performGet` answers every host with one result per
key of its request. -/
structure BeringeiNetworkClient.Honest (nc : BeringeiNetworkClient σ) : Prop where
  addKeyToGetRequest_keys : ∀ s key m,
    ((mapKeys (nc.addKeyToGetRequest s key m)).map Key.key).Perm
      ((mapKeys m).map Key.key ++ [key.key])
  performGet_keys : ∀ s m,
    ((mapKeys (nc.performGet s m)).map Key.key).Perm ((mapKeys m).map Key.key)
  performGet_results : ∀ s m, ∀ e ∈ nc.performGet s m, e.2.2.results.length = e.2.1.keys.length

/-- What the theorems on one call of `getWithClient` assume of the network client:
`addKeyToGetRequest` places the key itself in exactly one per-host request, and
`performGet` answers every per-host request, keeping its keys, with one result per key. -/
structure BeringeiNetworkClient.PlacesKeys (nc : BeringeiNetworkClient σ) : Prop where
  addKeyToGetRequest_keys : ∀ s key m,
    (mapKeys (nc.addKeyToGetRequest s key m)).Perm (mapKeys m ++ [key])
  performGet_keys : ∀ s m, (mapKeys (nc.performGet s m)).Perm (mapKeys m)
  performGet_results : ∀ s m, ∀ e ∈ nc.performGet s m, e.2.2.results.length = e.2.1.keys.length

/-- What the theorems on a writer pass assume of the network client: `addDataPointToRequest`
either places the point in the map or flags it dropped and leaves the map's points as they
were, and `performPut` gives back only points of the map, each at most as often as the map
holds it. -/
structure BeringeiNetworkClient.HonestPut (nc : BeringeiNetworkClient σ) : Prop where
  addDataPointToRequest_places : ∀ s dp m,
    (putPoints (nc.addDataPointToRequest s dp m).2.2).Perm
      (putPoints m ++ if (nc.addDataPointToRequest s dp m).2.1 then [] else [dp])
  performPut_subperm : ∀ s m, (nc.performPut s m).Subperm (putPoints m)

/-- A network client none of whose hosts answers `BUCKET_NOT_FINALIZED` to a key it was
asked, the one answer on which the read path aborts (`CHECK(false)`). -/
def BeringeiNetworkClient.Finalized (nc : BeringeiNetworkClient σ) : Prop :=
  ∀ s m, ∀ p ∈ answeredPairs (nc.performGet s m), p.2.status ≠ .bucketNotFinalized

/-- A network client with one host, which answers each key read by `answer` from the
client's state, takes every point written, and is the service `"gorilla"` of one shard. -/
def oneHostClient (answer : σ → Key → TimeSeriesData) : BeringeiNetworkClient σ where
  addKeyToGetRequest _ key requests := [(("host", 0), ⟨mapKeys requests ++ [key], 0, 0⟩, ⟨[]⟩)]
  performGet s requests := requests.map fun e => (e.1, e.2.1, ⟨e.2.1.keys.map (answer s)⟩)
  invalidateCache s _ := s
  addDataPointToRequest _ dp requests := (true, false, [(("host", 0), putPoints requests ++ [dp])])
  performPut _ _ := []
  getServiceName _ := "gorilla"
  getNumShards _ := 1

theorem oneHostClient_honest (answer : σ → Key → TimeSeriesData) :
    (oneHostClient answer).Honest where
  addKeyToGetRequest_keys s key m := by simp [oneHostClient, mapKeys]
  performGet_keys s m := by simp [oneHostClient, mapKeys, List.flatMap_map]
  performGet_results s m e he := by
    obtain ⟨e, -, rfl⟩ := List.mem_map.mp he
    simp

theorem oneHostClient_placesKeys (answer : σ → Key → TimeSeriesData) :
    (oneHostClient answer).PlacesKeys where
  addKeyToGetRequest_keys s key m := by simp [oneHostClient, mapKeys]
  performGet_keys s m := by simp [oneHostClient, mapKeys, List.flatMap_map]
  performGet_results s m e he := by
    obtain ⟨e, -, rfl⟩ := List.mem_map.mp he
    simp

theorem oneHostClient_finalized {answer : σ → Key → TimeSeriesData}
    (h : ∀ s key, (answer s key).status ≠ .bucketNotFinalized) : (oneHostClient answer).Finalized := by
  intro s m p hp
  simp only [oneHostClient, answeredPairs, List.flatMap_map, List.mem_flatMap] at hp
  obtain ⟨e, -, hp⟩ := hp
  have hzip : e.2.1.keys.zip (e.2.1.keys.map (answer s)) = e.2.1.keys.map fun k => (k, answer s k) := by
    simpa using List.zip_map' id (answer s) e.2.1.keys
  obtain ⟨key, -, rfl⟩ := List.mem_map.mp (hzip ▸ hp)
  exact h s key

end BeringeiClient.NetworkClient
