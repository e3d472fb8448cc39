import BeringeiClient.NetworkClient

/-! # The client's members and the refresh of its read services

`BeringeiClientImpl` keeps its write clients, its threads, its read clients with the list
of services they were built from, and the largest shard count of its clients. The
configuration adapter says which services there are; a network client is built for a
service by its constructor, which may throw. A call of a member function ends with the
state its effects left, and with the text of the exception it threw, if it threw one: the
effects made before a `throw` stay (an `Outcome`).

`updateReadServices` builds read clients for a new, nonempty list of services and swaps
them in; a throw while building (the constructor for the nearest service, which nothing
catches) leaves the members as they were. So once there are read clients, no refresh
leaves none (`updateReadServices_refresh`).

`getAllReadClients` copies the read clients for one read. With a service override it keeps
the last client of that service, or builds a new one; an override the adapter does not
validate is dropped, with one more bad read service, and the read goes to every client
(`getAllReadClients_spec`). After any refreshes, a client that had read clients gives each
read a nonempty list (`getAllReadClients_ne_nil`). -/
namespace BeringeiClient.Client.ReadServices
open BeringeiClient.Types BeringeiClient.NetworkClient

variable {σ : Type}

/-! ## The adapter and the members -/

/-- What the configuration adapter answers, and what the constructor of
`BeringeiNetworkClient` gives for a service and its `shadow` flag: a client, or the text of
the exception it threw. -/
structure Adapter (σ : Type) where
  getReadServices : List String
  getWriteServices : List String
  getShadowServices : List String
  isValidReadService : String → Bool
  getNearestReadService : String
  createNetworkClient : String → Bool → Except String σ

/-- `WriteClient`: a network client and the sizes of the queue its writer threads drain. -/
structure WriteClient (σ : Type) where
  client : σ
  queueCapacity : Int
  queueSize : Int

/-- The members of `BeringeiClientImpl` that its set-up, its refreshes and its shutdown touch.
`writers` has, for each writer thread, the index of the write client whose queue it
drains; the retry threads are all alike. -/
structure ClientState (σ : Type) where
  writeClients : List (WriteClient σ)
  writers : List Nat
  retryWriters : Nat
  readClients : List σ
  currentReadServices : List String
  maxNumShards : Int
  stats : Stats

/-- The members as the constructor leaves them. -/
def ClientState.initial : ClientState σ := ⟨[], [], 0, [], [], 0, []⟩

/-- How a call ends: the state its effects left, and the exception it threw, if any. -/
structure Outcome (σ : Type) where
  state : ClientState σ
  thrown : Option String

/-- `getMaxNumShards`: the largest shard count of the clients, `0` for none. -/
def getMaxNumShards (nc : BeringeiNetworkClient σ) (clients : List σ) : Int :=
  clients.foldl (fun maxNumShards client => max maxNumShards (nc.getNumShards client)) 0

theorem foldl_max_spec (f : σ → Int) (clients : List σ) (m : Int) :
    m ≤ clients.foldl (fun a c => max a (f c)) m ∧
      (∀ c ∈ clients, f c ≤ clients.foldl (fun a c => max a (f c)) m) ∧
      (clients.foldl (fun a c => max a (f c)) m = m ∨
        ∃ c ∈ clients, clients.foldl (fun a c => max a (f c)) m = f c) := by
  induction clients generalizing m with
  | nil => simp
  | cons c rest ih =>
    rw [List.foldl_cons]
    obtain ⟨hle, hall, hor⟩ := ih (max m (f c))
    refine ⟨Int.le_trans (Int.le_max_left m (f c)) hle, fun x hx => ?_, ?_⟩
    · rcases List.mem_cons.mp hx with rfl | hx
      · exact Int.le_trans (Int.le_max_right m (f x)) hle
      · exact hall x hx
    · rcases hor with h | ⟨x, hx, h⟩
      · by_cases hm : f c ≤ m
        · exact .inl (by omega)
        · exact .inr ⟨c, List.mem_cons_self _ _, by omega⟩
      · exact .inr ⟨x, List.mem_cons_of_mem _ hx, h⟩

/-- `getMaxNumShards` is the largest shard count of the clients, or `0` if that is larger. -/
theorem getMaxNumShards_spec (nc : BeringeiNetworkClient σ) (clients : List σ) :
    0 ≤ getMaxNumShards nc clients ∧ (∀ c ∈ clients, nc.getNumShards c ≤ getMaxNumShards nc clients) ∧
      (getMaxNumShards nc clients = 0 ∨ ∃ c ∈ clients, getMaxNumShards nc clients = nc.getNumShards c) :=
  foldl_max_spec nc.getNumShards clients 0

/-! ## `initBeringeiNetworkClients` -/

variable (adapter : Adapter σ)

/-- One service of the loop of `initBeringeiNetworkClients`: a service the adapter does not
validate, or whose client cannot be built, counts as a bad read service. -/
def addReadClient (acc : List σ × Stats) (readService : String) : List σ × Stats :=
  if !adapter.isValidReadService readService then (acc.1, addStatValue acc.2 .badReadServices 1)
  else
    match adapter.createNetworkClient readService false with
    | .ok client => (acc.1 ++ [client], acc.2)
    | .error _ => (acc.1, addStatValue acc.2 .badReadServices 1)

/-- `initBeringeiNetworkClients`: a client for each valid service whose client can be
built, or else one for the nearest service, whose constructor's exception is not caught. -/
def initBeringeiNetworkClients (clients : List σ) (readServices : List String) (stats : Stats) :
    Stats × Except String (List σ) :=
  let (clients, stats) := readServices.foldl (addReadClient adapter) (clients, stats)
  if clients.isEmpty then
    (stats, (adapter.createNetworkClient adapter.getNearestReadService false).map fun c => [c])
  else (stats, .ok clients)

/-- The clients built for the services the adapter validates, in order, skipping those
whose constructor threw. -/
def validClients (readServices : List String) : List σ :=
  readServices.filterMap fun s =>
    if adapter.isValidReadService s then (adapter.createNetworkClient s false).toOption else none

/-- One service gives its client, or one more bad read service. -/
theorem addReadClient_eq (acc : List σ × Stats) (s : String) :
    addReadClient adapter acc s = if (validClients adapter [s]).isEmpty then
      (acc.1, addStatValue acc.2 .badReadServices 1) else (acc.1 ++ validClients adapter [s], acc.2) := by
  unfold addReadClient validClients
  cases hv : adapter.isValidReadService s <;> cases hc : adapter.createNetworkClient s false <;>
    simp [hv, hc, Except.toOption]

theorem validClients_cons (s : String) (rest : List String) :
    validClients adapter (s :: rest) = validClients adapter [s] ++ validClients adapter rest :=
  List.filterMap_append [s] rest _

theorem foldl_addReadClient (readServices : List String) (acc : List σ × Stats) :
    (readServices.foldl (addReadClient adapter) acc).1 = acc.1 ++ validClients adapter readServices := by
  induction readServices generalizing acc with
  | nil => simp [validClients]
  | cons s rest ih =>
    rw [List.foldl_cons, ih, addReadClient_eq, validClients_cons adapter s rest]
    split
    · rename_i h; simp [List.isEmpty_iff.mp h]
    · simp

/-- What `initBeringeiNetworkClients` answers from no clients: the valid clients, or else
the nearest service's client or its constructor's exception. -/
theorem initBeringeiNetworkClients_snd (readServices : List String) (stats : Stats) :
    (initBeringeiNetworkClients adapter [] readServices stats).2 =
      if (validClients adapter readServices).isEmpty then
        (adapter.createNetworkClient adapter.getNearestReadService false).map fun c => [c]
      else .ok (validClients adapter readServices) := by
  have hv := foldl_addReadClient adapter readServices ([], stats)
  unfold initBeringeiNetworkClients
  revert hv
  generalize List.foldl (addReadClient adapter) ([], stats) readServices = r
  obtain ⟨cl, st⟩ := r
  rintro (rfl : cl = [] ++ _)
  by_cases he : validClients adapter readServices = [] <;> simp [he]

/-- What `initBeringeiNetworkClients` builds when it returns: the valid clients, or else
the client of the nearest service. -/
theorem initBeringeiNetworkClients_ok {readServices : List String} {stats stats' : Stats}
    {clients : List σ}
    (h : initBeringeiNetworkClients adapter [] readServices stats = (stats', .ok clients)) :
    clients = validClients adapter readServices ∧ clients ≠ [] ∨
      validClients adapter readServices = [] ∧
        ∃ c, adapter.createNetworkClient adapter.getNearestReadService false = .ok c ∧ clients = [c] := by
  have hs := congrArg Prod.snd h
  rw [initBeringeiNetworkClients_snd] at hs
  by_cases he : validClients adapter readServices = []
  · cases hn : adapter.createNetworkClient adapter.getNearestReadService false <;>
      simp [he, hn, Except.map] at hs
    exact .inr ⟨he, _, rfl, hs.symm⟩
  · simp only [List.isEmpty_iff, he, ↓reduceIte, Except.ok.injEq] at hs
    exact .inl ⟨hs.symm, hs ▸ he⟩

/-- It throws exactly when no service gives a client and the nearest service's constructor
throws. -/
theorem initBeringeiNetworkClients_error (readServices : List String) (stats : Stats) :
    (∃ e, (initBeringeiNetworkClients adapter [] readServices stats).2 = .error e) ↔
      validClients adapter readServices = [] ∧
        ∃ e, adapter.createNetworkClient adapter.getNearestReadService false = .error e := by
  rw [initBeringeiNetworkClients_snd]
  by_cases he : validClients adapter readServices = []
  · cases hc : adapter.createNetworkClient adapter.getNearestReadService false <;>
      simp [he, hc, Except.map]
  · simp [he]

theorem statSum_addReadClient (acc : List σ × Stats) (s : String) :
    statSum .badReadServices (addReadClient adapter acc s).2 + (validClients adapter [s]).length =
      statSum .badReadServices acc.2 + 1 := by
  have hle : (validClients adapter [s]).length ≤ 1 := List.length_filterMap_le _ _
  rw [addReadClient_eq]
  split
  · rename_i h; simp [List.isEmpty_iff.mp h]
  · rename_i h; have := List.length_pos.mpr (mt List.isEmpty_iff.mpr h); simp; omega

/-- Every service that gives no client adds one to `bad_read_services`. -/
theorem foldl_addReadClient_bad (readServices : List String) (acc : List σ × Stats) :
    statSum .badReadServices (readServices.foldl (addReadClient adapter) acc).2 +
        (validClients adapter readServices).length =
      statSum .badReadServices acc.2 + readServices.length := by
  induction readServices generalizing acc with
  | nil => simp [validClients]
  | cons s rest ih =>
    have hstep := statSum_addReadClient adapter acc s
    have hrest := ih (addReadClient adapter acc s)
    rw [List.foldl_cons, validClients_cons adapter s rest, List.length_append, List.length_cons]
    push_cast
    omega

/-- **Each service without a client is counted as bad.** `initBeringeiNetworkClients`
adds to `bad_read_services` the number of services of the list, less the clients it built
for them; the fallback to the nearest service adds nothing. -/
theorem initBeringeiNetworkClients_bad (clients : List σ) (readServices : List String)
    (stats : Stats) :
    statSum .badReadServices (initBeringeiNetworkClients adapter clients readServices stats).1 =
      statSum .badReadServices stats + readServices.length -
        (validClients adapter readServices).length := by
  have h := foldl_addReadClient_bad adapter readServices (clients, stats)
  unfold initBeringeiNetworkClients
  revert h
  generalize List.foldl (addReadClient adapter) (clients, stats) readServices = r
  obtain ⟨cl, st⟩ := r
  intro h
  dsimp only at h ⊢
  split <;> dsimp only <;> omega

/-! ## `updateReadServices` -/

/-- `updateReadServices`: for a nonempty list of services other than the current one,
builds the read clients and swaps them in, with the largest shard count. -/
def updateReadServices (nc : BeringeiNetworkClient σ) (s : ClientState σ) : Outcome σ :=
  let readServices := adapter.getReadServices
  if readServices.length ≠ 0 ∧ readServices ≠ s.currentReadServices then
    match initBeringeiNetworkClients adapter [] readServices s.stats with
    | (stats, .error e) => ⟨{ s with stats }, some e⟩
    | (stats, .ok readClients) =>
      ⟨{ s with
        stats, currentReadServices := readServices, maxNumShards := getMaxNumShards nc readClients,
        readClients }, none⟩
  else ⟨s, none⟩

/-- What a refresh can do: nothing; throw, having counted bad services; or swap in the
clients `initBeringeiNetworkClients` built. -/
theorem updateReadServices_cases (nc : BeringeiNetworkClient σ) (s : ClientState σ) :
    (adapter.getReadServices = [] ∨ adapter.getReadServices = s.currentReadServices) ∧
        updateReadServices adapter nc s = ⟨s, none⟩ ∨
      adapter.getReadServices ≠ [] ∧ adapter.getReadServices ≠ s.currentReadServices ∧
        ((∃ stats e, initBeringeiNetworkClients adapter [] adapter.getReadServices s.stats =
            (stats, .error e) ∧ updateReadServices adapter nc s = ⟨{ s with stats }, some e⟩) ∨
          ∃ stats readClients,
            initBeringeiNetworkClients adapter [] adapter.getReadServices s.stats =
              (stats, .ok readClients) ∧
            updateReadServices adapter nc s = ⟨{ s with
              stats, currentReadServices := adapter.getReadServices,
              maxNumShards := getMaxNumShards nc readClients, readClients }, none⟩) := by
  unfold updateReadServices
  dsimp only
  by_cases hc : adapter.getReadServices.length ≠ 0 ∧ adapter.getReadServices ≠ s.currentReadServices
  · rw [if_pos hc]
    refine .inr ⟨fun h => hc.1 (by simp [h]), hc.2, ?_⟩
    obtain ⟨stats, _ | readClients⟩ := initBeringeiNetworkClients adapter [] adapter.getReadServices s.stats
    · exact .inl ⟨_, _, rfl, rfl⟩
    · exact .inr ⟨_, _, rfl, rfl⟩
  · refine .inl ⟨?_, if_neg hc⟩
    by_cases he : adapter.getReadServices = []
    · exact .inl he
    · exact .inr (by simpa [he] using hc)

/-- The read clients a sequence of refreshes leaves, each refresh with the adapter's answers
at its time; a refresh that throws hands its state to the next. -/
def refreshes (nc : BeringeiNetworkClient σ) : List (Adapter σ) → ClientState σ → ClientState σ
  | [], s => s
  | adapter :: rest, s => refreshes nc rest (updateReadServices adapter nc s).state

theorem updateReadServices_readClients_ne_nil (nc : BeringeiNetworkClient σ) {s : ClientState σ}
    (h : s.readClients ≠ []) : (updateReadServices adapter nc s).state.readClients ≠ [] := by
  rcases updateReadServices_cases adapter nc s with ⟨-, hu⟩ | ⟨-, -, ⟨_, _, -, hu⟩ | ⟨_, _, hinit, hu⟩⟩ <;>
    rw [hu]
  · exact h
  · exact h
  · rcases initBeringeiNetworkClients_ok adapter hinit with ⟨-, hne⟩ | ⟨-, c, -, rfl⟩
    · exact hne
    · simp

/-- No sequence of refreshes takes away the last read client. -/
theorem refreshes_readClients_ne_nil (nc : BeringeiNetworkClient σ) (adapters : List (Adapter σ))
    {s : ClientState σ} (h : s.readClients ≠ []) : (refreshes nc adapters s).readClients ≠ [] := by
  induction adapters generalizing s with
  | nil => exact h
  | cons a rest ih => exact ih (updateReadServices_readClients_ne_nil a nc h)

/-- **A refresh swaps in a full set of read clients, or changes nothing of them.** A
refresh throws exactly when its list of services is nonempty and other than the current
one, no service of it gives a client and the nearest service's constructor throws; it then
leaves the read clients, the current services and the shard count as they were. So a
refresh with such a list returns whenever some service of it gives a client or the nearest
one does, and then takes that list, the clients built for the services the adapter
validates (or, if there are none, the client of the nearest service) and their largest
shard count. Any other refresh changes nothing. So no sequence of refreshes takes away the
last read client. -/
theorem updateReadServices_refresh (nc : BeringeiNetworkClient σ) (s : ClientState σ) :
    let o := updateReadServices adapter nc s
    (o.thrown.isSome ↔ adapter.getReadServices ≠ [] ∧ adapter.getReadServices ≠ s.currentReadServices ∧
      validClients adapter adapter.getReadServices = [] ∧
      ∃ e, adapter.createNetworkClient adapter.getNearestReadService false = .error e) ∧
    (o.thrown.isSome → o.state.readClients = s.readClients ∧
      o.state.currentReadServices = s.currentReadServices ∧ o.state.maxNumShards = s.maxNumShards) ∧
    (o.thrown = none → adapter.getReadServices ≠ [] → adapter.getReadServices ≠ s.currentReadServices →
      o.state.currentReadServices = adapter.getReadServices ∧
      o.state.maxNumShards = getMaxNumShards nc o.state.readClients ∧
      (o.state.readClients = validClients adapter adapter.getReadServices ∧ o.state.readClients ≠ [] ∨
        validClients adapter adapter.getReadServices = [] ∧
          ∃ c, adapter.createNetworkClient adapter.getNearestReadService false = .ok c ∧
            o.state.readClients = [c])) ∧
    (adapter.getReadServices = [] ∨ adapter.getReadServices = s.currentReadServices → o = ⟨s, none⟩) ∧
    (∀ adapters, s.readClients ≠ [] → (refreshes nc adapters s).readClients ≠ []) := by
  intro o
  have hlast : ∀ adapters, s.readClients ≠ [] → (refreshes nc adapters s).readClients ≠ [] :=
    fun adapters => refreshes_readClients_ne_nil nc adapters
  rw [← initBeringeiNetworkClients_error adapter _ s.stats]
  rcases updateReadServices_cases adapter nc s with ⟨h, hu⟩ | ⟨hne, hcur, ⟨_, e, hinit, hu⟩ | ⟨_, _, hinit, hu⟩⟩
  · -- nothing to swap: the refresh changes nothing
    refine ⟨?_, by simp [o, hu], fun _ hne hcur => (h.elim hne hcur).elim, fun _ => hu, hlast⟩
    simp only [o, hu, Option.isSome_none, Bool.false_eq_true, false_iff]
    exact fun ⟨hne, hcur, _⟩ => h.elim hne hcur
  · -- the constructor of the nearest service throws
    refine ⟨?_, by simp [o, hu], fun hok => by simp [o, hu] at hok, fun h => (h.elim hne hcur).elim,
      hlast⟩
    simp only [o, hu, Option.isSome_some, true_iff]
    exact ⟨hne, hcur, e, by rw [hinit]⟩
  · -- the refresh swaps in the new clients
    refine ⟨?_, by simp [o, hu], fun _ _ _ => ?_, fun h => (h.elim hne hcur).elim, hlast⟩
    · simp only [o, hu, Option.isSome_none, Bool.false_eq_true, false_iff, hinit]
      exact fun ⟨_, _, _, he⟩ => nomatch he
    · simp only [o, hu, true_and]
      exact initBeringeiNetworkClients_ok adapter hinit

/-! ## `getAllReadClients` -/

section Override

variable (isCorrespondingService : σ → String → Bool) (serviceOverride : String)

/-- The body of the loop over the copies for a service override: a client of that service
replaces the whole list. -/
def overrideStep (acc : Bool × List σ) (client : σ) : Bool × List σ :=
  if isCorrespondingService client serviceOverride then (true, [client]) else acc

/-- `getAllReadClients(serviceOverride)` on the read clients it copies: with an override,
the client of that service alone, or else a new client for the service, whose constructor's
exception goes to the caller; for a service the adapter does not validate, the copies as
they were, with one more bad read service. The loop runs over the copies it began with,
though its body assigns to the vector it iterates. -/
def getAllReadClients (readClients : List σ) (stats : Stats) : Stats × Except String (List σ) :=
  let readClientCopies := readClients
  if serviceOverride.isEmpty then (stats, .ok readClientCopies) else
  let (found, readClientCopies) := readClientCopies.foldl
    (overrideStep isCorrespondingService serviceOverride) (false, readClientCopies)
  if found then (stats, .ok readClientCopies)
  else if !adapter.isValidReadService serviceOverride then
    (addStatValue stats .badReadServices 1, .ok readClientCopies)
  else (stats, (adapter.createNetworkClient serviceOverride false).map fun client => [client])

/-- The loop keeps the last client of the service, if there is one. -/
theorem foldl_overrideStep (readClientCopies : List σ) (acc : Bool × List σ) :
    readClientCopies.foldl (overrideStep isCorrespondingService serviceOverride) acc =
      ((readClientCopies.filter (isCorrespondingService · serviceOverride)).getLast?.map
        fun client => (true, [client])).getD acc := by
  induction readClientCopies using List.reverseRecOn with
  | nil => rfl
  | append_singleton l client ih =>
    rw [List.foldl_append, ih, List.filter_append]
    by_cases h : isCorrespondingService client serviceOverride <;> simp [overrideStep, h]

/-- **What `getAllReadClients` returns.** Without an override, every read client. With
one, the last read client of that service alone; if there is none, a new client for the
service when the adapter validates it, or the exception its constructor threw; and when the
adapter does not, the override is dropped, not thrown: every read client, with one more bad
read service. -/
theorem getAllReadClients_spec (readClients : List σ) (stats : Stats) :
    getAllReadClients adapter isCorrespondingService serviceOverride readClients stats =
      if serviceOverride.isEmpty then (stats, .ok readClients) else
      match (readClients.filter (isCorrespondingService · serviceOverride)).getLast? with
      | some client => (stats, .ok [client])
      | none =>
        if adapter.isValidReadService serviceOverride then
          (stats, (adapter.createNetworkClient serviceOverride false).map fun client => [client])
        else (addStatValue stats .badReadServices 1, .ok readClients) := by
  unfold getAllReadClients
  dsimp only
  split
  · rfl
  · rw [foldl_overrideStep]
    cases (readClients.filter (isCorrespondingService · serviceOverride)).getLast? with
    | some client => rfl
    | none => cases adapter.isValidReadService serviceOverride <;> rfl

/-- **Once there are read clients, every read has one to ask.** From members with read
clients, after any refreshes, `getAllReadClients` gives, for any override, a nonempty list
of clients, unless the constructor of a new client for the override throws. -/
theorem getAllReadClients_ne_nil (nc : BeringeiNetworkClient σ) (adapters : List (Adapter σ))
    {s : ClientState σ} (h : s.readClients ≠ []) :
    let s' := refreshes nc adapters s
    let r := getAllReadClients adapter isCorrespondingService serviceOverride s'.readClients s'.stats
    (∃ readClientCopies, readClientCopies ≠ [] ∧ r.2 = .ok readClientCopies) ∨
      ∃ e, adapter.createNetworkClient serviceOverride false = .error e ∧ r.2 = .error e := by
  have hne := refreshes_readClients_ne_nil nc adapters h
  simp only [getAllReadClients_spec]
  split
  · exact .inl ⟨_, hne, rfl⟩
  split
  · exact .inl ⟨_, List.cons_ne_nil _ _, rfl⟩
  split
  · cases hc : adapter.createNetworkClient serviceOverride false with
    | error e => exact .inr ⟨e, rfl, rfl⟩
    | ok client => exact .inl ⟨[client], List.cons_ne_nil _ _, rfl⟩
  · exact .inl ⟨_, hne, rfl⟩

/-- An adapter with the one read service `"gorilla"`, whose clients are named by their
services. -/
def gorillaServiceAdapter : Adapter String where
  getReadServices := ["gorilla"]
  getWriteServices := []
  getShadowServices := []
  isValidReadService service := service == "gorilla"
  getNearestReadService := "gorilla"
  createNetworkClient service _ := .ok service

/-- One refresh, then a read with the override `"other"`, which no read client serves and
the adapter does not validate: the read goes to every read client. -/
theorem getAllReadClients_ne_nil_dropped_override :
    ({ ClientState.initial with readClients := ["gorilla"] } : ClientState String).readClients ≠ [] ∧
      let s' := refreshes (oneHostClient fun (_ : String) _ => ⟨[], .ok⟩) [gorillaServiceAdapter]
        { ClientState.initial with readClients := ["gorilla"] }
      let r := getAllReadClients gorillaServiceAdapter (· == ·) "other" s'.readClients s'.stats
      (∃ readClientCopies, readClientCopies ≠ [] ∧ r.2 = .ok readClientCopies) ∨
        ∃ e, gorillaServiceAdapter.createNetworkClient "other" false = .error e ∧ r.2 = .error e :=
  ⟨List.cons_ne_nil _ _, getAllReadClients_ne_nil gorillaServiceAdapter (· == ·) "other"
    (oneHostClient fun (_ : String) _ => ⟨[], .ok⟩) [gorillaServiceAdapter] (List.cons_ne_nil _ _)⟩

end Override

end BeringeiClient.Client.ReadServices
