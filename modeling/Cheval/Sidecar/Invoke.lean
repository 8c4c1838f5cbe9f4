import Cheval.Request
import Mathlib.Tactic.NormNum.Basic
import Mathlib.Tactic.NormNum.Eq

/-!
# `ProviderPoolManager.get_or_create` and `invoke`, up to the provider call

`/invoke` parses the body, checks the provider, builds the provider's body, and takes a
pooled client for the provider's name before it awaits `invoke_with_retry_async`. All of
that runs without an `await`, so between two requests the pool changes by one
`get_or_create` at most, and a run of the sidecar is a sequence of these steps (`serve`).

Only a `JSONDecodeError` from `json.loads` is answered, with a 400, and only a provider
without `base_url` or `api_key`, with another. `invokeHead_ok_iff` says exactly when the rest
does not raise (`Served`): the request and its `provider` and `metadata` are objects, the
request is `Buildable`, `base_url` is a string, the provider's `name` is hashable, and a
name not yet pooled comes with numeric timeouts and a URL `httpx` parses.

The first request that reaches the provider under a name pools a client built from its own
`base_url` and timeouts, and that client is never replaced (`serve_distinct_and_find`). Every
later request under the name posts the relative `/chat/completions` through it, so it goes to
the first request's base URL with the first request's timeouts, whatever its own provider says
(`provider_calls_share_first_client`).

What `json.loads` returned or raised is the input (`loaded`); `f"{v}"` of a JSON value and
whether `httpx` parses a base URL are the library's (`InvokeLib`).
-/

set_option autoImplicit false

namespace Cheval
namespace Sidecar

open Python Request

/-! ## 1. The pool manager -/

/-- What `invoke` calls from the library. -/
structure InvokeLib where
  /-- `f"{v}"`. -/
  pyStr : PyVal → String
  /-- `httpx.AsyncClient(base_url=url)` parses `url` without raising `InvalidURL`. -/
  urlParses : String → Bool

/-- An `httpx.AsyncClient` as `get_or_create` builds it: its base URL and the timeouts of its
`httpx.Timeout`, in seconds. -/
structure Client where
  baseUrl : String
  connect : ℚ
  read : ℚ
  write : ℚ
  pool : ℚ
  deriving DecidableEq, Repr

/-- `ProviderPoolManager._pools`: the clients by provider name, in insertion order. -/
abbrev Pools := List (PyVal × Client)

/-- `self._pools[name]` where `name in self._pools`. -/
def Pools.find (pools : Pools) (name : PyVal) : Option Client :=
  (pools.find? fun e => e.1.eqKey name).map (·.2)

/-- `ProviderPoolManager.get_or_create`. -/
def getOrCreate (lib : InvokeLib) (pools : Pools) (providerName : PyVal) (baseUrl : String)
    (connectTimeoutMs readTimeoutMs totalTimeoutMs : PyVal) : Except PyErr (Client × Pools) :=
  if !providerName.hashable then .error .typeError
  else
    match pools.find providerName with
    | some c => .ok (c, pools)
    | none => do
      let connect ← connectTimeoutMs.divFloat 1000
      let read ← readTimeoutMs.divFloat 1000
      let pool ← totalTimeoutMs.divFloat 1000
      if !lib.urlParses baseUrl then .error .invalidURL
      else
        let c : Client := { baseUrl, connect, read, write := 30, pool }
        return (c, pools ++ [(providerName, c)])

/-! ## 2. `invoke` -/

/-- The provider call `invoke` reaches: `invoke_with_retry_async`'s arguments. -/
structure ProviderCall where
  client : Client
  url : String
  headers : List (String × PyVal)
  body : PyVal
  retryConfig : PyVal
  traceId : PyVal
  /-- Passed on to `normalize_response`. -/
  providerType : PyVal

/-- Where `invoke` goes: a local answer, or the provider call. -/
inductive Invoked where
  | reply (statusCode : Nat) (content : PyVal)
  | call (c : ProviderCall)

/-- The 400 for a body `json.loads` refuses. -/
def invalidJson : Invoked :=
  .reply 400 (.dict [("error", .str "INVALID_JSON"),
    ("message", .str "Request body is not valid JSON")])

/-- The 400 for a provider without `base_url` or `api_key`. -/
def missingProvider : Invoked :=
  .reply 400 (.dict [("error", .str "MISSING_PROVIDER"),
    ("message", .str "Missing provider base_url or api_key")])

/-- `base_url.rstrip("/")`: only a `str` has `rstrip`. -/
def rstripSlash : PyVal → Except PyErr String
  | .str s => .ok (rstrip s '/')
  | _ => .error .attributeError

/-- `invoke` between the `await` of the body and that of the provider call: from what
`json.loads(body)` returned or raised to the provider call, with the pool before and after. -/
def invokeHead (lib : InvokeLib) (pools : Pools) (loaded : Except PyErr PyVal) :
    Except PyErr (Invoked × Pools) :=
  match loaded with
  | .error .jsonDecodeError => .ok (invalidJson, pools)
  | .error e => .error e
  | .ok request => do
    let provider ← request.getD "provider" (.dict [])
    let providerName ← provider.getD "name" (.str "unknown")
    let baseUrl ← provider.getD "base_url" (.str "")
    let apiKey ← provider.getD "api_key" (.str "")
    if !baseUrl.truthy || !apiKey.truthy then return (missingProvider, pools)
    let traceId ← (← request.getD "metadata" (.dict [])).getD "trace_id" (.str "")
    let providerType ← provider.getD "type" (.str "openai")
    let retryConfig ← request.getD "retry" (.dict [])
    let openaiBody ← buildOpenaiRequest request
    let headers := [("Authorization", .str ("Bearer " ++ lib.pyStr apiKey)),
      ("Content-Type", .str "application/json"), ("X-Request-ID", traceId)]
    let stripped ← rstripSlash baseUrl
    let connect ← provider.getD "connect_timeout_ms" (.int 5000)
    let read ← provider.getD "read_timeout_ms" (.int 60000)
    let total ← provider.getD "total_timeout_ms" (.int 300000)
    let (client, pools') ← getOrCreate lib pools providerName stripped connect read total
    let call : ProviderCall :=
      { client, url := "/chat/completions", headers, body := openaiBody, retryConfig, traceId,
        providerType }
    return (.call call, pools')

/-! ## 3. When it does not raise -/

/-- `get_or_create` returns a client for `name`: the name is hashable, and it is pooled, or
its timeouts are numbers a float holds and `httpx` parses its URL. -/
def Creates (lib : InvokeLib) (pools : Pools) (name : PyVal) (url : String)
    (connect read total : PyVal) : Prop :=
  name.hashable ∧ (pools.find name ≠ none ∨
    (Ok (connect.divFloat 1000) ∧ Ok (read.divFloat 1000) ∧ Ok (total.divFloat 1000) ∧
      lib.urlParses url))

theorem getOrCreate_ok_iff (lib : InvokeLib) (pools : Pools) (name : PyVal) (url : String)
    (connect read total : PyVal) :
    Ok (getOrCreate lib pools name url connect read total) ↔
      Creates lib pools name url connect read total := by
  unfold getOrCreate Creates
  cases hn : name.hashable
  · simp
  · cases hf : pools.find name with
    | some c => simp
    | none =>
      simp only [Bool.not_true, Bool.false_eq_true, if_false, ne_eq, not_true_eq_false,
        false_or, true_and, ok_bind]
      cases lib.urlParses url <;> simp [Ok, pure, Except.pure]

/-- The inputs on which `invoke` answers or reaches the provider without raising: a body
`json.loads` refuses, or an object whose `provider` is an object, which lacks `base_url` or
`api_key`, or else has an object `metadata`, a `Buildable` request, a string `base_url`, and a
name `get_or_create` gives a client for. -/
def Served (lib : InvokeLib) (pools : Pools) : Except PyErr PyVal → Prop
  | .error e => e = .jsonDecodeError
  | .ok (.dict items) =>
    ∃ p, (items.lookup "provider").getD (.dict []) = .dict p ∧
      (((p.lookup "base_url").getD (.str "")).truthy = false ∨
        ((p.lookup "api_key").getD (.str "")).truthy = false ∨
        ((items.lookup "metadata").getD (.dict [])).isDict ∧ Buildable (.dict items) ∧
          ∃ url, (p.lookup "base_url").getD (.str "") = .str url ∧
            Creates lib pools ((p.lookup "name").getD (.str "unknown")) (rstrip url '/')
              ((p.lookup "connect_timeout_ms").getD (.int 5000))
              ((p.lookup "read_timeout_ms").getD (.int 60000))
              ((p.lookup "total_timeout_ms").getD (.int 300000)))
  | .ok _ => False

/-- **Exactly when `invoke` does not raise before the provider call.** -/
theorem invokeHead_ok_iff (lib : InvokeLib) (pools : Pools) (loaded : Except PyErr PyVal) :
    Ok (invokeHead lib pools loaded) ↔ Served lib pools loaded := by
  cases loaded with
  | error e => cases e <;> simp [invokeHead, Served]
  | ok request =>
    cases request with
    | dict items =>
      simp only [invokeHead, Served, PyVal.getD_dict, bind, Except.bind]
      cases (items.lookup "provider").getD (.dict []) with
      | dict p =>
        simp only [PyVal.getD_dict, PyVal.dict.injEq, exists_eq_left']
        generalize (p.lookup "base_url").getD (.str "") = baseUrl
        cases hb : baseUrl.truthy <;> cases ha : ((p.lookup "api_key").getD (.str "")).truthy <;>
          simp only [Bool.not_false, Bool.not_true, Bool.or_true, Bool.true_or, Bool.or_false,
            if_true, Bool.false_eq_true, Bool.true_eq_false, if_false, true_or, or_true, false_or,
            pure, Except.pure, ok_ok]
        cases hm : (items.lookup "metadata").getD (.dict []) with
        | dict m =>
          simp only [PyVal.getD_dict, PyVal.isDict, true_and, ← buildOpenaiRequest_ok_iff]
          cases buildOpenaiRequest (.dict items) with
          | error e => simp
          | ok body =>
            simp only [ok_ok, true_and]
            cases baseUrl with
            | str url =>
              simp only [rstripSlash, PyVal.str.injEq, exists_eq_left', ← getOrCreate_ok_iff]
              split <;> simp_all
            | _ => simp [rstripSlash]
        | _ => simp [PyVal.getD, PyVal.isDict]
      | _ => simp [PyVal.getD]
    | _ => simp [invokeHead, Served, PyVal.getD, bind, Except.bind]

/-- What the provider call of the head is made of: each field as the source reads it from the
request and its `provider`. -/
theorem invokeHead_call {lib : InvokeLib} {pools pools' : Pools} {request : PyVal}
    {c : ProviderCall} (h : invokeHead lib pools (.ok request) = .ok (.call c, pools')) :
    ∃ provider baseUrl apiKey stripped name connect read total,
      request.getD "provider" (.dict []) = .ok provider ∧
      provider.getD "base_url" (.str "") = .ok baseUrl ∧
      provider.getD "api_key" (.str "") = .ok apiKey ∧
      (do (← request.getD "metadata" (.dict [])).getD "trace_id" (.str "")) = .ok c.traceId ∧
      provider.getD "type" (.str "openai") = .ok c.providerType ∧
      request.getD "retry" (.dict []) = .ok c.retryConfig ∧
      buildOpenaiRequest request = .ok c.body ∧
      c.headers = [("Authorization", .str ("Bearer " ++ lib.pyStr apiKey)),
        ("Content-Type", .str "application/json"), ("X-Request-ID", c.traceId)] ∧
      rstripSlash baseUrl = .ok stripped ∧ c.url = "/chat/completions" ∧
      provider.getD "name" (.str "unknown") = .ok name ∧
      provider.getD "connect_timeout_ms" (.int 5000) = .ok connect ∧
      provider.getD "read_timeout_ms" (.int 60000) = .ok read ∧
      provider.getD "total_timeout_ms" (.int 300000) = .ok total ∧
      getOrCreate lib pools name stripped connect read total = .ok (c.client, pools') := by
  unfold invokeHead at h
  simp only [pure_bind] at h
  obtain ⟨provider, hp, h⟩ := bind_eq_ok.1 h
  obtain ⟨name, hn, h⟩ := bind_eq_ok.1 h
  obtain ⟨baseUrl, hb, h⟩ := bind_eq_ok.1 h
  obtain ⟨apiKey, ha, h⟩ := bind_eq_ok.1 h
  rw [if_neg (by rintro hc; rw [if_pos hc] at h; cases h)] at h
  obtain ⟨metadata, hmeta, h⟩ := bind_eq_ok.1 h
  obtain ⟨traceId, ht, h⟩ := bind_eq_ok.1 h
  obtain ⟨ptype, hpt, h⟩ := bind_eq_ok.1 h
  obtain ⟨retry, hr, h⟩ := bind_eq_ok.1 h
  obtain ⟨body, hbody, h⟩ := bind_eq_ok.1 h
  obtain ⟨stripped, hs, h⟩ := bind_eq_ok.1 h
  obtain ⟨connect, hc, h⟩ := bind_eq_ok.1 h
  obtain ⟨read, hrd, h⟩ := bind_eq_ok.1 h
  obtain ⟨total, htot, h⟩ := bind_eq_ok.1 h
  obtain ⟨⟨client, pools''⟩, hg, h⟩ := bind_eq_ok.1 h
  cases h
  exact ⟨provider, baseUrl, apiKey, stripped, name, connect, read, total, hp, hb, ha,
    bind_eq_ok.2 ⟨_, hmeta, ht⟩, hpt, hr, hbody, rfl, hs, rfl, hn, hc, hrd, htot, hg⟩

/-! ## 4. The pool over a run -/

/-- The pool after the sidecar has run the head of `invoke` on each body in turn. A request
that raises leaves the pool as it was: every raise in `get_or_create` comes before its
assignment. -/
def serve (lib : InvokeLib) : Pools → List (Except PyErr PyVal) → Pools
  | pools, [] => pools
  | pools, loaded :: rest =>
    match invokeHead lib pools loaded with
    | .ok (_, pools') => serve lib pools' rest
    | .error _ => serve lib pools rest

/-- No two pooled names are one key, as in a dict. -/
def Pools.Distinct (pools : Pools) : Prop :=
  pools.Pairwise fun a b => a.1.eqKey b.1 = false

/-- `get_or_create` returns the client pooled under the name, or pools a new one built on the
URL and the timeouts it is given. -/
theorem getOrCreate_spec {lib : InvokeLib} {pools pools' : Pools} {name : PyVal} {url : String}
    {connect read total : PyVal} {c : Client}
    (h : getOrCreate lib pools name url connect read total = .ok (c, pools')) :
    (pools.find name = some c ∧ pools' = pools) ∨
      (pools.find name = none ∧ pools' = pools ++ [(name, c)] ∧ c.baseUrl = url ∧
        connect.divFloat 1000 = .ok c.connect ∧ read.divFloat 1000 = .ok c.read ∧
        c.write = 30 ∧ total.divFloat 1000 = .ok c.pool) := by
  unfold getOrCreate at h
  split at h
  · cases h
  · split at h
    · next c' hf => cases h; exact .inl ⟨hf, rfl⟩
    · next hf =>
      simp only [bind, Except.bind, pure, Except.pure] at h
      repeat' split at h
      all_goals cases h
      exact .inr ⟨hf, rfl, rfl, ‹_›, ‹_›, rfl, ‹_›⟩

/-- The head of `invoke` changes the pool by one `get_or_create` at most. -/
theorem invokeHead_pools {lib : InvokeLib} {pools pools' : Pools} {loaded : Except PyErr PyVal}
    {out : Invoked} (h : invokeHead lib pools loaded = .ok (out, pools')) :
    pools' = pools ∨ ∃ name url connect read total c,
      getOrCreate lib pools name url connect read total = .ok (c, pools') := by
  unfold invokeHead at h
  split at h
  · cases h; exact .inl rfl
  · cases h
  · simp only [bind, Except.bind, pure, Except.pure] at h
    repeat' split at h
    all_goals cases h
    · exact .inl rfl
    · exact .inr ⟨_, _, _, _, _, _, ‹getOrCreate _ _ _ _ _ _ _ = _›⟩

theorem find_append_of_find {pools : Pools} {n : PyVal} {c : Client} (x : PyVal × Client)
    (h : pools.find n = some c) : (pools ++ [x]).find n = some c := by
  unfold Pools.find at *
  obtain ⟨e, he, rfl⟩ := Option.map_eq_some'.1 h
  simp [List.find?_append, he]

/-- One `get_or_create` keeps the names distinct and every pooled client in place. -/
theorem getOrCreate_step {lib : InvokeLib} {pools pools' : Pools} {name : PyVal}
    {url : String} {connect read total : PyVal} {c : Client}
    (h : getOrCreate lib pools name url connect read total = .ok (c, pools'))
    (hd : pools.Distinct) :
    pools'.Distinct ∧ ∀ n c', pools.find n = some c' → pools'.find n = some c' := by
  rcases getOrCreate_spec h with ⟨-, rfl⟩ | ⟨hf, rfl, -⟩
  · exact ⟨hd, fun _ _ => id⟩
  · refine ⟨List.pairwise_append.2 ⟨hd, List.pairwise_singleton _ _, fun a ha b hb => ?_⟩,
      fun _ _ => find_append_of_find _⟩
    obtain rfl := List.mem_singleton.1 hb
    simpa using List.find?_eq_none.1 (Option.map_eq_none'.1 hf) a ha

/-- The step of a run: one head of `invoke` that returns keeps the names distinct and every pooled
client in place. -/
theorem invokeHead_step {lib : InvokeLib} {pools pools' : Pools} {loaded : Except PyErr PyVal}
    {out : Invoked} (h : invokeHead lib pools loaded = .ok (out, pools')) (hd : pools.Distinct) :
    pools'.Distinct ∧ ∀ n c, pools.find n = some c → pools'.find n = some c := by
  rcases invokeHead_pools h with rfl | ⟨_, _, _, _, _, _, hg⟩
  · exact ⟨hd, fun _ _ => id⟩
  · exact getOrCreate_step hg hd

/-- The run lemma of `invokeHead_step`: along requests, the pool stays distinct and keeps
every client it holds. -/
theorem serve_step_run (lib : InvokeLib) :
    ∀ (loads : List (Except PyErr PyVal)) (pools : Pools), pools.Distinct →
      (serve lib pools loads).Distinct ∧
        ∀ n c, pools.find n = some c → (serve lib pools loads).find n = some c
  | [], pools, hd => ⟨hd, fun _ _ => id⟩
  | loaded :: rest, pools, hd => by
    unfold serve
    split
    · next out pools' h =>
      obtain ⟨hd', hkeep⟩ := invokeHead_step h hd
      obtain ⟨hdist, hfind⟩ := serve_step_run lib rest pools' hd'
      exact ⟨hdist, fun n c hn => hfind n c (hkeep n c hn)⟩
    · exact serve_step_run lib rest pools hd

/-- **One client per provider name, never replaced**: over every run of the sidecar, no two
pooled names are one key, and a name once pooled keeps its client. -/
theorem serve_distinct_and_find (lib : InvokeLib) :
    ∀ (loads : List (Except PyErr PyVal)) (pools : Pools), pools.Distinct →
      (serve lib pools loads).Distinct ∧
        ∀ n c, pools.find n = some c → (serve lib pools loads).find n = some c :=
  serve_step_run lib

/-- A pool holding one client, for the name `"openai"`. -/
def openaiPool : Pools :=
  [(.str "openai", { baseUrl := "https://a", connect := 5, read := 60, write := 30, pool := 300 })]

theorem openai_pool_kept :
    (serve ⟨fun _ => "", fun _ => true⟩ openaiPool
        [.ok (.dict [("provider", .dict [("name", .str "openai"), ("base_url", .str "https://b"),
          ("api_key", .str "k")]), ("model", .str "m"), ("messages", .list [])])]).Distinct ∧
      ∀ n c, openaiPool.find n = some c →
        (serve ⟨fun _ => "", fun _ => true⟩ openaiPool
          [.ok (.dict [("provider", .dict [("name", .str "openai"),
            ("base_url", .str "https://b"), ("api_key", .str "k")]), ("model", .str "m"),
            ("messages", .list [])])]).find n = some c :=
  serve_distinct_and_find _ _ _ (List.pairwise_singleton _ _)

/-! ## 5. Which client a call gets -/

/-- `provider.get("name", "unknown")`, the key `get_or_create` pools the client under. -/
def providerNameOf (request : PyVal) : Except PyErr PyVal := do
  (← request.getD "provider" (.dict [])).getD "name" (.str "unknown")

/-- The provider call a request reaches from `pools`, if it reaches one. -/
def callOf (lib : InvokeLib) (pools : Pools) (loaded : Except PyErr PyVal) :
    Option ProviderCall :=
  match invokeHead lib pools loaded with
  | .ok (.call c, _) => some c
  | _ => none

/-- The client `get_or_create` builds from a request's own provider: its `base_url` with the
trailing `/` stripped, its three timeouts in seconds, and a write timeout of 30 s. -/
def OwnClient (request : PyVal) (cl : Client) : Prop :=
  ∃ provider baseUrl connect read total,
    request.getD "provider" (.dict []) = .ok provider ∧
    provider.getD "base_url" (.str "") = .ok baseUrl ∧ rstripSlash baseUrl = .ok cl.baseUrl ∧
    provider.getD "connect_timeout_ms" (.int 5000) = .ok connect ∧
    connect.divFloat 1000 = .ok cl.connect ∧
    provider.getD "read_timeout_ms" (.int 60000) = .ok read ∧ read.divFloat 1000 = .ok cl.read ∧
    provider.getD "total_timeout_ms" (.int 300000) = .ok total ∧
    total.divFloat 1000 = .ok cl.pool ∧ cl.write = 30

/-- A hashable value is a key equal to itself. -/
theorem eqKey_self {n : PyVal} (h : n.hashable = true) : n.eqKey n = true := by
  cases n <;> simp_all [PyVal.eqKey, PyVal.numeric, PyVal.hashable]

theorem find_append_of_find_none {pools : Pools} {n : PyVal} (c : Client)
    (hf : pools.find n = none) (hn : n.eqKey n = true) : (pools ++ [(n, c)]).find n = some c := by
  unfold Pools.find at *
  simp [List.find?_append, Option.map_eq_none'.1 hf, hn]

/-- A run split in two is the second part run on the pool the first part left. -/
theorem serve_append (lib : InvokeLib) (pools : Pools) (xs ys : List (Except PyErr PyVal)) :
    serve lib pools (xs ++ ys) = serve lib (serve lib pools xs) ys := by
  induction xs generalizing pools with
  | nil => rfl
  | cons x xs ih =>
    simp only [List.cons_append, serve]
    split <;> exact ih _

/-- **The client of one call.** A request that reaches the provider under `name` gets the
client pooled under it, or, where there is none, a client built from its own provider; either
way that client is pooled under `name` afterwards, and the URL it posts is the relative
`/chat/completions`. -/
theorem invokeHead_client {lib : InvokeLib} {pools pools' : Pools} {r name : PyVal}
    {c : ProviderCall} (h : invokeHead lib pools (.ok r) = .ok (.call c, pools'))
    (hn : providerNameOf r = .ok name) :
    (pools.find name = some c.client ∨ (pools.find name = none ∧ OwnClient r c.client)) ∧
      pools'.find name = some c.client ∧ c.url = "/chat/completions" := by
  obtain ⟨provider, baseUrl, -, stripped, name', connect, read, total, hp, hb, -, -, -, -, -,
    -, hs, hurl, hname, hc, hr, ht, hg⟩ := invokeHead_call h
  obtain rfl : name = name' := by
    simp only [providerNameOf, hp, bind, Except.bind, hname] at hn
    exact (Except.ok.inj hn).symm
  refine ⟨?_, ?_, hurl⟩
  · rcases getOrCreate_spec hg with ⟨hf, -⟩ | ⟨hf, -, hbase, hcon, hrd, hw, hpl⟩
    · exact .inl hf
    · exact .inr ⟨hf, provider, baseUrl, connect, read, total, hp, hb, hbase ▸ hs, hc, hcon, hr,
        hrd, ht, hpl, hw⟩
  · rcases getOrCreate_spec hg with ⟨hf, rfl⟩ | ⟨hf, rfl, -⟩
    · exact hf
    · have hhash := ((getOrCreate_ok_iff lib pools name stripped connect read total).1
        ⟨_, hg⟩).1
      exact find_append_of_find_none _ hf (eqKey_self hhash)

/-- A request reaches a call exactly when the head of `invoke` returns one. -/
theorem callOf_eq_some {lib : InvokeLib} {pools : Pools} {loaded : Except PyErr PyVal}
    {c : ProviderCall} :
    callOf lib pools loaded = some c ↔
      ∃ pools', invokeHead lib pools loaded = .ok (.call c, pools') := by
  unfold callOf
  rcases invokeHead lib pools loaded with e | ⟨_ | c', p⟩ <;> simp [eq_comm]

/-- **Every call under a name goes through the client of the first.** In every run of the
sidecar from an empty pool, a request that reaches the provider under a name no earlier request
pooled is sent through a client built from its own `base_url` and timeouts; every later request
under that name is sent through that same client, to the first request's base URL with its
timeouts, whatever `base_url` and timeouts it carries itself. Each posts the relative
`/chat/completions`, which `httpx` joins to the client's base URL. -/
theorem provider_calls_share_first_client (lib : InvokeLib) :
    (∀ (pre : List (Except PyErr PyVal)) (r name : PyVal) (c : ProviderCall),
      callOf lib (serve lib [] pre) (.ok r) = some c → providerNameOf r = .ok name →
      (serve lib [] pre).find name = none →
      OwnClient r c.client ∧ c.url = "/chat/completions") ∧
    ∀ (pre mid : List (Except PyErr PyVal)) (rj rk name : PyVal) (cj ck : ProviderCall),
      callOf lib (serve lib [] pre) (.ok rj) = some cj → providerNameOf rj = .ok name →
      callOf lib (serve lib [] (pre ++ .ok rj :: mid)) (.ok rk) = some ck →
      providerNameOf rk = .ok name →
      ck.client = cj.client ∧ ck.url = "/chat/completions" := by
  refine ⟨fun pre r name c h hn hf => ?_, fun pre mid rj rk name cj ck hj hnj hk hnk => ?_⟩
  · obtain ⟨_, hh⟩ := callOf_eq_some.1 h
    obtain ⟨hc | ⟨-, hown⟩, -, hurl⟩ := invokeHead_client hh hn
    · exact Option.noConfusion (hf.symm.trans hc)
    · exact ⟨hown, hurl⟩
  · obtain ⟨pools', hhj⟩ := callOf_eq_some.1 hj
    obtain ⟨-, hfj, -⟩ := invokeHead_client hhj hnj
    have hd : pools'.Distinct :=
      (invokeHead_step hhj (serve_step_run lib pre [] .nil).1).1
    have hfk := (serve_step_run lib mid pools' hd).2 name _ hfj
    have hrun : serve lib [] (pre ++ .ok rj :: mid) = serve lib pools' mid := by
      rw [serve_append]
      simp only [serve, hhj]
    obtain ⟨_, hhk⟩ := callOf_eq_some.1 (hrun ▸ hk)
    obtain ⟨hc | ⟨hnone, -⟩, -, hurl⟩ := invokeHead_client hhk hnk
    · exact ⟨Option.some.inj (hc.symm.trans hfk), hurl⟩
    · exact Option.noConfusion (hnone.symm.trans hfk)

/-- A request to the provider named `"p"` at `baseUrl`, with its connect timeout in
milliseconds. -/
def providerRequest (baseUrl : String) (connectTimeoutMs : Int) : PyVal :=
  .dict [("provider", .dict [("name", .str "p"), ("base_url", .str baseUrl),
    ("api_key", .str "k"), ("connect_timeout_ms", .int connectTimeoutMs)]),
    ("model", .str "m"), ("messages", .list [])]

/-- A library whose `httpx` parses every URL. -/
def anyUrlLib : InvokeLib := ⟨fun _ => "", fun _ => true⟩

/-- Two requests to `"p"`, the second at `https://b` with a connect timeout of 1 s: its call goes
through the first request's client, to `https://a` with a connect timeout of 5 s. -/
theorem second_request_keeps_first_client :
    ∃ cj ck : ProviderCall,
      (callOf anyUrlLib (serve anyUrlLib [] []) (.ok (providerRequest "https://a" 5000)) =
          some cj ∧
        providerNameOf (providerRequest "https://a" 5000) = .ok (.str "p") ∧
        callOf anyUrlLib (serve anyUrlLib [] ([] ++ [.ok (providerRequest "https://a" 5000)]))
          (.ok (providerRequest "https://b" 1000)) = some ck ∧
        providerNameOf (providerRequest "https://b" 1000) = .ok (.str "p")) ∧
      (ck.client = cj.client ∧ ck.url = "/chat/completions") ∧
      ck.client.baseUrl = "https://a" ∧ ck.client.connect = 5 := by
  refine ⟨_, _, ⟨rfl, rfl, rfl, rfl⟩,
    (provider_calls_share_first_client anyUrlLib).2 [] [] (providerRequest "https://a" 5000)
      (providerRequest "https://b" 1000) (.str "p") _ _ rfl rfl rfl rfl, rfl, ?_⟩
  rw [div_eq_iff (by norm_num)]
  norm_num

/-- The second request to `"p"` is sent neither to its own base URL nor with its own connect
timeout. -/
theorem second_request_misses_own_provider :
    ∃ ck : ProviderCall,
      callOf anyUrlLib (serve anyUrlLib [] [.ok (providerRequest "https://a" 5000)])
          (.ok (providerRequest "https://b" 1000)) = some ck ∧
        ck.client.baseUrl ++ ck.url ≠ "https://b/chat/completions" ∧ ck.client.connect ≠ 1 := by
  refine ⟨_, rfl, by decide, ?_⟩
  rw [Ne, div_eq_iff (by norm_num)]
  norm_num

end Sidecar
end Cheval
