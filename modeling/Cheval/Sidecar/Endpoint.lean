import Cheval.Sidecar.Invoke
import Cheval.Retry
import Cheval.Normalize

/-!
# `/invoke`, end to end

`invoke` awaits twice after reading the body: between the two awaits it checks the request
and takes a pooled client (`invokeHead`), then it awaits `invoke_with_retry_async`, and after
that it reads the provider's JSON and normalizes it (`invokeTail`). An exception that escapes
is answered by the server with a 500.

`invoke_reply` says which replies the endpoint gives at all: the two 400s of the head, a 502
with a `ChevalError` or with the text of a body that is not JSON, and a 200 whose content is
exactly `normalize_response` of a 200 answer of the provider.

The answers of `client.post` and the draws of `random.random()` are functions of the attempt
number, as in `Cheval.Retry`; `response.json()` raising is read as `JSONDecodeError`.
-/

set_option autoImplicit false

namespace Cheval
namespace Sidecar

open Python Retry Normalize

/-! ## 1. The endpoint -/

/-- A `JSONResponse`: its status code and its content. -/
structure Reply where
  statusCode : Nat
  content : PyVal

/-- The 502 for a 200 whose body `response.json()` refuses. -/
def nonJsonReply (r : Response) : Reply :=
  ⟨502, .dict [("error", .str "ChevalError"), ("code", .str "provider_error"),
    ("message", .str ("Non-JSON response from provider: " ++ r.text.take 200))]⟩

/-- `invoke` after `invoke_with_retry_async` returned or raised, with `time.monotonic()`
giving `latencyMs`. An exception other than `ChevalError` escapes to the server. -/
def invokeTail (normLib : Normalize.Lib) (c : ProviderCall) (result : Invoke) (latencyMs : ℚ) :
    Except PyErr Reply :=
  match result with
  | .raised e => .ok ⟨502, e.toDict⟩
  | .failed e => .error e
  | .returned r =>
    match r.json with
    | none => .ok (nonJsonReply r)
    | some raw => do
      let content ← normalizeResponse normLib raw c.providerType c.traceId latencyMs
      return ⟨200, content⟩

/-- The provider call: `invoke_with_retry_async` reads its configuration and runs the loop,
then the tail. -/
def invokeCall (normLib : Normalize.Lib) (c : ProviderCall) (outcomes : Nat → Outcome)
    (random : Nat → ℚ) (latencyMs : ℚ) : Except PyErr Reply := do
  let cfg ← retryConfigOf c.retryConfig
  invokeTail normLib c (invokeWithRetryAsync cfg outcomes random).result latencyMs

/-- `invoke`: the reply, or the exception that escapes it, and the pool after. -/
def invoke (lib : InvokeLib) (normLib : Normalize.Lib) (pools : Pools)
    (loaded : Except PyErr PyVal) (outcomes : Nat → Outcome) (random : Nat → ℚ)
    (latencyMs : ℚ) : Except PyErr Reply × Pools :=
  match invokeHead lib pools loaded with
  | .error e => (.error e, pools)
  | .ok (.reply statusCode content, pools') => (.ok ⟨statusCode, content⟩, pools')
  | .ok (.call c, pools') => (invokeCall normLib c outcomes random latencyMs, pools')

/-- Where the head reaches the provider, `invoke` is the provider call. -/
theorem invoke_of_call {lib : InvokeLib} {normLib : Normalize.Lib} {pools pools' : Pools}
    {loaded : Except PyErr PyVal} {c : ProviderCall} (outcomes : Nat → Outcome)
    (random : Nat → ℚ) (latencyMs : ℚ)
    (h : invokeHead lib pools loaded = .ok (.call c, pools')) :
    invoke lib normLib pools loaded outcomes random latencyMs =
      (invokeCall normLib c outcomes random latencyMs, pools') := by
  simp only [invoke, h]

/-! ## 2. Its replies -/

/-- The head answers only with its two 400s, and leaves the pool as it was when it does. -/
theorem invokeHead_reply {lib : InvokeLib} {pools pools' : Pools} {loaded : Except PyErr PyVal}
    {statusCode : Nat} {content : PyVal}
    (h : invokeHead lib pools loaded = .ok (.reply statusCode content, pools')) :
    (Invoked.reply statusCode content = invalidJson ∨
      Invoked.reply statusCode content = missingProvider) ∧ pools' = pools := by
  unfold invokeHead at h
  split at h
  · cases h; exact ⟨.inl rfl, rfl⟩
  · cases h
  · simp only [bind, Except.bind, pure, Except.pure] at h
    repeat' split at h
    all_goals cases h
    exact ⟨.inr rfl, rfl⟩

/-- What the tail answers: a 502 with the engine's error or for a body that is not JSON, or a
200 with the normalized answer. -/
theorem invokeTail_reply {normLib : Normalize.Lib} {c : ProviderCall} {result : Invoke}
    {latencyMs : ℚ} {reply : Reply} (h : invokeTail normLib c result latencyMs = .ok reply) :
    (reply.statusCode = 502 ∧ ((∃ e, reply.content = ChevalError.toDict e) ∨
      ∃ r, reply = nonJsonReply r)) ∨
    (reply.statusCode = 200 ∧ ∃ r raw, result = .returned r ∧ r.json = some raw ∧
      normalizeResponse normLib raw c.providerType c.traceId latencyMs = .ok reply.content) := by
  unfold invokeTail at h
  split at h
  · cases h; exact .inl ⟨rfl, .inl ⟨_, rfl⟩⟩
  · cases h
  · split at h
    · cases h; exact .inl ⟨rfl, .inr ⟨_, rfl⟩⟩
    · obtain ⟨content, hn, h⟩ := bind_eq_ok.1 h
      cases h
      exact .inr ⟨rfl, _, _, rfl, ‹_›, hn⟩

/-- **The replies of `/invoke`.** When the endpoint does not raise, it answers with one of the
two 400s of its checks, with a 502 carrying a `ChevalError` or the text of a body that is not
JSON, or with a 200 whose content is `normalize_response` of a 200 answer of the provider,
read under the request's own retry configuration. -/
theorem invoke_reply {lib : InvokeLib} {normLib : Normalize.Lib} {pools : Pools}
    {loaded : Except PyErr PyVal} {outcomes : Nat → Outcome} {random : Nat → ℚ}
    {latencyMs : ℚ} {reply : Reply}
    (h : (invoke lib normLib pools loaded outcomes random latencyMs).1 = .ok reply) :
    (reply.statusCode = 400 ∧ (Invoked.reply reply.statusCode reply.content = invalidJson ∨
      Invoked.reply reply.statusCode reply.content = missingProvider)) ∨
    (reply.statusCode = 502 ∧ ((∃ e, reply.content = ChevalError.toDict e) ∨
      ∃ r, reply = nonJsonReply r)) ∨
    (reply.statusCode = 200 ∧ ∃ c pools' cfg r raw,
      invokeHead lib pools loaded = .ok (.call c, pools') ∧ retryConfigOf c.retryConfig = .ok cfg ∧
      (invokeWithRetryAsync cfg outcomes random).result = .returned r ∧ r.statusCode = 200 ∧
      r.json = some raw ∧
      normalizeResponse normLib raw c.providerType c.traceId latencyMs = .ok reply.content) := by
  unfold invoke at h
  split at h
  · cases h
  · next hh =>
    cases h
    obtain ⟨hr, -⟩ := invokeHead_reply hh
    refine .inl ⟨?_, hr⟩
    rcases hr with hr | hr <;> simp only [invalidJson, missingProvider, Invoked.reply.injEq] at hr
      <;> exact hr.1
  · next c pools' hh =>
    obtain ⟨cfg, hcfg, ht⟩ := bind_eq_ok.1 h
    rcases invokeTail_reply ht with h502 | ⟨h200, r, raw, hret, hraw, hn⟩
    · exact .inr (.inl h502)
    · obtain ⟨-, -, hst⟩ :=
        retryLoop_returned asyncErrorText (fun _ => false) cfg outcomes random _ _ _ hret
      exact .inr (.inr ⟨h200, c, pools', cfg, r, raw, hh, hcfg, hret, hst, hraw, hn⟩)

/-- A request with a provider, a model and no messages. -/
def plainRequest : PyVal :=
  .dict [("provider", .dict [("base_url", .str "https://p/"), ("api_key", .str "k")]),
    ("model", .str "m"), ("messages", .list [])]

/-- A provider that answers every post with a 200 and an empty `choices`. -/
def emptyAnswer : Outcome := .response ⟨200, "", some (.dict [("choices", .list [])])⟩

/-- A request with no messages, to a provider whose answer has no choices, is answered with a
200 and the empty result. -/
theorem plain_request_normalized :
    ∃ reply, (invoke ⟨fun _ => "", fun _ => true⟩ ⟨fun _ => "0"⟩ [] (.ok plainRequest)
        (fun _ => emptyAnswer) (fun _ => 0) 5).1 = .ok reply ∧
      ((reply.statusCode = 400 ∧ (Invoked.reply reply.statusCode reply.content = invalidJson ∨
        Invoked.reply reply.statusCode reply.content = missingProvider)) ∨
      (reply.statusCode = 502 ∧ ((∃ e, reply.content = ChevalError.toDict e) ∨
        ∃ r, reply = nonJsonReply r)) ∨
      (reply.statusCode = 200 ∧ ∃ c pools' cfg r raw,
        invokeHead ⟨fun _ => "", fun _ => true⟩ [] (.ok plainRequest) = .ok (.call c, pools') ∧
        retryConfigOf c.retryConfig = .ok cfg ∧
        (invokeWithRetryAsync cfg (fun _ => emptyAnswer) (fun _ => 0)).result = .returned r ∧
        r.statusCode = 200 ∧ r.json = some raw ∧
        normalizeResponse ⟨fun _ => "0"⟩ raw c.providerType c.traceId 5 = .ok reply.content)) := by
  have h : (invoke ⟨fun _ => "", fun _ => true⟩ ⟨fun _ => "0"⟩ [] (.ok plainRequest)
      (fun _ => emptyAnswer) (fun _ => 0) 5).1 = .ok ⟨200, .dict [("content", .str ""),
        ("thinking", .none), ("tool_calls", .none), ("usage", .dict [("prompt_tokens", .int 0),
          ("completion_tokens", .int 0), ("reasoning_tokens", .int 0)]),
        ("metadata", .dict [("model", .str ""), ("provider_request_id", .none),
          ("latency_ms", .float 5), ("trace_id", .str "")])]⟩ := by
    rfl
  exact ⟨_, h, invoke_reply h⟩

end Sidecar
end Cheval
